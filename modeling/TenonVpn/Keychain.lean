import TenonVpn.Text

/-! `KeychainItemWrapper` and `KeychainManager`: one generic-password item of the
system keychain behind an in-memory dictionary. The system keychain stores what
it is given and deletes what it is told. -/
namespace TenonVpn

/-- `keychainItemData`, with the attributes `KeychainManager` uses: `kSecAttrAccount`
(the receipt), `kSecAttrType`, `kSecAttrLabel` (the record) and `kSecValueData` (the private key). -/
structure KeychainItemData where
  account : Text
  type : Option Int
  label : Text
  valueData : Text
deriving DecidableEq

def resetKeychainItem : KeychainItemData := ⟨[],none,[],[]⟩

structure KeychainItemWrapper where
  keychainItemData : KeychainItemData
  /-- The item in the system keychain, which outlives the process. -/
  item : Option KeychainItemData
deriving DecidableEq

namespace KeychainItemWrapper

def initWithIdentifier (item : Option KeychainItemData) : KeychainItemWrapper :=
  ⟨item.getD resetKeychainItem,item⟩

/-- An update sets the attributes it is given and leaves the others. -/
def secItemUpdate (stored attributes : KeychainItemData) : KeychainItemData :=
  {attributes with type := attributes.type.or stored.type}

def writeToKeychain (wrapper : KeychainItemWrapper) : KeychainItemWrapper :=
  match wrapper.item with
  | some stored => {wrapper with item := some (secItemUpdate stored wrapper.keychainItemData)}
  | none => {wrapper with item := some wrapper.keychainItemData}

/-- `setObject:forKey:`, given the dictionary with the object under its key. -/
def setObject (wrapper : KeychainItemWrapper) (changed : KeychainItemData) : KeychainItemWrapper :=
  if wrapper.keychainItemData = changed then wrapper
  else writeToKeychain {wrapper with keychainItemData := changed}

end KeychainItemWrapper

inductive KeychainOp
  | setKeyChainReceipt (receipt : Text)
  | setKeyChainType (type : Int)
  | setKeyChainTranscate (transcate : Text)
  | setKeyChainPrikey (prikey : Text)
  | clearKeyChain
deriving DecidableEq

abbrev KeychainManager := KeychainItemWrapper

namespace KeychainManager

def getKeyChainReceipt (manager : KeychainManager) : Text := manager.keychainItemData.account

def getKeyChainType (manager : KeychainManager) : Int := manager.keychainItemData.type.getD 0

def getKeyChainTranscate (manager : KeychainManager) : Text := manager.keychainItemData.label

def getKeyChainPrikey (manager : KeychainManager) : Text := manager.keychainItemData.valueData

/-- `clearKeyChain` deletes the items without going through the wrapper. -/
def perform (manager : KeychainManager) : KeychainOp → KeychainManager
  | .setKeyChainReceipt receipt => manager.setObject {manager.keychainItemData with account := receipt}
  | .setKeyChainType type => manager.setObject {manager.keychainItemData with type := some type}
  | .setKeyChainTranscate transcate => manager.setObject {manager.keychainItemData with label := transcate}
  | .setKeyChainPrikey prikey => manager.setObject {manager.keychainItemData with valueData := prikey}
  | .clearKeyChain => {manager with item := none}

def performs (manager : KeychainManager) (ops : List KeychainOp) : KeychainManager :=
  ops.foldl perform manager

theorem performs_append (manager : KeychainManager) (first second : List KeychainOp) :
    manager.performs (first ++ second) = (manager.performs first).performs second := List.foldl_append

/-- A persisted item never differs from the dictionary (it may be missing). -/
def Coherent (manager : KeychainManager) : Prop :=
  ∀ stored, manager.item = some stored → stored = manager.keychainItemData

theorem coherent_init (item : Option KeychainItemData) :
    Coherent (KeychainItemWrapper.initWithIdentifier item) := by
  intro stored held
  simp only [KeychainItemWrapper.initWithIdentifier] at held ⊢
  simp [held]

theorem setObject_cases (manager : KeychainManager) (changed : KeychainItemData)
    (coherent : Coherent manager) (typed : changed.type = none → manager.keychainItemData.type = none) :
    (manager.keychainItemData = changed ∧ manager.setObject changed = manager) ∨
      (manager.keychainItemData ≠ changed ∧ manager.setObject changed = ⟨changed,some changed⟩) := by
  by_cases same : manager.keychainItemData = changed
  · exact Or.inl ⟨same,by simp [KeychainItemWrapper.setObject,same]⟩
  · refine Or.inr ⟨same,?_⟩
    simp only [KeychainItemWrapper.setObject,same,if_false,KeychainItemWrapper.writeToKeychain]
    cases held : manager.item with
    | none => rfl
    | some stored =>
      have stays : changed.type.or stored.type = changed.type := by
        rw [coherent stored held]
        cases type : changed.type with
        | none => simpa using typed type
        | some _ => rfl
      simp only [KeychainItemWrapper.secItemUpdate,stays]

theorem coherent_perform (manager : KeychainManager) (op : KeychainOp) (coherent : Coherent manager) :
    Coherent (manager.perform op) := by
  have set (changed : KeychainItemData)
      (typed : changed.type = none → manager.keychainItemData.type = none) :
      Coherent (manager.setObject changed) := by
    rcases setObject_cases manager changed coherent typed with ⟨_,unchanged⟩ | ⟨_,written⟩
    · rwa [unchanged]
    · rw [written]
      exact fun stored held => (Option.some.inj held).symm
  cases op with
  | setKeyChainReceipt receipt => exact set _ id
  | setKeyChainType type => exact set _ (fun missing => by simp at missing)
  | setKeyChainTranscate transcate => exact set _ id
  | setKeyChainPrikey prikey => exact set _ id
  | clearKeyChain => exact fun stored held => by simp [perform] at held

theorem coherent_performs (manager : KeychainManager) (ops : List KeychainOp)
    (coherent : Coherent manager) : Coherent (manager.performs ops) := by
  induction ops generalizing manager with
  | nil => exact coherent
  | cons op rest ih => exact ih _ (coherent_perform manager op coherent)

theorem perform_data (manager : KeychainManager) (op : KeychainOp) :
    (manager.perform op).keychainItemData = match op with
      | .setKeyChainReceipt receipt => {manager.keychainItemData with account := receipt}
      | .setKeyChainType type => {manager.keychainItemData with type := some type}
      | .setKeyChainTranscate transcate => {manager.keychainItemData with label := transcate}
      | .setKeyChainPrikey prikey => {manager.keychainItemData with valueData := prikey}
      | .clearKeyChain => manager.keychainItemData := by
  have set (changed : KeychainItemData) :
      (manager.setObject changed).keychainItemData = changed := by
    unfold KeychainItemWrapper.setObject
    split
    · assumption
    · unfold KeychainItemWrapper.writeToKeychain
      split <;> rfl
  cases op <;> simp only [perform,set]

theorem perform_persists (manager : KeychainManager) (op : KeychainOp) (kept : op ≠ .clearKeyChain)
    (either : manager.item ≠ none ∨ (manager.perform op).keychainItemData ≠ manager.keychainItemData) :
    (manager.perform op).item ≠ none := by
  have set (changed : KeychainItemData)
      (either : manager.item ≠ none ∨ (manager.setObject changed).keychainItemData ≠ manager.keychainItemData) :
      (manager.setObject changed).item ≠ none := by
    unfold KeychainItemWrapper.setObject at either ⊢
    split
    · next same => simpa [same] using either
    · unfold KeychainItemWrapper.writeToKeychain
      split <;> simp
  cases op with
  | clearKeyChain => exact absurd rfl kept
  | setKeyChainReceipt receipt => exact set _ either
  | setKeyChainType type => exact set _ either
  | setKeyChainTranscate transcate => exact set _ either
  | setKeyChainPrikey prikey => exact set _ either

theorem performs_persists (manager : KeychainManager) (ops : List KeychainOp) (kept : .clearKeyChain ∉ ops)
    (persisted : manager.item ≠ none) : (manager.performs ops).item ≠ none := by
  induction ops generalizing manager with
  | nil => exact persisted
  | cons op rest ih =>
    obtain ⟨other,kept⟩ := not_or.mp (mt List.mem_cons.mpr kept)
    exact ih _ kept (perform_persists manager op (Ne.symm other) (Or.inl persisted))

theorem performs_persists_of_ne (manager : KeychainManager) (ops : List KeychainOp)
    (kept : .clearKeyChain ∉ ops)
    (changed : (manager.performs ops).keychainItemData ≠ manager.keychainItemData) :
    (manager.performs ops).item ≠ none := by
  induction ops generalizing manager with
  | nil => exact absurd rfl changed
  | cons op rest ih =>
    obtain ⟨other,kept⟩ := not_or.mp (mt List.mem_cons.mpr kept)
    by_cases same : (manager.perform op).keychainItemData = manager.keychainItemData
    · exact ih _ kept (by rwa [same])
    · exact performs_persists _ rest kept (perform_persists manager op (Ne.symm other) (Or.inr same))

theorem performs_key_data (manager : KeychainManager) (ops : List KeychainOp)
    (keys : ∀ op ∈ ops, (∃ prikey, op = .setKeyChainPrikey prikey) ∨ op = .clearKeyChain) :
    ∃ prikey, (manager.performs ops).keychainItemData = {manager.keychainItemData with valueData := prikey} := by
  induction ops generalizing manager with
  | nil => exact ⟨manager.keychainItemData.valueData,rfl⟩
  | cons op rest ih =>
    obtain ⟨first,keys⟩ := List.forall_mem_cons.mp keys
    obtain ⟨prikey,data⟩ := ih (manager.perform op) keys
    refine ⟨prikey,data.trans ?_⟩
    rcases first with ⟨_,rfl⟩ | rfl <;> rw [perform_data]

end KeychainManager
end TenonVpn
