import TenonVpn.Keychain
import TenonVpn.Machine

/-! The dictionary of the keychain wrapper as a cache of the persistent item: what a getter
of the running process returns, against what a fresh process reads from the same keychain. -/
namespace TenonVpn

inductive KeychainKey
  | receipt
  | type
  | transcate
  | prikey
deriving DecidableEq

inductive KeychainValue
  | text (text : Text)
  | number (number : Int)
deriving DecidableEq

/-- A call of `KeychainManager`; `setObject:forKey:` returns at once for a `nil` object. -/
inductive KeychainCall
  | perform (op : KeychainOp)
  | setNil (key : KeychainKey)
  | get (key : KeychainKey)
deriving DecidableEq

/-- What a getter returned, and the item that the system keychain held then. -/
structure KeychainRead where
  key : KeychainKey
  value : KeychainValue
  item : Option KeychainItemData
deriving DecidableEq

namespace KeychainManager
open KeychainItemWrapper

def get (manager : KeychainManager) : KeychainKey → KeychainValue
  | .receipt => .text manager.getKeyChainReceipt
  | .type => .number manager.getKeyChainType
  | .transcate => .text manager.getKeyChainTranscate
  | .prikey => .text manager.getKeyChainPrikey

def calls : Machine KeychainManager KeychainCall KeychainRead where
  step manager
    | .perform op => ([],some (manager.perform op))
    | .setNil _ => ([],some manager)
    | .get key => ([⟨key,manager.get key,manager.item⟩],some manager)

/-- A fresh process reads from the item what the getters return. -/
def Fresh (manager : KeychainManager) : Prop := ∀ key, manager.get key = get (initWithIdentifier manager.item) key

def Blank (manager : KeychainManager) : Prop := ∀ key, manager.get key = get (initWithIdentifier none) key

theorem forall_keys {P : KeychainKey → Prop} : (∀ key, P key) ↔ P .receipt ∧ P .type ∧ P .transcate ∧ P .prikey :=
  ⟨fun all => ⟨all _,all _,all _,all _⟩,fun ⟨receipt,type,transcate,prikey⟩ key => by cases key <;> assumption⟩

instance : DecidablePred Fresh := fun _ => decidable_of_iff _ forall_keys.symm

instance : DecidablePred Blank := fun _ => decidable_of_iff _ forall_keys.symm

theorem fresh_of_item {manager : KeychainManager} (coherent : Coherent manager) (persisted : manager.item ≠ none) :
    Fresh manager := by
  obtain ⟨stored,held⟩ := Option.ne_none_iff_exists'.mp persisted
  intro key
  rw [held]
  have same := coherent stored held
  cases key <;> simp [get,initWithIdentifier,getKeyChainReceipt,getKeyChainType,getKeyChainTranscate,
    getKeyChainPrikey,same]

theorem fresh_of_missing {manager : KeychainManager} (missing : manager.item = none) :
    Fresh manager ↔ Blank manager := by rw [Fresh,missing,Blank]

theorem setObject_unchanged_or (manager : KeychainManager) (changed : KeychainItemData) :
    manager.setObject changed = manager ∨ (manager.setObject changed).item ≠ none := by
  unfold setObject
  split
  · exact Or.inl rfl
  · unfold writeToKeychain
    split <;> exact Or.inr (by simp)

theorem fresh_perform {manager : KeychainManager} (coherent : Coherent manager) (fresh : Fresh manager)
    {op : KeychainOp} (set : op ≠ .clearKeyChain) : Fresh (manager.perform op) := by
  have after := coherent_perform manager op coherent
  have either : manager.perform op = manager ∨ (manager.perform op).item ≠ none := by
    cases op with
    | clearKeyChain => exact absurd rfl set
    | setKeyChainReceipt receipt => exact setObject_unchanged_or manager _
    | setKeyChainType type => exact setObject_unchanged_or manager _
    | setKeyChainTranscate transcate => exact setObject_unchanged_or manager _
    | setKeyChainPrikey prikey => exact setObject_unchanged_or manager _
  rcases either with same | persisted
  · rwa [same]
  · exact fresh_of_item after persisted

/-- After a clearing the item is gone, and the dictionary is as before. -/
theorem fresh_clear_iff (manager : KeychainManager) : Fresh (manager.perform .clearKeyChain) ↔ Blank manager :=
  fresh_of_missing rfl

/-- The condition on a call: the keychain is cleared only where the dictionary holds nothing. -/
def ClearsBlank (manager : KeychainManager) (call : KeychainCall) : Prop :=
  call = .perform .clearKeyChain → Blank manager

instance (manager : KeychainManager) (call : KeychainCall) : Decidable (ClearsBlank manager call) :=
  inferInstanceAs (Decidable (_ → _))

theorem keeps_coherent : calls.Keeps Coherent (fun _ _ => True) := by
  intro manager call next coherent _ stepped
  cases call with
  | perform op =>
    cases stepped
    exact coherent_perform manager op coherent
  | setNil key =>
    cases stepped
    exact coherent
  | get key =>
    cases stepped
    exact coherent

theorem fresh_step_iff {manager next : KeychainManager} {call : KeychainCall} (coherent : Coherent manager)
    (fresh : Fresh manager) (stepped : (calls.step manager call).2 = some next) :
    ClearsBlank manager call ↔ Fresh next := by
  cases call with
  | perform op =>
    cases stepped
    by_cases clears : op = .clearKeyChain
    · cases clears
      rw [fresh_clear_iff]
      exact ⟨fun meets => meets rfl,fun blank _ => blank⟩
    · refine iff_of_true (fun same => absurd ?_ clears) (fresh_perform coherent fresh clears)
      cases same
      rfl
  | setNil key =>
    cases stepped
    exact iff_of_true (fun same => by cases same) fresh
  | get key =>
    cases stepped
    exact iff_of_true (fun same => by cases same) fresh

theorem get_init (item : Option KeychainItemData) : Fresh (initWithIdentifier item) := by
  have held : (initWithIdentifier item).item = item := rfl
  intro key
  rw [held]

/-- Every getter returns what is persisted at that time, and after every prefix a fresh
process reads what the getters return. -/
structure CacheCoherent (manager : KeychainManager) (sequence : List KeychainCall) : Prop where
  reads : ∀ read ∈ calls.outputs manager sequence, read.value = get (initWithIdentifier read.item) read.key
  prefixes : calls.Visits Fresh manager sequence

/-- From the start of a process on any keychain, the cache is coherent in a run exactly if the
keychain is cleared only where every getter returns its default. -/
theorem cacheCoherent_iff (item : Option KeychainItemData) (sequence : List KeychainCall) :
    calls.Along ClearsBlank (initWithIdentifier item) sequence ↔ CacheCoherent (initWithIdentifier item) sequence := by
  rw [keeps_coherent.along_iff_visits (fun _ _ _ coherent fresh stepped => fresh_step_iff coherent fresh stepped)
    (fun _ call _ _ stopped => by cases call <;> cases stopped) (coherent_init item) (get_init item)]
  constructor
  · intro visits
    refine ⟨(Machine.forall_outputs _).mpr (visits.along fun manager call fresh read member => ?_),visits⟩
    cases call with
    | perform op => cases member
    | setNil key => cases member
    | get key =>
      obtain rfl := List.mem_singleton.mp member
      exact fresh key
  · exact CacheCoherent.prefixes

/-- After a receipt has been stored and the keychain cleared, the receipt is still returned. -/
theorem not_cacheCoherent_cleared :
    calls.outputs (initWithIdentifier none)
        [.perform (.setKeyChainReceipt "r".toList),.perform .clearKeyChain,.get .receipt] =
      [⟨.receipt,.text "r".toList,none⟩] ∧
    ¬CacheCoherent (initWithIdentifier none)
      [.perform (.setKeyChainReceipt "r".toList),.perform .clearKeyChain,.get .receipt] := by
  refine ⟨by decide,fun coherent => ?_⟩
  exact absurd coherent.prefixes (by decide)

end KeychainManager
end TenonVpn
