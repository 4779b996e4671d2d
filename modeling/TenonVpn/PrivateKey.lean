import TenonVpn.Ledger
import Mathlib.Logic.Function.Basic

/-! The stores of the app and the functions that change the private key:
`GetPrivateKey`, `SavePrivateKey` and the two `ResetPrivateKey`. Changing the key
writes three stores before its last fallible check, so a reported failure leaves
them alone only under the conditions of `ViewController.Harmless`. -/
namespace TenonVpn

inductive PropertyValue
  | string (value : Text)
  | number (value : Int)
  | data (bytes : List UInt8)
deriving DecidableEq

abbrev UserDefaults := Text → Option PropertyValue

namespace UserDefaults

def empty : UserDefaults := fun _ => none

def set (defaults : UserDefaults) (value : PropertyValue) (key : Text) : UserDefaults :=
  Function.update defaults key (some value)

def string (defaults : UserDefaults) (key : Text) : Option Text :=
  match defaults key with
  | some (.string value) => some value
  | some (.number value) => some (Text.signed value)
  | _ => none

def integer (defaults : UserDefaults) (key : Text) : Int :=
  match defaults key with
  | some (.number value) => value
  | some (.string value) => Text.leading (-2^63) (2^63-1) value
  | _ => 0

end UserDefaults

/-- The memory of `TenonP2pLib.sharedInstance`. -/
structure TenonP2pLib where
  payforTimestamp : Int
  payforAmount : Int
  payforGid : Text
  vipLeftDays : Int
  nowBalance : Int
  accountId : Text
  privateKey : Text
  keepedPrivateKyes : List Text
deriving DecidableEq

/-- The stores of the app: the keychain, the standard user defaults, those of the
suite `group.com.tenon.tenonvpn`, and the memory of the P2P library. -/
structure TenonApp where
  keychain : KeychainManager
  standard : UserDefaults
  group : UserDefaults
  p2p : TenonP2pLib

namespace TenonP2pLib

def keyAllPrivateKey : Text := "all_private_key".toList

def keyLeftFreeUseTimeMilli : Text := "mLeftFreeUseTimeMilli".toList

def keylessOps : List KeychainOp :=
  [.setKeyChainTranscate [],.setKeyChainType 0,.setKeyChainReceipt [],.setKeyChainTranscate []]

def storedKeys (standard : UserDefaults) : List Text :=
  Text.split ',' ((standard.string keyAllPrivateKey).getD [])

def getPrivateKey (app : TenonApp) : TenonApp × Text :=
  match storedKeys app.standard with
  | [] => ({app with keychain := app.keychain.performs keylessOps},[])
  | first :: _ => (app,first)

def savedDefaults (group : UserDefaults) (prikey : Text) (keeped : List Text) : UserDefaults :=
  (UserDefaults.empty.set (.string (prikey ++ keeped.flatMap (',' :: ·))) keyAllPrivateKey).set
    (.number (group.integer keyLeftFreeUseTimeMilli)) keyLeftFreeUseTimeMilli

def savePrivateKey (app : TenonApp) (prikeyIn : Text) : TenonApp × Bool :=
  let written := {app with keychain := app.keychain.perform (.setKeyChainPrikey prikeyIn)}
  let prikey := Text.trimming ' ' prikeyIn
  if prikey.length ≠ 64 then (written,false)
  else
    let keeped := app.p2p.keepedPrivateKyes.erase prikey
    let removed := {written with p2p := {app.p2p with keepedPrivateKyes := keeped}}
    if 3 ≤ keeped.length then (removed,false)
    else ({removed with
      keychain := written.keychain.perform .clearKeyChain
      standard := savedDefaults app.group prikey keeped},true)

/-- `TenonP2pLib.ResetPrivateKey`, over the answer of `LibP2P.resetPrivateKey`. -/
def resetPrivateKey (reset : Text → Text) (app : TenonApp) (prikey : Text) : TenonApp × Bool :=
  match Text.split ',' (reset prikey) with
  | [_,account] =>
    let changed := {app with p2p := {app.p2p with privateKey := prikey, accountId := account}}
    ((savePrivateKey changed prikey).1,true)
  | _ => (app,false)

end TenonP2pLib

namespace ViewController

def resetPrivateKey (reset : Text → Text) (app : TenonApp) (ss : Text) : TenonApp × Int :=
  if ss = app.p2p.privateKey then (app,1)
  else if ss.length ≠ 64 then (app,2)
  else match TenonP2pLib.savePrivateKey app ss with
    | (saved,false) => (saved,3)
    | (saved,true) =>
      match TenonP2pLib.resetPrivateKey reset saved ss with
      | (done,false) => (done,2)
      | (done,true) => (done,0)

structure Unchanged (before after : TenonApp) : Prop where
  keychain : after.keychain = before.keychain
  standard : after.standard = before.standard
  privateKey : after.p2p.privateKey = before.p2p.privateKey
  accountId : after.p2p.accountId = before.p2p.accountId
  keepedPrivateKyes : after.p2p.keepedPrivateKyes = before.p2p.keepedPrivateKyes

def Atomic (reset : Text → Text) (app : TenonApp) (ss : Text) : Prop :=
  (resetPrivateKey reset app ss).2 ≠ 0 → Unchanged app (resetPrivateKey reset app ss).1

/-- `SavePrivateKey` takes the key: 64 characters without outer blanks, and room in the list. -/
def Takes (app : TenonApp) (ss : Text) : Prop :=
  (Text.trimming ' ' ss).length = 64 ∧ (app.p2p.keepedPrivateKyes.erase (Text.trimming ' ' ss)).length < 3

/-- Every write that precedes the failure would store what is stored already. -/
def Harmless (reset : Text → Text) (app : TenonApp) (ss : Text) : Prop :=
  ss = app.p2p.privateKey ∨ ss.length ≠ 64 ∨
  (Takes app ss ∧ (Text.split ',' (reset ss)).length = 2) ∨
  (app.keychain.getKeyChainPrikey = ss ∧
    ((Text.trimming ' ' ss).length = 64 → ss ∉ app.p2p.keepedPrivateKyes) ∧
    (Takes app ss → app.keychain.item = none ∧
      app.standard = TenonP2pLib.savedDefaults app.group ss app.p2p.keepedPrivateKyes))

open TenonP2pLib

private theorem setKeyChainPrikey_eq_iff (manager : KeychainManager) (prikey : Text) :
    manager.perform (.setKeyChainPrikey prikey) = manager ↔ manager.getKeyChainPrikey = prikey := by
  constructor
  · intro same
    have data := KeychainManager.perform_data manager (.setKeyChainPrikey prikey)
    rw [same] at data
    exact congrArg KeychainItemData.valueData data
  · intro same
    simp [KeychainManager.perform,KeychainItemWrapper.setObject,← same,KeychainManager.getKeyChainPrikey]

private theorem clear_setKeyChainPrikey_eq_iff (manager : KeychainManager) (prikey : Text) :
    (manager.perform (.setKeyChainPrikey prikey)).perform .clearKeyChain = manager ↔
      manager.getKeyChainPrikey = prikey ∧ manager.item = none := by
  constructor
  · intro same
    have data := KeychainManager.perform_data manager (.setKeyChainPrikey prikey)
    have dictionary := congrArg KeychainItemWrapper.keychainItemData same
    have item := congrArg KeychainItemWrapper.item same
    simp only [KeychainManager.perform] at dictionary item data
    rw [dictionary] at data
    exact ⟨congrArg KeychainItemData.valueData data,item.symm⟩
  · rintro ⟨stored,missing⟩
    rw [(setKeyChainPrikey_eq_iff manager prikey).mpr stored]
    cases manager
    simp only [KeychainManager.perform] at missing ⊢
    rw [missing]

theorem savePrivateKey_rejects {app : TenonApp} {ss : Text} (rejects : ¬Takes app ss) :
    savePrivateKey app ss = ({app with
      keychain := app.keychain.perform (.setKeyChainPrikey ss)
      p2p := {app.p2p with keepedPrivateKyes :=
        if (Text.trimming ' ' ss).length = 64 then app.p2p.keepedPrivateKyes.erase (Text.trimming ' ' ss)
        else app.p2p.keepedPrivateKyes}},false) := by
  unfold savePrivateKey
  by_cases full : (Text.trimming ' ' ss).length = 64
  · have crowded : 3 ≤ (app.p2p.keepedPrivateKyes.erase (Text.trimming ' ' ss)).length := by
      by_contra room
      exact rejects ⟨full,by omega⟩
    simp [full,crowded]
  · simp [full]

theorem savePrivateKey_takes {app : TenonApp} {ss : Text} (takes : Takes app ss) :
    savePrivateKey app ss = ({app with
      keychain := (app.keychain.perform (.setKeyChainPrikey ss)).perform .clearKeyChain
      standard := savedDefaults app.group (Text.trimming ' ' ss)
        (app.p2p.keepedPrivateKyes.erase (Text.trimming ' ' ss))
      p2p := {app.p2p with
        keepedPrivateKyes := app.p2p.keepedPrivateKyes.erase (Text.trimming ' ' ss)}},true) := by
  obtain ⟨full,room⟩ := takes
  have below : ¬3 ≤ (app.p2p.keepedPrivateKyes.erase (Text.trimming ' ' ss)).length := by omega
  simp [savePrivateKey,full,below]

theorem resetPrivateKey_answer (reset : Text → Text) (app : TenonApp) (prikey : Text) :
    ((Text.split ',' (reset prikey)).length = 2 ∧ (TenonP2pLib.resetPrivateKey reset app prikey).2 = true) ∨
      ((Text.split ',' (reset prikey)).length ≠ 2 ∧
        TenonP2pLib.resetPrivateKey reset app prikey = (app,false)) := by
  unfold TenonP2pLib.resetPrivateKey
  split
  · next first account answer => exact Or.inl ⟨by simp [answer],rfl⟩
  · next other =>
    refine Or.inr ⟨fun two => ?_,rfl⟩
    obtain ⟨first,account,answer⟩ := List.length_eq_two.mp two
    exact other first account answer

private theorem rejected_unchanged_iff {app : TenonApp} {ss : Text} (rejects : ¬Takes app ss)
    (size : ss.length = 64) : Unchanged app (savePrivateKey app ss).1 ↔
      app.keychain.getKeyChainPrikey = ss ∧
        ((Text.trimming ' ' ss).length = 64 → ss ∉ app.p2p.keepedPrivateKyes) := by
  rw [savePrivateKey_rejects rejects]
  constructor
  · intro same
    refine ⟨(setKeyChainPrikey_eq_iff _ _).mp same.keychain,fun full => ?_⟩
    have kept := same.keepedPrivateKyes
    rw [if_pos full,Text.trimming_eq (full.trans size.symm)] at kept
    exact List.erase_eq_self_iff.mp kept
  · rintro ⟨stored,absent⟩
    refine ⟨(setKeyChainPrikey_eq_iff _ _).mpr stored,rfl,rfl,rfl,?_⟩
    change (if _ then _ else _) = app.p2p.keepedPrivateKyes
    split
    · next full =>
      rw [Text.trimming_eq (full.trans size.symm)]
      exact List.erase_eq_self_iff.mpr (absent full)
    · rfl

private theorem taken_unchanged_iff {app : TenonApp} {ss : Text} (takes : Takes app ss)
    (size : ss.length = 64) : Unchanged app (savePrivateKey app ss).1 ↔
      app.keychain.getKeyChainPrikey = ss ∧ ss ∉ app.p2p.keepedPrivateKyes ∧ app.keychain.item = none ∧
        app.standard = savedDefaults app.group ss app.p2p.keepedPrivateKyes := by
  rw [savePrivateKey_takes takes,Text.trimming_eq (takes.1.trans size.symm)]
  constructor
  · intro same
    obtain ⟨stored,missing⟩ := (clear_setKeyChainPrikey_eq_iff _ _).mp same.keychain
    have kept := same.keepedPrivateKyes
    refine ⟨stored,List.erase_eq_self_iff.mp kept,missing,?_⟩
    have standard := same.standard
    simp only at kept standard
    rw [← standard,kept]
  · rintro ⟨stored,absent,missing,standard⟩
    have kept := List.erase_eq_self_iff.mpr absent
    refine ⟨(clear_setKeyChainPrikey_eq_iff _ _).mpr ⟨stored,missing⟩,?_,rfl,rfl,kept⟩
    simp only [kept]
    exact standard.symm

/-- `ResetPrivateKey` is atomic exactly when its early writes are harmless. -/
theorem resetPrivateKey_atomic_iff (reset : Text → Text) (app : TenonApp) (ss : Text) :
    Atomic reset app ss ↔ Harmless reset app ss := by
  unfold Atomic Harmless resetPrivateKey
  by_cases same : ss = app.p2p.privateKey
  · simp only [if_pos same]
    exact ⟨fun _ => Or.inl same,fun _ _ => ⟨rfl,rfl,rfl,rfl,rfl⟩⟩
  by_cases size : ss.length = 64
  swap
  · simp only [if_neg same,if_pos size]
    exact ⟨fun _ => Or.inr (Or.inl size),fun _ _ => ⟨rfl,rfl,rfl,rfl,rfl⟩⟩
  simp only [same,size,if_false,ne_eq,not_true_eq_false,false_or]
  by_cases takes : Takes app ss
  · have unchanged := taken_unchanged_iff takes size
    have taken : (savePrivateKey app ss).2 = true := by rw [savePrivateKey_takes takes]
    revert unchanged taken
    generalize savePrivateKey app ss = saved
    obtain ⟨saved,result⟩ := saved
    rintro unchanged rfl
    simp only [takes,true_and,forall_const,takes.1]
    rcases resetPrivateKey_answer reset saved ss with ⟨two,done⟩ | ⟨other,failed⟩
    · revert done
      generalize TenonP2pLib.resetPrivateKey reset saved ss = answer
      obtain ⟨answer,done⟩ := answer
      rintro rfl
      simp [two]
    · simp only [failed,other,false_or]
      simpa using unchanged
  · have unchanged := rejected_unchanged_iff takes size
    have rejected : (savePrivateKey app ss).2 = false := by rw [savePrivateKey_rejects takes]
    revert unchanged rejected
    generalize savePrivateKey app ss = saved
    obtain ⟨saved,result⟩ := saved
    rintro unchanged rfl
    simpa [takes] using unchanged

/-- A paid recharge waits in the keychain of a user with the key `1…1`; the new key
`2…2` is taken and the network then answers nothing. -/
def offline : TenonApp where
  keychain := KeychainItemWrapper.initWithIdentifier
    (some ⟨"receipt".toList,some 1,"record".toList,List.replicate 64 '1'⟩)
  standard := UserDefaults.empty.set (.string (List.replicate 64 '1')) keyAllPrivateKey
  group := UserDefaults.empty
  p2p := ⟨0,0,[],-1,-1,"account".toList,List.replicate 64 '1',[]⟩

theorem resetPrivateKey_not_atomic : ¬Atomic (fun _ => []) offline (List.replicate 64 '2') := by
  intro atomic
  have keychain := (atomic (by decide)).keychain
  exact absurd (congrArg KeychainItemWrapper.item keychain) (by decide)

end ViewController
end TenonVpn
