import TenonVpn.Keychain

/-! The pending recharge record in the keychain and the balance of
`TenonP2pLib.GetBalance`, which adds the record's amount until the ledger's
transaction list contains its gid. `Slot` is what the record field is for: at
most one recharge that the ledger has not confirmed. -/
namespace TenonVpn

/-- A date as `NSDateFormatter` writes it for `MM-dd hh:mm`. -/
structure DateText where
  text : Text
  present : text ≠ []
  plain : ',' ∉ text
deriving DecidableEq

structure Gid where
  text : Text
  size : text.length = 64
  plain : ',' ∉ text
deriving DecidableEq

/-- `sha256HashForText`, over the digest that `CC_SHA256` computes. -/
def sha256HashForText (ccSha256 : Text → Fin 32 → Fin 256) (text : Text) : Gid where
  text := (List.ofFn (ccSha256 text)).flatMap Text.hexByte
  size := by simp [Text.hexByte_length]
  plain := by
    simp only [List.mem_flatMap,not_exists,not_and]
    exact fun byte _ => Text.not_mem_hexByte byte

structure RechargeRecord where
  date : DateText
  amount : Nat
  balance : Nat
  gid : Gid
deriving DecidableEq

namespace RechargeRecord

/-- `"%@,%@,%@,%llu,%@,0,0;"` with the constant type `1`. -/
def text (record : RechargeRecord) : Text :=
  record.date.text ++ ',' :: (['1'] ++ ',' :: (Text.decimal record.amount ++ ',' ::
    (Text.decimal record.balance ++ ',' :: (record.gid.text ++ ',' :: ['0',',','0',';']))))

theorem text_ne_nil (record : RechargeRecord) : record.text ≠ [] := by simp [text]

theorem text_length (record : RechargeRecord) : 20 < record.text.length := by
  have size := record.gid.size
  simp only [text,List.length_append,List.length_cons]
  omega

theorem gid_ne_nil (record : RechargeRecord) : record.gid.text ≠ [] := by
  intro empty
  have size := record.gid.size
  simp [empty] at size

theorem components_text (record : RechargeRecord) : Text.components ',' record.text =
    [record.date.text,['1'],Text.decimal record.amount,Text.decimal record.balance,
      record.gid.text,['0'],['0',';']] := by
  have comma (n : Nat) : ',' ∉ Text.decimal n := Text.not_mem_decimal n (by decide)
  rw [text,Text.components_field _ record.date.plain,Text.components_field _ (by decide),
    Text.components_field _ (comma _),Text.components_field _ (comma _),
    Text.components_field _ record.gid.plain]
  rfl

theorem split_text (record : RechargeRecord) : Text.split ',' record.text =
    [record.date.text,['1'],Text.decimal record.amount,Text.decimal record.balance,
      record.gid.text,['0'],['0',';']] := by
  simp [Text.split,components_text,record.date.present,Text.decimal_ne_nil,record.gid_ne_nil]

end RechargeRecord

/-- What the external `LibP2P.getBalance` and `LibP2P.getTransactions` answer. -/
structure Ledger where
  balance : Nat
  transactions : Text
deriving DecidableEq

namespace TenonP2pLib

def balanceLimit : Nat := 1844674407370955161

def limitedBalance (ledger : Ledger) : Nat :=
  if balanceLimit < ledger.balance then 0 else ledger.balance

/-- `GetLocalAmount`; no result where the forced `UInt64(amount)!` traps. -/
def getLocalAmount (manager : KeychainManager) : Option Nat :=
  if 20 < manager.getKeyChainTranscate.length then
    match (Text.split ',' manager.getKeyChainTranscate)[2]? with
    | some amount => Text.uint64 amount
    | none => some 0
  else some 0

def getBalanceOps (manager : KeychainManager) (ledger : Ledger) : List KeychainOp :=
  if manager.getKeyChainTranscate.length ≠ 0 then
    match (Text.split ',' manager.getKeyChainTranscate)[4]? with
    | some gid =>
      if Text.contains ledger.transactions gid then
        [.setKeyChainType 0,.setKeyChainReceipt [],.setKeyChainTranscate [],.clearKeyChain]
      else []
    | none => []
  else []

/-- `GetBalance`: the keychain it leaves and the balance, none where the sum traps. -/
def getBalance (manager : KeychainManager) (ledger : Ledger) : KeychainManager × Option Nat :=
  let cleared := manager.performs (getBalanceOps manager ledger)
  (cleared,(getLocalAmount cleared).bind fun amount =>
    if limitedBalance ledger + amount < 2^64 then some (limitedBalance ledger + amount) else none)

end TenonP2pLib

/-- The one recharge that may wait for the ledger. -/
abbrev Slot := Option RechargeRecord

namespace Slot

def label (slot : Slot) : Text := (slot.map RechargeRecord.text).getD []

def confirmed (record : RechargeRecord) (ledger : Ledger) : Bool :=
  Text.contains ledger.transactions record.gid.text

def settle (ledger : Ledger) (slot : Slot) : Slot := slot.filter (fun record => !confirmed record ledger)

def amount (slot : Slot) : Nat := (slot.map RechargeRecord.amount).getD 0

def pendingAmount (ledger : Ledger) (slot : Slot) : Nat := (settle ledger slot).amount

def countedBalance (ledger : Ledger) (slot : Slot) : Nat :=
  TenonP2pLib.limitedBalance ledger + pendingAmount ledger slot

def In (slot : Slot) (manager : KeychainManager) : Prop := manager.getKeyChainTranscate = label slot

theorem label_injective : Function.Injective label := by
  intro first second same
  match first,second with
  | none,none => rfl
  | none,some record => exact absurd same.symm record.text_ne_nil
  | some record,none => exact absurd same record.text_ne_nil
  | some ⟨date,amount,balance,gid⟩,some ⟨date',amount',balance',gid'⟩ =>
    have fields := congrArg (Text.components ',') same
    simp only [label,Option.map_some,Option.getD_some,RechargeRecord.components_text,List.cons.injEq] at fields
    obtain ⟨dates,-,amounts,balances,gids,-⟩ := fields
    have decimal {n m : Nat} (equal : Text.decimal n = Text.decimal m) : n = m := by
      simpa [Text.digits_decimal] using congrArg Text.digits equal
    cases date
    cases date'
    cases gid
    cases gid'
    cases dates
    cases gids
    rw [decimal amounts,decimal balances]

theorem pendingAmount_le (ledger : Ledger) (slot : Slot) : pendingAmount ledger slot ≤ slot.amount := by
  cases slot with
  | none => simp [pendingAmount,settle,amount]
  | some record =>
    cases listed : confirmed record ledger <;> simp [pendingAmount,settle,Option.filter,listed,amount]

end Slot

namespace TenonP2pLib
open Slot

theorem getLocalAmount_in {slot : Slot} {manager : KeychainManager} (holds : slot.In manager) :
    getLocalAmount manager = if slot.amount < 2^64 then some slot.amount else none := by
  unfold getLocalAmount
  rw [holds]
  cases slot with
  | none => rfl
  | some record =>
    have held : Slot.amount (some record) = record.amount := rfl
    simp [held,label,record.text_length,record.split_text,Text.uint64_decimal]

theorem getBalanceOps_in {slot : Slot} {manager : KeychainManager} (holds : slot.In manager)
    (ledger : Ledger) : getBalanceOps manager ledger =
      if slot.any (fun record => confirmed record ledger) then
        [.setKeyChainType 0,.setKeyChainReceipt [],.setKeyChainTranscate [],.clearKeyChain]
      else [] := by
  unfold getBalanceOps
  rw [holds]
  cases slot with
  | none => rfl
  | some record =>
    cases listed : confirmed record ledger <;>
      simp_all [label,record.text_ne_nil,record.split_text,confirmed]

theorem settle_in {slot : Slot} {manager : KeychainManager} (holds : slot.In manager) (ledger : Ledger) :
    (settle ledger slot).In (manager.performs (getBalanceOps manager ledger)) := by
  rw [getBalanceOps_in holds]
  cases slot with
  | none => exact holds
  | some record =>
    cases listed : confirmed record ledger with
    | false => simpa [settle,listed,Option.filter,KeychainManager.performs] using holds
    | true =>
      simp [settle,listed,Option.filter,In,label,KeychainManager.performs,
        KeychainManager.getKeyChainTranscate,KeychainManager.perform_data]

theorem limitedBalance_le (ledger : Ledger) : limitedBalance ledger ≤ balanceLimit := by
  unfold limitedBalance
  split <;> omega

/-- `GetBalance` counts the pending amount once, and traps where the sum needs more than 64 bits. -/
theorem getBalance_in {slot : Slot} {manager : KeychainManager} (holds : slot.In manager) (ledger : Ledger) :
    (settle ledger slot).In (getBalance manager ledger).1 ∧ (getBalance manager ledger).2 =
      if countedBalance ledger slot < 2^64 then some (countedBalance ledger slot) else none := by
  have settled := settle_in holds ledger
  refine ⟨settled,?_⟩
  have counted : countedBalance ledger slot = limitedBalance ledger + (settle ledger slot).amount := rfl
  rw [counted]
  simp only [getBalance,getLocalAmount_in settled]
  by_cases small : (settle ledger slot).amount < 2^64
  · rw [if_pos small,Option.bind_some]
  · rw [if_neg small,if_neg (by omega),Option.bind_none]

end TenonP2pLib
end TenonVpn
