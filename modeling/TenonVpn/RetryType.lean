import TenonVpn.Recharge

/-! The two requests that retry a recharge: the recharge page posts the stored type, the
main page derives one from the balance, which includes the pending amount. -/
namespace TenonVpn

namespace KeychainManager

/-- What the purchase of a plan leaves in the keychain: its receipt, its type and its record. -/
structure Holds (manager : KeychainManager) (plan : Plan) (receipt : Text) (record : RechargeRecord) : Prop where
  stored : manager.getKeyChainReceipt = receipt
  present : receipt ≠ []
  typed : manager.getKeyChainType = plan.selectIdx
  labelled : Slot.In (some record) manager
  priced : record.amount = plan.amount

theorem holds_recordOps (manager : KeychainManager) (plan : Plan) {receipt : Text} (present : receipt ≠ [])
    {record : RechargeRecord} (priced : record.amount = amountOf plan.selectIdx) :
    Holds (manager.performs (recordOps receipt plan.selectIdx record)) plan receipt record where
  stored := by simp [recordOps,performs,getKeyChainReceipt,perform_data]
  present := present
  typed := by simp [recordOps,performs,getKeyChainType,perform_data]
  labelled := by simp [recordOps,Slot.In,Slot.label,performs,getKeyChainTranscate,perform_data]
  priced := by cases plan <;> exact priced

end KeychainManager

def postedTypes (receipt : Text) (effects : List Effect) : List Int :=
  effects.filterMap fun
    | .post (.retry _ _ posted type) => if posted = receipt then some type else none
    | .post (.mainRetry _ posted type) => if posted = receipt then some type else none
    | _ => none

/-- Both pages post the type of the purchased plan with its receipt, if they post it. -/
structure SameType (w : World) (ledger : Ledger) (plan : Plan) (receipt : Text) : Prop where
  page : ∀ index page, postedTypes receipt (RechargeViewController.requestRechargeInterface w index page) =
    [plan.selectIdx]
  main : ∀ type ∈ postedTypes receipt (MainViewController.requestRechargeInterface w ledger), type = plan.selectIdx

namespace Plan

/-- The balances of the ledger for which the sum with the plan's amount does not stand for another plan. -/
def Unmistaken : Plan → Nat → Prop
  | month,balance => balance ≠ 3960 ∧ balance ≠ 21810
  | quarter,balance => balance = 0
  | year,balance => balance = 0

instance (plan : Plan) (balance : Nat) : Decidable (plan.Unmistaken balance) := by
  cases plan <;> unfold Unmistaken <;> infer_instance

end Plan

namespace MainViewController

def typeOf (localAmount : Nat) : Int :=
  if localAmount = 1990 then 1 else if localAmount = 5950 then 2 else if localAmount = 23800 then 3 else 1

theorem typeOf_eq_iff (plan : Plan) (balance : Nat) :
    typeOf (balance + plan.amount) = plan.selectIdx ↔ plan.Unmistaken balance := by
  cases plan <;> simp only [typeOf,Plan.amount,Plan.selectIdx,Plan.Unmistaken] <;> grind

end MainViewController

namespace World
open TenonP2pLib
variable {w : World} {plan : Plan} {receipt : Text} {record : RechargeRecord}

theorem postedTypes_page (holds : w.app.keychain.Holds plan receipt record) (index : Nat) (page : Page) :
    postedTypes receipt (RechargeViewController.requestRechargeInterface w index page) = [plan.selectIdx] := by
  have filled : ¬w.app.keychain.getKeyChainReceipt.length = 0 := by
    rw [holds.stored]
    exact fun empty => holds.present (List.length_eq_zero_iff.mp empty)
  rw [RechargeViewController.requestRechargeInterface,if_neg filled]
  simp [postedTypes,holds.stored,holds.typed]

/-- Once the ledger has confirmed the record, the receipt is cleared before it is posted. -/
theorem postedTypes_main_confirmed (holds : w.app.keychain.Holds plan receipt record) {ledger : Ledger}
    (confirmed : Slot.confirmed record ledger = true) :
    postedTypes receipt (MainViewController.requestRechargeInterface w ledger) = [] := by
  have filled : 0 < w.app.keychain.getKeyChainReceipt.length := by
    rw [holds.stored]
    exact List.length_pos_iff.mpr holds.present
  have ops : getBalanceOps w.app.keychain ledger =
      [.setKeyChainType 0,.setKeyChainReceipt [],.setKeyChainTranscate [],.clearKeyChain] := by
    rw [getBalanceOps_in holds.labelled ledger,Option.any_some,confirmed]
    rfl
  have cleared : (getBalance w.app.keychain ledger).1.getKeyChainReceipt = [] := by
    rw [getBalance,ops]
    simp [KeychainManager.performs,KeychainManager.getKeyChainReceipt,KeychainManager.perform_data]
  have other : ¬[] = receipt := fun same => holds.present same.symm
  simp only [MainViewController.requestRechargeInterface,if_pos filled,getBalanceTurn,ops,cleared]
  cases (getBalance w.app.keychain ledger).2 <;> simp [postedTypes,other]

theorem postedTypes_main (holds : w.app.keychain.Holds plan receipt record) {ledger : Ledger}
    (unconfirmed : Slot.confirmed record ledger = false) :
    postedTypes receipt (MainViewController.requestRechargeInterface w ledger) =
      [MainViewController.typeOf (limitedBalance ledger + plan.amount)] := by
  have filled : 0 < w.app.keychain.getKeyChainReceipt.length := by
    rw [holds.stored]
    exact List.length_pos_iff.mpr holds.present
  have ops : getBalanceOps w.app.keychain ledger = [] := by
    rw [getBalanceOps_in holds.labelled ledger,Option.any_some,unconfirmed]
    rfl
  have pending : Slot.countedBalance ledger (some record) = limitedBalance ledger + plan.amount := by
    simp [Slot.countedBalance,Slot.pendingAmount,Slot.settle,Option.filter,unconfirmed,Slot.amount,holds.priced]
  have small : limitedBalance ledger + plan.amount < 2^64 := by
    have limit := limitedBalance_le ledger
    unfold balanceLimit at limit
    cases plan <;> simp only [Plan.amount] <;> omega
  have balance := (getBalance_in holds.labelled ledger).2
  rw [pending,if_pos small] at balance
  have same : (getBalance w.app.keychain ledger).1 = w.app.keychain := by rw [getBalance,ops]; rfl
  simp only [MainViewController.requestRechargeInterface,if_pos filled,getBalanceTurn,ops,balance,same]
  simp [postedTypes,holds.stored,MainViewController.typeOf]

/-- The two requests post the same type exactly if the ledger has confirmed the record, or its
balance does not take the sum to the amount of another plan. -/
theorem sameType_iff (holds : w.app.keychain.Holds plan receipt record) (ledger : Ledger) :
    SameType w ledger plan receipt ↔
      (Slot.confirmed record ledger = true ∨ plan.Unmistaken (limitedBalance ledger)) := by
  cases settled : Slot.confirmed record ledger with
  | true =>
    refine iff_of_true ⟨postedTypes_page holds,fun type member => ?_⟩ (Or.inl rfl)
    rw [postedTypes_main_confirmed holds settled] at member
    cases member
  | false =>
    rw [← MainViewController.typeOf_eq_iff]
    constructor
    · intro same
      exact Or.inr (same.main _ (postedTypes_main holds settled ▸ List.mem_cons_self))
    · rintro (impossible | told)
      · cases impossible
      · refine ⟨postedTypes_page holds,fun type member => ?_⟩
        rw [postedTypes_main holds settled] at member
        rw [List.mem_singleton.mp member,told]

/-- A record of the plan, without a gid of the ledger. -/
def recordOf (plan : Plan) : RechargeRecord :=
  ⟨⟨"05-06 07:08".toList,by decide,by decide⟩,plan.amount,0,⟨List.replicate 64 '7',by decide,by decide⟩⟩

def bought (plan : Plan) : World :=
  let w := installed none UserDefaults.empty
  {w with app := {w.app with keychain := w.app.keychain.performs (recordOps firstReceipt plan.selectIdx (recordOf plan))}}

theorem holds_bought (plan : Plan) : (bought plan).app.keychain.Holds plan firstReceipt (recordOf plan) :=
  KeychainManager.holds_recordOps _ plan (by decide) (by cases plan <;> rfl)

theorem sameType_month : SameType (bought .month) ⟨100,[]⟩ .month firstReceipt :=
  (sameType_iff (holds_bought .month) ⟨100,[]⟩).mpr (Or.inr (by decide))

/-- With a balance of 100 in the ledger, the retried year plan is posted as the month plan. -/
theorem not_sameType_year : postedTypes firstReceipt
      (MainViewController.requestRechargeInterface (bought .year) ⟨100,[]⟩) = [1] ∧
    postedTypes firstReceipt (RechargeViewController.requestRechargeInterface (bought .year) 0 ⟨3,[],[],none,false,true⟩) =
      [3] ∧
    ¬SameType (bought .year) ⟨100,[]⟩ .year firstReceipt := by
  have main : postedTypes firstReceipt (MainViewController.requestRechargeInterface (bought .year) ⟨100,[]⟩) = [1] :=
    postedTypes_main (holds_bought .year) (by decide)
  refine ⟨main,postedTypes_page (holds_bought .year) 0 _,fun same => ?_⟩
  exact absurd (same.main 1 (main ▸ List.mem_cons_self)) (by decide)

end World
end TenonVpn
