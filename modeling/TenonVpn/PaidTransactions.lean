import TenonVpn.RechargeTurn

/-! What becomes of a paid transaction: when StoreKit is told to finish it
(`FinishedStored`) and for which plan it is credited (`CreditsPaid`). The code finishes
it first and takes the plan from the page, so both hold along certain runs only. -/
namespace TenonVpn.World
open Machine

def FinishedStored : World × Effect → Prop
  | (w,.finishTransaction transaction) => transaction.transactionState = .purchased →
    ∃ completion ∈ w.pending, completion.transaction.identifier = transaction.identifier ∧
      Persists w.app.keychain completion
  | _ => True

/-- The turn handles no batch of one `Purchased` transaction, or a crash cuts it
before its second effect. -/
def Unhandled (w : World) : RechargeEvent × Option Nat → Prop
  | (event,crashed) => (∃ count ∈ crashed, count < 2) ∨
    ∀ environment index transaction, ¬w.Handles environment index transaction event

/-- Nothing was stored, and nothing waits that would finish a transaction. -/
structure Fresh (w : World) : Prop where
  pending : w.pending = none
  mainQueue : ∀ transaction, .finishTransaction transaction ∉ w.mainQueue
  posts : ∀ transaction account receipt type, .complete transaction account receipt type ∉ w.posts

theorem fresh_installed (item : Option KeychainItemData) (group : UserDefaults) : Fresh (installed item group) :=
  ⟨rfl,by simp [installed],by simp [installed]⟩

theorem fresh_restart {w : World} (fresh : Fresh w) : Fresh w.restart :=
  ⟨fresh.pending,by simp [restart],by simp [restart]⟩

theorem fresh_perform {origin w : World} {o : Effect} (start : Fresh origin) (plain : origin.Plain o)
    (fresh : Fresh w) : Fresh (w.perform o) := by
  cases o with
  | dispatch block =>
    refine ⟨fresh.pending,fun transaction queued => ?_,fresh.posts⟩
    rcases List.mem_append.mp queued with before | added
    · exact fresh.mainQueue transaction before
    · obtain rfl := List.mem_singleton.mp added
      obtain ⟨account,receipt,type,posted⟩ : origin.Quiet (.dispatch (.finishTransaction transaction)) := by
        simpa [Plain] using plain
      exact start.posts transaction account receipt type posted
  | dequeue =>
    exact ⟨fresh.pending,fun transaction queued => fresh.mainQueue transaction (List.mem_of_mem_tail queued),
      fresh.posts⟩
  | post post =>
    refine ⟨fresh.pending,fresh.mainQueue,fun transaction account receipt type posted => ?_⟩
    rcases List.mem_append.mp posted with before | added
    · exact fresh.posts transaction account receipt type before
    · obtain rfl := List.mem_singleton.mp added
      simp [Plain,Quiet] at plain
  | takePost index =>
    exact ⟨fresh.pending,fresh.mainQueue,fun transaction account receipt type posted =>
      fresh.posts transaction account receipt type (List.mem_of_mem_eraseIdx posted)⟩
  | recorded completion => simp [Plain,Quiet] at plain
  | confirmed => exact ⟨rfl,fresh.mainQueue,fresh.posts⟩
  | restart => exact fresh_restart fresh
  | _ => exact ⟨fresh.pending,fresh.mainQueue,fresh.posts⟩

variable (ccSha256 : Text → Fin 32 → Fin 256)

theorem plain_cut {w : World} {event : RechargeEvent} {crashed : Option Nat}
    (unhandled : w.Unhandled (event,crashed)) : ∀ o ∈ cut (turn ccSha256 w event) crashed, w.Plain o := by
  rcases w.handles_or event with ⟨environment,index,transaction,handles⟩ | other
  · rcases unhandled with ⟨count,rfl,early⟩ | other
    · rw [handles_turn ccSha256 handles]
      obtain rfl | rfl : count = 0 ∨ count = 1 := by omega
      · simp [cut]
      · simp [cut,Plain,Quiet]
    · exact absurd handles (other environment index transaction)
  · have plain := plain_turn ccSha256 other
    cases crashed with
    | none => exact plain
    | some count => exact fun o member => plain o (List.mem_of_mem_take member)

theorem keeps_fresh : (rechargeWithCrashes ccSha256).Keeps Fresh Unhandled := by
  refine keeps_ofCutTurns (fun w event crashed fresh unhandled => ?_) (fun w => fresh_restart)
  exact foldl_keeps (fun o member _ => fresh_perform fresh (plain_cut ccSha256 unhandled o member)) fresh

theorem finishedStored_of_plain {origin w : World} {o : Effect} (fresh : Fresh origin)
    (plain : origin.Plain o) : FinishedStored (w,o) := by
  cases o with
  | finishTransaction transaction =>
    intro purchased
    have quiet : origin.Quiet (.finishTransaction transaction) := by simpa [Plain] using plain
    rcases quiet with unpaid | queued
    · exact absurd purchased unpaid
    · exact absurd queued (fresh.mainQueue transaction)
  | _ => trivial

theorem unhandled_iff {w : World} (fresh : Fresh w) (event : RechargeEvent × Option Nat) :
    w.Unhandled event ↔ ∀ o ∈ ((rechargeWithCrashes ccSha256).step w event).1, FinishedStored o := by
  obtain ⟨event,crashed⟩ := event
  constructor
  · rintro unhandled ⟨state,o⟩ member
    obtain ⟨before,after,split,_⟩ := mem_trace.mp member
    exact finishedStored_of_plain fresh (plain_cut ccSha256 unhandled o (by simp [split]))
  · intro good
    by_contra handled
    simp only [Unhandled,not_or,not_exists,not_and,not_lt,not_forall,not_not] at handled
    obtain ⟨late,environment,index,transaction,handles⟩ := handled
    have purchased : transaction.transactionState = .purchased := by
      cases event with
      | mainQueue answered => exact handles.2.2
      | _ => exact handles.elim
    -- the second effect of the turn finishes it, before anything is stored
    have finished : (w.perform .dequeue,.finishTransaction transaction) ∈
        trace perform w (cut (turn ccSha256 w event) crashed) := by
      rw [handles_turn ccSha256 handles]
      cases crashed with
      | none => simp [cut,trace]
      | some count =>
        obtain ⟨more,rfl⟩ := Nat.exists_eq_add_of_le (late count rfl)
        simp [cut,trace,Nat.add_comm 2]
    obtain ⟨completion,held,_⟩ := good _ finished purchased
    rw [perform,fresh.pending] at held
    cases held

/-- No paid transaction is lost exactly along the runs that come to finish none. -/
theorem finishedStored_iff (item : Option KeychainItemData) (group : UserDefaults)
    (events : List (RechargeEvent × Option Nat)) :
    (∀ o ∈ (rechargeWithCrashes ccSha256).outputs (installed item group) events, FinishedStored o) ↔
      (rechargeWithCrashes ccSha256).Along Unhandled (installed item group) events := by
  rw [forall_outputs]
  exact (along_iff (keeps_fresh ccSha256) (fun w event fresh => unhandled_iff ccSha256 fresh event)
    (fresh_installed item group)).symm

theorem finished_without_record : ¬∀ o ∈ (rechargeWithCrashes receiptSha256).outputs (installed none .empty)
    ((.viewDidLoad :: purchase 0 .month 0 (answering .noData firstReceipt)).map (fun event => (event,none))),
      FinishedStored o := by
  intro good
  have finished := good (_,.finishTransaction ⟨0,Plan.month.selectAppleGoodsID,.purchased⟩)
    (List.mem_iff_getElem?.mpr ⟨12,rfl⟩)
  obtain ⟨completion,held,_⟩ := finished rfl
  cases held

def CreditsPaid : World × Effect → Prop
  | (_,.recording completion _) => ∃ plan : Plan,
    plan.selectAppleGoodsID = completion.transaction.productIdentifier ∧
      completion.type = plan.selectIdx ∧ completion.record.amount = plan.amount
  | (_,.post (.complete transaction _ _ type)) => ∃ plan : Plan,
    plan.selectAppleGoodsID = transaction.productIdentifier ∧ type = plan.selectIdx
  | _ => True

/-- Where `completeTransaction` comes to its writes, its page shows a plan and that plan
is for the product of the transaction. -/
def PaidSelected (w : World) (event : RechargeEvent) : Prop :=
  ∀ index page transaction environment receipt balance,
    w.Completes event index page transaction environment receipt balance →
      page.selectIdx ≠ -1 ∧ page.selectAppleGoodsID = transaction.productIdentifier

def Chosen (w : World) : Prop := ∀ page ∈ w.pages, ∃ choice, page.Selects choice

theorem chosen_perform {w : World} {o : Effect}
    (shows : ∀ page, o = .addPage page ∨ (∃ index, o = .setPage index page) → ∃ choice, page.Selects choice)
    (chosen : Chosen w) : Chosen (w.perform o) := by
  cases o with
  | addPage page =>
    intro other member
    rcases List.mem_append.mp member with before | added
    · exact chosen other before
    · obtain rfl := List.mem_singleton.mp added
      exact shows other (Or.inl rfl)
  | setPage index page =>
    intro other member
    rcases List.mem_or_eq_of_mem_set member with before | rfl
    · exact chosen other before
    · exact shows other (Or.inr ⟨index,rfl⟩)
  | restart => simp [Chosen,perform,restart]
  | _ => exact chosen

theorem shows_turn {w : World} {event : RechargeEvent} {o : Effect} (chosen : Chosen w)
    (member : o ∈ turn ccSha256 w event) (page : Page)
    (set : o = .addPage page ∨ ∃ index, o = .setPage index page) : ∃ choice, page.Selects choice := by
  rcases w.handles_or event with ⟨environment,index,transaction,handles⟩ | other
  · rcases mem_handles_turn ccSha256 handles member with
      rfl | rfl | rfl | ⟨before,found,rfl⟩ | ⟨_,rfl⟩ | rfl | rfl | ⟨_,receipt,balance,_,stored⟩
    · simp at set
    · simp at set
    · simp at set
    · obtain ⟨choice,selects⟩ := chosen before (List.mem_of_getElem? found)
      obtain rfl : {before with receipt := environment.receipt} = page := by simpa using set
      exact ⟨choice,by cases choice <;> exact selects⟩
    · simp at set
    · simp at set
    · simp at set
    · rcases set with rfl | ⟨_,rfl⟩ <;> simp [RechargeViewController.storeTurn] at stored
  · have plain := plain_turn ccSha256 other o member
    rcases set with rfl | ⟨index,rfl⟩
    · have quiet : w.Quiet (.addPage page) := by simpa [Plain] using plain
      exact ⟨none,quiet⟩
    · have quiet : w.Quiet (.setPage index page) := by simpa [Plain] using plain
      rcases quiet with ⟨plan,selects⟩ | ⟨before,found,same⟩
      · exact ⟨some plan,selects⟩
      · obtain ⟨choice,selects⟩ := chosen before (List.mem_of_getElem? found)
        exact ⟨choice,same choice selects⟩

theorem keeps_chosen (P : World → RechargeEvent → Prop) : (recharge ccSha256).Keeps Chosen P := by
  refine keeps_ofTurns (fun w event chosen _ => ?_)
  exact foldl_keeps (fun o member _ => chosen_perform (shows_turn ccSha256 chosen member)) chosen

theorem amountOf_selectIdx (plan : Plan) : amountOf plan.selectIdx = plan.amount := by
  cases plan <;> rfl

theorem selectIdx_ne (plan : Plan) : plan.selectIdx ≠ -1 := by
  cases plan <;> decide

theorem selectIdx_injective {plan other : Plan} (same : plan.selectIdx = other.selectIdx) : plan = other := by
  cases plan <;> cases other <;> first | rfl | exact absurd same (by decide)

theorem paidSelected_iff {w : World} (chosen : Chosen w) (event : RechargeEvent) :
    w.PaidSelected event ↔ ∀ o ∈ ((recharge ccSha256).step w event).1, CreditsPaid o := by
  constructor
  · rintro selected ⟨state,o⟩ member
    obtain ⟨before,after,split,_⟩ := mem_trace.mp member
    have turned : o ∈ turn ccSha256 w event := by simp [split]
    by_cases stores : o.Stores
    swap
    · unfold Effect.Stores at stores
      unfold CreditsPaid
      split <;> simp_all
    obtain ⟨index,page,transaction,environment,receipt,balance,completes,stored⟩ :=
      stores_turn ccSha256 stores turned
    obtain ⟨shown,paid⟩ := selected index page transaction environment receipt balance completes
    obtain ⟨choice,selects⟩ := chosen page (List.mem_of_getElem? completes.page)
    cases choice with
    | none => exact absurd selects.1 shown
    | some plan =>
      have goods : plan.selectAppleGoodsID = transaction.productIdentifier := selects.2.symm.trans paid
      rcases mem_storeTurn stores stored with rfl | rfl | rfl
      · refine ⟨plan,goods,selects.1,?_⟩
        simp only [RechargeViewController.completion,selects.1,amountOf_selectIdx]
      · trivial
      · exact ⟨plan,goods,selects.1⟩
  · intro good index page transaction environment receipt balance completes
    have turned := completes_turn ccSha256 completes
    obtain ⟨plan,goods,type,_⟩ := good _ (mem_trace.mpr ⟨_,_,turned,rfl⟩)
    obtain ⟨choice,selects⟩ := chosen page (List.mem_of_getElem? completes.page)
    have index_eq : page.selectIdx = plan.selectIdx := type
    cases choice with
    | none => exact absurd (selects.1.symm.trans index_eq).symm (selectIdx_ne plan)
    | some shown =>
      obtain rfl := selectIdx_injective (selects.1.symm.trans index_eq)
      exact ⟨fun missing => selectIdx_ne _ (index_eq.symm.trans missing),selects.2.trans goods⟩

/-- The credited plan is the paid plan exactly along the runs in which every page
that completes a transaction shows the plan that was paid. -/
theorem creditsPaid_iff (item : Option KeychainItemData) (group : UserDefaults) (events : List RechargeEvent) :
    (∀ o ∈ (recharge ccSha256).outputs (installed item group) events, CreditsPaid o) ↔
      (recharge ccSha256).Along PaidSelected (installed item group) events := by
  rw [forall_outputs]
  exact (along_iff (keeps_chosen ccSha256 _) (fun w event chosen => paidSelected_iff ccSha256 chosen event)
    (by simp [Chosen,installed])).symm

def redelivered : List RechargeEvent :=
  .viewDidLoad :: (purchase 0 .year 0 (answering .json firstReceipt)).take 4 ++
    [.restart,.changeState 0 .purchased,.viewDidLoad,.updatedTransactions 0 [0],
      .mainQueue (answering .json firstReceipt)]

theorem redelivered_without_plan :
    ¬∀ o ∈ (recharge receiptSha256).outputs (installed none .empty) redelivered, CreditsPaid o := by
  intro good
  have posted := good (_,.post (.complete ⟨0,Plan.year.selectAppleGoodsID,.purchased⟩ [] firstReceipt (-1)))
    (List.mem_iff_getElem?.mpr ⟨21,rfl⟩)
  obtain ⟨plan,_,type⟩ := posted
  cases plan <;> exact absurd type (by decide)

end TenonVpn.World
