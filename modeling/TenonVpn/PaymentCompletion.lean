import TenonVpn.PaymentObserver

/-! When each paid transaction is completed once. A delivery of a single `Purchased` transaction
waits in the main queue as a block; the block finishes the transaction and completes it. -/
namespace TenonVpn
namespace World
open TenonP2pLib Machine
variable (ccSha256 : Text → Fin 32 → Fin 256)

/-- StoreKit delivers no paid transaction that an earlier delivery still has in the main queue. -/
def DeliversOnce (w : World) : RechargeEvent → Prop
  | .updatedTransactions index identifiers => ∀ page ∈ w.pages[index]?, page.observing = true →
    ∀ identifier ∈ Block.paid (.updatedTransactions index
      (w.unfinished.filter (fun transaction => transaction.identifier ∈ identifiers))), identifier ∉ waiting w
  | _ => True

/-- Completed transactions are finished and wait in no block, and waiting ones wait once. -/
structure Accounted (w : World) (completed : List Nat) : Prop where
  once : completed.Nodup
  queue : (waiting w).Nodup
  issued : ∀ identifier ∈ waiting w, identifier < w.nextIdentifier
  apart : ∀ identifier ∈ completed, identifier ∉ waiting w ∧ identifier < w.nextIdentifier
  finished : ∀ transaction ∈ w.unfinished,
    transaction.identifier ∉ completed ∧ transaction.identifier < w.nextIdentifier

theorem accounted_perform {w : World} {completed : List Nat} {o : Effect} (shrinks : Shrinks o)
    (accounted : Accounted w completed) : Accounted (perform w o) completed := by
  obtain ⟨once,queue,issued,apart,finished⟩ := accounted
  cases o with
  | dispatch block =>
    have same : waiting (perform w (.dispatch block)) = waiting w := by
      simp only [waiting,perform,List.filterMap_append]
      rw [show [block].filterMap Block.paid = [] by simp [show block.paid = none from shrinks],List.append_nil]
    exact ⟨once,same ▸ queue,same ▸ issued,same ▸ apart,finished⟩
  | dequeue =>
    have fewer : (waiting (perform w .dequeue)).Sublist (waiting w) :=
      (List.tail_sublist w.mainQueue).filterMap Block.paid
    exact ⟨once,queue.sublist fewer,fun identifier waits => issued identifier (fewer.subset waits),
      fun identifier done =>
        ⟨fun waits => (apart identifier done).1 (fewer.subset waits),(apart identifier done).2⟩,
      finished⟩
  | transaction transaction => exact shrinks.elim
  | finishTransaction transaction =>
    exact ⟨once,queue,issued,apart,fun other member => finished other (List.mem_filter.mp member).1⟩
  | restart =>
    exact ⟨once,List.nodup_nil,fun _ waits => absurd waits List.not_mem_nil,
      fun identifier done => ⟨List.not_mem_nil,(apart identifier done).2⟩,finished⟩
  | _ => exact ⟨once,queue,issued,apart,finished⟩

theorem accounted_performs {w : World} {completed : List Nat} {effects : List Effect}
    (shrinks : ∀ o ∈ effects, Shrinks o) (accounted : Accounted w completed) :
    Accounted (effects.foldl perform w) completed :=
  foldl_keeps (I := fun w => Accounted w completed) (fun o member _ => accounted_perform (shrinks o member)) accounted

theorem accounted_transaction {w : World} {completed : List Nat} {transaction : SKPaymentTransaction}
    (fresh : transaction.identifier ∉ completed) (accounted : Accounted w completed) :
    Accounted (perform w (.transaction transaction)) completed := by
  obtain ⟨once,queue,issued,apart,finished⟩ := accounted
  have later {n : Nat} (below : n < w.nextIdentifier) : n < max w.nextIdentifier (transaction.identifier + 1) :=
    Nat.lt_of_lt_of_le below (Nat.le_max_left _ _)
  refine ⟨once,queue,fun identifier waits => later (issued identifier waits),
    fun identifier done => ⟨(apart identifier done).1,later (apart identifier done).2⟩,fun other member => ?_⟩
  rcases List.mem_append.mp member with before | added
  · obtain ⟨absent,below⟩ := finished other (List.mem_filter.mp before).1
    exact ⟨absent,later below⟩
  · cases List.mem_singleton.mp added
    exact ⟨fresh,Nat.le_max_right _ _⟩

theorem accounted_dispatch {w : World} {completed : List Nat} {block : Block} {identifier : Nat}
    (paid : block.paid = some identifier) (absent : identifier ∉ waiting w) (fresh : identifier ∉ completed)
    (below : identifier < w.nextIdentifier) (accounted : Accounted w completed) :
    Accounted (perform w (.dispatch block)) completed := by
  obtain ⟨once,queue,issued,apart,finished⟩ := accounted
  have more : waiting (perform w (.dispatch block)) = waiting w ++ [identifier] := by
    simp only [waiting,perform,List.filterMap_append,List.filterMap_cons_some paid,List.filterMap_nil]
  have cases' {other : Nat} (waits : other ∈ waiting (perform w (.dispatch block))) :
      other ∈ waiting w ∨ other = identifier := by
    simpa [more] using waits
  refine ⟨once,?_,fun other waits => ?_,fun other done => ⟨fun waits => ?_,(apart other done).2⟩,finished⟩
  · rw [more,List.nodup_append]
    refine ⟨queue,by simp,fun other waits new added same => absent ?_⟩
    cases List.mem_singleton.mp added
    exact same ▸ waits
  · rcases cases' waits with before | rfl
    · exact issued other before
    · exact below
  · rcases cases' waits with before | rfl
    · exact (apart other done).1 before
    · exact fresh done

/-- The block leaves the queue and its transaction is finished before it is completed. -/
theorem accounted_completed {w : World} {completed : List Nat} {index : Nat} {tran : SKPaymentTransaction}
    (head : w.mainQueue.head? = some (.updatedTransactions index [tran]))
    (purchased : tran.transactionState = .purchased) (accounted : Accounted w completed) :
    Accounted (perform (perform w .dequeue) (.finishTransaction tran)) (tran.identifier :: completed) := by
  obtain ⟨once,queue,issued,apart,finished⟩ := accounted
  obtain ⟨rest,queued⟩ := List.head?_eq_some_iff.mp head
  have first : waiting w = tran.identifier :: rest.filterMap Block.paid := by
    have paid : Block.paid (.updatedTransactions index [tran]) = some tran.identifier := if_pos purchased
    rw [waiting,queued,List.filterMap_cons_some paid]
  have left : waiting (perform (perform w .dequeue) (.finishTransaction tran)) = rest.filterMap Block.paid := by
    simp [waiting,perform,queued]
  rw [first] at queue issued
  obtain ⟨absent,queue⟩ := List.nodup_cons.mp queue
  obtain ⟨below,issued⟩ := List.forall_mem_cons.mp issued
  have fresh : tran.identifier ∉ completed := fun done => (apart _ done).1 (first ▸ List.mem_cons_self)
  refine ⟨List.nodup_cons.mpr ⟨fresh,once⟩,left ▸ queue,left ▸ issued,?_,fun other member => ?_⟩
  · refine List.forall_mem_cons.mpr ⟨⟨left ▸ absent,below⟩,fun identifier done => ?_⟩
    refine ⟨fun waits => ?_,(apart identifier done).2⟩
    exact (apart identifier done).1 (first ▸ List.mem_cons_of_mem _ (left ▸ waits))
  · obtain ⟨member,other'⟩ := List.mem_filter.mp member
    obtain ⟨absent',below'⟩ := finished other member
    refine ⟨fun done => ?_,below'⟩
    rcases List.mem_cons.mp done with same | before
    · simp [same] at other'
    · exact absent' before

theorem accounted_beginTransaction {w : World} {completed : List Nat} (payment : Nat)
    (accounted : Accounted w completed) : Accounted (turned ccSha256 w (.beginTransaction payment)) completed := by
  simp only [turned,turn]
  split
  · exact accounted
  · next paid found =>
    have taken := accounted_perform (o := .takePayment payment) trivial accounted
    exact accounted_transaction (fun done => absurd (taken.apart _ done).2 (Nat.lt_irrefl _)) taken

theorem accounted_changeState {w : World} {completed : List Nat} (identifier : Nat) (state : TransactionState)
    (accounted : Accounted w completed) :
    Accounted (turned ccSha256 w (.changeState identifier state)) completed := by
  simp only [turned,turn]
  split
  · exact accounted
  · next transaction found =>
    exact accounted_transaction (accounted.finished transaction (List.mem_of_find?_eq_some found)).1 accounted

theorem paid_mem {index : Nat} {transactions : List SKPaymentTransaction} {identifier : Nat}
    (paid : Block.paid (.updatedTransactions index transactions) = some identifier) :
    ∃ tran, transactions = [tran] ∧ tran.transactionState = .purchased ∧ tran.identifier = identifier := by
  unfold Block.paid at paid
  split at paid
  · next index' tran delivered =>
    cases delivered
    obtain ⟨purchased,same⟩ := Option.ite_none_right_eq_some.mp paid
    exact ⟨tran,rfl,purchased,Option.some.inj same⟩
  · cases paid

theorem accounted_updatedTransactions {w : World} {completed : List Nat} (index : Nat) (identifiers : List Nat)
    (delivers : DeliversOnce w (.updatedTransactions index identifiers)) (accounted : Accounted w completed) :
    Accounted (turned ccSha256 w (.updatedTransactions index identifiers)) completed := by
  simp only [turned,turn,onPage]
  split
  · exact accounted
  · next page found =>
    split
    swap
    · exact accounted
    next due =>
    cases paid : Block.paid (.updatedTransactions index
      (w.unfinished.filter (fun transaction => transaction.identifier ∈ identifiers))) with
    | none => exact accounted_perform (o := .dispatch _) paid accounted
    | some identifier =>
      obtain ⟨tran,delivered,-,rfl⟩ := paid_mem paid
      have absent := delivers page found due.1 tran.identifier paid
      have listed : tran ∈ w.unfinished := (List.mem_filter.mp (delivered ▸ List.mem_singleton_self tran)).1
      obtain ⟨fresh,below⟩ := accounted.finished tran listed
      exact accounted_dispatch paid absent fresh below accounted

theorem accounted_mainQueue {w : World} {x : Seen} (environment : Environment) (accounted : Accounted w x.completed) :
    Accounted (turned ccSha256 w (.mainQueue environment)) (see ccSha256 x w (.mainQueue environment)).completed := by
  have shrinks : ∀ o ∈ turn ccSha256 w (.mainQueue environment), Shrinks o := shrinks_turn ccSha256 id
  have completed : (see ccSha256 x w (.mainQueue environment)).completed =
      (w.mainQueue.head?.bind Block.paid).toList ++ x.completed := rfl
  rw [completed]
  cases paid : w.mainQueue.head?.bind Block.paid with
  | none => exact accounted_performs shrinks accounted
  | some identifier =>
    obtain ⟨block,head,paid⟩ := Option.bind_eq_some_iff.mp paid
    cases block with
    | updatedTransactions index transactions =>
      obtain ⟨tran,rfl,purchased,rfl⟩ := paid_mem paid
      have handles : w.Handles environment index tran (.mainQueue environment) := ⟨rfl,head,purchased⟩
      rw [turned,handles_turn ccSha256 handles]
      rw [handles_turn ccSha256 handles] at shrinks
      have later := (List.forall_mem_cons.mp (List.forall_mem_cons.mp shrinks).2).2
      rw [List.foldl_cons,List.foldl_cons]
      exact accounted_performs later (accounted_completed head purchased accounted)
    | _ => cases paid

theorem accounted_step {w : World} {x : Seen} {event : RechargeEvent} (delivers : DeliversOnce w event)
    (accounted : Accounted w x.completed) :
    Accounted (turned ccSha256 w event) (see ccSha256 x w event).completed := by
  cases event with
  | beginTransaction payment => exact accounted_beginTransaction ccSha256 payment accounted
  | changeState identifier state => exact accounted_changeState ccSha256 identifier state accounted
  | updatedTransactions index identifiers =>
    exact accounted_updatedTransactions ccSha256 index identifiers delivers accounted
  | mainQueue environment => exact accounted_mainQueue ccSha256 environment accounted
  | _ => exact accounted_performs (shrinks_turn ccSha256 id) accounted

/-- Where StoreKit delivers no transaction that still waits, a page is registered alone and every paid
transaction is completed once, exactly as long as the steps register so. -/
theorem payments_handled_once (item : Option KeychainItemData) (group : UserDefaults) (events : List RechargeEvent)
    (delivers : (recharge ccSha256).Along DeliversOnce (installed item group) events) :
    (seen ccSha256).Along Registers (installed item group,⟨[],[]⟩) events ↔
      (seen ccSha256).Visits (fun state => Single state ∧ state.2.completed.Nodup)
        (installed item group,⟨[],[]⟩) events := by
  let I : World × Seen → Prop := fun state => Bounded state ∧ Single state ∧ Accounted state.1 state.2.completed
  have start : I (installed item group,⟨[],[]⟩) := by
    refine ⟨fun _ left => absurd left List.not_mem_nil,installed_single item group,?_⟩
    constructor <;> simp [waiting,installed]
  have keeps : (seen ccSha256).Keeps I (fun state event => Registers state event ∧ DeliversOnce state.1 event) := by
    rintro ⟨w,x⟩ event next ⟨bounded,single,accounted⟩ ⟨registers,delivers⟩ stepped
    cases seen_step ccSha256 stepped
    obtain ⟨bounded',single'⟩ := registers_step ccSha256 event bounded
    exact ⟨bounded',(single' single).mp registers,accounted_step ccSha256 delivers accounted⟩
  constructor
  · intro alone
    have along := along_and.mpr ⟨alone,along_attend.mpr delivers⟩
    exact Visits.imp (fun _ kept => ⟨kept.2.1,kept.2.2.once⟩) (Along.visits keeps start along)
  · intro handled
    exact (registers_iff ccSha256 item group events).mpr (Visits.imp (fun _ kept => kept.1) handled)

instance : DecidablePred Single := fun state =>
  decidable_of_iff
    ((registered state.1).count true ≤ 1 ∧ ∀ index ∈ state.2.gone,(registered state.1)[index]? ≠ some true)
    ⟨fun ⟨one,gone⟩ => ⟨one,gone⟩,fun single => ⟨single.one,single.gone⟩⟩

instance (state : World × Seen) : (event : RechargeEvent) → Decidable (Registers state event)
  | .viewDidLoad => inferInstanceAs (Decidable (_ = 0 → _ ∉ _))
  | .rechargeTimer index => inferInstanceAs (Decidable (∀ page ∈ state.1.pages[index]?,_ → _ → _ ∧ _))
  | .viewDidDisappear _ | .tapPlan _ _ _ | .productsResponse _ _ | .beginTransaction _ | .changeState _ _
  | .updatedTransactions _ _ | .mainQueue _ | .authAnswer _ _ | .mainRequestRechargeInterface _ | .getBalance _
  | .getPrivateKey | .savePrivateKey _ | .libResetPrivateKey _ _ | .resetPrivateKey _ _ | .restart => isTrue trivial

instance (w : World) : (event : RechargeEvent) → Decidable (DeliversOnce w event)
  | .updatedTransactions index _ => inferInstanceAs (Decidable (∀ page ∈ w.pages[index]?,_ → ∀ _ ∈ _,_))
  | .viewDidLoad | .viewDidDisappear _ | .tapPlan _ _ _ | .productsResponse _ _ | .beginTransaction _
  | .changeState _ _ | .rechargeTimer _ | .mainQueue _ | .authAnswer _ _ | .mainRequestRechargeInterface _
  | .getBalance _ | .getPrivateKey | .savePrivateKey _ | .libResetPrivateKey _ _ | .resetPrivateKey _ _
  | .restart => isTrue trivial

/-- A purchase on one page, which disappears and is followed by another. -/
def reopened : List RechargeEvent :=
  .viewDidLoad :: purchase 0 .month 0 (answering .json firstReceipt) ++ [.viewDidDisappear 0,.viewDidLoad]

theorem reopened_handled_once :
    (seen receiptSha256).Visits (fun state => Single state ∧ state.2.completed.Nodup)
      (installed none .empty,⟨[],[]⟩) reopened := by
  have delivers : (recharge receiptSha256).Along DeliversOnce (installed none .empty) reopened := by decide +kernel
  exact (payments_handled_once receiptSha256 none .empty reopened delivers).mp (by decide +kernel)

/-- The second page finds the stored receipt and waits for its timer; it disappears, the receipt is
cleared by a `GetBalance`, and the timer registers the page. -/
def retriedOffPage : List RechargeEvent :=
  reopened ++ [.viewDidDisappear 1,.getBalance ⟨0,(sha256HashForText receiptSha256 firstReceipt).text⟩,
    .rechargeTimer 1]

/-- A third page loads and StoreKit delivers its payment to both observers. -/
def deliveredTwice : List RechargeEvent :=
  retriedOffPage ++ .viewDidLoad :: (purchase 2 .month 1 (answering .json secondReceipt)).take 5 ++
    [.updatedTransactions 1 [1],.updatedTransactions 2 [1],.mainQueue (answering .json secondReceipt),
      .mainQueue (answering .json secondReceipt)]

theorem retried_off_page :
    ¬(seen receiptSha256).Visits Single (installed none .empty,⟨[],[]⟩) retriedOffPage ∧
    ¬(seen receiptSha256).Visits (fun state => state.2.completed.Nodup)
      (installed none .empty,⟨[],[]⟩) deliveredTwice := by
  decide +kernel

end World
end TenonVpn
