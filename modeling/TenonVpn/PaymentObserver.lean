import TenonVpn.RechargeTurn
import TenonVpn.StreamCipher

/-! Which recharge pages are observers of the payment queue. A page registers when it loads
without a stored receipt, or at the end of its retry timer, which outlives the page; it is
removed when it disappears. -/
namespace TenonVpn

def Effect.restarts : Effect → Bool
  | .restart => true
  | _ => false

/-- The one purchased transaction for which the block calls `completeTransaction`. -/
def Block.paid : Block → Option Nat
  | .updatedTransactions _ [tran] => if tran.transactionState = .purchased then some tran.identifier else none
  | _ => none

/-- The pages that have disappeared in this process, and the transactions that have been completed. -/
structure Seen where
  gone : List Nat
  completed : List Nat

namespace World
open TenonP2pLib Machine
variable (ccSha256 : Text → Fin 32 → Fin 256)

def registered (w : World) : List Bool := w.pages.map Page.observing

def waiting (w : World) : List Nat := w.mainQueue.filterMap Block.paid

def see (x : Seen) (w : World) (event : RechargeEvent) : Seen where
  gone :=
    if (turn ccSha256 w event).any Effect.restarts then []
    else match event with
      | .viewDidDisappear index => if index < w.pages.length then index :: x.gone else x.gone
      | _ => x.gone
  completed := match event with
    | .mainQueue _ => (w.mainQueue.head?.bind Block.paid).toList ++ x.completed
    | _ => x.completed

def seen : Machine (World × Seen) RechargeEvent (World × Effect) := (recharge ccSha256).attend (see ccSha256)

/-- At most one page is registered, and none that has disappeared. -/
structure Single (state : World × Seen) : Prop where
  one : (registered state.1).count true ≤ 1
  gone : ∀ index ∈ state.2.gone, (registered state.1)[index]? ≠ some true

/-- The step registers no page while another one is registered, and no page that has disappeared. -/
def Registers (state : World × Seen) : RechargeEvent → Prop
  | .viewDidLoad => state.1.app.keychain.getKeyChainReceipt.length = 0 → true ∉ registered state.1
  | .rechargeTimer index => ∀ page ∈ state.1.pages[index]?, page.rechargeTimer = true →
    state.1.app.keychain.getKeyChainReceipt.length = 0 →
    index ∉ state.2.gone ∧ true ∉ (registered state.1).set index false
  | _ => True

/-- The flags that an effect leaves. -/
def registers (flags : List Bool) : Effect → List Bool
  | .addPage page => flags ++ [page.observing]
  | .setPage index page => flags.set index page.observing
  | .restart => []
  | _ => flags

theorem registered_perform (w : World) (o : Effect) : registered (perform w o) = registers (registered w) o := by
  cases o with
  | addPage page => simp [registered,perform,registers]
  | setPage index page => simp [registered,perform,registers,List.map_set]
  | restart => simp [registered,perform,registers,restart]
  | _ => rfl

theorem registered_performs (w : World) (effects : List Effect) :
    registered (effects.foldl perform w) = effects.foldl registers (registered w) := by
  induction effects generalizing w with
  | nil => rfl
  | cons o rest ih => rw [List.foldl_cons,ih,registered_perform,List.foldl_cons]

/-- The effect registers and removes no page. -/
def Unregistering (flags : List Bool) : Effect → Prop
  | .addPage _ => False
  | .setPage index page => flags[index]? = some page.observing
  | _ => True

/-- The effect queues no delivery of a paid transaction and adds or changes none. -/
def Shrinks : Effect → Prop
  | .dispatch block => block.paid = none
  | .transaction _ => False
  | _ => True

def Ordinary (flags : List Bool) (o : Effect) : Prop := Unregistering flags o ∧ Shrinks o

theorem registers_nil {effects : List Effect} (each : ∀ o ∈ effects, ∀ page, o ≠ .addPage page) :
    effects.foldl registers [] = [] := by
  induction effects with
  | nil => rfl
  | cons o rest ih =>
    have same : registers [] o = [] := by
      cases o with
      | addPage page => exact absurd rfl (each _ List.mem_cons_self page)
      | setPage index page => exact @List.set_nil Bool index page.observing
      | _ => rfl
    rw [List.foldl_cons,same]
    exact ih (fun later member => each later (List.mem_cons_of_mem _ member))

theorem registers_unregistering {flags : List Bool} {effects : List Effect}
    (each : ∀ o ∈ effects, Unregistering flags o) :
    effects.foldl registers flags = if effects.any Effect.restarts then [] else flags := by
  induction effects with
  | nil => rfl
  | cons o rest ih =>
    obtain ⟨first,later⟩ := List.forall_mem_cons.mp each
    rw [List.foldl_cons,List.any_cons]
    cases o with
    | addPage page => exact first.elim
    | setPage index page =>
      have same : registers flags (.setPage index page) = flags := by
        obtain ⟨bound,found⟩ := List.getElem?_eq_some_iff.mp first
        rw [registers,← found]
        exact List.set_getElem_self bound
      rw [same,ih later]
      rfl
    | restart =>
      refine (registers_nil fun o member page added => ?_).trans (if_pos rfl).symm
      subst added
      exact later _ member
    | _ => exact ih later

theorem unregistering_setPage {w : World} {index : Nat} {before page : Page} (found : w.pages[index]? = some before)
    (same : page.observing = before.observing) : Unregistering (registered w) (.setPage index page) := by
  simp [Unregistering,registered,found,same]

theorem ordinary_getBalanceTurn {flags : List Bool} {manager : KeychainManager} {ledger : Ledger}
    {rest : Nat → List Effect} (each : ∀ balance, ∀ o ∈ rest balance, Ordinary flags o) :
    ∀ o ∈ getBalanceTurn manager ledger rest, Ordinary flags o := by
  intro o member
  rcases mem_getBalanceTurn member with ⟨op,rfl⟩ | rfl | rfl | ⟨balance,-,after⟩
  · exact ⟨trivial,trivial⟩
  · exact ⟨trivial,trivial⟩
  · exact ⟨trivial,trivial⟩
  · exact each balance o after

theorem ordinary_completeTransaction {w : World} {index : Nat} {page : Page}
    (found : w.pages[index]? = some page) (transaction : SKPaymentTransaction) (environment : Environment) :
    ∀ o ∈ RechargeViewController.completeTransaction ccSha256 w index page transaction environment,
      Ordinary (registered w) o := by
  refine List.forall_mem_cons.mpr ⟨⟨unregistering_setPage found rfl,trivial⟩,?_⟩
  split
  · exact List.forall_mem_singleton.mpr ⟨trivial,rfl⟩
  · exact List.forall_mem_singleton.mpr ⟨trivial,trivial⟩
  · refine ordinary_getBalanceTurn fun balance => ?_
    split
    · exact List.forall_mem_singleton.mpr ⟨trivial,trivial⟩
    · refine List.forall_mem_append.mpr ⟨List.forall_mem_cons.mpr ⟨⟨trivial,trivial⟩,fun o member => ?_⟩,
        by simp [Ordinary,Unregistering,Shrinks]⟩
      obtain ⟨op,-,rfl⟩ := List.mem_map.mp member
      exact ⟨trivial,trivial⟩

theorem ordinary_runBlock (w : World) (environment : Environment) (block : Block) :
    ∀ o ∈ RechargeViewController.runBlock ccSha256 w environment block, Ordinary (registered w) o := by
  cases block with
  | orderToApplePay index =>
    simp only [RechargeViewController.runBlock]
    split
    · simp
    · split <;> simp [Ordinary,Unregistering,Shrinks]
  | updatedTransactions index transactions =>
    simp only [RechargeViewController.runBlock,RechargeViewController.updatedTransactions]
    split
    · next tran =>
      split
      · refine List.forall_mem_cons.mpr ⟨⟨trivial,trivial⟩,?_⟩
        split
        · simp
        · next page found => exact ordinary_completeTransaction ccSha256 found tran environment
      all_goals simp [Ordinary,Unregistering,Shrinks]
    · simp
  | finishTransaction transaction => exact List.forall_mem_singleton.mpr ⟨trivial,trivial⟩
  | scheduleRechargeTimer index =>
    simp only [RechargeViewController.runBlock]
    split
    · simp
    · next page found => exact List.forall_mem_singleton.mpr ⟨unregistering_setPage found rfl,trivial⟩

/-- The step registers the page of the timer. -/
def TimerRegisters (w : World) (index : Nat) (page : Page) : Prop :=
  w.pages[index]? = some page ∧ page.rechargeTimer = true ∧ w.app.keychain.getKeyChainReceipt.length = 0

/-- StoreKit adds, changes or delivers transactions. -/
def FromStore : RechargeEvent → Prop
  | .beginTransaction _ | .changeState _ _ | .updatedTransactions _ _ => True
  | _ => False

theorem ordinary_turn {w : World} {event : RechargeEvent} (loads : event ≠ .viewDidLoad)
    (leaves : ∀ index, event ≠ .viewDidDisappear index)
    (timer : ∀ index page, event = .rechargeTimer index → ¬w.TimerRegisters index page)
    (store : ¬FromStore event) :
    ∀ o ∈ turn ccSha256 w event, Ordinary (registered w) o := by
  cases event with
  | viewDidLoad => exact absurd rfl loads
  | viewDidDisappear index => exact absurd rfl (leaves index)
  | beginTransaction payment => exact absurd trivial store
  | changeState identifier state => exact absurd trivial store
  | updatedTransactions index identifiers => exact absurd trivial store
  | tapPlan index plan timestamp =>
    refine forall_onPage (fun page found => ?_)
    refine List.forall_mem_cons.mpr ⟨⟨unregistering_setPage found rfl,trivial⟩,?_⟩
    split <;> simp [Ordinary,Unregistering,Shrinks,Block.paid]
  | productsResponse request products =>
    simp only [turn]
    split
    · simp
    · refine List.forall_mem_cons.mpr ⟨⟨trivial,trivial⟩,forall_onPage (fun page _ => ?_)⟩
      unfold RechargeViewController.productsResponse
      split
      · split <;> simp [Ordinary,Unregistering,Shrinks]
      · simp
  | mainQueue environment =>
    simp only [turn]
    split
    · simp
    · next block rest queued =>
      exact List.forall_mem_cons.mpr ⟨⟨trivial,trivial⟩,ordinary_runBlock ccSha256 w environment block⟩
  | authAnswer post status =>
    simp only [turn]
    split
    · simp
    · next answered found =>
      refine List.forall_mem_cons.mpr ⟨⟨trivial,trivial⟩,?_⟩
      cases answered <;> simp [RechargeViewController.authAnswer,Ordinary,Unregistering,Shrinks,Block.paid]
  | rechargeTimer index =>
    refine forall_onPage (fun page found => ?_)
    split
    · next fires =>
      have stored : w.app.keychain.getKeyChainReceipt.length ≠ 0 :=
        fun empty => timer index page rfl ⟨found,fires,empty⟩
      refine List.forall_mem_cons.mpr ⟨⟨unregistering_setPage found rfl,trivial⟩,?_⟩
      rw [RechargeViewController.requestRechargeInterface,if_neg stored]
      exact List.forall_mem_singleton.mpr ⟨trivial,trivial⟩
    · simp
  | mainRequestRechargeInterface ledger =>
    simp only [turn,MainViewController.requestRechargeInterface]
    split
    · exact ordinary_getBalanceTurn (fun _ => List.forall_mem_singleton.mpr ⟨trivial,trivial⟩)
    · simp
  | getBalance ledger => exact ordinary_getBalanceTurn (fun _ => by simp)
  | getPrivateKey =>
    refine List.forall_mem_cons.mpr ⟨⟨trivial,trivial⟩,?_⟩
    split <;> simp [Ordinary,Unregistering,Shrinks]
  | savePrivateKey prikey =>
    refine List.forall_mem_cons.mpr ⟨⟨trivial,trivial⟩,?_⟩
    split <;> simp [Ordinary,Unregistering,Shrinks]
  | libResetPrivateKey reset prikey =>
    refine List.forall_mem_cons.mpr ⟨⟨trivial,trivial⟩,?_⟩
    split <;> simp [Ordinary,Unregistering,Shrinks]
  | resetPrivateKey reset ss =>
    refine List.forall_mem_cons.mpr ⟨⟨trivial,trivial⟩,?_⟩
    split <;> simp [Ordinary,Unregistering,Shrinks]
  | restart => exact List.forall_mem_singleton.mpr ⟨trivial,trivial⟩

theorem unregistering_fromStore {w : World} {event : RechargeEvent} (store : FromStore event) :
    ∀ o ∈ turn ccSha256 w event, Unregistering (registered w) o := by
  cases event with
  | beginTransaction payment =>
    simp only [turn]
    split <;> simp [Unregistering]
  | changeState identifier state =>
    simp only [turn]
    split <;> simp [Unregistering]
  | updatedTransactions index identifiers =>
    refine forall_onPage (fun page _ => ?_)
    simp only
    split <;> simp [Unregistering]
  | _ => exact store.elim

theorem unregistering_turn {w : World} {event : RechargeEvent} (loads : event ≠ .viewDidLoad)
    (leaves : ∀ index, event ≠ .viewDidDisappear index)
    (timer : ∀ index page, event = .rechargeTimer index → ¬w.TimerRegisters index page) :
    ∀ o ∈ turn ccSha256 w event, Unregistering (registered w) o := by
  by_cases store : FromStore event
  · exact unregistering_fromStore ccSha256 store
  · exact fun o member => (ordinary_turn ccSha256 loads leaves timer store o member).1

theorem shrinks_turn {w : World} {event : RechargeEvent} (store : ¬FromStore event) :
    ∀ o ∈ turn ccSha256 w event, Shrinks o := by
  by_cases loads : event = .viewDidLoad
  · subst loads
    exact List.forall_mem_singleton.mpr trivial
  by_cases leaves : ∃ index, event = .viewDidDisappear index
  · obtain ⟨index,rfl⟩ := leaves
    exact forall_onPage (fun page _ => List.forall_mem_singleton.mpr trivial)
  by_cases timer : ∃ index page, event = .rechargeTimer index ∧ w.TimerRegisters index page
  · obtain ⟨index,page,rfl,-⟩ := timer
    refine forall_onPage (fun page _ => ?_)
    unfold RechargeViewController.requestRechargeInterface
    split
    · refine List.forall_mem_cons.mpr ⟨trivial,?_⟩
      split <;> exact List.forall_mem_singleton.mpr trivial
    · simp
  intro o member
  refine (ordinary_turn ccSha256 loads (fun index left => leaves ⟨index,left⟩) ?_ store o member).2
  exact fun index page fires registers => timer ⟨index,page,fires,registers⟩

/-- The world after the turn of an event. -/
def turned (w : World) (event : RechargeEvent) : World := (turn ccSha256 w event).foldl perform w

theorem registered_viewDidLoad (w : World) : registered (turned ccSha256 w .viewDidLoad) =
    registered w ++ [decide (w.app.keychain.getKeyChainReceipt.length = 0)] := registered_performs w _

theorem registered_viewDidDisappear (w : World) (index : Nat) :
    registered (turned ccSha256 w (.viewDidDisappear index)) = (registered w).set index false := by
  rw [turned,registered_performs,turn,onPage]
  cases found : w.pages[index]? with
  | none =>
    have outside : (registered w).length ≤ index := by simpa [registered] using found
    exact (List.set_eq_of_length_le outside).symm
  | some page => rfl

theorem registered_rechargeTimer {w : World} {index : Nat} {page : Page} (registers : w.TimerRegisters index page) :
    registered (turned ccSha256 w (.rechargeTimer index)) = (registered w).set index true := by
  obtain ⟨found,fires,empty⟩ := registers
  rw [turned,registered_performs,turn,onPage]
  simp [found,fires,RechargeViewController.requestRechargeInterface,empty,World.registers]

theorem registered_unregistering {w : World} {event : RechargeEvent}
    (each : ∀ o ∈ turn ccSha256 w event, Unregistering (registered w) o) :
    registered (turned ccSha256 w event) =
      if (turn ccSha256 w event).any Effect.restarts then [] else registered w := by
  rw [turned,registered_performs]
  exact registers_unregistering each

def Bounded (state : World × Seen) : Prop := ∀ index ∈ state.2.gone, index < (registered state.1).length

theorem see_gone (w : World) (x : Seen) {event : RechargeEvent}
    (leaves : ∀ index, event ≠ .viewDidDisappear index) :
    (see ccSha256 x w event).gone = if (turn ccSha256 w event).any Effect.restarts then [] else x.gone := by
  cases event with
  | viewDidDisappear index => exact absurd rfl (leaves index)
  | _ => rfl

theorem registers_other {w : World} {x : Seen} {event : RechargeEvent}
    (leaves : ∀ index, event ≠ .viewDidDisappear index)
    (each : ∀ o ∈ turn ccSha256 w event, Unregistering (registered w) o) :
    (Bounded (w,x) → Bounded (turned ccSha256 w event,see ccSha256 x w event)) ∧
      (Single (w,x) → Single (turned ccSha256 w event,see ccSha256 x w event)) := by
  have flags := registered_unregistering ccSha256 each
  have gone := see_gone ccSha256 w x leaves
  by_cases restarts : (turn ccSha256 w event).any Effect.restarts = true
  · rw [if_pos restarts] at flags gone
    exact ⟨fun _ => by simp [Bounded,gone],fun _ => ⟨by simp [flags],by simp [gone]⟩⟩
  · rw [if_neg restarts] at flags gone
    refine ⟨fun bounded => ?_,fun single => ⟨?_,?_⟩⟩
    · simpa only [Bounded,flags,gone] using bounded
    · simpa only [flags] using single.one
    · simpa only [flags,gone] using single.gone

theorem count_set_true {flags : List Bool} {index : Nat} (bound : index < flags.length) :
    (flags.set index true).count true = (flags.set index false).count true + 1 := by
  simp [List.count_set bound]

theorem registers_viewDidLoad {w : World} {x : Seen} (bounded : Bounded (w,x)) :
    Bounded (turned ccSha256 w .viewDidLoad,see ccSha256 x w .viewDidLoad) ∧ (Single (w,x) →
      (Registers (w,x) .viewDidLoad ↔ Single (turned ccSha256 w .viewDidLoad,see ccSha256 x w .viewDidLoad))) := by
  have flags := registered_viewDidLoad ccSha256 w
  have gone : (see ccSha256 x w .viewDidLoad).gone = x.gone := rfl
  refine ⟨fun index left => ?_,fun single => ?_⟩
  · rw [flags,List.length_append]
    exact Nat.lt_add_right _ (bounded index left)
  have apart : ∀ index ∈ x.gone,
      (registered w ++ [decide (w.app.keychain.getKeyChainReceipt.length = 0)])[index]? ≠ some true := by
    intro index left
    rw [List.getElem?_append_left (bounded index left)]
    exact single.gone index left
  by_cases empty : w.app.keychain.getKeyChainReceipt.length = 0
  · have counted : (registered (turned ccSha256 w .viewDidLoad)).count true = (registered w).count true + 1 := by
      simp [flags,empty]
    refine ⟨fun alone => ⟨?_,fun index left => flags ▸ apart index (gone ▸ left)⟩,fun next _ => ?_⟩
    · rw [counted,List.count_eq_zero_of_not_mem (alone empty)]
    · have one := next.one
      rw [counted] at one
      have none : (registered w).count true = 0 := by omega
      exact List.count_eq_zero.mp none
  · refine ⟨fun _ => ⟨?_,fun index left => flags ▸ apart index (gone ▸ left)⟩,
      fun _ empty' => absurd empty' empty⟩
    have counted : (registered (turned ccSha256 w .viewDidLoad)).count true = (registered w).count true := by
      simp [flags,empty]
    rw [counted]
    exact single.one

theorem registers_viewDidDisappear {w : World} {x : Seen} (index : Nat) (bounded : Bounded (w,x)) :
    Bounded (turned ccSha256 w (.viewDidDisappear index),see ccSha256 x w (.viewDidDisappear index)) ∧
      (Single (w,x) →
        Single (turned ccSha256 w (.viewDidDisappear index),see ccSha256 x w (.viewDidDisappear index))) := by
  have flags := registered_viewDidDisappear ccSha256 w index
  have gone {other : Nat} (left : other ∈ (see ccSha256 x w (.viewDidDisappear index)).gone) :
      other = index ∧ index < (registered w).length ∨ other ∈ x.gone := by
    have stays : (turn ccSha256 w (.viewDidDisappear index)).any Effect.restarts = false := by
      simp only [turn,onPage]
      cases w.pages[index]? <;> rfl
    simp only [see,stays,Bool.false_eq_true,if_false] at left
    split at left
    · next inside =>
      rcases List.mem_cons.mp left with same | before
      · exact Or.inl ⟨same,by simpa [registered] using inside⟩
      · exact Or.inr before
    · exact Or.inr left
  refine ⟨fun other left => ?_,fun single => ⟨?_,fun other left => ?_⟩⟩
  · rw [flags,List.length_set]
    rcases gone left with ⟨rfl,bound⟩ | before
    · exact bound
    · exact bounded other before
  · rw [flags]
    by_cases bound : index < (registered w).length
    · have most := single.one
      rw [List.count_set bound]
      simp only [beq_iff_eq,Bool.false_eq_true,if_false,Nat.add_zero]
      exact Nat.le_trans (Nat.sub_le _ _) most
    · rw [List.set_eq_of_length_le (Nat.not_lt.mp bound)]
      exact single.one
  · rw [flags,List.getElem?_set]
    by_cases same : index = other
    · simp [same]
    · rw [if_neg same]
      rcases gone left with ⟨rfl,-⟩ | before
      · exact absurd rfl same
      · exact single.gone other before

theorem registers_rechargeTimer {w : World} {x : Seen} {index : Nat} {page : Page}
    (timer : w.TimerRegisters index page) (bounded : Bounded (w,x)) :
    Bounded (turned ccSha256 w (.rechargeTimer index),see ccSha256 x w (.rechargeTimer index)) ∧ (Single (w,x) →
      (Registers (w,x) (.rechargeTimer index) ↔
        Single (turned ccSha256 w (.rechargeTimer index),see ccSha256 x w (.rechargeTimer index)))) := by
  have flags := registered_rechargeTimer ccSha256 timer
  have gone : (see ccSha256 x w (.rechargeTimer index)).gone = x.gone := by
    obtain ⟨found,fires,empty⟩ := timer
    simp [see,turn,onPage,found,fires,RechargeViewController.requestRechargeInterface,empty,Effect.restarts]
  have bound : index < (registered w).length := by
    obtain ⟨inside,-⟩ := List.getElem?_eq_some_iff.mp timer.1
    simpa [registered] using inside
  refine ⟨fun other left => ?_,fun single => ?_⟩
  · rw [flags,List.length_set]
    exact bounded other (gone ▸ left)
  have registers : Registers (w,x) (.rechargeTimer index) ↔
      index ∉ x.gone ∧ true ∉ (registered w).set index false := by
    obtain ⟨found,fires,empty⟩ := timer
    simp only [Registers,found,Option.mem_def,Option.some.injEq,forall_eq',fires,empty,true_imp_iff]
  have counted := count_set_true bound
  rw [registers,← List.count_eq_zero (a := true)]
  constructor
  · rintro ⟨present,alone⟩
    refine ⟨by rw [flags,counted,alone],fun other left => ?_⟩
    rw [gone] at left
    have apart : index ≠ other := by
      rintro rfl
      exact present left
    rw [flags,List.getElem?_set_ne apart]
    exact single.gone other left
  · intro next
    refine ⟨fun left => ?_,?_⟩
    · refine next.gone index (gone ▸ left) ?_
      rw [flags]
      exact List.getElem?_set_self bound
    · have one := next.one
      rw [flags,counted] at one
      omega

/-- What a step does to the registrations; `Registers` is exactly what keeps them single. -/
theorem registers_step {w : World} {x : Seen} (event : RechargeEvent) (bounded : Bounded (w,x)) :
    Bounded (turned ccSha256 w event,see ccSha256 x w event) ∧ (Single (w,x) →
      (Registers (w,x) event ↔ Single (turned ccSha256 w event,see ccSha256 x w event))) := by
  by_cases loads : event = .viewDidLoad
  · subst loads
    exact registers_viewDidLoad ccSha256 bounded
  by_cases leaves : ∃ index, event = .viewDidDisappear index
  · obtain ⟨index,rfl⟩ := leaves
    obtain ⟨bounded',single'⟩ := registers_viewDidDisappear ccSha256 index bounded
    exact ⟨bounded',fun single => ⟨fun _ => single' single,fun _ => trivial⟩⟩
  by_cases timer : ∃ index page, event = .rechargeTimer index ∧ w.TimerRegisters index page
  · obtain ⟨index,page,rfl,timer⟩ := timer
    exact registers_rechargeTimer ccSha256 timer bounded
  have silent : ∀ index page, event = .rechargeTimer index → ¬w.TimerRegisters index page :=
    fun index page fires registers => timer ⟨index,page,fires,registers⟩
  have remains : ∀ index, event ≠ .viewDidDisappear index := fun index left => leaves ⟨index,left⟩
  obtain ⟨bounded',single'⟩ := registers_other ccSha256 (x := x) remains
    (unregistering_turn ccSha256 loads remains silent)
  refine ⟨bounded' bounded,fun single => ⟨fun _ => single' single,fun _ => ?_⟩⟩
  cases event with
  | viewDidLoad => exact absurd rfl loads
  | rechargeTimer index =>
    exact fun page found fires empty => absurd ⟨found,fires,empty⟩ (silent index page rfl)
  | _ => trivial

theorem seen_step {w : World} {x : Seen} {event : RechargeEvent} {next : World × Seen}
    (stepped : ((seen ccSha256).step (w,x) event).2 = some next) :
    next = (turned ccSha256 w event,see ccSha256 x w event) := by
  cases stepped
  rfl

theorem installed_single (item : Option KeychainItemData) (group : UserDefaults) :
    Single (installed item group,⟨[],[]⟩) := ⟨Nat.zero_le _,fun _ left => absurd left List.not_mem_nil⟩

/-- At most one page is registered and none that has disappeared, exactly where every step registers so. -/
theorem registers_iff (item : Option KeychainItemData) (group : UserDefaults) (events : List RechargeEvent) :
    (seen ccSha256).Along Registers (installed item group,⟨[],[]⟩) events ↔
      (seen ccSha256).Visits Single (installed item group,⟨[],[]⟩) events := by
  have keeps : (seen ccSha256).Keeps Bounded (fun _ _ => True) := by
    rintro ⟨w,x⟩ event next bounded - stepped
    cases seen_step ccSha256 stepped
    exact (registers_step ccSha256 event bounded).1
  have start : Bounded (installed item group,⟨[],[]⟩) := fun _ left => absurd left List.not_mem_nil
  refine keeps.along_iff_visits ?_ ?_ start (installed_single item group) events
  · rintro ⟨w,x⟩ event next bounded single stepped
    cases seen_step ccSha256 stepped
    exact (registers_step ccSha256 event bounded).2 single
  · rintro ⟨w,x⟩ event - - ended
    cases ended

end World
end TenonVpn
