import TenonVpn.MainViewController
import TenonVpn.Rate

/-! How fast the free time is charged. `reloadBalance` charges a second whenever it runs
while `isLink` is NO, and the extension charges one at each tick. -/
namespace TenonVpn.FreeUse.MainViewController

def chargeRate : Rate Act where
  unit := 1000
  pulse := fun
    | .second => true
    | _ => false
  cost := fun
    | .charge amount => amount
    | _ => 0
  positive := by decide
  free := fun act pulsed => by cases act <;> first | rfl | cases pulsed

structure Charging (s : MainViewController) : Prop where
  ordinary : s.isVip = false
  unlinked : s.isLink = false
  enough : 1000 ≤ s.left

instance (s : MainViewController) : Decidable (Charging s) :=
  decidable_of_iff (s.isVip = false ∧ s.isLink = false ∧ 1000 ≤ s.left)
    ⟨fun ⟨ordinary,unlinked,enough⟩ => ⟨ordinary,unlinked,enough⟩,
      fun ⟨ordinary,unlinked,enough⟩ => ⟨ordinary,unlinked,enough⟩⟩

def isTick : MainEvent → Bool
  | .tick _ => true
  | _ => false

def Charges (s : MainViewController) (event : MainEvent) : Prop :=
  (∃ t ∈ s.reloads event, Charging t) ∨ isTick event = true ∧ s.tunnel = some true ∧ 1000 ≤ s.left

instance (s : MainViewController) (event : MainEvent) : Decidable (Charges s event) :=
  inferInstanceAs (Decidable (_ ∨ _))

/-- No second is charged twice: not by two timers, a timer and another reload, or the app
and the extension. -/
def OncePerSecond (state : MainViewController × Bool) (event : MainEvent) : Prop :=
  Charges state.1 event → state.2 = false

def Free (acts : List Act) : Prop := ∀ act ∈ acts, chargeRate.cost act = 0

theorem disconnectVpn_free (s : MainViewController) : Free (disconnectVpn s).1 := by
  unfold disconnectVpn Free
  split
  · simp
  · split <;> simp [doClickDisconnect,chargeRate]

theorem charge_acts {s : MainViewController} (ordinary : s.isVip = false) :
    (charge s).1 = if Charging s then [.charge 1000] else [] := by
  unfold charge
  split
  · next charges => rw [if_pos ⟨ordinary,charges.1,charges.2⟩]
  · next spared => rw [if_neg fun charging => spared ⟨charging.unlinked,charging.enough⟩]

theorem reloadBalance_acts (s : MainViewController) : ∃ rest,
    (reloadBalance s).1 = (if Charging s then [.charge 1000] else []) ++ rest ∧ Free rest := by
  unfold reloadBalance
  split
  · next vip =>
    have spared : ¬Charging s := fun charging => Bool.false_ne_true (charging.ordinary.symm.trans vip)
    rw [if_neg spared]
    exact ⟨[],rfl,by simp [Free]⟩
  · next ordinary =>
    have charged := charge_acts (Bool.eq_false_iff.mpr ordinary)
    dsimp only
    split
    · exact ⟨_,by rw [charged],disconnectVpn_free _⟩
    · exact ⟨[],by rw [charged,List.append_nil],by simp [Free]⟩

theorem onManager_free (event : VpnEvent) (s : MainViewController) : Free (onManager event s).1 := by
  intro act member
  simp only [onManager,acts,List.mem_append,List.mem_map] at member
  rcases member with (member | ⟨command,-,rfl⟩) | member
  · split at member
    · cases List.mem_singleton.mp member
      rfl
    · cases member
  · rfl
  · split at member
    · cases List.mem_singleton.mp member
      rfl
    · cases member

theorem andThen_free {first second : MainViewController → List Act × MainViewController} {s : MainViewController}
    (former : Free (first s).1) (latter : Free (second (first s).2).1) : Free (andThen first second s).1 := by
  intro act member
  rcases List.mem_append.mp member with member | member
  · exact former act member
  · exact latter act member

theorem block_free (nodes : Option Settings) (s : MainViewController) (first : MainBlock) :
    Free (block nodes s first).1 := by
  cases first with
  | doClickConnect =>
    simp only [block]
    split
    · cases nodes with
      | none => simp [swiftConnectVpn,Free]
      | some settings => exact andThen_free (onManager_free _ _) (andThen_free (onManager_free _ _) (onManager_free _ _))
    · exact onManager_free _ _
  | doClickDisconnect =>
    simp only [block]
    split
    · simp [Free]
    · exact onManager_free _ _
  | showLinked => simp [block,Free]

theorem linkBtnClicked_free (s : MainViewController) : Free (linkBtnClicked s).1 := by
  unfold linkBtnClicked
  split
  · simp [Free]
  · dsimp only
    split
    · exact disconnectVpn_free _
    · simp [Free]

theorem onPage_free {s : MainViewController} {result : List Act × MainViewController} (free : Free result.1) :
    Free (onPage s result).1 := by
  unfold onPage
  split
  · simp [Free]
  · exact free

theorem step_acts (s : MainViewController) (event : MainEvent) : ∃ rest,
    (step s event).1 = (if Charges s event then [.charge 1000] else []) ++ rest ∧ Free rest := by
  cases reloaded : s.reloads event with
  | some t =>
    obtain ⟨timers,shown,stepped⟩ := step_of_reloads reloaded
    have same : Charges s event ↔ Charging t := by
      refine ⟨?_,fun charging => Or.inl ⟨t,reloaded,charging⟩⟩
      rintro (⟨_,found,charging⟩ | ⟨ticks,-⟩)
      · cases reloaded.symm.trans found
        exact charging
      · cases event <;> simp_all [isTick,reloads]
    obtain ⟨rest,acts,free⟩ := reloadBalance_acts t
    refine ⟨rest,?_,free⟩
    rw [stepped,acts]
    simp only [same]
  | none =>
    have silent (calm : isTick event = false) (free : Free (step s event).1) : ∃ rest,
        (step s event).1 = (if Charges s event then [.charge 1000] else []) ++ rest ∧ Free rest := by
      have spared : ¬Charges s event := by
        rintro (⟨_,found,-⟩ | ⟨ticks,-⟩)
        · cases reloaded.symm.trans found
        · simp [calm] at ticks
      exact ⟨_,by rw [if_neg spared,List.nil_append],free⟩
    cases event with
    | viewDidLoad => cases reloaded
    | showAdsTimer index => exact silent rfl (by simp [Free,step_of_unloaded reloaded])
    | notificationBalance => exact silent rfl (by simp [Free,step_of_unloaded reloaded])
    | refreshFreeView => exact silent rfl (by simp [Free,step_of_unloaded reloaded])
    | linkBtnClicked => exact silent rfl (onPage_free (linkBtnClicked_free s))
    | didSelectRow => exact silent rfl (onPage_free (by simp [Free,doClickDisconnect,chargeRate]))
    | clickIncreaseFreeTime => exact silent rfl (onPage_free (by simp [Free]))
    | codeTimer nowTm isReady => exact silent rfl (by simp [Free,step])
    | insAdLoaded => exact silent rfl (by simp [Free,step])
    | userDidEarnReward amount => exact silent rfl (by simp [Free,step])
    | insAdReward loaded => exact silent rfl (by simp [Free,step])
    | mainQueue index nodes =>
      refine silent rfl ?_
      simp only [step]
      split
      · simp [Free]
      · exact block_free _ _ _
    | manager event => exact silent rfl (onManager_free event s)
    | setVipLeftDays days => exact silent rfl (by simp [Free,step])
    | second => exact silent rfl (by simp [Free,step,chargeRate])
    | tunnelStarts => exact silent rfl (by simp [Free,step])
    | tunnelStops => exact silent rfl (by simp [Free,step])
    | tick nowDayTm =>
      have same : Charges s (.tick nowDayTm) ↔ s.tunnel = some true ∧ 1000 ≤ s.left := by
        simp [Charges,reloads,isTick]
      refine ⟨[],?_,by simp [Free]⟩
      rw [List.append_nil]
      simp only [step,same,tick]
      by_cases due : s.tunnel = some true
      · by_cases enough : 1000 ≤ s.left
        · simp [due,enough]
        · simp [due,enough]
      · simp [due]

theorem step_accepts (s : MainViewController) (spent : Bool) (event : MainEvent) :
    OncePerSecond (s,spent) event ↔ chargeRate.clock.Accepts spent (step s event).1 := by
  obtain ⟨rest,acts,free⟩ := step_acts s event
  rw [acts,OncePerSecond]
  by_cases charges : Charges s event
  · rw [if_pos charges]
    exact ⟨fun once => ⟨fun _ => once charges,Rate.accepts_free _ free⟩,fun accepts _ => accepts.1 (by decide)⟩
  · rw [if_neg charges]
    exact ⟨fun _ => Rate.accepts_free _ free,fun _ impossible => absurd impossible charges⟩

theorem outputs_units (s : MainViewController) (run : List MainEvent) :
    ∀ act ∈ main.outputs s run, chargeRate.cost act = 0 ∨ chargeRate.cost act = chargeRate.unit := by
  refine (Machine.forall_outputs _).mpr (Machine.Along.of_forall (fun s event act member => ?_) s run)
  obtain ⟨rest,acts,free⟩ := step_acts s event
  have split : act ∈ (if Charges s event then [.charge 1000] else []) ++ rest := acts ▸ member
  rcases List.mem_append.mp split with charged | later
  · split at charged
    · cases List.mem_singleton.mp charged
      exact Or.inr rfl
    · cases charged
  · exact Or.inl (free act later)

/-- Every stretch of a run charges at most a second for each second that elapses, and one
more, exactly if no second is charged twice. -/
theorem charged_le_iff (s : MainViewController) (run : List MainEvent) :
    (main.watch chargeRate.clock).Along OncePerSecond (s,false) run ↔
      ∀ window, window <:+: main.outputs s run →
        chargeRate.spent window ≤ 1000 * chargeRate.pulses window + 1000 := by
  have keeps : (main.watch chargeRate.clock).Keeps (fun _ => True) OncePerSecond := Machine.keeps_true _
  have accepted : (main.watch chargeRate.clock).Along OncePerSecond (s,false) run ↔
      (main.watch chargeRate.clock).Along
        (fun watched event => chargeRate.clock.Accepts watched.2 (main.step watched.1 event).1) (s,false) run :=
    Machine.along_iff keeps (fun (s,spent) event _ => step_accepts s spent event) trivial
  rw [accepted,← Machine.accepts_outputs,Rate.accepts_iff false (outputs_units s run)]
  exact ⟨fun bounded => bounded.1,fun bounded => ⟨bounded,fun impossible => by cases impossible⟩⟩

structure Unlinked (s : MainViewController) : Prop where
  ordinary : s.vipLeftDays ≤ 0
  unlinked : s.isLink = false
  timers : s.timers.length = 1
  tunnel : s.tunnel.isSome
  today : s.today = 0

def bothCharge : List MainEvent := [.second,.showAdsTimer 0,.tick 0]

theorem reloadBalance_charging {s : MainViewController} (charging : Charging s) (lasting : 2000 < s.left) :
    reloadBalance s = ([.charge 1000],{s with left := s.left - 1000}) := by
  have charged : charge s = ([.charge 1000],{s with left := s.left - 1000}) :=
    if_pos ⟨charging.unlinked,charging.enough⟩
  have enough : ¬s.left - 1000 ≤ 1000 := by omega
  simp only [reloadBalance,charging.ordinary,charged,enough,Bool.false_eq_true,if_false]

theorem step_showAdsTimer {s : MainViewController} (due : s.timers = [true]) (charging : Charging s)
    (lasting : 2000 < s.left) :
    step s (.showAdsTimer 0) = ([.charge 1000],some {s with left := s.left - 1000, timers := [false]}) := by
  have charged := reloadBalance_charging (s := {s with timers := [false]})
    ⟨charging.ordinary,charging.unlinked,charging.enough⟩ lasting
  simp only [step,due,List.getElem?_cons_zero,if_true,List.set_cons_zero,charged]

theorem step_tick {s : MainViewController} (due : s.tunnel = some true) (today : s.today = 0) (enough : 1000 ≤ s.left) :
    step s (.tick 0) = ([.charge 1000],some {s with left := s.left - 1000, tunnel := some false}) := by
  simp only [step,tick,due,today,enough,if_true]

theorem bothCharge_outputs {s : MainViewController} (unlinked : Unlinked s) (enough : 2000 < s.left)
    (rest : List MainEvent) : ∃ next, Unlinked next ∧ next.left + 2000 = s.left ∧
      main.outputs s (bothCharge ++ rest) = [.second,.charge 1000,.charge 1000] ++ main.outputs next rest := by
  obtain ⟨ordinary,linked,timers,tunnel,today⟩ := unlinked
  obtain ⟨due,single⟩ := List.length_eq_one_iff.mp timers
  obtain ⟨ticks,running⟩ := Option.isSome_iff_exists.mp tunnel
  have second : step s .second = ([.second],some {s with timers := [true], tunnel := some true}) := by
    simp only [step,single,running,List.map_cons,List.map_nil,Option.map_some]
  have charging : Charging {s with timers := [true], tunnel := some true} :=
    ⟨by simpa [isVip] using ordinary,linked,by dsimp only; omega⟩
  have first_charge := step_showAdsTimer rfl charging enough
  have second_charge := step_tick (s := {s with timers := [false], tunnel := some true, left := s.left - 1000})
    rfl today (by dsimp only; omega)
  refine ⟨{s with timers := [false], tunnel := some false, left := s.left - 1000 - 1000},
    ⟨ordinary,linked,rfl,rfl,today⟩,?_,?_⟩
  · have sum : s.left - 1000 - 1000 + 2000 = s.left := by omega
    exact sum
  · simp only [bothCharge,List.cons_append,List.nil_append,Machine.outputs,main,second,first_charge,second_charge]

theorem bothCharge_rate (n : Nat) {s : MainViewController} (unlinked : Unlinked s) (enough : 2000 * n < s.left) :
    chargeRate.spent (main.outputs s (List.replicate n bothCharge).flatten) = 2000 * n ∧
      chargeRate.pulses (main.outputs s (List.replicate n bothCharge).flatten) = n := by
  induction n generalizing s with
  | zero => simp [Machine.outputs,Rate.spent_nil,Rate.pulses_nil]
  | succ n ih =>
    obtain ⟨next,unlinked,left,outputs⟩ := bothCharge_outputs unlinked (by omega) (List.replicate n bothCharge).flatten
    obtain ⟨spent,pulses⟩ := ih unlinked (by omega)
    rw [List.replicate_succ,List.flatten_cons,outputs]
    simp only [List.cons_append,List.nil_append,Rate.spent_cons,Rate.pulses_cons,spent,pulses]
    simp only [chargeRate]
    constructor
    · omega
    · simp

theorem step_launched {left : Nat} (lasting : 2000 < left) :
    step (launched left 0 0 (some false)) .viewDidLoad =
      ([.charge 1000],some {launched (left - 1000) 0 0 (some false) with timers := [false]}) := by
  have charged := reloadBalance_charging (s := launched left 0 0 (some false)) ⟨rfl,rfl,by dsimp only [launched]; omega⟩
    lasting
  have calm : initUI {launched left 0 0 (some false) with rewardedInterstitialAd := false} =
      launched left 0 0 (some false) := rfl
  simp only [step,viewDidLoad,calm,charged]
  simp only [launched,List.nil_append]

theorem loaded_unlinked (left : Nat) : Unlinked {launched left 0 0 (some false) with timers := [false]} :=
  ⟨by simp [launched],rfl,rfl,rfl,rfl⟩

/-- The timer of the page and the tick of the extension charge the same seconds. -/
theorem charged_twice : ¬∃ c, ∀ left today days tunnel run,
    chargeRate.spent (main.outputs (launched left today days tunnel) run) ≤
      1000 * chargeRate.pulses (main.outputs (launched left today days tunnel) run) + c := by
  rintro ⟨c,bound⟩
  obtain ⟨left,enough⟩ : ∃ left, 2000 * (c + 1) < left - 1000 := ⟨2000 * (c + 1) + 1001,by omega⟩
  have bounded := bound left 0 0 (some false) (.viewDidLoad :: (List.replicate (c + 1) bothCharge).flatten)
  obtain ⟨spent,pulses⟩ := bothCharge_rate (c + 1) (loaded_unlinked (left - 1000)) enough
  simp only [main] at spent pulses
  simp only [Machine.outputs,main,step_launched (show 2000 < left by omega),Rate.spent_cons,Rate.pulses_cons,
    List.cons_append,List.nil_append,spent,pulses] at bounded
  simp only [chargeRate,Bool.false_eq_true,if_false] at bounded
  omega

end TenonVpn.FreeUse.MainViewController
