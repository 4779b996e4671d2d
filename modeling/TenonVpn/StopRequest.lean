import TenonVpn.MainViewController

/-! How `reloadBalance` stops the tunnel when the free time is used up. `disconnectVpn` asks
only while `isLink` is YES and no countdown runs; the flag is cleared apart from both. -/
namespace TenonVpn.FreeUse.MainViewController

/-- Whether a stop has been asked for since the tunnel connected. -/
def asks : Monitor Bool Act where
  next := fun asked act =>
    match act with
    | .doClickDisconnect | .disconnect => true
    | .connected => false
    | .second | .charge _ | .command _ => asked
  ok _ _ := True

/-- A tunnel that is connected and not asked to stop has `isLink` YES, or a countdown runs. -/
def Linked (s : MainViewController) (asked : Bool) : Prop :=
  s.manager.vpnStatus = .on → asked = false → s.isLink = true ∨ 0 < s.loadingTime

/-- The page never shows a connected tunnel as unlinked outside a countdown. -/
def Controlled (state : MainViewController × Bool) : Prop := state.1.timers ≠ [] → Linked state.1 state.2

structure Exhausted (s : MainViewController) (asked : Bool) : Prop where
  ordinary : s.isVip = false
  left : s.left ≤ 1000
  connected : s.manager.vpnStatus = .on
  unasked : asked = false

instance (s : MainViewController) (asked : Bool) : Decidable (Exhausted s asked) :=
  decidable_of_iff (s.isVip = false ∧ s.left ≤ 1000 ∧ s.manager.vpnStatus = .on ∧ asked = false)
    ⟨fun ⟨ordinary,left,connected,unasked⟩ => ⟨ordinary,left,connected,unasked⟩,
      fun ⟨ordinary,left,connected,unasked⟩ => ⟨ordinary,left,connected,unasked⟩⟩

/-- `reloadBalance` asks for the stop, or leaves `isLink` alone during a countdown. -/
def Stops (state : MainViewController × Bool) (event : MainEvent) : Prop :=
  ∀ t ∈ state.1.reloads event, Exhausted t state.2 →
    if 0 < t.loadingTime then (reloadBalance t).2.isLink = t.isLink else .doClickDisconnect ∈ (reloadBalance t).1

instance (state : MainViewController × Bool) (event : MainEvent) : Decidable (Stops state event) :=
  inferInstanceAs (Decidable (∀ t ∈ state.1.reloads event, _ → ite _ _ _))

def CountsLink (s : MainViewController) (nowTm : Nat) : Prop :=
  1 < s.loadingTime ∨ s.userStartedVpn = true ∧
    (s.isLink = true ∨ s.isVip = true ∨ sinceAd nowTm s < 30000 ∨ s.rewardedInterstitialAd = true)

def IncFreeLink (s : MainViewController) (isReady : Bool) : Prop :=
  s.isLink = true ∨ 1 < s.loadingTime ∧ ¬(s.isVip = false ∧ isReady = true) ∧
    ¬(s.userStartedVpn = true ∧ s.isVip = true)

/-- No report of a connection comes outside a countdown, and no countdown ends unlinked. -/
def KeepsLink (state : MainViewController × Bool) : MainEvent → Prop
  | .manager event => state.1.timers ≠ [] → updates state.1.manager event = true →
      (VpnManager.step state.1.manager event).2.vpnStatus = .on →
        state.1.manager.vpnStatus = .on ∧ state.2 = true ∨ 0 < state.1.loadingTime
  | .codeTimer nowTm isReady => state.1.timers ≠ [] → state.1.manager.vpnStatus = .on → state.2 = false →
      (state.1.codeTimer = some .getCodeTime → CountsLink state.1 nowTm) ∧
        (state.1.codeTimer = some .incFreeGetCodeTime → IncFreeLink state.1 isReady)
  | _ => True

/-- No reload finds the free time used up, the tunnel linked and a countdown running. -/
def ReloadsApart (state : MainViewController × Bool) (event : MainEvent) : Prop :=
  ∀ t ∈ state.1.reloads event, Exhausted t state.2 → 0 < t.loadingTime → t.isLink = false

def Safe (state : MainViewController × Bool) (event : MainEvent) : Prop :=
  KeepsLink state event ∧ ReloadsApart state event

theorem after_commands (asked : Bool) (commands : List Command) :
    asks.after asked (commands.map .command) = asked := by
  induction commands generalizing asked with
  | nil => rfl
  | cons command rest ih => exact ih asked

theorem after_charge (s : MainViewController) (asked : Bool) : asks.after asked (charge s).1 = asked := by
  unfold charge
  split <;> rfl

theorem charge_fields (s : MainViewController) : (charge s).2.manager = s.manager ∧ (charge s).2.isLink = s.isLink ∧
    (charge s).2.loadingTime = s.loadingTime ∧ (charge s).2.left ≤ s.left := by
  unfold charge
  split
  · exact ⟨rfl,rfl,rfl,Nat.sub_le _ _⟩
  · exact ⟨rfl,rfl,rfl,le_rfl⟩

theorem disconnectVpn_linked {s : MainViewController} {asked : Bool} (linked : Linked s asked) :
    Linked {(disconnectVpn s).2 with isLink := false} (asks.after asked (disconnectVpn s).1) := by
  unfold disconnectVpn
  split
  · next countdown => exact fun _ _ => Or.inr countdown
  · next idle =>
    split
    · intro _ unasked
      cases unasked
    · next unlinked =>
      intro connected unasked
      rcases linked connected unasked with link | countdown
      · exact absurd link unlinked
      · exact absurd countdown idle

theorem reloadBalance_linked {s : MainViewController} {asked : Bool} (linked : Linked s asked) :
    Linked (reloadBalance s).2 (asks.after asked (reloadBalance s).1) := by
  obtain ⟨manager,link,loading,-⟩ := charge_fields s
  have charged : Linked (charge s).2 asked := by
    unfold Linked
    rw [manager,link,loading]
    exact linked
  unfold reloadBalance
  split
  · split <;> exact linked
  · dsimp only
    split
    · rw [Monitor.after_append,after_charge]
      exact disconnectVpn_linked charged
    · rw [after_charge]
      exact charged

theorem reloadBalance_exhausted {s : MainViewController} (ordinary : s.isVip = false) (left : s.left ≤ 1000) :
    (reloadBalance s).2.isLink = false ∧
      (s.isLink = true → ¬0 < s.loadingTime → .doClickDisconnect ∈ (reloadBalance s).1) := by
  obtain ⟨-,link,loading,less⟩ := charge_fields s
  have out : (charge s).2.left ≤ 1000 := le_trans less left
  simp only [reloadBalance,ordinary,out,if_true,Bool.false_eq_true,if_false]
  refine ⟨trivial,fun linked idle => List.mem_append_right _ ?_⟩
  unfold disconnectVpn
  rw [loading,link,if_neg idle,if_pos linked]
  exact List.mem_singleton_self _

theorem initUI_linked (s : MainViewController) (asked : Bool) : Linked (initUI s) asked := by
  unfold initUI
  split
  · exact fun _ _ => Or.inl rfl
  · next disconnected =>
    intro connected _
    simp [isConnected,connected] at disconnected

theorem reloads_linked {s t : MainViewController} {asked : Bool} {event : MainEvent} (controlled : Controlled (s,asked))
    (reloaded : s.reloads event = some t) : Linked t asked := by
  cases event with
  | viewDidLoad =>
    cases reloaded
    exact initUI_linked _ asked
  | showAdsTimer index =>
    simp only [reloads,Option.ite_none_right_eq_some,Option.some.injEq] at reloaded
    obtain ⟨due,rfl⟩ := reloaded
    exact controlled fun unloaded => by simp [show s.timers = [] from unloaded] at due
  | notificationBalance =>
    simp only [reloads,Option.ite_none_left_eq_some,Option.some.injEq] at reloaded
    obtain ⟨loaded,rfl⟩ := reloaded
    exact controlled loaded
  | refreshFreeView =>
    simp only [reloads,Option.ite_none_left_eq_some,Option.some.injEq] at reloaded
    obtain ⟨loaded,rfl⟩ := reloaded
    exact controlled loaded
  | _ => cases reloaded

def Quiet (manager : VpnManager) (event : VpnEvent) : Prop := updates manager event = false ∧ event ≠ .setVpnStatusOff

theorem step_vpnStatus {manager : VpnManager} {event : VpnEvent} (quiet : Quiet manager event) :
    (VpnManager.step manager event).2.vpnStatus = manager.vpnStatus := by
  obtain ⟨still,other⟩ := quiet
  cases event with
  | setVpnStatusOff => exact absurd rfl other
  | statusDidChange status =>
    have unobserved : manager.observerAdded = false := still
    simp [VpnManager.step,unobserved]
  | vpnInit => exact VpnManager.addVPNStatusObserver_vpnStatus _
  | queue => exact VpnManager.queue_vpnStatus manager
  | complete index report =>
    simp only [VpnManager.step]
    cases found : manager.pending[index]? with
    | none => rfl
    | some call =>
      refine VpnManager.handle_vpnStatus report _ fun initial => ?_
      subst initial
      simpa [updates,found] using still
  | connect => rfl
  | disconnect => rfl
  | configure settings => rfl

theorem onManager_quiet {s : MainViewController} {event : VpnEvent} (quiet : Quiet s.manager event) :
    (onManager event s).2 = {s with manager := (VpnManager.step s.manager event).2} := by
  obtain ⟨still,other⟩ := quiet
  unfold onManager
  rw [still]
  dsimp only
  split
  · rfl
  · split
    · next impossible => cases impossible
    · split
      · exact absurd rfl other
      · rfl

theorem after_acts (manager : VpnManager) (event : VpnEvent) (asked : Bool) :
    asks.after asked (acts manager event) =
      if manager.vpnStatus ≠ .on ∧ (VpnManager.step manager event).2.vpnStatus = .on then false
      else asks.after asked (match event with
        | .disconnect => [.disconnect]
        | _ => []) := by
  unfold acts
  rw [Monitor.after_append,Monitor.after_append,after_commands]
  by_cases becomes : manager.vpnStatus ≠ .on ∧ (VpnManager.step manager event).2.vpnStatus = .on
  · rw [if_pos becomes,if_pos becomes]
    rfl
  · rw [if_neg becomes,if_neg becomes]
    rfl

theorem after_quiet {manager : VpnManager} {event : VpnEvent} (quiet : Quiet manager event) {asked : Bool}
    (unasked : asks.after asked (acts manager event) = false) : asked = false := by
  rw [after_acts,step_vpnStatus quiet,if_neg fun becomes => becomes.1 becomes.2] at unasked
  cases event <;> first | exact unasked | cases unasked

theorem Linked.of_same {s t : MainViewController} {asked later : Bool} (linked : Linked s asked)
    (status : t.manager.vpnStatus = s.manager.vpnStatus) (link : t.isLink = s.isLink)
    (loading : t.loadingTime = s.loadingTime) (fewer : later = false → asked = false) : Linked t later := by
  intro connected unasked
  rw [link,loading]
  exact linked (status ▸ connected) (fewer unasked)

theorem onManager_linked {s : MainViewController} {event : VpnEvent} {asked : Bool} (quiet : Quiet s.manager event)
    (linked : Linked s asked) : Linked (onManager event s).2 (asks.after asked (onManager event s).1) := by
  rw [onManager_quiet quiet]
  exact linked.of_same (step_vpnStatus quiet) rfl rfl fun unasked => after_quiet quiet unasked

theorem updates_of_vpnStatus {manager : VpnManager} {event : VpnEvent} (updated : updates manager event = true)
    (asked : Bool) : asks.after asked (acts manager event) =
      if manager.vpnStatus ≠ .on ∧ (VpnManager.step manager event).2.vpnStatus = .on then false else asked := by
  rw [after_acts]
  cases event <;> first | rfl | cases updated

theorem onManager_controlled {s : MainViewController} {event : VpnEvent} {asked : Bool}
    (controlled : Controlled (s,asked)) : KeepsLink (s,asked) (.manager event) ↔
      Controlled ((onManager event s).2,asks.after asked (onManager event s).1) := by
  by_cases unloaded : s.timers = []
  · have timers : (onManager event s).2.timers = [] := by simp [onManager,unloaded]
    exact ⟨fun _ loaded => absurd timers loaded,fun _ loaded => absurd unloaded loaded⟩
  · cases updated : updates s.manager event with
    | false =>
      refine ⟨fun _ _ => ?_,fun _ _ impossible => by simp [updated] at impossible⟩
      by_cases off : event = .setVpnStatusOff
      · subst off
        intro connected
        cases connected
      · exact onManager_linked ⟨updated,off⟩ (controlled unloaded)
    | true =>
      -- the notification finds `vpn_connected` cleared, so that `isLink` becomes NO
      have reported : onManager event s = (acts s.manager event,
          {s with manager := (VpnManager.step s.manager event).2, isLink := false}) := by
        simp [onManager,unloaded,updated,reloadVPNStatus,userStartedVpn]
      rw [reported]
      dsimp only
      rw [updates_of_vpnStatus updated]
      constructor
      · intro keeps _ connected unasked
        rcases keeps unloaded updated connected with ⟨before,asked⟩ | countdown
        · rw [if_neg fun becomes => becomes.1 before] at unasked
          cases asked.symm.trans unasked
        · exact Or.inr countdown
      · intro kept _ _ connected
        by_cases before : s.manager.vpnStatus = .on
        · cases asked with
          | true => exact Or.inl ⟨before,rfl⟩
          | false =>
            have linked := kept unloaded connected (if_neg fun becomes => becomes.1 before)
            exact Or.inr (linked.resolve_left (by simp))
        · have linked := kept unloaded connected (if_pos ⟨before,connected⟩)
          exact Or.inr (linked.resolve_left (by simp))

theorem quiet_controlled {s : MainViewController} {event : VpnEvent} {asked : Bool} (still : updates s.manager event = false)
    (controlled : Controlled (s,asked)) :
    Controlled ((onManager event s).2,asks.after asked (onManager event s).1) :=
  (onManager_controlled controlled).mp fun _ updated => by simp [still] at updated

theorem block_controlled {s : MainViewController} {asked : Bool} (nodes : Option Settings) (first : MainBlock)
    (controlled : Controlled (s,asked)) :
    Controlled ((block nodes s first).2,asks.after asked (block nodes s first).1) := by
  cases first with
  | doClickConnect =>
    simp only [block]
    split
    · cases nodes with
      | none => exact controlled
      | some settings =>
        simp only [swiftConnectVpn,andThen]
        rw [Monitor.after_append,Monitor.after_append]
        exact quiet_controlled rfl (quiet_controlled rfl (quiet_controlled rfl controlled))
    · exact quiet_controlled rfl controlled
  | doClickDisconnect =>
    simp only [block]
    split
    · exact controlled
    · exact quiet_controlled rfl controlled
  | showLinked =>
    simp only [block]
    split
    · exact fun _ _ _ => Or.inl rfl
    · exact controlled

theorem linkBtnClicked_linked {s : MainViewController} {asked : Bool} (linked : Linked s asked) :
    Linked (linkBtnClicked s).2 (asks.after asked (linkBtnClicked s).1) := by
  unfold linkBtnClicked
  split
  · exact linked
  · dsimp only
    split
    · unfold disconnectVpn
      split
      · exact linked
      · intro _ unasked
        cases unasked
    · unfold connectVpn
      split
      · exact linked
      · exact fun _ _ => Or.inr (by decide : (0 : Int) < 7)

theorem countDown_spec (s : MainViewController) : (countDown s).manager = s.manager ∧ (countDown s).timers = s.timers ∧
    ((countDown s).isLink = true ∨ 0 < (countDown s).loadingTime ↔
      1 < s.loadingTime ∨ s.userStartedVpn = true ∧ s.isLink = true) := by
  unfold countDown
  dsimp only
  split
  · next counting => exact ⟨rfl,rfl,fun _ => Or.inl (by omega),fun _ => Or.inr counting⟩
  · next counted =>
    have ended : ¬1 < s.loadingTime := by omega
    split
    · next started =>
      have started : s.userStartedVpn = true := started
      refine ⟨rfl,rfl,?_⟩
      dsimp only
      simp only [counted,or_false,ended,started,false_or,true_and]
    · next stopped =>
      have stopped : ¬s.userStartedVpn = true := stopped
      refine ⟨rfl,rfl,?_⟩
      dsimp only
      simp only [counted,ended,stopped,Bool.false_eq_true,or_false,false_and]

theorem countDown_linked {s : MainViewController} (started : s.userStartedVpn = true) :
    (countDown (linked s)).manager = s.manager ∧ (countDown (linked s)).timers = s.timers ∧
      ((countDown (linked s)).isLink = true ∨ 0 < (countDown (linked s)).loadingTime) := by
  obtain ⟨manager,timers,link⟩ := countDown_spec (linked s)
  exact ⟨manager,timers,link.mpr (Or.inr ⟨started,rfl⟩)⟩

theorem getCodeTime_spec (s : MainViewController) (nowTm : Nat) :
    (getCodeTime nowTm s).manager = s.manager ∧ (getCodeTime nowTm s).timers = s.timers ∧
      ((getCodeTime nowTm s).isLink = true ∨ 0 < (getCodeTime nowTm s).loadingTime ↔ CountsLink s nowTm) := by
  unfold getCodeTime
  dsimp only
  split
  · next shows =>
    simp only [Bool.and_eq_true,decide_eq_true_eq] at shows
    have started := shows.1.2
    have counts : CountsLink s nowTm := Or.inr ⟨started,Or.inr (Or.inr (Or.inr shows.1.1.1))⟩
    split
    · obtain ⟨manager,timers,link⟩ := countDown_linked
        (s := linked {s with prevShowInsAdTimestamp := nowTm, rewardedInterstitialAd := false}) started
      exact ⟨manager,timers,fun _ => counts,fun _ => link⟩
    · obtain ⟨manager,timers,link⟩ := countDown_linked
        (s := {s with prevShowInsAdTimestamp := nowTm, rewardedInterstitialAd := false}) started
      exact ⟨manager,timers,fun _ => counts,fun _ => link⟩
  · next hidden =>
    split
    · next links =>
      simp only [Bool.and_eq_true,Bool.or_eq_true,decide_eq_true_eq] at links
      obtain ⟨manager,timers,link⟩ := countDown_linked links.1
      refine ⟨manager,timers,fun _ => Or.inr ⟨links.1,Or.inr ?_⟩,fun _ => link⟩
      rcases links.2 with vip | recent
      · exact Or.inl vip
      · exact Or.inr (Or.inl recent)
    · next waits =>
      obtain ⟨manager,timers,link⟩ := countDown_spec s
      refine ⟨manager,timers,link.trans (or_congr Iff.rfl (and_congr_right fun started => ?_))⟩
      simp only [Bool.and_eq_true,Bool.or_eq_true,decide_eq_true_eq,started,true_and,not_or] at waits
      obtain ⟨ordinary,late⟩ := waits
      have unready : ¬s.rewardedInterstitialAd = true := by
        intro ready
        refine hidden ?_
        simp only [ready,started,Bool.eq_false_iff.mpr ordinary,Bool.not_false,Bool.and_self,Bool.true_and,
          decide_eq_true_eq]
        omega
      simp only [ordinary,late,unready,Bool.false_eq_true,or_false]

theorem countDownAd_fields (s : MainViewController) : (countDownAd s).manager = s.manager ∧
    (countDownAd s).timers = s.timers ∧ (countDownAd s).isLink = s.isLink ∧
      (countDownAd s).loadingTime = s.loadingTime - 1 := by
  unfold countDownAd
  dsimp only
  split <;> exact ⟨rfl,rfl,rfl,rfl⟩

theorem incFreeGetCodeTime_spec (s : MainViewController) (isReady : Bool) :
    (incFreeGetCodeTime isReady s).manager = s.manager ∧ (incFreeGetCodeTime isReady s).timers = s.timers ∧
      ((incFreeGetCodeTime isReady s).isLink = true ∨ 0 < (incFreeGetCodeTime isReady s).loadingTime ↔
        IncFreeLink s isReady) := by
  have cut {t : MainViewController} (link : t.isLink = s.isLink) (ended : t.loadingTime = 0)
      (cut : ¬(¬(s.isVip = false ∧ isReady = true) ∧ ¬(s.userStartedVpn = true ∧ s.isVip = true))) :
      (countDownAd t).isLink = true ∨ 0 < (countDownAd t).loadingTime ↔ IncFreeLink s isReady := by
    obtain ⟨-,-,link',loading⟩ := countDownAd_fields t
    rw [link',loading,link,ended,IncFreeLink]
    simp only [cut,and_false,or_false]
    simp
  unfold incFreeGetCodeTime
  dsimp only
  split
  · next shows =>
    simp only [Bool.and_eq_true,Bool.not_eq_true'] at shows
    split
    · exact ⟨(countDownAd_fields _).1,(countDownAd_fields _).2.1,cut rfl rfl fun calm => calm.1 shows⟩
    · exact ⟨(countDownAd_fields _).1,(countDownAd_fields _).2.1,cut rfl rfl fun calm => calm.1 shows⟩
  · next hidden =>
    simp only [Bool.and_eq_true,Bool.not_eq_true'] at hidden
    split
    · next started =>
      simp only [Bool.and_eq_true] at started
      exact ⟨(countDownAd_fields _).1,(countDownAd_fields _).2.1,cut rfl rfl fun calm => calm.2 started⟩
    · next waits =>
      simp only [Bool.and_eq_true] at waits
      obtain ⟨manager,timers,link,loading⟩ := countDownAd_fields s
      refine ⟨manager,timers,?_⟩
      rw [link,loading,IncFreeLink]
      simp only [hidden,waits,not_false_eq_true,and_true]
      exact or_congr Iff.rfl (by omega)

theorem onPage_controlled {s next : MainViewController} {result : List Act × MainViewController} {asked : Bool}
    (stepped : (onPage s result).2 = some next)
    (linked : s.timers ≠ [] → Linked result.2 (asks.after asked result.1)) :
    Controlled (next,asks.after asked (onPage s result).1) := by
  unfold onPage at stepped ⊢
  split at stepped
  · cases stepped
  · next loaded =>
    rw [if_neg loaded]
    cases stepped
    exact fun _ => linked loaded

theorem tick_controlled {s : MainViewController} {asked : Bool} (nowDayTm : Nat) (controlled : Controlled (s,asked)) :
    Controlled ((tick nowDayTm s).2,asks.after asked (tick nowDayTm s).1) := by
  unfold tick
  split
  · dsimp only
    split <;> exact fun loaded => (controlled loaded).of_same rfl rfl rfl id
  · exact controlled

theorem counted_controlled {s t : MainViewController} (asked : Bool) {P : Prop} (manager : t.manager = s.manager)
    (timers : t.timers = s.timers) (link : t.isLink = true ∨ 0 < t.loadingTime ↔ P) :
    (s.timers ≠ [] → s.manager.vpnStatus = .on → asked = false → P) ↔ Controlled (t,asked) := by
  simp only [Controlled,Linked,manager,timers,link]

theorem step_controlled {s next : MainViewController} {asked : Bool} {event : MainEvent}
    (controlled : Controlled (s,asked)) (stepped : (step s event).2 = some next) :
    KeepsLink (s,asked) event ↔ Controlled (next,asks.after asked (step s event).1) := by
  cases reloaded : s.reloads event with
  | some t =>
    obtain ⟨timers,shown,reloads⟩ := step_of_reloads reloaded
    have keeps : KeepsLink (s,asked) event := by cases event <;> trivial
    refine iff_of_true keeps ?_
    rw [reloads] at stepped ⊢
    cases stepped
    exact fun _ => reloadBalance_linked (reloads_linked controlled reloaded)
  | none =>
    cases event with
    | viewDidLoad => cases reloaded
    | showAdsTimer index => simp [step_of_unloaded reloaded] at stepped
    | notificationBalance => simp [step_of_unloaded reloaded] at stepped
    | refreshFreeView => simp [step_of_unloaded reloaded] at stepped
    | linkBtnClicked =>
      exact iff_of_true trivial (onPage_controlled stepped fun loaded => linkBtnClicked_linked (controlled loaded))
    | didSelectRow =>
      exact iff_of_true trivial (onPage_controlled stepped fun _ _ unasked => by cases unasked)
    | clickIncreaseFreeTime =>
      exact iff_of_true trivial (onPage_controlled stepped fun _ _ _ => Or.inr (by decide : (0 : Int) < 7))
    | codeTimer nowTm isReady =>
      simp only [step,Option.map_eq_some_iff] at stepped
      obtain ⟨method,running,rfl⟩ := stepped
      cases method with
      | getCodeTime =>
        obtain ⟨manager,timers,link⟩ := getCodeTime_spec s nowTm
        refine Iff.trans ?_ (counted_controlled asked manager timers link)
        simp [KeepsLink,running]
      | incFreeGetCodeTime =>
        obtain ⟨manager,timers,link⟩ := incFreeGetCodeTime_spec s isReady
        refine Iff.trans ?_ (counted_controlled asked manager timers link)
        simp [KeepsLink,running]
    | insAdLoaded =>
      cases stepped
      exact iff_of_true trivial controlled
    | userDidEarnReward amount =>
      cases stepped
      exact iff_of_true trivial controlled
    | insAdReward loaded =>
      cases stepped
      exact iff_of_true trivial controlled
    | mainQueue index nodes =>
      refine iff_of_true trivial ?_
      simp only [step] at stepped ⊢
      cases found : s.blocks[index]? with
      | none => simp [found] at stepped
      | some first =>
        simp only [found,Option.some.injEq] at stepped
        subst stepped
        exact block_controlled nodes first controlled
    | manager event =>
      cases stepped
      exact onManager_controlled controlled
    | setVipLeftDays days =>
      cases stepped
      exact iff_of_true trivial controlled
    | second =>
      cases stepped
      refine iff_of_true trivial fun loaded => controlled fun unloaded => loaded ?_
      simp [show s.timers = [] from unloaded]
    | tunnelStarts =>
      simp only [step,Option.ite_none_right_eq_some,Option.some.injEq] at stepped
      obtain ⟨-,rfl⟩ := stepped
      exact iff_of_true trivial controlled
    | tick nowDayTm =>
      refine iff_of_true trivial ?_
      simp only [step] at stepped ⊢
      split at stepped
      · next due =>
        rw [if_pos due]
        cases stepped
        exact tick_controlled nowDayTm controlled
      · cases stepped
    | tunnelStops =>
      cases stepped
      exact iff_of_true trivial controlled

theorem ends_keepsLink {s : MainViewController} {asked : Bool} {event : MainEvent} (ended : (step s event).2 = none) :
    KeepsLink (s,asked) event := by
  cases event with
  | codeTimer nowTm isReady =>
    simp only [step,Option.map_eq_none_iff] at ended
    intro _ _ _
    simp [ended]
  | manager event => cases ended
  | _ => trivial

theorem stops_iff {s : MainViewController} {asked : Bool} {event : MainEvent} (controlled : Controlled (s,asked)) :
    ReloadsApart (s,asked) event ↔ Stops (s,asked) event := by
  refine forall_congr' fun t => forall_congr' fun reloaded => forall_congr' fun exhausted => ?_
  obtain ⟨unlinked,asked'⟩ := reloadBalance_exhausted exhausted.ordinary exhausted.left
  by_cases countdown : 0 < t.loadingTime
  · rw [if_pos countdown,unlinked]
    exact ⟨fun apart => (apart countdown).symm,fun same _ => same.symm⟩
  · rw [if_neg countdown]
    have linked := reloads_linked controlled reloaded exhausted.connected exhausted.unasked
    exact iff_of_true (fun impossible => absurd impossible countdown)
      (asked' (linked.resolve_right countdown) countdown)

theorem keepsLink_iff_controlled {state : MainViewController × Bool} (run : List MainEvent)
    (controlled : Controlled state) :
    (main.watch asks).Along KeepsLink state run ↔ (main.watch asks).Visits Controlled state run := by
  refine (Machine.keeps_true (main.watch asks)).along_iff_visits ?_ ?_ trivial controlled run
  · rintro ⟨s,asked⟩ event next - controlled stepped
    obtain ⟨t,taken,rfl⟩ := Machine.watch_step stepped
    exact step_controlled controlled taken
  · rintro ⟨s,asked⟩ event - - ended
    exact ends_keepsLink (Option.map_eq_none_iff.mp ended)

/-- The tunnel is stopped in time, and the page never loses it, exactly in the runs whose steps
all are safe. -/
theorem stops_safe_iff (left today : Nat) (days : Int) (tunnel : Option Bool) (run : List MainEvent) :
    (main.watch asks).Along Safe (launched left today days tunnel,false) run ↔
      (main.watch asks).Along Stops (launched left today days tunnel,false) run ∧
        (main.watch asks).Visits Controlled (launched left today days tunnel,false) run := by
  have start : Controlled (launched left today days tunnel,false) := fun loaded => absurd rfl loaded
  have keeps : (main.watch asks).Keeps Controlled Safe := by
    rintro ⟨s,asked⟩ event next controlled safe stepped
    obtain ⟨t,taken,rfl⟩ := Machine.watch_step stepped
    exact (step_controlled controlled taken).mp safe.1
  have each (state : MainViewController × Bool) (event : MainEvent) (controlled : Controlled state) :
      Safe state event ↔ KeepsLink state event ∧ Stops state event := and_congr Iff.rfl (stops_iff controlled)
  have same : (main.watch asks).Along Safe (launched left today days tunnel,false) run ↔
      (main.watch asks).Along (fun state event => KeepsLink state event ∧ Stops state event)
        (launched left today days tunnel,false) run :=
    Machine.along_iff keeps each start
  rw [same,Machine.along_and,keepsLink_iff_controlled run start,and_comm]

def reconnects : List MainEvent :=
  [.viewDidLoad,.manager .vpnInit,.manager (.complete 0 ⟨some [0],false,.disconnected⟩),
    .manager (.complete 0 ⟨some [0],false,.disconnected⟩),.linkBtnClicked,
    .mainQueue 0 (some VpnManager.launched.settings),.manager (.statusDidChange .connecting),.tunnelStarts,
    .manager (.statusDidChange .connected),.insAdLoaded,.codeTimer 100000 false,.mainQueue 0 none,
    .manager (.statusDidChange .reasserting),.manager (.statusDidChange .connected)]

/-- The second report sets `isLink` to NO, and when the time has run out nothing is asked. -/
theorem reload_silent : ¬∀ left today days tunnel run,
    (main.watch asks).Along Stops (launched left today days tunnel,false) run ∧
      (main.watch asks).Visits Controlled (launched left today days tunnel,false) run := by
  intro all
  have stops := (all 2500 0 0 none (reconnects ++ [.second,.showAdsTimer 0,.second,.showAdsTimer 0])).1
  exact absurd stops (by decide)

end TenonVpn.FreeUse.MainViewController
