import TenonVpn.MainViewController

/-! The countdown of the main page: `_loadingTime`, whose positive values make `connectVpn`
and `disconnectVpn` reject taps, and `codeTimer`, which counts it down each second. -/
namespace TenonVpn.FreeUse

namespace MainViewController
variable {s t u : MainViewController} {event : MainEvent}

/-- A tap that starts a countdown: one for free time, or one on the link button past the guard. -/
def Starts (s : MainViewController) (event : MainEvent) : Prop :=
  event = .clickIncreaseFreeTime ∨ (event = .linkBtnClicked ∧ s.loadingTime ≤ 0)

instance (s : MainViewController) : (event : MainEvent) → Decidable (Starts s event)
  | .clickIncreaseFreeTime => isTrue (Or.inl rfl)
  | .linkBtnClicked => decidable_of_iff (s.loadingTime ≤ 0) (by simp [Starts])
  | .viewDidLoad | .showAdsTimer _ | .notificationBalance | .refreshFreeView | .didSelectRow | .codeTimer _ _
  | .insAdLoaded | .userDidEarnReward _ | .insAdReward _ | .mainQueue _ _ | .manager _ | .setVipLeftDays _ | .second
  | .tunnelStarts | .tick _ | .tunnelStops => isFalse (by simp [Starts])

def Ticks (event : MainEvent) : Bool := event matches .codeTimer _ _

/-- A positive countdown has a timer that counts it down. -/
def Live (s : MainViewController) : Prop := 0 < s.loadingTime → s.codeTimer ≠ none

/-- The countdown is as before, or is over. -/
def Calm (s t : MainViewController) : Prop :=
  (t.loadingTime = s.loadingTime ∧ t.codeTimer = s.codeTimer) ∨ t.loadingTime ≤ 0

inductive Counts (s t : MainViewController) (event : MainEvent) : Prop
  | calm (silent : Ticks event = false) (calm : Calm s t)
  | started (starts : Starts s event) (timer : t.codeTimer ≠ none)
  | ticked (ticks : Ticks event = true) (timer : s.codeTimer ≠ none)
      (next : (t.loadingTime = s.loadingTime - 1 ∧ t.codeTimer = s.codeTimer) ∨ t.loadingTime ≤ 0)

theorem Calm.refl (s : MainViewController) : Calm s s := Or.inl ⟨rfl,rfl⟩

theorem Calm.trans (first : Calm s t) (second : Calm t u) : Calm s u := by
  rcases second with ⟨time,timer⟩ | over'
  · rcases first with ⟨time',timer'⟩ | over'
    · exact Or.inl ⟨time.trans time',timer.trans timer'⟩
    · exact Or.inr (time ▸ over')
  · exact Or.inr over'

theorem disconnectVpn_calm (s : MainViewController) : Calm s (disconnectVpn s).2 := by
  unfold disconnectVpn
  split
  · exact .refl s
  · split <;> exact Or.inl ⟨rfl,rfl⟩

theorem reloadBalance_calm (s : MainViewController) : Calm s (reloadBalance s).2 := by
  have charged : Calm s (charge s).2 := by
    unfold charge
    split <;> exact Or.inl ⟨rfl,rfl⟩
  unfold reloadBalance
  split
  · split <;> exact Or.inl ⟨rfl,rfl⟩
  · simp only
    split
    · exact charged.trans (disconnectVpn_calm (charge s).2)
    · exact charged

theorem reloadVPNStatus_calm (s : MainViewController) : Calm s (reloadVPNStatus s) := by
  unfold reloadVPNStatus
  split
  · exact Or.inr (Int.le_refl 0)
  · exact Or.inl ⟨rfl,rfl⟩

theorem onManager_calm (event : VpnEvent) (s : MainViewController) : Calm s (onManager event s).2 := by
  simp only [onManager]
  split
  · exact Or.inl ⟨rfl,rfl⟩
  · split
    · exact reloadVPNStatus_calm {s with manager := _}
    · split
      · exact reloadVPNStatus_calm {s with manager := _}
      · exact Or.inl ⟨rfl,rfl⟩

theorem andThen_calm {first second : MainViewController → List Act × MainViewController}
    (left : ∀ s, Calm s (first s).2) (right : ∀ s, Calm s (second s).2) (s : MainViewController) :
    Calm s (andThen first second s).2 := (left s).trans (right (first s).2)

theorem block_calm (nodes : Option Settings) (first : MainBlock) (s : MainViewController) :
    Calm s (block nodes s first).2 := by
  cases first with
  | doClickConnect =>
    simp only [block]
    split
    · cases nodes with
      | none => exact .refl s
      | some settings =>
        exact andThen_calm (onManager_calm _) (andThen_calm (onManager_calm _) (onManager_calm _)) s
    · exact onManager_calm .disconnect s
  | doClickDisconnect =>
    simp only [block]
    split
    · exact .refl s
    · exact onManager_calm .disconnect s
  | showLinked =>
    simp only [block]
    split <;> exact Or.inl ⟨rfl,rfl⟩

/-- A tap on the link button starts a countdown or leaves it as it is. -/
theorem linkBtnClicked_counts (s : MainViewController) : Counts s (linkBtnClicked s).2 .linkBtnClicked := by
  unfold linkBtnClicked
  split
  · exact .calm rfl (Or.inl ⟨rfl,rfl⟩)
  · simp only
    split
    · exact .calm rfl (disconnectVpn_calm {s with outoftimeShowed := false})
    · unfold connectVpn
      split
      · exact .calm rfl (Or.inl ⟨rfl,rfl⟩)
      · next over' => exact .started (Or.inr ⟨rfl,Int.not_lt.mp over'⟩) (by simp [addtagBtnClicked])

/-- Both handlers of the timer count down by one, or end the countdown. -/
theorem countDown_next (s : MainViewController) :
    ((countDown s).loadingTime = s.loadingTime - 1 ∧ (countDown s).codeTimer = s.codeTimer) ∨
      (countDown s).loadingTime ≤ 0 := by
  unfold countDown
  simp only
  split
  · exact Or.inl ⟨rfl,rfl⟩
  · next counted => split <;> exact Or.inr (Int.not_lt.mp counted)

theorem countDownAd_next (s : MainViewController) :
    ((countDownAd s).loadingTime = s.loadingTime - 1 ∧ (countDownAd s).codeTimer = s.codeTimer) ∨
      (countDownAd s).loadingTime ≤ 0 := by
  unfold countDownAd
  simp only
  split
  · exact Or.inl ⟨rfl,rfl⟩
  · next counted => exact Or.inr (Int.not_lt.mp counted)

/-- Whatever comes before in a handler leaves the countdown or ends it. -/
theorem next_of_calm (calm : Calm s t)
    (next : (u.loadingTime = t.loadingTime - 1 ∧ u.codeTimer = t.codeTimer) ∨ u.loadingTime ≤ 0) :
    (u.loadingTime = s.loadingTime - 1 ∧ u.codeTimer = s.codeTimer) ∨ u.loadingTime ≤ 0 := by
  rcases next with ⟨time,timer⟩ | ended
  · rcases calm with ⟨time',timer'⟩ | ended
    · exact Or.inl ⟨by rw [time,time'],timer.trans timer'⟩
    · exact Or.inr (by omega)
  · exact Or.inr ended

theorem getCodeTime_next (nowTm : Nat) (s : MainViewController) :
    ((getCodeTime nowTm s).loadingTime = s.loadingTime - 1 ∧ (getCodeTime nowTm s).codeTimer = s.codeTimer) ∨
      (getCodeTime nowTm s).loadingTime ≤ 0 := by
  have ended (s : MainViewController) : Calm s (linked s) := Or.inr (Int.le_refl 0)
  refine next_of_calm (?_ : Calm s _) (countDown_next _)
  split
  · split
    · exact Or.inr (Int.le_refl 0)
    · exact ended s
  · split
    · exact Or.inr (Int.le_refl 0)
    · exact .refl s

theorem incFreeGetCodeTime_next (isReady : Bool) (s : MainViewController) :
    ((incFreeGetCodeTime isReady s).loadingTime = s.loadingTime - 1 ∧
      (incFreeGetCodeTime isReady s).codeTimer = s.codeTimer) ∨ (incFreeGetCodeTime isReady s).loadingTime ≤ 0 := by
  have ended (t : MainViewController) : Calm s (stopCountdown t) := Or.inr (Int.le_refl 0)
  refine next_of_calm (?_ : Calm s _) (countDownAd_next _)
  split
  · split
    · exact ended (stopCountdown s)
    · exact ended s
  · split
    · exact ended s
    · exact .refl s

theorem onPage_counts {result : List Act × MainViewController} (counts : Counts s result.2 event)
    (stepped : (onPage s result).2 = some t) : Counts s t event := by
  unfold onPage at stepped
  split at stepped
  · cases stepped
  · cases stepped
    exact counts

/-- Every step leaves the countdown, starts or ends one, or counts it down by one. -/
theorem step_counts (stepped : (step s event).2 = some t) : Counts s t event := by
  cases event with
  | viewDidLoad =>
    cases stepped
    have shown : Calm s (initUI {s with rewardedInterstitialAd := false}) := by
      unfold initUI
      split <;> exact Or.inl ⟨rfl,rfl⟩
    exact .calm rfl (shown.trans (reloadBalance_calm _))
  | showAdsTimer index =>
    simp only [step] at stepped
    split at stepped
    · cases stepped
      exact .calm rfl (reloadBalance_calm {s with timers := s.timers.set index false})
    · cases stepped
  | notificationBalance => exact onPage_counts (.calm rfl (reloadBalance_calm s)) stepped
  | refreshFreeView => exact onPage_counts (.calm rfl (reloadBalance_calm s)) stepped
  | linkBtnClicked => exact onPage_counts (linkBtnClicked_counts s) stepped
  | didSelectRow => exact onPage_counts (.calm rfl (Or.inl ⟨rfl,rfl⟩)) stepped
  | clickIncreaseFreeTime =>
    exact onPage_counts (.started (Or.inl rfl) (by simp [clickIncreaseFreeTime])) stepped
  | codeTimer nowTm isReady =>
    obtain ⟨timer,running,same⟩ := Option.map_eq_some_iff.mp stepped
    have live : s.codeTimer ≠ none := by simp [running]
    cases timer with
    | getCodeTime => exact .ticked rfl live (same ▸ getCodeTime_next nowTm s)
    | incFreeGetCodeTime => exact .ticked rfl live (same ▸ incFreeGetCodeTime_next isReady s)
  | mainQueue index nodes =>
    simp only [step] at stepped
    split at stepped
    · cases stepped
    · next first found =>
      cases stepped
      exact .calm rfl (block_calm nodes first {s with blocks := s.blocks.eraseIdx index})
  | manager event =>
    cases stepped
    exact .calm rfl (onManager_calm event s)
  | tunnelStarts =>
    simp only [step] at stepped
    split at stepped
    · cases stepped
      exact .calm rfl (Or.inl ⟨rfl,rfl⟩)
    · cases stepped
  | tick nowDayTm =>
    simp only [step] at stepped
    split at stepped
    · cases stepped
      refine .calm rfl (Or.inl ?_)
      unfold tick
      split
      · simp only
        split <;> exact ⟨rfl,rfl⟩
      · exact ⟨rfl,rfl⟩
    · cases stepped
  | insAdLoaded =>
    cases stepped
    exact .calm rfl (Or.inl ⟨rfl,rfl⟩)
  | userDidEarnReward amount =>
    cases stepped
    exact .calm rfl (Or.inl ⟨rfl,rfl⟩)
  | insAdReward loaded =>
    cases stepped
    exact .calm rfl (Or.inl ⟨rfl,rfl⟩)
  | setVipLeftDays days =>
    cases stepped
    exact .calm rfl (Or.inl ⟨rfl,rfl⟩)
  | second =>
    cases stepped
    exact .calm rfl (Or.inl ⟨rfl,rfl⟩)
  | tunnelStops =>
    cases stepped
    exact .calm rfl (Or.inl ⟨rfl,rfl⟩)

theorem Counts.live (counts : Counts s t event) (live : Live s) : Live t := by
  intro positive
  cases counts with
  | calm silent calm =>
    rcases calm with ⟨time,timer⟩ | ended
    · exact timer ▸ live (time ▸ positive)
    · omega
  | started starts timer => exact timer
  | ticked ticks timer next =>
    rcases next with ⟨-,same⟩ | ended
    · exact same ▸ timer
    · omega

theorem keeps_live : main.Keeps Live (fun _ _ => True) :=
  fun _ _ _ live _ stepped => (step_counts stepped).live live

def countTicks (count : Nat) (_ : MainViewController) (event : MainEvent) : Nat :=
  if Ticks event then count + 1 else count

/-- While no tap starts another countdown, each tick takes one from it. -/
theorem Counts.ticks (counts : Counts s t event) (untapped : ¬Starts s event) {count : Nat} {time : Int}
    (counted : 0 < s.loadingTime → s.loadingTime + count ≤ time) :
    0 < t.loadingTime → t.loadingTime + (countTicks count s event : Nat) ≤ time := by
  intro positive
  cases counts with
  | calm silent calm =>
    rw [countTicks,silent]
    rcases calm with ⟨same,-⟩ | ended
    · rw [same] at positive ⊢
      exact counted positive
    · omega
  | started starts timer => exact absurd starts untapped
  | ticked ticks timer next =>
    rw [countTicks,if_pos ticks]
    rcases next with ⟨less,-⟩ | ended
    · have before := counted (by omega)
      push_cast
      omega
    · omega

/-- A positive countdown has a timer, each tick of which lowers it; and without another tap it is
positive for less ticks than it counts. -/
structure RunsOut (s : MainViewController) : Prop where
  lowers : 0 < s.loadingTime → ∀ nowTm isReady,
    ∃ t, (main.step s (.codeTimer nowTm isReady)).2 = some t ∧ t.loadingTime < s.loadingTime
  ends : ∀ rest, main.Along (fun s event => ¬Starts s event) s rest →
    (main.attend countTicks).Visits (fun (t,count) => 0 < t.loadingTime → t.loadingTime + count ≤ s.loadingTime)
      (s,0) rest

theorem runsOut_of_live (live : Live s) : RunsOut s where
  lowers positive nowTm isReady := by
    obtain ⟨timer,running⟩ := Option.ne_none_iff_exists'.mp (live positive)
    have stepped : ∃ t, (main.step s (.codeTimer nowTm isReady)).2 = some t := by
      simp [main,step,running]
    obtain ⟨t,stepped⟩ := stepped
    refine ⟨t,stepped,?_⟩
    cases step_counts stepped with
    | calm silent calm => cases silent
    | started starts timer => rcases starts with impossible | ⟨impossible,-⟩ <;> cases impossible
    | ticked ticks timer next =>
      rcases next with ⟨less,-⟩ | ended
      · omega
      · omega
  ends rest untapped := by
    have keeps : (main.attend countTicks).Keeps
        (fun (t,count) => 0 < t.loadingTime → t.loadingTime + count ≤ s.loadingTime)
        (fun noted event => ¬Starts noted.1 event) := by
      rintro ⟨t,count⟩ event next counted untapped stepped
      obtain ⟨u,taken,rfl⟩ := Machine.attend_step stepped
      exact (step_counts taken).ticks untapped counted
    exact Machine.Along.visits keeps (fun _ => by simp) (Machine.along_attend.mpr untapped)

/-- In every state that a run of the page reaches, the countdown runs out. -/
theorem countdown_runsOut (left today : Nat) (days : Int) (tunnel : Option Bool) (events : List MainEvent) :
    main.Visits RunsOut (launched left today days tunnel) events :=
  (keeps_live.visits (fun positive => by cases positive) events).imp fun _ => runsOut_of_live

end MainViewController
end TenonVpn.FreeUse
