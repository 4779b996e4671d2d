import TenonVpn.FreeTime
import TenonVpn.StreamCipher

/-! The timer of `StartFreeTimeTimer`, one tick at a time: every tick checks and charges the
stored time before it looks at the stored day, and `InitP2pNetwork` of the app renews a day
in the same way. -/
namespace TenonVpn

structure FreeTimeTimer where
  mLeftFreeUseTimeMilli : Int
  mTodayFreeDayTm : Int
deriving DecidableEq

namespace FreeTimeTimer

def nowDayTm (milliStamp : Nat) : Nat := milliStamp / (24 * 3600 * 1000)

def newDay (milliStamp : Nat) (s : FreeTimeTimer) : FreeTimeTimer :=
  if s.mTodayFreeDayTm ≠ nowDayTm milliStamp then ⟨3600 * 1000,nowDayTm milliStamp⟩ else s

/-- A tick without a next state is the exit of the process. -/
def tick (milliStamp : Nat) (s : FreeTimeTimer) : Option FreeTimeTimer :=
  if 1000 ≤ s.mLeftFreeUseTimeMilli then
    some (newDay milliStamp {s with mLeftFreeUseTimeMilli := s.mLeftFreeUseTimeMilli - 1000})
  else none

def startFreeTimeTimer : Machine FreeTimeTimer Nat Empty := ⟨fun s milliStamp => ([],tick milliStamp s)⟩

def initP2pNetwork (milliStamp : Nat) (s : FreeTimeTimer) : FreeTimeTimer := newDay milliStamp s

/-- The tick exits only on a day that has been granted its time, with less than a second of it left. -/
def ExitsSpent (s : FreeTimeTimer) (milliStamp : Nat) : Prop :=
  tick milliStamp s = none → s.mTodayFreeDayTm = nowDayTm milliStamp ∧ s.mLeftFreeUseTimeMilli < 1000

instance (s : FreeTimeTimer) (milliStamp : Nat) : Decidable (ExitsSpent s milliStamp) :=
  inferInstanceAs (Decidable (_ → _))

/-- How many of the ticks come on the stored day, before any other day, and then on each day that follows. -/
def ticksPerDay (today : Int) : List Nat → List Nat
  | [] => [0]
  | milliStamp :: rest =>
    match ticksPerDay (nowDayTm milliStamp) rest with
    | [] => []
    | count :: later => if today = nowDayTm milliStamp then (count + 1) :: later else 0 :: (count + 1) :: later

/-- No day that another one follows has exactly the ticks it can pay, the seconds of the stored
day or the 3601 of a day that a tick grants; a day with more ticks ends the timer. -/
def LastsOver (seconds : Nat) : List Nat → Prop
  | count :: next :: later => count ≠ seconds ∧ (count < seconds → LastsOver 3601 (next :: later))
  | [_] | [] => True

instance decidableLastsOver : (seconds : Nat) → (ticks : List Nat) → Decidable (LastsOver seconds ticks)
  | seconds, count :: next :: later =>
    have := decidableLastsOver 3601 (next :: later)
    inferInstanceAs (Decidable (count ≠ seconds ∧ (count < seconds → LastsOver 3601 (next :: later))))
  | _, [_] | _, [] => isTrue trivial

theorem tick_eq_none {s : FreeTimeTimer} {milliStamp : Nat} :
    tick milliStamp s = none ↔ s.mLeftFreeUseTimeMilli < 1000 := by
  simp [tick]

theorem newDay_today (milliStamp : Nat) (s : FreeTimeTimer) :
    (newDay milliStamp s).mTodayFreeDayTm = nowDayTm milliStamp := by
  unfold newDay
  split
  · rfl
  · next same => exact not_not.mp same

theorem tick_sameDay {s : FreeTimeTimer} {milliStamp : Nat} (enough : 1000 ≤ s.mLeftFreeUseTimeMilli)
    (same : s.mTodayFreeDayTm = nowDayTm milliStamp) :
    tick milliStamp s = some {s with mLeftFreeUseTimeMilli := s.mLeftFreeUseTimeMilli - 1000} := by
  simp [tick,newDay,enough,same]

theorem tick_otherDay {s : FreeTimeTimer} {milliStamp : Nat} (enough : 1000 ≤ s.mLeftFreeUseTimeMilli)
    (other : s.mTodayFreeDayTm ≠ nowDayTm milliStamp) :
    tick milliStamp s = some ⟨3600 * 1000,nowDayTm milliStamp⟩ := by
  simp [tick,newDay,enough,other]

theorem ticksPerDay_eq_cons (today : Int) (readings : List Nat) :
    ∃ count later, ticksPerDay today readings = count :: later := by
  induction readings generalizing today with
  | nil => exact ⟨0,[],rfl⟩
  | cons milliStamp rest ih =>
    obtain ⟨count,later,counted⟩ := ih (nowDayTm milliStamp)
    simp only [ticksPerDay,counted]
    split
    · exact ⟨count + 1,later,rfl⟩
    · exact ⟨0,(count + 1) :: later,rfl⟩

theorem lastsOver_succ (seconds count : Nat) (later : List Nat) :
    LastsOver (seconds + 1) ((count + 1) :: later) ↔ LastsOver seconds (count :: later) := by
  cases later with
  | nil => exact Iff.rfl
  | cons next later => simp only [LastsOver,ne_eq,Nat.add_right_cancel_iff,Nat.add_lt_add_iff_right]

theorem lastsOver_zero (count : Nat) (later : List Nat) : LastsOver 0 ((count + 1) :: later) := by
  cases later with
  | nil => trivial
  | cons next later => exact ⟨Nat.succ_ne_zero count,fun less => absurd less (Nat.not_lt_zero _)⟩

/-- The process exits only on spent days exactly where no day ends with its last second used up. -/
theorem exits_spent_iff (s : FreeTimeTimer) (readings : List Nat) :
    startFreeTimeTimer.Along ExitsSpent s readings ↔
      LastsOver (s.mLeftFreeUseTimeMilli.toNat / 1000) (ticksPerDay s.mTodayFreeDayTm readings) := by
  induction readings generalizing s with
  | nil => exact ⟨fun _ => trivial,fun _ => trivial⟩
  | cons milliStamp rest ih =>
    obtain ⟨count,later,counted⟩ := ticksPerDay_eq_cons (nowDayTm milliStamp) rest
    have along : startFreeTimeTimer.Along ExitsSpent s (milliStamp :: rest) ↔
        ExitsSpent s milliStamp ∧
          ∀ next, tick milliStamp s = some next → startFreeTimeTimer.Along ExitsSpent next rest := Iff.rfl
    rw [along,ticksPerDay,counted]
    by_cases enough : 1000 ≤ s.mLeftFreeUseTimeMilli
    · have stays : ExitsSpent s milliStamp := fun exits => absurd enough (Int.not_le.mpr (tick_eq_none.mp exits))
      have paid : s.mLeftFreeUseTimeMilli.toNat / 1000 = (s.mLeftFreeUseTimeMilli - 1000).toNat / 1000 + 1 := by omega
      rw [and_iff_right stays,paid]
      by_cases same : s.mTodayFreeDayTm = nowDayTm milliStamp
      · simp only [tick_sameDay enough same,Option.some.injEq,forall_eq',ih,same,counted]
        exact (lastsOver_succ _ count later).symm
      · simp only [tick_otherDay enough same,Option.some.injEq,forall_eq',ih,if_neg same,counted]
        rw [← lastsOver_succ]
        simp [LastsOver]
    · have exits : tick milliStamp s = none := tick_eq_none.mpr (Int.not_le.mp enough)
      have spent : s.mLeftFreeUseTimeMilli.toNat / 1000 = 0 := by omega
      rw [spent]
      by_cases same : s.mTodayFreeDayTm = nowDayTm milliStamp
      · have rightly : ExitsSpent s milliStamp := fun _ => ⟨same,Int.not_le.mp enough⟩
        simp [exits,rightly,if_pos same,lastsOver_zero]
      · have wrongly : ¬ExitsSpent s milliStamp := fun met => same (met exits).1
        simp [wrongly,if_neg same,LastsOver]

/-- The hour of the stored day is used up, and the first tick of the next day exits. -/
theorem exits_before_grant :
    ¬∀ s readings, List.Pairwise (· ≤ ·) readings → startFreeTimeTimer.Along ExitsSpent s readings := by
  intro spent
  exact absurd (spent ⟨0,18999⟩ [19000 * 86400000] (by decide)) (by decide)

/-- After `InitP2pNetwork` no tick of the same day exits before the time granted for it is spent. -/
theorem initP2pNetwork_spent (s : FreeTimeTimer) (launch : Nat) (readings : List Nat)
    (sameDay : ∀ milliStamp ∈ readings, nowDayTm milliStamp = nowDayTm launch) :
    startFreeTimeTimer.Along ExitsSpent (initP2pNetwork launch s) readings := by
  have renewed := newDay_today launch s
  rw [initP2pNetwork]
  generalize newDay launch s = granted at renewed ⊢
  induction readings generalizing granted with
  | nil => trivial
  | cons milliStamp rest ih =>
    have today : granted.mTodayFreeDayTm = nowDayTm milliStamp := by
      rw [renewed,sameDay milliStamp List.mem_cons_self]
    refine ⟨fun exits => ⟨today,tick_eq_none.mp exits⟩,fun next ticked => ih ?_ next ?_⟩
    · exact fun later member => sameDay later (List.mem_cons_of_mem _ member)
    · by_cases enough : 1000 ≤ granted.mLeftFreeUseTimeMilli
      · rw [show (startFreeTimeTimer.step granted milliStamp).2 = tick milliStamp granted from rfl,
          tick_sameDay enough today] at ticked
        cases ticked
        exact renewed
      · cases ticked.symm.trans (tick_eq_none.mpr (Int.not_le.mp enough))

def stored (s : FreeTime) : FreeTimeTimer := ⟨s.left,s.today⟩

theorem stored_enough {s : FreeTime} : 1000 ≤ (stored s).mLeftFreeUseTimeMilli ↔ 1000 ≤ s.left := by
  dsimp only [stored]
  omega

theorem stored_sameDay {s : FreeTime} {milliStamp : Nat} :
    (stored s).mTodayFreeDayTm = nowDayTm milliStamp ↔ s.today = nowDayTm milliStamp := by
  dsimp only [stored]
  omega

/-- An uninterrupted tick of the extension reads and writes step by step what `tick` does at once. -/
theorem freeTime_tick (s : FreeTime) (milliStamp : Nat) (waiting : s.tick = .waiting) :
    ∃ steps t, FreeTime.freeTime.after s (.tick :: steps) = some t ∧
      (∀ event ∈ steps, event = .tickContinues (nowDayTm milliStamp)) ∧
      match tick milliStamp (stored s) with
      | none => t.tick = .exited
      | some next => t.tick = .waiting ∧ stored t = next := by
  by_cases enough : 1000 ≤ s.left
  · by_cases same : s.today = nowDayTm milliStamp
    · refine ⟨[.tickContinues (nowDayTm milliStamp),.tickContinues (nowDayTm milliStamp)],
        {s with left := s.left - 1000, tick := .waiting},?_,by simp,?_⟩
      · simp [Machine.after,FreeTime.freeTime,FreeTime.step,FreeTime.tickContinues,waiting,enough,same]
      · rw [tick_sameDay (stored_enough.mpr enough) (stored_sameDay.mpr same)]
        exact ⟨rfl,by simp only [stored,Int.ofNat_sub enough,Int.cast_ofNat_Int]⟩
    · refine ⟨[.tickContinues (nowDayTm milliStamp),.tickContinues (nowDayTm milliStamp),
        .tickContinues (nowDayTm milliStamp)],
        {s with left := 3600 * 1000, today := nowDayTm milliStamp, tick := .waiting},?_,by simp,?_⟩
      · simp [Machine.after,FreeTime.freeTime,FreeTime.step,FreeTime.tickContinues,waiting,enough,same]
      · rw [tick_otherDay (stored_enough.mpr enough) (mt stored_sameDay.mp same)]
        exact ⟨rfl,rfl⟩
  · refine ⟨[],{s with tick := .exited},?_,by simp,?_⟩
    · simp [Machine.after,FreeTime.freeTime,FreeTime.step,waiting,enough]
    · rw [tick_eq_none.mpr (Int.not_le.mp (mt stored_enough.mp enough))]

end FreeTimeTimer
end TenonVpn
