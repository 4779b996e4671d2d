import TenonVpn.FreeTime

/-! The free time of a VIP: a `reloadBalance` that runs from its read to its write while no
tick is under way leaves enough for the next tick, whatever is written in between. -/
namespace TenonVpn

/-- How far `reloadBalance` has come since the end of the last tick. -/
inductive Refill
  | missing
  | reading
  | complete
deriving DecidableEq

namespace FreeTime

def BetweenTicks (s : FreeTime) : Prop := s.tick = .waiting ∨ s.tick = .exited

instance : DecidablePred BetweenTicks := fun _ => inferInstanceAs (Decidable (_ ∨ _))

def refill (x : Refill) (s : FreeTime) : FreeTimeEvent → Refill
  | .tick => .missing
  | .reloadBalance =>
    if x = .missing ∧ BetweenTicks s then
      if (reloadBalance s).app = none then .complete else .reading
    else x
  | .appWrites => if x = .reading then .complete else x
  | .appStops => if x = .reading then .missing else x
  | _ => x

/-- The tick finds less than a second and ends the process. -/
def Exits (s : FreeTime) (event : FreeTimeEvent) : Prop :=
  event = .tick ∧ ∃ t ∈ (step s .tick).2, t.tick = .exited

structure Refilled (state : FreeTime × Refill) : Prop where
  isVip : state.1.isVip = true
  update : ∀ update, state.1.app = some update →
    update = .topUp ∨ ∃ read val, update = .changeFreeUseTimeMilli read val ∧ 2000 ≤ val
  reading : state.2 = .reading → state.1.app = some .topUp ∧ BetweenTicks state.1
  complete : state.2 = .complete → 2000 ≤ state.1.left ∧ BetweenTicks state.1

theorem exits_iff {s : FreeTime} {event : FreeTimeEvent} :
    Exits s event ↔ event = .tick ∧ s.tick = .waiting ∧ s.left < 1000 := by
  refine and_congr_right fun _ => ?_
  by_cases waiting : s.tick = .waiting
  · by_cases enough : 1000 ≤ s.left
    · simp [step,waiting,enough,Nat.not_lt.mpr enough]
    · simp [step,waiting,enough,Nat.not_le.mp enough]
  · simp [step,waiting]

theorem reward_ge (amount : Int) : 2000 ≤ reward amount := by
  unfold reward
  split
  · decide
  · split <;> decide

theorem insAdReward_ge (loaded : Bool) : 2000 ≤ insAdReward loaded := by cases loaded <;> decide

theorem reloadBalance_vip {s : FreeTime} (vip : s.isVip = true) :
    reloadBalance s = if s.left < 2000 then {s with app := some .topUp} else s := by
  rw [reloadBalance,if_pos vip]

theorem refilled_granting {s : FreeTime} {x : Refill} {val : Nat} (inv : Refilled (s,x)) (idle : s.app = none)
    (enough : 2000 ≤ val) : Refilled (changeFreeUseTimeMilli val s,x) where
  isVip := inv.isVip
  update update pending := by
    cases pending
    exact Or.inr ⟨s.left,val,rfl,enough⟩
  reading begun := by
    have pending := (inv.reading begun).1
    rw [idle] at pending
    cases pending
  complete := inv.complete

theorem not_reading {s : FreeTime} {x : Refill} (inv : Refilled (s,x)) (idle : s.app = none) : x ≠ .reading := by
  intro begun
  have pending := (inv.reading begun).1
  rw [idle] at pending
  cases pending

theorem refilled_reloadBalance {s : FreeTime} {x : Refill} (inv : Refilled (s,x)) (idle : s.app = none) :
    Refilled (reloadBalance s,refill x s .reloadBalance) := by
  have other := not_reading inv idle
  simp only [refill,reloadBalance_vip inv.isVip]
  by_cases short : s.left < 2000
  · simp only [if_pos short]
    by_cases starts : x = .missing ∧ BetweenTicks s
    · rw [if_pos starts,if_neg (by simp)]
      refine ⟨inv.isVip,fun update pending => ?_,fun _ => ⟨rfl,starts.2⟩,fun done => (by cases done)⟩
      cases pending
      exact Or.inl rfl
    · rw [if_neg starts]
      refine ⟨inv.isVip,fun update pending => ?_,fun begun => absurd begun other,inv.complete⟩
      cases pending
      exact Or.inl rfl
  · simp only [if_neg short,if_pos idle]
    by_cases starts : x = .missing ∧ BetweenTicks s
    · rw [if_pos starts]
      exact ⟨inv.isVip,inv.update,fun begun => (by cases begun),fun _ => ⟨Nat.not_lt.mp short,starts.2⟩⟩
    · rw [if_neg starts]
      exact inv

theorem refilled_written {s : FreeTime} {x : Refill} {left : Nat} (inv : Refilled (s,x)) (enough : 2000 ≤ left) :
    Refilled ({s with left, app := none},refill x s .appWrites) := by
  refine ⟨inv.isVip,by simp,fun begun => ?_,fun done => ⟨enough,?_⟩⟩
  · simp only [refill] at begun
    split at begun
    · cases begun
    · next other => exact absurd begun other
  · simp only [refill] at done
    split at done
    · next begun => exact (inv.reading begun).2
    · exact (inv.complete done).2

theorem refilled_appWrites {s t : FreeTime} {x : Refill} (inv : Refilled (s,x)) (wrote : (appWrites s).2 = some t) :
    Refilled (t,refill x s .appWrites) := by
  cases pending : s.app with
  | none => simp [appWrites,pending] at wrote
  | some update =>
    rcases inv.update update pending with rfl | ⟨read,val,rfl,enough⟩
    · simp only [appWrites,pending,Option.some.injEq] at wrote
      subst wrote
      exact refilled_written inv (by decide)
    · simp only [appWrites,pending,Option.some.injEq] at wrote
      subst wrote
      exact refilled_written inv (Nat.le_add_left_of_le enough)

theorem refilled_tickContinues {s t : FreeTime} {x : Refill} {nowDayTm : Nat} (inv : Refilled (s,x))
    (continued : (tickContinues nowDayTm s).2 = some t) : Refilled (t,x) := by
  have within : ¬BetweenTicks s := by
    rintro (waiting | exited)
    · simp [tickContinues,waiting] at continued
    · simp [tickContinues,exited] at continued
  have frame : t.isVip = s.isVip ∧ t.app = s.app := by
    cases position : s.tick with
    | subtract read =>
      simp only [tickContinues,position,Option.some.injEq] at continued
      subst continued
      exact ⟨rfl,rfl⟩
    | day =>
      simp only [tickContinues,position,Option.some.injEq] at continued
      subst continued
      split <;> exact ⟨rfl,rfl⟩
    | reset =>
      simp only [tickContinues,position,Option.some.injEq] at continued
      subst continued
      exact ⟨rfl,rfl⟩
    | waiting => exact absurd (Or.inl position) within
    | exited => exact absurd (Or.inr position) within
  exact ⟨frame.1 ▸ inv.isVip,frame.2 ▸ inv.update,fun begun => absurd (inv.reading begun).2 within,
    fun done => absurd (inv.complete done).2 within⟩

theorem refilled_step {s t : FreeTime} {x : Refill} {event : FreeTimeEvent} (inv : Refilled (s,x))
    (stays : event ≠ .setVip false) (stepped : (step s event).2 = some t) : Refilled (t,refill x s event) := by
  obtain ⟨isVip,update,reading,complete⟩ := inv
  cases event with
  | userDidEarnReward amount =>
    obtain ⟨idle,rfl⟩ := onMain_eq_some.mp stepped
    exact refilled_granting ⟨isVip,update,reading,complete⟩ idle (reward_ge amount)
  | insAdReward loaded =>
    obtain ⟨idle,rfl⟩ := onMain_eq_some.mp stepped
    exact refilled_granting ⟨isVip,update,reading,complete⟩ idle (insAdReward_ge loaded)
  | reloadBalance =>
    obtain ⟨idle,rfl⟩ := onMain_eq_some.mp stepped
    exact refilled_reloadBalance ⟨isVip,update,reading,complete⟩ idle
  | appWrites => exact refilled_appWrites ⟨isVip,update,reading,complete⟩ stepped
  | setVip vip =>
    obtain ⟨-,rfl⟩ := onMain_eq_some.mp stepped
    refine ⟨?_,update,reading,complete⟩
    cases vip with
    | false => exact absurd rfl stays
    | true => rfl
  | setLink isLink =>
    obtain ⟨-,rfl⟩ := onMain_eq_some.mp stepped
    exact ⟨isVip,update,reading,complete⟩
  | appStops =>
    cases stepped
    refine ⟨isVip,by simp,fun begun => ?_,fun done => ?_⟩
    · simp only [refill] at begun
      split at begun
      · cases begun
      · next other => exact absurd begun other
    · simp only [refill] at done
      split at done
      · cases done
      · exact complete done
  | tunnelStarts =>
    simp only [step,Option.ite_none_right_eq_some,Option.some.injEq] at stepped
    obtain ⟨-,rfl⟩ := stepped
    exact ⟨isVip,update,fun begun => ⟨(reading begun).1,Or.inl rfl⟩,fun done => ⟨(complete done).1,Or.inl rfl⟩⟩
  | tick =>
    simp only [step,Option.ite_none_right_eq_some,Option.some.injEq] at stepped
    obtain ⟨-,rfl⟩ := stepped
    exact ⟨isVip,update,fun begun => (by cases begun),fun done => (by cases done)⟩
  | tickContinues nowDayTm => exact refilled_tickContinues ⟨isVip,update,reading,complete⟩ stepped
  | tunnelStops =>
    cases stepped
    exact ⟨isVip,update,fun begun => ⟨(reading begun).1,Or.inr rfl⟩,fun done => ⟨(complete done).1,Or.inr rfl⟩⟩

/-- A VIP is not cut off: if every tick comes after a whole `reloadBalance` since the last one,
then no tick exits, however the steps of the app and of the extension alternate. -/
theorem vip_not_cut_off (s : FreeTime) (run : List FreeTimeEvent) (idle : Idle s) (vip : s.isVip = true)
    (stays : freeTime.Along (fun _ event => event ≠ .setVip false) s run)
    (refilled : (freeTime.attend refill).Along (fun state event => event = .tick → state.2 = .complete)
      (s,.missing) run) :
    freeTime.Along (fun s event => ¬Exits s event) s run := by
  have start : Refilled (s,.missing) :=
    ⟨vip,by simp [idle.app],fun begun => (by cases begun),fun done => (by cases done)⟩
  have keeps : (freeTime.attend refill).Keeps Refilled (fun state event =>
      event ≠ .setVip false ∧ (event = .tick → state.2 = .complete)) := by
    rintro ⟨s,x⟩ event next inv ⟨stays,-⟩ stepped
    obtain ⟨t,taken,rfl⟩ := Machine.attend_step stepped
    exact refilled_step inv stays taken
  have both := Machine.along_and.mpr ⟨Machine.along_attend.mpr stays,refilled⟩
  refine Machine.along_attend.mp (Machine.Along.imp keeps ?_ start both)
  rintro ⟨s,x⟩ event inv ⟨-,complete⟩ exits
  obtain ⟨rfl,-,short⟩ := exits_iff.mp exits
  have enough := (inv.complete (complete rfl)).1
  exact absurd enough (Nat.not_le.mpr (Nat.lt_trans short (by decide)))

/-- Half a second is stored, and the second tick comes after a tick that finds a new day. -/
theorem spent_vip_not_cut_off :
    freeTime.Along (fun s event => ¬Exits s event) ⟨500,0,true,true,none,.waiting⟩
      [.reloadBalance,.appWrites,.tick,.reloadBalance,.tickContinues 1,.tickContinues 1,.tickContinues 1,
        .reloadBalance,.tick] :=
  vip_not_cut_off _ _ ⟨rfl,Or.inl rfl⟩ rfl (by decide) (by decide)

end FreeTime
end TenonVpn
