import TenonVpn.Machine

/-! The free time `mLeftFreeUseTimeMilli` of the app group. `ChangeFreeUseTimeMilli` and
`reloadBalance` on the main thread of the app and the tick of `StartFreeTimeTimer` in the
extension read it in one step and write it back in a later one. -/
namespace TenonVpn

/-- What the main thread of the app has read and not yet written back. -/
inductive AppUpdate
  | changeFreeUseTimeMilli (read val : Nat)
  | charge (read : Nat)
  | topUp
deriving DecidableEq

inductive TickPosition
  | waiting
  | subtract (read : Nat)
  | day
  | reset
  | exited
deriving DecidableEq

structure FreeTime where
  left : Nat
  today : Nat
  isVip : Bool
  isLink : Bool
  app : Option AppUpdate
  tick : TickPosition

inductive FreeTimeEvent
  | userDidEarnReward (amount : Int)
  | insAdReward (loaded : Bool)
  | reloadBalance
  | appWrites
  | setVip (isVip : Bool)
  | setLink (isLink : Bool)
  | appStops
  | tunnelStarts
  | tick
  | tickContinues (nowDayTm : Nat)
  | tunnelStops
deriving DecidableEq

inductive Change
  | granted (val : Nat)
  | charged (val : Nat)
  | replaced
deriving DecidableEq

namespace FreeTime

def changeFreeUseTimeMilli (val : Nat) (s : FreeTime) : FreeTime :=
  {s with app := some (.changeFreeUseTimeMilli s.left val)}

def reward (amount : Int) : Nat :=
  if 5 ≤ amount then 30 * 60 * 1000 else if 3 ≤ amount then 25 * 60 * 1000 else 20 * 60 * 1000

/-- What the handler of `showInsAd` grants: it compares the pointer of an amount with 5, and
takes it from the next advert, if that is loaded by then. -/
def insAdReward (loaded : Bool) : Nat := if loaded then 30 * 60 * 1000 else 20 * 60 * 1000

def reloadBalance (s : FreeTime) : FreeTime :=
  if s.isVip then
    if s.left < 2000 then {s with app := some .topUp} else s
  else if s.isLink = false ∧ 1000 ≤ s.left then {s with app := some (.charge s.left)}
  else s

def appWrites (s : FreeTime) : List Change × Option FreeTime :=
  match s.app with
  | none => ([],none)
  | some (.changeFreeUseTimeMilli read val) => ([.granted val],some {s with left := read + val, app := none})
  | some (.charge read) => ([.charged 1000],some {s with left := read - 1000, app := none})
  | some .topUp => ([.replaced],some {s with left := 3600 * 1000, app := none})

def tickContinues (nowDayTm : Nat) (s : FreeTime) : List Change × Option FreeTime :=
  match s.tick with
  | .subtract read => ([.charged 1000],some {s with left := read - 1000, tick := .day})
  | .day =>
    ([],some (if s.today = nowDayTm then {s with tick := .waiting} else {s with today := nowDayTm, tick := .reset}))
  | .reset => ([.replaced],some {s with left := 3600 * 1000, tick := .waiting})
  | .waiting | .exited => ([],none)

def onMain (s next : FreeTime) : List Change × Option FreeTime :=
  ([],if s.app = none then some next else none)

def step (s : FreeTime) : FreeTimeEvent → List Change × Option FreeTime
  | .userDidEarnReward amount => onMain s (changeFreeUseTimeMilli (reward amount) s)
  | .insAdReward loaded => onMain s (changeFreeUseTimeMilli (insAdReward loaded) s)
  | .reloadBalance => onMain s (reloadBalance s)
  | .appWrites => appWrites s
  | .setVip isVip => onMain s {s with isVip}
  | .setLink isLink => onMain s {s with isLink}
  | .appStops => ([],some {s with app := none})
  | .tunnelStarts => ([],if s.tick = .exited then some {s with tick := .waiting} else none)
  | .tick =>
    ([],if s.tick = .waiting then some {s with tick := if 1000 ≤ s.left then .subtract s.left else .exited} else none)
  | .tickContinues nowDayTm => tickContinues nowDayTm s
  | .tunnelStops => ([],some {s with tick := .exited})

def freeTime : Machine FreeTime FreeTimeEvent Change := ⟨step⟩

def account : Monitor (Nat × Nat) Change where
  next := fun (granted,charged) change =>
    match change with
    | .granted val => (granted + val,charged)
    | .charged val => (granted,charged + val)
    | .replaced => (granted,charged)
  ok _ _ := True

structure Idle (s : FreeTime) : Prop where
  app : s.app = none
  tick : s.tick = .waiting ∨ s.tick = .exited

/-- The step starts no VIP top-up and no reset for a new day. -/
def Period (s : FreeTime) : FreeTimeEvent → Prop
  | .reloadBalance => s.isVip = true → 2000 ≤ s.left
  | .tickContinues nowDayTm => s.tick = .day → s.today = nowDayTm
  | _ => True

instance (s : FreeTime) : (event : FreeTimeEvent) → Decidable (Period s event)
  | .reloadBalance => inferInstanceAs (Decidable (_ → _))
  | .tickContinues _ => inferInstanceAs (Decidable (_ → _))
  | .userDidEarnReward _ | .insAdReward _ | .appWrites | .setVip _ | .setLink _ | .appStops | .tunnelStarts
  | .tick | .tunnelStops => isTrue trivial

/-- No update is lost: the value is the initial one with all rewards less all charges. -/
def Kept (initial : Nat) (state : FreeTime × Nat × Nat) : Prop :=
  state.1.left + state.2.2 = initial + state.2.1

instance (initial : Nat) : DecidablePred (Kept initial) := fun _ => inferInstanceAs (Decidable (_ = _))

def basis (s : FreeTime) : FreeTimeEvent → Option Nat
  | .appWrites =>
    match s.app with
    | some (.changeFreeUseTimeMilli read _) => some read
    | some (.charge read) => some read
    | _ => none
  | .tickContinues _ =>
    match s.tick with
    | .subtract read => some read
    | _ => none
  | _ => none

/-- A step that writes finds the value that its own read found. -/
def Fresh (s : FreeTime) (event : FreeTimeEvent) : Prop := ∀ read ∈ s.basis event, read = s.left

instance (s : FreeTime) (event : FreeTimeEvent) : Decidable (Fresh s event) :=
  inferInstanceAs (Decidable (∀ read ∈ s.basis event, read = s.left))

/-- Whoever is to write a second less has read at least a second. -/
structure Covered (s : FreeTime) : Prop where
  charge : ∀ read, s.app = some (.charge read) → 1000 ≤ read
  subtract : ∀ read, s.tick = .subtract read → 1000 ≤ read

structure Ordinary (s : FreeTime) : Prop extends Covered s where
  app : s.app ≠ some .topUp
  tick : s.tick ≠ .reset

theorem onMain_eq_some {s next t : FreeTime} : (onMain s next).2 = some t ↔ s.app = none ∧ next = t := by
  simp [onMain]

theorem reloadBalance_cases {s : FreeTime} (enough : s.isVip = true → 2000 ≤ s.left) :
    reloadBalance s = s ∨ reloadBalance s = {s with app := some (.charge s.left)} ∧ 1000 ≤ s.left := by
  unfold reloadBalance
  split
  · next vip =>
    rw [if_neg (Nat.not_lt.mpr (enough vip))]
    exact Or.inl rfl
  · split
    · next charged => exact Or.inr ⟨rfl,charged.2⟩
    · exact Or.inl rfl

theorem reloadBalance_app {s : FreeTime} {read : Nat} (charging : (reloadBalance s).app = some (.charge read))
    (idle : s.app = none) : 1000 ≤ read := by
  unfold reloadBalance at charging
  split at charging
  · split at charging
    · simp at charging
    · simp [idle] at charging
  · split at charging
    · next charged =>
      cases charging
      exact charged.2
    · simp [idle] at charging

theorem reloadBalance_tick (s : FreeTime) : (reloadBalance s).tick = s.tick := by
  unfold reloadBalance
  split
  · split <;> rfl
  · split <;> rfl

theorem covered_step {s t : FreeTime} {event : FreeTimeEvent} (covered : Covered s)
    (stepped : (step s event).2 = some t) : Covered t := by
  obtain ⟨charge,subtract⟩ := covered
  cases event with
  | userDidEarnReward amount =>
    obtain ⟨-,rfl⟩ := onMain_eq_some.mp stepped
    exact ⟨by simp [changeFreeUseTimeMilli],subtract⟩
  | insAdReward loaded =>
    obtain ⟨-,rfl⟩ := onMain_eq_some.mp stepped
    exact ⟨by simp [changeFreeUseTimeMilli],subtract⟩
  | reloadBalance =>
    obtain ⟨idle,rfl⟩ := onMain_eq_some.mp stepped
    exact ⟨fun read charging => reloadBalance_app charging idle,by rwa [reloadBalance_tick]⟩
  | appWrites =>
    simp only [step,appWrites] at stepped
    split at stepped <;> simp only [Option.some.injEq,reduceCtorEq] at stepped <;> subst stepped <;>
      exact ⟨by simp,subtract⟩
  | setVip isVip =>
    obtain ⟨-,rfl⟩ := onMain_eq_some.mp stepped
    exact ⟨charge,subtract⟩
  | setLink isLink =>
    obtain ⟨-,rfl⟩ := onMain_eq_some.mp stepped
    exact ⟨charge,subtract⟩
  | appStops =>
    cases stepped
    exact ⟨by simp,subtract⟩
  | tunnelStarts =>
    simp only [step,Option.ite_none_right_eq_some,Option.some.injEq] at stepped
    obtain ⟨-,rfl⟩ := stepped
    exact ⟨charge,by simp⟩
  | tick =>
    simp only [step,Option.ite_none_right_eq_some,Option.some.injEq] at stepped
    obtain ⟨-,rfl⟩ := stepped
    refine ⟨charge,fun read found => ?_⟩
    dsimp only at found
    split at found
    · next enough =>
      cases found
      exact enough
    · cases found
  | tickContinues nowDayTm =>
    simp only [step,tickContinues] at stepped
    split at stepped <;> simp only [Option.some.injEq,reduceCtorEq] at stepped <;> subst stepped
    · exact ⟨charge,by simp⟩
    · split <;> exact ⟨charge,by simp⟩
    · exact ⟨charge,by simp⟩
  | tunnelStops =>
    cases stepped
    exact ⟨charge,by simp⟩

inductive Writes (s t : FreeTime) (event : FreeTimeEvent) : Prop
  | nothing (basis : s.basis event = none) (silent : (step s event).1 = []) (same : t.left = s.left)
  | granted (read val : Nat) (basis : s.basis event = some read) (grants : (step s event).1 = [.granted val])
    (sum : t.left = read + val)
  | charged (read val : Nat) (basis : s.basis event = some read) (charges : (step s event).1 = [.charged val])
    (difference : t.left + val = read)

theorem appWrites_writes {s t : FreeTime} (ordinary : Ordinary s) (wrote : (appWrites s).2 = some t) :
    Ordinary t ∧ Writes s t .appWrites := by
  have covered : Covered t := @covered_step s t .appWrites ordinary.toCovered wrote
  cases pending : s.app with
  | none => simp [appWrites,pending] at wrote
  | some update =>
    cases update with
    | changeFreeUseTimeMilli read val =>
      simp only [appWrites,pending,Option.some.injEq] at wrote
      subst wrote
      exact ⟨⟨covered,by simp,ordinary.tick⟩,
        .granted read val (by simp [basis,pending]) (by simp [step,appWrites,pending]) rfl⟩
    | charge read =>
      simp only [appWrites,pending,Option.some.injEq] at wrote
      subst wrote
      exact ⟨⟨covered,by simp,ordinary.tick⟩,
        .charged read 1000 (by simp [basis,pending]) (by simp [step,appWrites,pending])
          (Nat.sub_add_cancel (ordinary.charge read pending))⟩
    | topUp => exact absurd pending ordinary.app

theorem tickContinues_writes {s t : FreeTime} {nowDayTm : Nat} (ordinary : Ordinary s)
    (sameDay : s.tick = .day → s.today = nowDayTm) (continued : (tickContinues nowDayTm s).2 = some t) :
    Ordinary t ∧ Writes s t (.tickContinues nowDayTm) := by
  have covered : Covered t := @covered_step s t (.tickContinues nowDayTm) ordinary.toCovered continued
  cases position : s.tick with
  | subtract read =>
    simp only [tickContinues,position,Option.some.injEq] at continued
    subst continued
    exact ⟨⟨covered,ordinary.app,by simp⟩,
      .charged read 1000 (by simp [basis,position]) (by simp [step,tickContinues,position])
        (Nat.sub_add_cancel (ordinary.subtract read position))⟩
  | day =>
    simp only [tickContinues,position,if_pos (sameDay position),Option.some.injEq] at continued
    subst continued
    exact ⟨⟨covered,ordinary.app,by simp⟩,
      .nothing (by simp [basis,position]) (by simp [step,tickContinues,position]) rfl⟩
  | reset => exact absurd position ordinary.tick
  | waiting => simp [tickContinues,position] at continued
  | exited => simp [tickContinues,position] at continued

theorem step_writes {s t : FreeTime} {event : FreeTimeEvent} (ordinary : Ordinary s) (period : Period s event)
    (stepped : (step s event).2 = some t) : Ordinary t ∧ Writes s t event := by
  have covered := covered_step ordinary.toCovered stepped
  cases event with
  | userDidEarnReward amount =>
    obtain ⟨-,rfl⟩ := onMain_eq_some.mp stepped
    exact ⟨⟨covered,by simp [changeFreeUseTimeMilli],ordinary.tick⟩,.nothing rfl rfl rfl⟩
  | insAdReward loaded =>
    obtain ⟨-,rfl⟩ := onMain_eq_some.mp stepped
    exact ⟨⟨covered,by simp [changeFreeUseTimeMilli],ordinary.tick⟩,.nothing rfl rfl rfl⟩
  | reloadBalance =>
    obtain ⟨-,rfl⟩ := onMain_eq_some.mp stepped
    rcases reloadBalance_cases period with same | ⟨charges,-⟩
    · rw [same]
      exact ⟨ordinary,.nothing rfl rfl rfl⟩
    · rw [charges] at covered ⊢
      exact ⟨⟨covered,by simp,ordinary.tick⟩,.nothing rfl rfl rfl⟩
  | appWrites => exact appWrites_writes ordinary stepped
  | setVip isVip =>
    obtain ⟨-,rfl⟩ := onMain_eq_some.mp stepped
    exact ⟨⟨covered,ordinary.app,ordinary.tick⟩,.nothing rfl rfl rfl⟩
  | setLink isLink =>
    obtain ⟨-,rfl⟩ := onMain_eq_some.mp stepped
    exact ⟨⟨covered,ordinary.app,ordinary.tick⟩,.nothing rfl rfl rfl⟩
  | appStops =>
    cases stepped
    exact ⟨⟨covered,by simp,ordinary.tick⟩,.nothing rfl rfl rfl⟩
  | tunnelStarts =>
    simp only [step,Option.ite_none_right_eq_some,Option.some.injEq] at stepped
    obtain ⟨-,rfl⟩ := stepped
    exact ⟨⟨covered,ordinary.app,by simp⟩,.nothing rfl rfl rfl⟩
  | tick =>
    simp only [step,Option.ite_none_right_eq_some,Option.some.injEq] at stepped
    obtain ⟨-,rfl⟩ := stepped
    refine ⟨⟨covered,ordinary.app,?_⟩,.nothing rfl rfl rfl⟩
    dsimp only
    split <;> simp
  | tickContinues nowDayTm => exact tickContinues_writes ordinary period stepped
  | tunnelStops =>
    cases stepped
    exact ⟨⟨covered,ordinary.app,by simp⟩,.nothing rfl rfl rfl⟩

theorem kept_writes {s t : FreeTime} {event : FreeTimeEvent} {initial : Nat} {total : Nat × Nat}
    (kept : Kept initial (s,total)) (writes : Writes s t event) :
    Fresh s event ↔ Kept initial (t,account.after total (step s event).1) := by
  unfold Kept at kept ⊢
  dsimp only at kept
  cases writes with
  | nothing basis silent same =>
    simp only [Fresh,basis,silent,Monitor.after,List.foldl_nil,same,kept]
    simp
  | granted read val basis grants sum =>
    simp only [Fresh,basis,grants,Monitor.after,List.foldl_cons,List.foldl_nil,account,sum,Option.mem_def,
      Option.some.injEq,forall_eq']
    omega
  | charged read val basis charges difference =>
    simp only [Fresh,basis,charges,Monitor.after,List.foldl_cons,List.foldl_nil,account,Option.mem_def,
      Option.some.injEq,forall_eq']
    omega

theorem ends_fresh {s : FreeTime} {event : FreeTimeEvent} (ended : (step s event).2 = none) : Fresh s event := by
  unfold Fresh basis
  cases event with
  | appWrites =>
    simp only [step,appWrites] at ended
    split at ended
    · next pending => simp [pending]
    all_goals cases ended
  | tickContinues nowDayTm =>
    simp only [step,tickContinues] at ended
    split at ended
    · cases ended
    · cases ended
    · cases ended
    · next position => simp [position]
    · next position => simp [position]
  | _ => simp

theorem Idle.covered {s : FreeTime} (idle : Idle s) : Covered s where
  charge := by simp [idle.app]
  subtract := by rcases idle.tick with position | position <;> simp [position]

theorem Idle.ordinary {s : FreeTime} (idle : Idle s) : Ordinary s where
  toCovered := idle.covered
  app := by simp [idle.app]
  tick := by rcases idle.tick with position | position <;> simp [position]

/-- Rewards and charges add up in every state of a run exactly where each write still finds
the value that its own read found. -/
theorem updates_kept_iff (s : FreeTime) (run : List FreeTimeEvent) (idle : Idle s)
    (period : freeTime.Along Period s run) :
    freeTime.Along Fresh s run ↔ (freeTime.watch account).Visits (Kept s.left) (s,0,0) run := by
  have keeps : (freeTime.watch account).Keeps (fun state => Ordinary state.1)
      (fun state event => Period state.1 event) := by
    rintro ⟨s,total⟩ event next ordinary period stepped
    obtain ⟨t,taken,rfl⟩ := Machine.watch_step stepped
    exact (step_writes ordinary period taken).1
  have watched : freeTime.Along Fresh s run ↔
      (freeTime.watch account).Along (fun state event => Fresh state.1 event) (s,0,0) run := Machine.along_watch.symm
  rw [watched]
  refine Machine.along_iff_visits keeps ?_ ?_ idle.ordinary rfl (Machine.along_watch.mpr period)
  · rintro ⟨s,total⟩ event next ordinary kept period stepped
    obtain ⟨t,taken,rfl⟩ := Machine.watch_step stepped
    exact kept_writes kept (step_writes ordinary period taken).2
  · rintro ⟨s,total⟩ event - - - ended
    exact ends_fresh (Option.map_eq_none_iff.mp ended)

theorem charged_exact {s t : FreeTime} {event : FreeTimeEvent} (covered : Covered s) {read val : Nat}
    (stepped : (step s event).2 = some t) (reading : s.basis event = some read)
    (charges : .charged val ∈ (step s event).1) : (t.left : Int) = read - val := by
  cases event with
  | appWrites =>
    cases pending : s.app with
    | none => simp [basis,pending] at reading
    | some update =>
      cases update with
      | changeFreeUseTimeMilli _ _ => simp [step,appWrites,pending] at charges
      | charge found =>
        have enough := covered.charge found pending
        simp only [step,appWrites,pending,basis,Option.some.injEq,List.mem_singleton,Change.charged.injEq] at *
        subst stepped reading charges
        simp only
        omega
      | topUp => simp [basis,pending] at reading
  | tickContinues nowDayTm =>
    cases position : s.tick with
    | subtract found =>
      have enough := covered.subtract found position
      simp only [step,tickContinues,position,basis,Option.some.injEq,List.mem_singleton,Change.charged.injEq] at *
      subst stepped reading charges
      simp only
      omega
    | _ => simp [basis,position] at reading
  | _ => simp [basis] at reading

/-- The time is a signed number in the source: in every run a charge is exact there too, so
that no step stores a negative time. -/
theorem charges_exact (s : FreeTime) (run : List FreeTimeEvent) (idle : Idle s) :
    freeTime.Along (fun s event => ∀ t (read val : Nat), (step s event).2 = some t → s.basis event = some read →
      .charged val ∈ (step s event).1 → (t.left : Int) = read - val) s run := by
  have keeps : freeTime.Keeps Covered (fun _ _ => True) := fun _ _ _ covered _ => covered_step covered
  have along := (Machine.Along.of_forall (fun _ _ => trivial) s run).visits keeps idle.covered
  exact along.along fun s event covered t read val => charged_exact covered

def full : FreeTime := ⟨3600000,0,false,true,none,.waiting⟩

theorem updates_kept_apart :
    (freeTime.watch account).Visits (Kept 3600000) (full,0,0)
      [.tick,.tickContinues 0,.tickContinues 0,.userDidEarnReward 3,.appWrites] :=
  (updates_kept_iff full _ ⟨rfl,Or.inl rfl⟩ (by decide)).mp (by decide)

/-- The reward is written between the read and the write of a tick, and is lost. -/
theorem reward_lost :
    ¬∀ s run, Idle s → freeTime.Along Period s run → (freeTime.watch account).Visits (Kept s.left) (s,0,0) run := by
  intro kept
  exact absurd (kept full [.tick,.userDidEarnReward 5,.appWrites,.tickContinues 0] ⟨rfl,Or.inl rfl⟩ (by decide))
    (by decide)

end FreeTime
end TenonVpn
