import Mathlib.Data.List.Basic

/-! Runs of event-driven programs. A step answers an event with a list of
outputs and a next state; a step without next state (the event is not enabled,
or the program stops there) ends the run. The rules below carry a condition on
every step to the states and the outputs of the whole run. A step may be a turn of
several effects, which a crash may cut short. -/
namespace TenonVpn

structure Machine (σ ε ο : Type*) where
  step : σ → ε → List ο × Option σ

namespace Machine
variable {σ ε ο τ : Type*}

def outputs (machine : Machine σ ε ο) : σ → List ε → List ο
  | _, [] => []
  | s, e :: rest => (machine.step s e).1 ++
      match (machine.step s e).2 with
      | none => []
      | some next => outputs machine next rest

def Along (machine : Machine σ ε ο) (P : σ → ε → Prop) : σ → List ε → Prop
  | _, [] => True
  | s, e :: rest => P s e ∧ ∀ next, (machine.step s e).2 = some next → Along machine P next rest

/-- Each state that the run reaches, the first one included, has the property. -/
def Visits (machine : Machine σ ε ο) (Q : σ → Prop) : σ → List ε → Prop
  | s, [] => Q s
  | s, e :: rest => Q s ∧ ∀ next, (machine.step s e).2 = some next → Visits machine Q next rest

instance decidableAlong (machine : Machine σ ε ο) (P : σ → ε → Prop) [∀ s e, Decidable (P s e)] :
    (s : σ) → (events : List ε) → Decidable (machine.Along P s events)
  | _, [] => isTrue trivial
  | s, e :: rest =>
    match stepped : (machine.step s e).2 with
    | none => decidable_of_iff (P s e) (by simp [Along,stepped])
    | some next =>
      have := decidableAlong machine P next rest
      decidable_of_iff (P s e ∧ machine.Along P next rest) (by simp [Along,stepped])

instance decidableVisits (machine : Machine σ ε ο) (Q : σ → Prop) [DecidablePred Q] :
    (s : σ) → (events : List ε) → Decidable (machine.Visits Q s events)
  | s, [] => inferInstanceAs (Decidable (Q s))
  | s, e :: rest =>
    match stepped : (machine.step s e).2 with
    | none => decidable_of_iff (Q s) (by simp [Visits,stepped])
    | some next =>
      have := decidableVisits machine Q next rest
      decidable_of_iff (Q s ∧ machine.Visits Q next rest) (by simp [Visits,stepped])

def Keeps (machine : Machine σ ε ο) (I : σ → Prop) (P : σ → ε → Prop) : Prop :=
  ∀ s e next, I s → P s e → (machine.step s e).2 = some next → I next

variable {machine : Machine σ ε ο} {I Q : σ → Prop} {P R : σ → ε → Prop}

theorem Along.of_forall (all : ∀ s e, P s e) (s : σ) (events : List ε) : machine.Along P s events := by
  induction events generalizing s with
  | nil => trivial
  | cons e rest ih => exact ⟨all s e,fun next _ => ih next⟩

theorem Along.imp (keeps : machine.Keeps I P) (imp : ∀ s e, I s → P s e → R s e)
    {s : σ} {events : List ε} (start : I s) (along : machine.Along P s events) :
    machine.Along R s events := by
  induction events generalizing s with
  | nil => trivial
  | cons e rest ih =>
    obtain ⟨here,later⟩ := along
    exact ⟨imp s e start here,fun next stepped => ih (keeps s e next start here stepped) (later next stepped)⟩

theorem along_and {s : σ} {events : List ε} :
    machine.Along (fun s e => P s e ∧ R s e) s events ↔ machine.Along P s events ∧ machine.Along R s events := by
  induction events generalizing s with
  | nil => exact ⟨fun _ => ⟨trivial,trivial⟩,fun _ => trivial⟩
  | cons e rest ih =>
    simp only [Along,ih]
    constructor
    · rintro ⟨⟨here,here'⟩,later⟩
      exact ⟨⟨here,fun next stepped => (later next stepped).1⟩,here',fun next stepped => (later next stepped).2⟩
    · rintro ⟨⟨here,later⟩,here',later'⟩
      exact ⟨⟨here,here'⟩,fun next stepped => ⟨later next stepped,later' next stepped⟩⟩

theorem along_iff (keeps : machine.Keeps I P) (same : ∀ s e, I s → (P s e ↔ R s e))
    {s : σ} {events : List ε} (start : I s) :
    machine.Along P s events ↔ machine.Along R s events := by
  refine ⟨Along.imp keeps (fun s e inv here => (same s e inv).mp here) start,?_⟩
  have keeps' : machine.Keeps I R := fun s e next inv here stepped =>
    keeps s e next inv ((same s e inv).mpr here) stepped
  exact Along.imp keeps' (fun s e inv here => (same s e inv).mpr here) start

theorem Along.visits (keeps : machine.Keeps I P) {s : σ} {events : List ε}
    (start : I s) (along : machine.Along P s events) : machine.Visits I s events := by
  induction events generalizing s with
  | nil => exact start
  | cons e rest ih =>
    obtain ⟨here,later⟩ := along
    exact ⟨start,fun next stepped => ih (keeps s e next start here stepped) (later next stepped)⟩

theorem Visits.first {s : σ} {events : List ε} (visits : machine.Visits Q s events) : Q s := by
  cases events with
  | nil => exact visits
  | cons _ _ => exact visits.1

theorem Visits.imp (imp : ∀ s, I s → Q s) {s : σ} {events : List ε}
    (visits : machine.Visits I s events) : machine.Visits Q s events := by
  induction events generalizing s with
  | nil => exact imp s visits
  | cons e rest ih => exact ⟨imp s visits.1,fun next stepped => ih (visits.2 next stepped)⟩

theorem Visits.along (imp : ∀ s e, Q s → P s e) {s : σ} {events : List ε}
    (visits : machine.Visits Q s events) : machine.Along P s events := by
  induction events generalizing s with
  | nil => trivial
  | cons e rest ih => exact ⟨imp s e visits.1,fun next stepped => ih (visits.2 next stepped)⟩

/-- Where a step keeps a property exactly if it meets a condition, the run keeps it exactly
if every step of it does. -/
theorem along_iff_visits {H : σ → ε → Prop} (keeps : machine.Keeps I H)
    (same : ∀ s e next, I s → Q s → H s e → (machine.step s e).2 = some next → (P s e ↔ Q next))
    (ends : ∀ s e, I s → Q s → H s e → (machine.step s e).2 = none → P s e)
    {s : σ} {events : List ε} (start : I s) (first : Q s) (along : machine.Along H s events) :
    machine.Along P s events ↔ machine.Visits Q s events := by
  induction events generalizing s with
  | nil => exact ⟨fun _ => first,fun _ => trivial⟩
  | cons e rest ih =>
    obtain ⟨here,later⟩ := along
    have next_iff {next : σ} (stepped : (machine.step s e).2 = some next) (kept : Q next) :
        machine.Along P next rest ↔ machine.Visits Q next rest :=
      ih (keeps s e next start here stepped) kept (later next stepped)
    constructor
    · rintro ⟨met,rest_met⟩
      refine ⟨first,fun next stepped => ?_⟩
      have kept := (same s e next start first here stepped).mp met
      exact (next_iff stepped kept).mp (rest_met next stepped)
    · rintro ⟨-,rest_kept⟩
      have kept {next : σ} (stepped : (machine.step s e).2 = some next) : Q next := (rest_kept next stepped).first
      refine ⟨?_,fun next stepped => (next_iff stepped (kept stepped)).mpr (rest_kept next stepped)⟩
      cases stepped : (machine.step s e).2 with
      | none => exact ends s e start first here stepped
      | some next => exact (same s e next start first here stepped).mpr (kept stepped)

theorem forall_outputs (good : ο → Prop) {s : σ} {events : List ε} :
    (∀ o ∈ machine.outputs s events, good o) ↔
      machine.Along (fun s e => ∀ o ∈ (machine.step s e).1, good o) s events := by
  induction events generalizing s with
  | nil => simp [outputs,Along]
  | cons e rest ih =>
    simp only [outputs,Along,List.mem_append]
    cases machine.step s e with
    | mk out next =>
      cases next with
      | none => simp
      | some next => simp only [or_imp,forall_and,ih,Option.some.injEq,forall_eq']

theorem Along.outputs (keeps : machine.Keeps I P) (good : ο → Prop)
    (each : ∀ s e, I s → P s e → ∀ o ∈ (machine.step s e).1, good o)
    {s : σ} {events : List ε} (start : I s) (along : machine.Along P s events) :
    ∀ o ∈ machine.outputs s events, good o :=
  (forall_outputs good).mpr (Along.imp keeps each start along)

theorem keeps_true (machine : Machine σ ε ο) : machine.Keeps (fun _ => True) P := fun _ _ _ _ _ _ => trivial

/-- An invariant that every step keeps holds in every state of every run. -/
theorem Keeps.visits (keeps : machine.Keeps I (fun _ _ => True)) {s : σ} (start : I s) (events : List ε) :
    machine.Visits I s events :=
  Along.visits keeps start (Along.of_forall (fun _ _ => trivial) s events)

theorem Keeps.outputs (keeps : machine.Keeps I (fun _ _ => True)) {good : ο → Prop}
    (each : ∀ s e, I s → ∀ o ∈ (machine.step s e).1, good o) {s : σ} (start : I s) (events : List ε) :
    ∀ o ∈ machine.outputs s events, good o :=
  Along.outputs keeps good (fun s e inv _ => each s e inv) start (Along.of_forall (fun _ _ => trivial) s events)

theorem Keeps.along_iff_visits (keeps : machine.Keeps I (fun _ _ => True))
    (same : ∀ s e next, I s → Q s → (machine.step s e).2 = some next → (P s e ↔ Q next))
    (ends : ∀ s e, I s → Q s → (machine.step s e).2 = none → P s e)
    {s : σ} (start : I s) (first : Q s) (events : List ε) : machine.Along P s events ↔ machine.Visits Q s events :=
  Machine.along_iff_visits keeps (fun s e next inv kept _ => same s e next inv kept)
    (fun s e inv kept _ => ends s e inv kept) start first (Along.of_forall (fun _ _ => trivial) s events)

end Machine

/-- A reader of outputs: its state after each output, and which outputs it accepts in which state. -/
structure Monitor (τ ο : Type*) where
  next : τ → ο → τ
  ok : τ → ο → Prop

namespace Monitor
variable {σ ε ο τ : Type*}

def after (monitor : Monitor τ ο) (x : τ) (outputs : List ο) : τ := outputs.foldl monitor.next x

def Accepts (monitor : Monitor τ ο) : τ → List ο → Prop
  | _, [] => True
  | x, o :: rest => monitor.ok x o ∧ Accepts monitor (monitor.next x o) rest

theorem after_append (monitor : Monitor τ ο) (x : τ) (first second : List ο) :
    monitor.after x (first ++ second) = monitor.after (monitor.after x first) second := List.foldl_append

theorem accepts_append (monitor : Monitor τ ο) (x : τ) (first second : List ο) :
    monitor.Accepts x (first ++ second) ↔
      monitor.Accepts x first ∧ monitor.Accepts (monitor.after x first) second := by
  induction first generalizing x with
  | nil => simp [Accepts,after]
  | cons o rest ih =>
    simp only [List.cons_append,Accepts,ih,and_assoc]
    rfl

end Monitor

namespace Machine
variable {σ ε ο τ : Type*}

/-- The machine together with notes that an observer takes of its steps. -/
def attend (machine : Machine σ ε ο) (note : τ → σ → ε → τ) : Machine (σ × τ) ε ο where
  step := fun (s,x) e => ((machine.step s e).1,(machine.step s e).2.map (fun next => (next,note x s e)))

theorem attend_step {machine : Machine σ ε ο} {note : τ → σ → ε → τ} {s : σ} {x : τ} {e : ε} {next : σ × τ}
    (stepped : ((machine.attend note).step (s,x) e).2 = some next) :
    ∃ t, (machine.step s e).2 = some t ∧ next = (t,note x s e) := by
  obtain ⟨t,taken,rfl⟩ := Option.map_eq_some_iff.mp stepped
  exact ⟨t,taken,rfl⟩

theorem along_attend {machine : Machine σ ε ο} {note : τ → σ → ε → τ} {P : σ → ε → Prop} {s : σ} {x : τ}
    {events : List ε} :
    (machine.attend note).Along (fun noted e => P noted.1 e) (s,x) events ↔ machine.Along P s events := by
  induction events generalizing s x with
  | nil => rfl
  | cons e rest ih =>
    refine and_congr Iff.rfl ⟨fun later next stepped => ?_,fun later noted stepped => ?_⟩
    · exact ih.mp (later _ (Option.map_eq_some_iff.mpr ⟨next,stepped,rfl⟩))
    · obtain ⟨next,taken,rfl⟩ := attend_step stepped
      exact ih.mpr (later next taken)

def watch (machine : Machine σ ε ο) (monitor : Monitor τ ο) : Machine (σ × τ) ε ο where
  step := fun (s,x) e =>
    ((machine.step s e).1,(machine.step s e).2.map (fun next => (next,monitor.after x (machine.step s e).1)))

theorem watch_eq_attend (machine : Machine σ ε ο) (monitor : Monitor τ ο) :
    machine.watch monitor = machine.attend (fun x s e => monitor.after x (machine.step s e).1) := rfl

theorem watch_step {machine : Machine σ ε ο} {monitor : Monitor τ ο} {s : σ} {x : τ} {e : ε} {next : σ × τ}
    (stepped : ((machine.watch monitor).step (s,x) e).2 = some next) :
    ∃ t, (machine.step s e).2 = some t ∧ next = (t,monitor.after x (machine.step s e).1) := by
  rw [watch_eq_attend] at stepped
  exact attend_step stepped

theorem along_watch {machine : Machine σ ε ο} {monitor : Monitor τ ο} {P : σ → ε → Prop} {s : σ} {x : τ}
    {events : List ε} :
    (machine.watch monitor).Along (fun watched e => P watched.1 e) (s,x) events ↔ machine.Along P s events := by
  rw [watch_eq_attend]
  exact along_attend

theorem accepts_outputs (machine : Machine σ ε ο) (monitor : Monitor τ ο) {s : σ} {x : τ} {events : List ε} :
    monitor.Accepts x (machine.outputs s events) ↔
      (machine.watch monitor).Along (fun watched e => monitor.Accepts watched.2 (machine.step watched.1 e).1)
        (s,x) events := by
  induction events generalizing s x with
  | nil => exact Iff.rfl
  | cons e rest ih =>
    rw [outputs,Monitor.accepts_append]
    refine and_congr Iff.rfl ?_
    cases stepped : (machine.step s e).2 with
    | none => simp [watch,stepped,Monitor.Accepts]
    | some next => simpa [watch,stepped] using ih

/-- A monitor accepts the outputs of every run whose watched steps keep an invariant
under which each single step is accepted. -/
theorem accepts_of_along (machine : Machine σ ε ο) (monitor : Monitor τ ο)
    {I : σ × τ → Prop} {P : σ × τ → ε → Prop} (keeps : (machine.watch monitor).Keeps I P)
    (each : ∀ s x e, I (s,x) → P (s,x) e → monitor.Accepts x (machine.step s e).1)
    {s : σ} {x : τ} {events : List ε} (start : I (s,x))
    (along : (machine.watch monitor).Along P (s,x) events) :
    monitor.Accepts x (machine.outputs s events) :=
  (machine.accepts_outputs monitor).mpr (Along.imp keeps (fun watched e => each watched.1 watched.2 e) start along)

def trace (perform : σ → ο → σ) : σ → List ο → List (σ × ο)
  | _, [] => []
  | s, o :: rest => (s,o) :: trace perform (perform s o) rest

theorem mem_trace {perform : σ → ο → σ} {s : σ} {effects : List ο} {state : σ} {o : ο} :
    (state,o) ∈ trace perform s effects ↔
      ∃ before after, effects = before ++ o :: after ∧ state = before.foldl perform s := by
  induction effects generalizing s with
  | nil => simp [trace]
  | cons first rest ih =>
    rw [trace,List.mem_cons,ih]
    constructor
    · rintro (same | ⟨before,after,rfl,rfl⟩)
      · cases same
        exact ⟨[],rest,rfl,rfl⟩
      · exact ⟨first :: before,after,rfl,rfl⟩
    · rintro ⟨before,after,split,rfl⟩
      cases before with
      | nil =>
        cases split
        exact Or.inl rfl
      | cons one before =>
        cases split
        exact Or.inr ⟨before,after,rfl,rfl⟩

theorem mem_of_mem_trace {perform : σ → ο → σ} {s : σ} {effects : List ο} {state : σ} {o : ο}
    (member : (state,o) ∈ trace perform s effects) : o ∈ effects := by
  obtain ⟨before,after,rfl,_⟩ := mem_trace.mp member
  simp

def ofTurns (perform : σ → ο → σ) (turn : σ → ε → List ο) : Machine σ ε (σ × ο) where
  step s e := (trace perform s (turn s e),some ((turn s e).foldl perform s))

theorem visits_ofTurns {perform : σ → ο → σ} {turn : σ → ε → List ο} {Q : σ → Prop} {s : σ} {events : List ε}
    (visits : (ofTurns perform turn).Visits Q s events) :
    Q (events.foldl (fun s e => (turn s e).foldl perform s) s) := by
  induction events generalizing s with
  | nil => exact visits
  | cons e rest ih => exact ih (visits.2 _ rfl)

theorem trace_append (perform : σ → ο → σ) (s : σ) (first second : List ο) :
    trace perform s (first ++ second) = trace perform s first ++ trace perform (first.foldl perform s) second := by
  induction first generalizing s with
  | nil => rfl
  | cons o rest ih => simp only [List.cons_append,trace,ih,List.foldl_cons]

/-- What a crash after some of its effects leaves of a turn. -/
def cut (effects : List ο) : Option Nat → List ο
  | none => effects
  | some count => effects.take count

def ofCutTurns (perform : σ → ο → σ) (turn : σ → ε → List ο) (crash : σ → σ) :
    Machine σ (ε × Option Nat) (σ × ο) where
  step s := fun (e,crashed) =>
    let effects := cut (turn s e) crashed
    (trace perform s effects,
      some (if crashed.isSome then crash (effects.foldl perform s) else effects.foldl perform s))

theorem keeps_ofTurns {perform : σ → ο → σ} {turn : σ → ε → List ο} {I : σ → Prop} {P : σ → ε → Prop}
    (performed : ∀ s e, I s → P s e → I ((turn s e).foldl perform s)) : (ofTurns perform turn).Keeps I P := by
  intro s e next inv here stepped
  cases stepped
  exact performed s e inv here

theorem keeps_ofCutTurns {perform : σ → ο → σ} {turn : σ → ε → List ο} {crash : σ → σ}
    {I : σ → Prop} {P : σ → ε × Option Nat → Prop}
    (performed : ∀ s e crashed, I s → P s (e,crashed) → I ((cut (turn s e) crashed).foldl perform s))
    (restarts : ∀ s, I s → I (crash s)) : (ofCutTurns perform turn crash).Keeps I P := by
  rintro s ⟨e,crashed⟩ next inv here stepped
  have kept := performed s e crashed inv here
  simp only [ofCutTurns,Option.some.injEq] at stepped
  subst stepped
  split
  · exact restarts _ kept
  · exact kept

theorem foldl_keeps {perform : σ → ο → σ} {I : σ → Prop} {effects : List ο}
    (each : ∀ o ∈ effects, ∀ s, I s → I (perform s o)) {s : σ} (start : I s) :
    I (effects.foldl perform s) := by
  induction effects generalizing s with
  | nil => exact start
  | cons o rest ih =>
    exact ih (fun later member => each later (List.mem_cons_of_mem o member))
      (each o List.mem_cons_self s start)

end Machine
end TenonVpn
