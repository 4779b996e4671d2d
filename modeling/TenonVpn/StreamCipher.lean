import TenonVpn.Machine

/-! Streams that arrive in pieces: ciphers that do not see where a stream is cut, and
machines whose outputs, put together, depend on the stream alone. -/
namespace TenonVpn

structure StreamCipher (σ α : Type*) where
  update : σ → List α → List α × σ
  update_nil : ∀ s, update s [] = ([],s)
  update_append : ∀ s first second, update s (first ++ second) =
    ((update s first).1 ++ (update (update s first).2 second).1,(update (update s first).2 second).2)

namespace StreamCipher
variable {σ α : Type*}

def run (step : σ → α → α × σ) : σ → List α → List α × σ
  | s, [] => ([],s)
  | s, x :: rest => ((step s x).1 :: (run step (step s x).2 rest).1,(run step (step s x).2 rest).2)

theorem run_append (step : σ → α → α × σ) (s : σ) (first second : List α) :
    run step s (first ++ second) =
      ((run step s first).1 ++ (run step (run step s first).2 second).1,(run step (run step s first).2 second).2) := by
  induction first generalizing s with
  | nil => rfl
  | cons x rest ih => simp only [List.cons_append,run,ih]

def ofStep (step : σ → α → α × σ) : StreamCipher σ α := ⟨run step,fun _ => rfl,run_append step⟩

end StreamCipher

namespace Machine
variable {σ ε ο α β : Type*}

/-- The state after the events; none where the machine stops before their end. -/
def after (machine : Machine σ ε ο) : σ → List ε → Option σ
  | s, [] => some s
  | s, e :: rest => (machine.step s e).2.bind (fun next => after machine next rest)

theorem after_append (machine : Machine σ ε ο) (s : σ) (first second : List ε) :
    machine.after s (first ++ second) = (machine.after s first).bind (fun next => machine.after next second) := by
  induction first generalizing s with
  | nil => rfl
  | cons e rest ih =>
    simp only [List.cons_append,after]
    cases (machine.step s e).2 with
    | none => rfl
    | some next => exact ih next

/-- What the outputs say together is a function of the payloads together, if each step
extends both and keeps a relation between the state and the payloads so far. -/
theorem outputs_of_stream {machine : Machine σ ε ο} {payload : ε → List α} {said : ο → List β} {P : ε → Prop}
    {R : σ → List α → Prop} {result : List α → List β}
    (each : ∀ s sofar e, R s sofar → P e → ∃ next, (machine.step s e).2 = some next ∧
      R next (sofar ++ payload e) ∧
      result sofar ++ (machine.step s e).1.flatMap said = result (sofar ++ payload e))
    {s : σ} {sofar : List α} (start : R s sofar) (events : List ε) (allowed : ∀ e ∈ events, P e) :
    result sofar ++ (machine.outputs s events).flatMap said = result (sofar ++ events.flatMap payload) ∧
      ∃ next, machine.after s events = some next ∧ R next (sofar ++ events.flatMap payload) := by
  induction events generalizing s sofar with
  | nil => simpa [outputs,after] using start
  | cons e rest ih =>
    obtain ⟨next,stepped,related,extended⟩ := each s sofar e start (allowed e List.mem_cons_self)
    obtain ⟨together,final,finished,kept⟩ := ih related (fun later member => allowed later (List.mem_cons_of_mem e member))
    have pieces : (machine.outputs s (e :: rest)).flatMap said =
        (machine.step s e).1.flatMap said ++ (machine.outputs next rest).flatMap said := by
      simp only [outputs,stepped,List.flatMap_append]
    refine ⟨?_,final,?_,?_⟩
    · rw [pieces,← List.append_assoc,extended,together,List.flatMap_cons,List.append_assoc]
    · simpa [after,stepped] using finished
    · rwa [List.flatMap_cons,← List.append_assoc]

end Machine
end TenonVpn
