import Mathlib.Data.List.Basic

/-! Dialogues of a component and the party that uses it. What both say is one list of messages, and an
observer hears them in order. Each message is judged by what was heard before it, so the component can
rely on what it is asked, and guarantee what it tells, also where it is called within its own callback. -/
namespace TenonVpn
namespace Dialogue
variable {σ τ ο κ : Type*}

/-- Each message meets the condition at its place. -/
def Meets (hear : τ → ο → τ) (P : τ → ο → Prop) : τ → List ο → Prop
  | _, [] => True
  | heard, message :: rest => P heard message ∧ Meets hear P (hear heard message) rest

instance decidableMeets (hear : τ → ο → τ) (P : τ → ο → Prop) [∀ heard message, Decidable (P heard message)] :
    (heard : τ) → (messages : List ο) → Decidable (Meets hear P heard messages)
  | _, [] => isTrue trivial
  | heard, message :: rest =>
    have := decidableMeets hear P (hear heard message) rest
    inferInstanceAs (Decidable (P heard message ∧ Meets hear P (hear heard message) rest))

variable {hear : τ → ο → τ} {P R : τ → ο → Prop}

theorem meets_append {heard : τ} {first second : List ο} :
    Meets hear P heard (first ++ second) ↔ Meets hear P heard first ∧ Meets hear P (first.foldl hear heard) second := by
  induction first generalizing heard with
  | nil => exact Iff.of_eq (true_and _).symm
  | cons message rest ih => rw [List.cons_append,Meets,Meets,ih,and_assoc,List.foldl_cons]

/-- Calls that are made one after the other. -/
def performAll (perform : σ → κ → List ο × σ) : σ → List κ → List ο × σ
  | state, [] => ([],state)
  | state, call :: rest =>
    ((perform state call).1 ++ (performAll perform (perform state call).2 rest).1,
      (performAll perform (perform state call).2 rest).2)

/-- What is said meets the guarantee, and the state and what was heard stay in the invariant. -/
structure Keeps (hear : τ → ο → τ) (I : σ → τ → Prop) (R : τ → ο → Prop) (heard : τ) (outcome : List ο × σ) :
    Prop where
  kept : I outcome.2 (outcome.1.foldl hear heard)
  meets : Meets hear R heard outcome.1

variable {I J : σ → τ → Prop} {perform : σ → κ → List ο × σ}

/-- A first part that keeps an invariant, and a second one that is told after it. -/
theorem Keeps.append {heard : τ} {first second : List ο} {middle next : σ}
    (begun : Keeps hear I R heard (first,middle))
    (later : I middle (first.foldl hear heard) → Keeps hear J R (first.foldl hear heard) (second,next)) :
    Keeps hear J R heard (first ++ second,next) := by
  obtain ⟨kept,meets⟩ := later begun.kept
  refine ⟨?_,meets_append.mpr ⟨begun.meets,meets⟩⟩
  dsimp only
  rw [List.foldl_append]
  exact kept

theorem Keeps.imp {heard : τ} {outcome : List ο × σ} (keeps : Keeps hear I R heard outcome)
    (imp : ∀ heard, I outcome.2 heard → J outcome.2 heard) : Keeps hear J R heard outcome :=
  ⟨imp _ keeps.kept,keeps.meets⟩

/-- Calls that each keep an invariant where they can be relied on keep it one after the other. -/
theorem keeps_performAll
    (step : ∀ state heard call, I state heard → Meets hear P heard (perform state call).1 →
      Keeps hear I R heard (perform state call))
    {state : σ} {heard : τ} {calls : List κ} (start : I state heard)
    (relied : Meets hear P heard (performAll perform state calls).1) :
    Keeps hear I R heard (performAll perform state calls) := by
  induction calls generalizing state heard with
  | nil => exact ⟨start,trivial⟩
  | cons call rest ih =>
    obtain ⟨here,after⟩ := meets_append.mp relied
    exact (step state heard call start here).append (fun kept => ih kept after)

end Dialogue
end TenonVpn
