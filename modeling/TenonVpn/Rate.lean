import TenonVpn.Machine
import Mathlib.Data.List.Infix

/-! Outputs that are pulses of a clock, and outputs that cost something. Where each costs a
unit or nothing, every stretch of them costs at most a unit for each of its pulses and one
more exactly if nothing is spent twice between two pulses. -/
namespace TenonVpn

structure Rate (ο : Type*) where
  unit : Nat
  pulse : ο → Bool
  cost : ο → Nat
  positive : 0 < unit
  free (o : ο) : pulse o = true → cost o = 0

namespace Rate
variable {ο : Type*} (rate : Rate ο)

def spent (outputs : List ο) : Nat := outputs.foldr (fun o total => rate.cost o + total) 0

def pulses (outputs : List ο) : Nat := outputs.countP rate.pulse

/-- Whether something has been spent since the last pulse. -/
def clock : Monitor Bool ο where
  next spent o := if rate.pulse o then false else spent || rate.cost o ≠ 0
  ok spent o := rate.cost o ≠ 0 → spent = false

theorem accepts_free {spent : Bool} {outputs : List ο} (free : ∀ o ∈ outputs, rate.cost o = 0) :
    rate.clock.Accepts spent outputs := by
  induction outputs generalizing spent with
  | nil => trivial
  | cons o rest ih =>
    refine ⟨fun costs => absurd (free o List.mem_cons_self) costs,?_⟩
    exact ih fun later member => free later (List.mem_cons_of_mem o member)

def Bounded (outputs : List ο) : Prop :=
  ∀ window, window <:+: outputs → rate.spent window ≤ rate.unit * rate.pulses window + rate.unit

def Paid (outputs : List ο) : Prop :=
  ∀ start, start <+: outputs → rate.spent start ≤ rate.unit * rate.pulses start

variable {rate}

theorem Bounded.start {outputs start : List ο} (bounded : rate.Bounded outputs) (prefixed : start <+: outputs) :
    rate.spent start ≤ rate.unit * rate.pulses start + rate.unit := bounded start prefixed.isInfix

theorem spent_nil : rate.spent [] = 0 := rfl

theorem pulses_nil : rate.pulses [] = 0 := rfl

theorem spent_cons (o : ο) (outputs : List ο) : rate.spent (o :: outputs) = rate.cost o + rate.spent outputs := rfl

theorem pulses_cons (o : ο) (outputs : List ο) :
    rate.pulses (o :: outputs) = rate.pulses outputs + if rate.pulse o then 1 else 0 := by
  simp only [pulses,List.countP_cons]

theorem bounded_cons {o : ο} {rest : List ο} : rate.Bounded (o :: rest) ↔ rate.Bounded rest ∧
    ∀ start, start <+: rest → rate.spent (o :: start) ≤ rate.unit * rate.pulses (o :: start) + rate.unit := by
  constructor
  · intro bounded
    refine ⟨fun window inside => bounded window (List.infix_cons inside),fun start prefixed => ?_⟩
    exact bounded.start ((List.prefix_cons_inj o).mpr prefixed)
  · rintro ⟨later,now⟩ window inside
    rcases List.infix_cons_iff.mp inside with prefixed | inside
    · rcases List.prefix_cons_iff.mp prefixed with rfl | ⟨start,rfl,inner⟩
      · exact Nat.zero_le _
      · exact now start inner
    · exact later window inside

theorem paid_cons {o : ο} {rest : List ο} : rate.Paid (o :: rest) ↔
    ∀ start, start <+: rest → rate.spent (o :: start) ≤ rate.unit * rate.pulses (o :: start) := by
  constructor
  · exact fun paid start prefixed => paid _ ((List.prefix_cons_inj o).mpr prefixed)
  · intro now start prefixed
    rcases List.prefix_cons_iff.mp prefixed with rfl | ⟨start,rfl,inner⟩
    · exact Nat.zero_le _
    · exact now start inner

section
variable {o : ο} {rest : List ο}

theorem bounded_pulse (pulsed : rate.pulse o = true) : rate.Bounded (o :: rest) ↔ rate.Bounded rest := by
  rw [bounded_cons]
  refine and_iff_left_of_imp fun bounded start prefixed => ?_
  have paid := bounded.start prefixed
  simp only [spent_cons,pulses_cons,rate.free o pulsed,pulsed,if_true,Nat.mul_add,Nat.mul_one]
  omega

theorem paid_pulse (pulsed : rate.pulse o = true) (bounded : rate.Bounded rest) : rate.Paid (o :: rest) := by
  refine paid_cons.mpr fun start prefixed => ?_
  have paid := bounded.start prefixed
  simp only [spent_cons,pulses_cons,rate.free o pulsed,pulsed,if_true,Nat.mul_add,Nat.mul_one]
  omega

variable (still : rate.pulse o = false)
include still

theorem bounded_costless (costless : rate.cost o = 0) : rate.Bounded (o :: rest) ↔ rate.Bounded rest := by
  rw [bounded_cons]
  refine and_iff_left_of_imp fun bounded start prefixed => ?_
  simpa [spent_cons,pulses_cons,still,costless] using bounded.start prefixed

theorem paid_costless (costless : rate.cost o = 0) : rate.Paid (o :: rest) ↔ rate.Paid rest := by
  rw [paid_cons]
  simp only [spent_cons,pulses_cons,still,costless,Bool.false_eq_true,if_false,Nat.add_zero,Nat.zero_add]
  exact Iff.rfl

theorem bounded_unit (costs : rate.cost o = rate.unit) :
    rate.Bounded (o :: rest) ↔ rate.Bounded rest ∧ rate.Paid rest := by
  rw [bounded_cons]
  refine and_congr_right fun _ => forall_congr' fun start => forall_congr' fun _ => ?_
  simp only [spent_cons,pulses_cons,still,costs,Bool.false_eq_true,if_false,Nat.add_zero]
  omega

theorem not_paid_unit (costs : rate.cost o = rate.unit) : ¬rate.Paid (o :: rest) := by
  intro paid
  have first := paid_cons.mp paid [] List.nil_prefix
  have positive := rate.positive
  simp only [spent_cons,pulses_cons,spent_nil,pulses_nil,still,costs,Bool.false_eq_true,if_false] at first
  omega

end

theorem accepts_iff (spent : Bool) {outputs : List ο} (units : ∀ o ∈ outputs, rate.cost o = 0 ∨ rate.cost o = rate.unit) :
    rate.clock.Accepts spent outputs ↔ rate.Bounded outputs ∧ (spent = true → rate.Paid outputs) := by
  induction outputs generalizing spent with
  | nil => simp [Monitor.Accepts,Bounded,Paid,spent_nil]
  | cons o rest ih =>
    rw [Monitor.Accepts,ih _ fun later member => units later (List.mem_cons_of_mem o member)]
    cases pulsed : rate.pulse o with
    | true =>
      -- a pulse pays for what begins with it
      have settled : rate.Bounded rest → spent = true → rate.Paid (o :: rest) := fun bounded _ =>
        paid_pulse pulsed bounded
      simp only [clock,pulsed,rate.free o pulsed,bounded_pulse pulsed,if_true]
      simpa using settled
    | false =>
      rcases units o List.mem_cons_self with costless | costs
      · simp [clock,pulsed,costless,bounded_costless pulsed costless,paid_costless pulsed costless]
      · -- a second unit without a pulse between them is one too many
        have some_cost : rate.unit ≠ 0 := Nat.ne_of_gt rate.positive
        simp only [clock,pulsed,costs,bounded_unit pulsed costs,not_paid_unit pulsed costs]
        simp [some_cost,and_comm]

end Rate
end TenonVpn
