import Mathlib.Data.Nat.Bitwise

/-! Division bit by bit with a remainder of a fixed width. Shifting the remainder loses what exceeds
the width, so the division is exact if and only if no remainder on the way has its upper bit set. -/
namespace TenonVpn.RestoringDivision

/-- One bit of the dividend: the remainder takes it in, and the divisor is taken from it if it fits. -/
def step (width dividend divisor position : Nat) (state : Nat × Nat) : Nat × Nat :=
  let remainder := 2 * state.2 % 2^width + (dividend.testBit position).toNat
  if divisor ≤ remainder then (state.1 + (if position < width then 2^position else 0),remainder - divisor)
  else (state.1,remainder)

/-- The bits below the position, from the top. -/
def run (width dividend divisor : Nat) : Nat → Nat × Nat → Nat × Nat
  | 0, state => state
  | position+1, state => run width dividend divisor position (step width dividend divisor position state)

variable {width dividend divisor position : Nat}

/-- Quotient and remainder of the bits from the position on, the quotient at its place. -/
def exact (width dividend divisor position : Nat) : Nat × Nat :=
  (dividend / divisor % 2^width / 2^position * 2^position,dividend / 2^position % divisor)

/-- The remainder that meets the bit keeps its width when it is shifted. -/
def Roomy (width dividend divisor position : Nat) : Prop := 2 * (dividend / 2^(position+1) % divisor) < 2^width

theorem bit_lt (n position : Nat) : (n.testBit position).toNat < 2 := by
  cases n.testBit position <;> decide

theorem div_split (n position : Nat) : n / 2^position = 2 * (n / 2^(position+1)) + (n.testBit position).toNat := by
  rw [Nat.toNat_testBit,Nat.pow_succ,← Nat.div_div_eq_div_mul]
  omega

/-- The next bit of a quotient and the remainder with it. -/
theorem div_mod_next (positive : 0 < divisor) (n : Nat) {bit : Nat} (small : bit < 2) :
    (2 * n + bit) / divisor = 2 * (n / divisor) + (if divisor ≤ 2 * (n % divisor) + bit then 1 else 0) ∧
      (2 * n + bit) % divisor =
        2 * (n % divisor) + bit - (if divisor ≤ 2 * (n % divisor) + bit then divisor else 0) := by
  have below := Nat.mod_lt n positive
  have split := Nat.div_add_mod n divisor
  rw [Nat.div_mod_unique positive]
  have doubled : divisor * (2 * (n / divisor)) = 2 * (divisor * (n / divisor)) := Nat.mul_left_comm _ _ _
  split
  · next fits =>
    rw [Nat.mul_add,doubled]
    omega
  · next missing =>
    rw [Nat.add_zero,doubled]
    omega

theorem testBit_quotient (positive : 0 < divisor) (dividend position : Nat) :
    (dividend / divisor).testBit position =
      decide (divisor ≤ 2 * (dividend / 2^(position+1) % divisor) + (dividend.testBit position).toNat) := by
  have next := (div_mod_next positive (dividend / 2^(position+1)) (bit_lt dividend position)).1
  rw [← div_split] at next
  have swapped : dividend / divisor / 2^position = dividend / 2^position / divisor := by
    rw [Nat.div_div_eq_div_mul,Nat.div_div_eq_div_mul,Nat.mul_comm]
  rw [Nat.testBit_eq_decide_div_mod_eq,swapped,next]
  split
  · next fits => simp [fits]
  · next missing => simp [missing]

theorem above_split (n position : Nat) : n / 2^position * 2^position =
    n / 2^(position+1) * 2^(position+1) + (n.testBit position).toNat * 2^position := by
  rw [div_split n position,Nat.add_mul,Nat.pow_succ,Nat.mul_comm 2,Nat.mul_assoc,Nat.mul_comm 2]

theorem step_exact (positive : 0 < divisor) (roomy : Roomy width dividend divisor position) :
    step width dividend divisor position (exact width dividend divisor (position+1)) =
      exact width dividend divisor position := by
  have shifted : 2 * (dividend / 2^(position+1) % divisor) % 2^width =
      2 * (dividend / 2^(position+1) % divisor) := Nat.mod_eq_of_lt roomy
  have next := (div_mod_next positive (dividend / 2^(position+1)) (bit_lt dividend position)).2
  rw [← div_split] at next
  rw [step,exact,exact]
  dsimp only
  rw [shifted,next,above_split _ position,Nat.testBit_mod_two_pow,testBit_quotient positive]
  by_cases fits : divisor ≤ 2 * (dividend / 2^(position+1) % divisor) + (dividend.testBit position).toNat
  · by_cases inside : position < width
    · simp [fits,inside]
    · simp [fits,inside]
  · simp [fits]

theorem run_exact (positive : 0 < divisor) {count : Nat}
    (roomy : ∀ position < count, Roomy width dividend divisor position) :
    run width dividend divisor count (exact width dividend divisor count) =
      (dividend / divisor % 2^width,dividend % divisor) := by
  induction count with
  | zero => simp [run,exact]
  | succ count ih =>
    rw [run,step_exact positive (roomy count (Nat.lt_succ_self count))]
    exact ih (fun position before => roomy position (Nat.lt_succ_of_lt before))

theorem exact_start {count : Nat} (large : dividend < 2^count) : exact width dividend divisor count = (0,0) := by
  have quotient : dividend / divisor % 2^width < 2^count :=
    Nat.lt_of_le_of_lt (Nat.mod_le _ _) (Nat.lt_of_le_of_lt (Nat.div_le_self _ _) large)
  rw [exact,Nat.div_eq_of_lt quotient,Nat.div_eq_of_lt large,Nat.zero_mul,Nat.zero_mod]

/-- The bits to come add less than the place of the last one. -/
theorem run_lt (count : Nat) (state : Nat × Nat) : (run width dividend divisor count state).1 < state.1 + 2^count := by
  induction count generalizing state with
  | zero => exact Nat.lt_succ_self _
  | succ count ih =>
    have stepped : (step width dividend divisor count state).1 ≤ state.1 + 2^count := by
      rw [step]
      split
      · split
        · exact Nat.le_refl _
        · exact Nat.le_add_right _ _
      · exact Nat.le_add_right _ _
    have later := ih (step width dividend divisor count state)
    rw [run,Nat.pow_succ]
    omega

/-- Where a remainder loses its upper bit, a bit of the quotient is lost, and what follows does not make up for it. -/
theorem run_lost (positive : 0 < divisor) (inside : divisor ≤ 2^width) (place : position < width)
    (cramped : ¬Roomy width dividend divisor position) :
    (run width dividend divisor (position+1) (exact width dividend divisor (position+1))).1 <
      dividend / divisor % 2^width := by
  rw [Roomy,Nat.not_lt] at cramped
  have below := Nat.mod_lt (dividend / 2^(position+1)) positive
  have bit := bit_lt dividend position
  have shifted : 2 * (dividend / 2^(position+1) % divisor) % 2^width =
      2 * (dividend / 2^(position+1) % divisor) - 2^width := by
    rw [Nat.mod_eq_sub_mod cramped,Nat.mod_eq_of_lt (by omega)]
  have lost : (step width dividend divisor position (exact width dividend divisor (position+1))).1 =
      dividend / divisor % 2^width / 2^(position+1) * 2^(position+1) := by
    rw [step,exact]
    dsimp only
    rw [if_neg (by omega)]
  have set : (dividend / divisor % 2^width).testBit position = true := by
    rw [Nat.testBit_mod_two_pow,testBit_quotient positive]
    simp only [place,decide_true,Bool.true_and,decide_eq_true_eq]
    omega
  have later := @run_lt width dividend divisor position
    (step width dividend divisor position (exact width dividend divisor (position+1)))
  have split := above_split (dividend / divisor % 2^width) position
  have whole := Nat.div_mul_le_self (dividend / divisor % 2^width) (2^position)
  rw [set,Bool.toNat_true,Nat.one_mul] at split
  rw [run]
  omega

theorem place_lt (double : dividend < 2^(2 * width)) (cramped : ¬Roomy width dividend divisor position) :
    position < width := by
  refine Nat.lt_of_not_le (fun high => cramped ?_)
  have low : dividend / 2^position < 2^width := by
    have less := Nat.pow_le_pow_right Nat.two_pos high
    refine Nat.lt_of_le_of_lt (Nat.div_le_div_left less (Nat.two_pow_pos width)) ?_
    rw [Nat.two_mul,Nat.pow_add] at double
    exact Nat.div_lt_of_lt_mul double
  have split := div_split dividend position
  have less := Nat.mod_le (dividend / 2^(position+1)) divisor
  rw [Roomy]
  omega

theorem run_exact_iff (positive : 0 < divisor) (inside : divisor ≤ 2^width) (double : dividend < 2^(2 * width))
    (count : Nat) : run width dividend divisor count (exact width dividend divisor count) =
      (dividend / divisor % 2^width,dividend % divisor) ↔
        ∀ position < count, Roomy width dividend divisor position := by
  refine ⟨?_,run_exact positive⟩
  induction count with
  | zero => exact fun _ _ none => absurd none (Nat.not_lt_zero _)
  | succ count ih =>
    intro whole
    by_cases roomy : Roomy width dividend divisor count
    · rw [run,step_exact positive roomy] at whole
      intro position before
      rcases Nat.lt_succ_iff_lt_or_eq.mp before with earlier | rfl
      · exact ih whole position earlier
      · exact roomy
    · have less := run_lost positive inside (place_lt double roomy) roomy
      rw [whole] at less
      exact absurd less (Nat.lt_irrefl _)

theorem roomy_above {count : Nat} (large : dividend < 2^count) (above : count ≤ position) :
    Roomy width dividend divisor position := by
  have small : dividend < 2^(position+1) :=
    Nat.lt_of_lt_of_le large (Nat.pow_le_pow_right Nat.two_pos (Nat.le_succ_of_le above))
  rw [Roomy,Nat.div_eq_of_lt small,Nat.zero_mod,Nat.mul_zero]
  exact Nat.two_pow_pos width

/-- A divisor without the upper bit has room everywhere. -/
theorem roomy_of_le (positive : 0 < divisor) (small : 2 * divisor ≤ 2^width) (dividend position : Nat) :
    Roomy width dividend divisor position := by
  have below := Nat.mod_lt (dividend / 2^(position+1)) positive
  rw [Roomy]
  omega

/-- So does a dividend that is not wider than the remainder. -/
theorem roomy_of_lt (divisor position : Nat) (small : dividend < 2^width) :
    Roomy width dividend divisor position := by
  have less := Nat.mod_le (dividend / 2^(position+1)) divisor
  have split := div_split dividend position
  have within := Nat.div_le_self dividend (2^position)
  rw [Roomy]
  omega

theorem run_start (positive : 0 < divisor) (inside : divisor ≤ 2^width) (double : dividend < 2^(2 * width))
    {count : Nat} (large : dividend < 2^count) : run width dividend divisor count (0,0) =
      (dividend / divisor % 2^width,dividend % divisor) ↔ ∀ position, Roomy width dividend divisor position := by
  have exactly := run_exact_iff positive inside double count
  rw [exact_start large] at exactly
  rw [exactly]
  constructor
  · intro roomy position
    rcases Nat.lt_or_ge position count with before | above
    · exact roomy position before
    · exact roomy_above large above
  · exact fun roomy position _ => roomy position

end TenonVpn.RestoringDivision
