import Mathlib.Algebra.Order.Ring.Int

/-! Arithmetic of signed integers of a fixed width that traps: an operation has no result
where the exact one needs more bits, nor has a division by zero. -/
namespace TenonVpn.Checked

def Fits (bits : Nat) (n : Int) : Prop := -2^(bits - 1) ≤ n ∧ n < 2^(bits - 1)

instance (bits : Nat) (n : Int) : Decidable (Fits bits n) := inferInstanceAs (Decidable (_ ∧ _))

def narrow (bits : Nat) (n : Int) : Option Int := if Fits bits n then some n else none

def add (bits : Nat) (a b : Int) : Option Int := narrow bits (a + b)

def sub (bits : Nat) (a b : Int) : Option Int := narrow bits (a - b)

def div (bits : Nat) (a b : Int) : Option Int := if b = 0 then none else narrow bits (a.tdiv b)

variable {bits : Nat} {n a b : Int}

theorem narrow_fits (fits : Fits bits n) : narrow bits n = some n := if_pos fits

theorem narrow_none (wide : ¬Fits bits n) : narrow bits n = none := if_neg wide

theorem narrow_isSome : (narrow bits n).isSome = true ↔ Fits bits n := by
  unfold narrow
  split <;> simpa

theorem tdiv_fits (fits : Fits bits a) (nonneg : 0 ≤ b) : Fits bits (a.tdiv b) := by
  obtain ⟨low,high⟩ := fits
  rcases Int.le_total 0 a with up | down
  · have bound := Int.tdiv_le_self b up
    have sign := Int.tdiv_nonneg up nonneg
    exact ⟨by omega,by omega⟩
  · have up : 0 ≤ -a := by omega
    have bound := Int.tdiv_le_self b up
    have sign := Int.tdiv_nonneg up nonneg
    rw [Int.neg_tdiv] at bound sign
    exact ⟨by omega,by omega⟩

theorem narrow_bind_isSome {α : Type*} {f : Int → Option α} (total : ∀ n, (f n).isSome = true) :
    ((narrow bits n).bind f).isSome = true ↔ Fits bits n := by
  by_cases fits : Fits bits n
  · simp [narrow_fits fits,total,fits]
  · simp [narrow_none fits,fits]

theorem div_fits (fits : Fits bits a) (positive : 0 < b) : div bits a b = some (a.tdiv b) := by
  rw [div,if_neg (Int.ne_of_gt positive)]
  exact narrow_fits (tdiv_fits fits (Int.le_of_lt positive))

theorem tdiv_within {c k : Int} (positive : 0 < c) (low : -(c * k) ≤ a) (high : a ≤ c * k) :
    -k ≤ a.tdiv c ∧ a.tdiv c ≤ k := by
  have least := Int.tdiv_le_tdiv positive low
  have most := Int.tdiv_le_tdiv positive high
  rw [Int.neg_tdiv,Int.mul_tdiv_cancel_left k (Int.ne_of_gt positive)] at least
  rw [Int.mul_tdiv_cancel_left k (Int.ne_of_gt positive)] at most
  exact ⟨least,most⟩

theorem fits_nonneg (nonneg : 0 ≤ n) : Fits bits n ↔ n < 2^(bits - 1) := by
  have power : (0 : Int) < 2^(bits - 1) := Int.pow_pos (by decide)
  unfold Fits
  omega

/-- Nonnegative summands fit where their sum does, so that only the sum counts. -/
theorem narrow_summands {α : Type*} (f : Int → Option α) (left : 0 ≤ a) (right : 0 ≤ b) :
    ((narrow bits a).bind fun x => (narrow bits b).bind fun y => (narrow bits (x + y)).bind f) =
      (narrow bits (a + b)).bind f := by
  have sum : Fits bits (a + b) ↔ a + b < 2^(bits - 1) := fits_nonneg (Int.add_nonneg left right)
  by_cases first : Fits bits a
  · by_cases second : Fits bits b
    · rw [narrow_fits first,narrow_fits second,Option.bind_some,Option.bind_some]
    · have above : ¬Fits bits (a + b) := by
        rw [fits_nonneg right] at second
        rw [sum]
        omega
      rw [narrow_fits first,narrow_none second,narrow_none above,Option.bind_some,Option.bind_none,Option.bind_none]
  · have above : ¬Fits bits (a + b) := by
      rw [fits_nonneg left] at first
      rw [sum]
      omega
    rw [narrow_none first,narrow_none above,Option.bind_none,Option.bind_none]

theorem fits_64 : Fits 64 n ↔ -9223372036854775808 ≤ n ∧ n < 9223372036854775808 := Iff.rfl

theorem fits_32 : Fits 32 n ↔ -2147483648 ≤ n ∧ n < 2147483648 := Iff.rfl

end TenonVpn.Checked
