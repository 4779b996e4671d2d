import Mathlib.Data.Nat.ModEq

/-! Sums whose carries are brought around, in any base: folding keeps a number modulo the base
less one and keeps apart zero from the rest, so a sum with its complement folds to the largest
digit, and a number folds to it exactly if it is a positive multiple. -/
namespace TenonVpn.OnesComplement

theorem step_lt {base n : Nat} (digits : 2 ≤ base) (large : base ≤ n) : n / base + n % base < n := by
  have positive : 0 < n / base := Nat.div_pos large (by omega)
  have split := Nat.div_add_mod n base
  have more : 2 * (n / base) ≤ base * (n / base) := Nat.mul_le_mul_right _ digits
  omega

/-- Adds what is above the lowest digit to it, until nothing is above it. -/
def fold (base n : Nat) : Nat := if 2 ≤ base ∧ base ≤ n then fold base (n / base + n % base) else n
termination_by n
decreasing_by
  next fits => exact step_lt fits.1 fits.2

variable {base : Nat}

theorem fold_small {n : Nat} (small : n < base) : fold base n = n := by
  rw [fold,if_neg (by omega)]

theorem fold_step {n : Nat} (digits : 2 ≤ base) (large : base ≤ n) :
    fold base n = fold base (n / base + n % base) := by
  rw [fold,if_pos ⟨digits,large⟩]

/-- What a step of folding keeps is kept by folding. -/
theorem fold_keeps {P : Nat → Nat → Prop} (digits : 2 ≤ base) (small : ∀ n < base, P n n)
    (step : ∀ n m, base ≤ n → P (n / base + n % base) m → P n m) (n : Nat) : P n (fold base n) := by
  induction n using Nat.strongRecOn with
  | ind n ih =>
    rcases Nat.lt_or_ge n base with below | large
    · rw [fold_small below]
      exact small n below
    · rw [fold_step digits large]
      exact step n _ large (ih _ (step_lt digits large))

theorem fold_lt (digits : 2 ≤ base) (n : Nat) : fold base n < base :=
  fold_keeps (P := fun _ m => m < base) digits (fun _ below => below) (fun _ _ _ kept => kept) n

theorem fold_modEq (digits : 2 ≤ base) (n : Nat) : fold base n ≡ n [MOD base - 1] := by
  have one : base ≡ 1 [MOD base - 1] := ((Nat.modEq_iff_dvd' (by omega)).mpr (dvd_refl _)).symm
  refine fold_keeps (P := fun n m => m ≡ n [MOD base - 1]) digits (fun _ _ => rfl) (fun n m _ kept => ?_) n
  have whole : base * (n / base) + n % base ≡ 1 * (n / base) + n % base [MOD base - 1] :=
    (one.mul_right _).add_right _
  rw [Nat.div_add_mod,Nat.one_mul] at whole
  exact kept.trans whole.symm

theorem fold_eq_zero (digits : 2 ≤ base) (n : Nat) : fold base n = 0 ↔ n = 0 := by
  refine fold_keeps (P := fun n m => m = 0 ↔ n = 0) digits (fun _ _ => Iff.rfl) (fun n m large kept => ?_) n
  have split := Nat.div_add_mod n base
  have positive : 0 < n / base := Nat.div_pos large (by omega)
  exact kept.trans ⟨fun _ => by omega,fun _ => by omega⟩

/-- The multiples of the largest digit fold to it, but for zero. -/
theorem fold_eq_last (digits : 2 ≤ base) (n : Nat) : fold base n = base - 1 ↔ 0 < n ∧ base - 1 ∣ n := by
  have below := fold_lt digits n
  have same := fold_modEq digits n
  have zero := fold_eq_zero digits n
  constructor
  · intro last
    rw [last] at same
    exact ⟨by omega,(Nat.modEq_zero_iff_dvd).mp (same.symm.trans (Nat.modEq_zero_iff_dvd.mpr (dvd_refl _)))⟩
  · rintro ⟨positive,multiple⟩
    obtain ⟨count,counted⟩ := Nat.modEq_zero_iff_dvd.mp (same.trans (Nat.modEq_zero_iff_dvd.mpr multiple))
    have filled : fold base n ≠ 0 := fun empty => absurd (zero.mp empty) (by omega)
    rcases count with _ | _ | count
    · omega
    · omega
    · have more : (base - 1) * 2 ≤ (base - 1) * (count + 1 + 1) := Nat.mul_le_mul_left _ (by omega)
      omega

def complement (base n : Nat) : Nat := base - 1 - fold base n

/-- A sum that got its complement folds to the largest digit. -/
theorem fold_add_complement (digits : 2 ≤ base) (n : Nat) : fold base (n + complement base n) = base - 1 := by
  have below := fold_lt digits n
  have zero := fold_eq_zero digits n
  refine (fold_eq_last digits _).mpr ⟨?_,?_⟩
  · rw [complement]
    omega
  · have whole : n + complement base n ≡ fold base n + complement base n [MOD base - 1] :=
      (fold_modEq digits n).symm.add_right _
    have sum : fold base n + complement base n = base - 1 := by
      rw [complement]
      omega
    rw [sum] at whole
    exact Nat.modEq_zero_iff_dvd.mp (whole.trans (Nat.modEq_zero_iff_dvd.mpr (dvd_refl _)))

end TenonVpn.OnesComplement
