import Mathlib.Data.Nat.Bitwise
import Mathlib.Tactic.Ring

/-! Numbers as digits in a base: two digits shifted by a part of a digit, and the bytes of a number in
the other order, with the loop over its bits that brings them there. -/
namespace TenonVpn.Digits

/-- A number of two digits shifted to the right by a part of a digit. -/
theorem div_digits {upper lower part rest base : Nat} (split : part * rest = base) (positive : 0 < part)
    (small : lower < base) :
    (upper * base + lower) / part = upper / part * base + (lower / part + upper * rest % base) ∧
      lower / part + upper * rest % base < base := by
  subst split
  have kept : upper * rest % (part * rest) = upper % part * rest := Nat.mul_mod_mul_right _ _ _
  have moved : upper * rest = upper / part * (part * rest) + upper % part * rest := by
    rw [← Nat.mul_assoc,← Nat.add_mul,Nat.div_add_mod']
  have whole : (upper * (part * rest) + lower) / part = upper * rest + lower / part := by
    rw [Nat.mul_left_comm,Nat.mul_add_div positive]
  have below : lower / part < rest := Nat.div_lt_of_lt_mul small
  have digit := Nat.mod_lt upper positive
  have room : (upper % part + 1) * rest ≤ part * rest := Nat.mul_le_mul_right rest digit
  rw [Nat.add_mul,Nat.one_mul] at room
  rw [kept]
  omega

/-- And to the left. -/
theorem mul_digits {upper lower part rest base : Nat} (split : part * rest = base) (positive : 0 < rest)
    (small : lower < base) :
    (upper * base + lower) * part % (base * base) = (upper * part % base + lower / rest) * base + lower * part % base ∧
      upper * part % base + lower / rest < base := by
  subst split
  have turned : part * rest = rest * part := Nat.mul_comm _ _
  have kept : lower * part % (part * rest) = lower % rest * part := by rw [turned,Nat.mul_mod_mul_right]
  have high : upper * part % (part * rest) = upper % rest * part := by rw [turned,Nat.mul_mod_mul_right]
  have below : lower / rest < part := Nat.div_lt_of_lt_mul (by rwa [← turned])
  have digit := Nat.mod_lt upper positive
  have room : (upper % rest + 1) * part ≤ rest * part := Nat.mul_le_mul_right part digit
  have last := Nat.mod_lt (lower * part) (Nat.lt_of_le_of_lt (Nat.zero_le _) small)
  rw [Nat.add_mul,Nat.one_mul,← turned] at room
  have inside : upper * part % (part * rest) + lower / rest < part * rest := by
    rw [high]
    omega
  refine ⟨?_,inside⟩
  have whole : (upper * (part * rest) + lower) * part = part * rest * (part * rest) * (upper * part / (part * rest)) +
      ((upper * part % (part * rest) + lower / rest) * (part * rest) + lower * part % (part * rest)) := by
    have upper_split := Nat.div_add_mod (upper * part) (part * rest)
    have lower_split := Nat.div_add_mod lower rest
    rw [kept]
    calc
      (upper * (part * rest) + lower) * part = upper * part * (part * rest) + lower * part := by ring
      _ = (part * rest * (upper * part / (part * rest)) + upper * part % (part * rest)) * (part * rest) +
          (rest * (lower / rest) + lower % rest) * part := by rw [upper_split,lower_split]
      _ = _ := by ring
  rw [whole,Nat.mul_add_mod]
  refine Nat.mod_eq_of_lt ?_
  have square : (upper * part % (part * rest) + lower / rest + 1) * (part * rest) ≤ part * rest * (part * rest) :=
    Nat.mul_le_mul_right _ inside
  rw [Nat.add_mul,Nat.one_mul] at square
  omega

/-- The bytes of a number in the other order, the first ones in front. -/
def reversed (n : Nat) : Nat → Nat
  | 0 => 0
  | count+1 => reversed n count * 256 + n / 256^count % 256

theorem reversed_lt (n count : Nat) : reversed n count < 256^count := by
  induction count with
  | zero => exact Nat.one_pos
  | succ count ih =>
    rw [reversed,Nat.pow_succ]
    omega

theorem reversed_add (n first : Nat) (second : Nat) :
    reversed n (first + second) =
      reversed n first * 256^second + reversed (n / 256^first) second := by
  induction second with
  | zero => rw [Nat.pow_zero,Nat.mul_one,reversed,Nat.add_zero,Nat.add_zero]
  | succ second ih =>
    rw [← Nat.add_assoc,reversed,ih,reversed,Nat.div_div_eq_div_mul,← Nat.pow_add,Nat.pow_succ]
    ring

theorem reversed_low {upper lower width : Nat} {count : Nat} (few : count ≤ width) :
    reversed (upper * 256^width + lower) count = reversed lower count := by
  induction count with
  | zero => rfl
  | succ count ih =>
    have power : 256^width = 256^count * (256 * 256^(width - count - 1)) := by
      rw [← Nat.pow_succ',← Nat.pow_add]
      congr 1
      omega
    have high : (upper * 256^width + lower) / 256^count =
        256 * (upper * 256^(width - count - 1)) + lower / 256^count := by
      rw [power,Nat.mul_left_comm,Nat.mul_add_div (Nat.pow_pos (by decide)),Nat.mul_left_comm]
    rw [reversed,reversed,ih (Nat.le_of_succ_le few),high,Nat.mul_add_mod]

/-- `byteSwapped` of a number of the given count of bytes. -/
def foldBytes {w : Nat} (bits : BitVec w) (count : Nat) : BitVec w :=
  (List.range count).foldl (fun swapped i => swapped <<< 8 ||| (bits >>> (8*i) &&& 255#w)) 0

theorem toNat_foldBytes {w : Nat} (bits : BitVec w) {count : Nat} (fits : 8 * count ≤ w) :
    (foldBytes bits count).toNat = reversed bits.toNat count := by
  rw [foldBytes]
  induction count with
  | zero => simp [reversed]
  | succ count ih =>
    have below := reversed_lt bits.toNat count
    have power : (256 : Nat)^(count+1) = 2^(8 * (count+1)) := by rw [Nat.pow_mul]
    have room : (256 : Nat)^(count+1) ≤ 2^w := by
      rw [power]
      exact Nat.pow_le_pow_right Nat.two_pos fits
    have byte : 255 % 2^w = 2^8 - 1 := by
      have least : 2^8 ≤ 2^w := Nat.pow_le_pow_right Nat.two_pos (by omega)
      exact Nat.mod_eq_of_lt (by omega)
    have place : 2^(8 * count) = 256^count := by rw [Nat.pow_mul]
    rw [Nat.pow_succ] at room
    rw [List.range_succ,List.foldl_append,List.foldl_cons,List.foldl_nil,BitVec.toNat_or,BitVec.toNat_shiftLeft,
      BitVec.toNat_and,BitVec.toNat_ushiftRight,BitVec.toNat_ofNat,ih (by omega),byte,Nat.and_two_pow_sub_one_eq_mod,
      Nat.shiftRight_eq_div_pow,Nat.shiftLeft_eq,place,Nat.mod_eq_of_lt (by omega),Nat.mul_comm _ (2^8),
      ← Nat.two_pow_add_eq_or_of_lt (Nat.mod_lt _ (by decide)),reversed]
    omega

end TenonVpn.Digits
