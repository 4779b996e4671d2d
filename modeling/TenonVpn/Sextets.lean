import Mathlib.Algebra.Group.Nat.Defs
import Mathlib.Data.List.Basic

/-! Bytes as values of six bits: three bytes make four values, one or two bytes at the end
make two or three, and the values give the bytes back. -/
namespace TenonVpn

namespace Sextets

def first (a : UInt8) : UInt8 := (a &&& 0xFC) >>> 2

def second (a b : UInt8) : UInt8 := ((a &&& 0x03) <<< 4) ||| ((b &&& 0xF0) >>> 4)

def third (b c : UInt8) : UInt8 := ((b &&& 0x0F) <<< 2) ||| ((c &&& 0xC0) >>> 6)

def fourth (c : UInt8) : UInt8 := c &&& 0x3F

def sextets : List UInt8 → List UInt8
  | a :: b :: c :: rest => first a :: second a b :: third b c :: fourth c :: sextets rest
  | [a,b] => [first a,second a b,third b 0]
  | [a] => [first a,second a 0]
  | [] => []

def high (v0 v1 : UInt8) : UInt8 := (v0 <<< 2) ||| (v1 >>> 4)

def middle (v1 v2 : UInt8) : UInt8 := (v1 <<< 4) ||| (v2 >>> 2)

def low (v2 v3 : UInt8) : UInt8 := (v2 <<< 6) ||| v3

def packed : List UInt8 → List UInt8
  | v0 :: v1 :: v2 :: v3 :: rest => high v0 v1 :: middle v1 v2 :: low v2 v3 :: packed rest
  | [v0,v1,v2] => [high v0 v1,middle v1 v2]
  | [v0,v1] => [high v0 v1]
  | _ => []

/-- A fact about single bytes, from its instances. -/
theorem forall_byte {P : UInt8 → Prop} (each : ∀ n : Fin 256, P (UInt8.ofNat n.val)) (a : UInt8) : P a := by
  have same := each ⟨a.toNat,a.toNat_lt⟩
  rwa [UInt8.ofNat_toNat] at same

/-- A multiple of a power of two and a smaller number have no bit in common. -/
theorem or_eq_add {k x y : Nat} (factor : 2^k ∣ x) (small : y < 2^k) : x ||| y = x + y := by
  obtain ⟨q,rfl⟩ := factor
  exact (Nat.two_pow_add_eq_or_of_lt small q).symm

theorem toNat_shiftLeft {shift : UInt8} {k : Nat} (shifts : shift.toNat = k) (small : k < 8) (a : UInt8) :
    (a <<< shift).toNat = a.toNat * 2^k % 256 := by
  rw [UInt8.toNat_shiftLeft,shifts,Nat.mod_eq_of_lt small,Nat.shiftLeft_eq]

theorem toNat_shiftRight {shift : UInt8} {k : Nat} (shifts : shift.toNat = k) (small : k < 8) (a : UInt8) :
    (a >>> shift).toNat = a.toNat / 2^k := by
  rw [UInt8.toNat_shiftRight,shifts,Nat.mod_eq_of_lt small,Nat.shiftRight_eq_div_pow]

/-- A mask of the bits below `k`. -/
theorem toNat_below {mask : UInt8} {k : Nat} (masks : mask.toNat = 2^k - 1) (a : UInt8) :
    (a &&& mask).toNat = a.toNat % 2^k := by
  rw [UInt8.toNat_and,masks,Nat.and_two_pow_sub_one_eq_mod]

/-- A mask of the bits from `k` on, which the shift brings down. -/
theorem toNat_above {mask shift : UInt8} {k : Nat} (shifts : shift.toNat = k) (small : k < 8)
    (masks : mask.toNat / 2^k = 2^(8 - k) - 1) (a : UInt8) : ((a &&& mask) >>> shift).toNat = a.toNat / 2^k := by
  have fits : a.toNat / 2^k < 2^(8 - k) := by
    rw [Nat.div_lt_iff_lt_mul (Nat.two_pow_pos _),← Nat.pow_add,Nat.sub_add_cancel (Nat.le_of_lt small)]
    exact a.toNat_lt
  rw [toNat_shiftRight shifts small,UInt8.toNat_and,← Nat.shiftRight_eq_div_pow,Nat.shiftRight_and_distrib,
    Nat.shiftRight_eq_div_pow,Nat.shiftRight_eq_div_pow,masks,Nat.and_two_pow_sub_one_eq_mod,Nat.mod_eq_of_lt fits]

theorem toNat_first (a : UInt8) : (first a).toNat = a.toNat / 4 :=
  @toNat_above 0xFC 2 2 rfl (by decide) rfl a

theorem toNat_second (a b : UInt8) : (second a b).toNat = a.toNat % 4 * 16 + b.toNat / 16 := by
  have left : ((a &&& 0x03) <<< 4).toNat = a.toNat % 4 * 16 := by
    rw [@toNat_shiftLeft 4 4 rfl (by decide),@toNat_below 0x03 2 rfl]
    omega
  have small := b.toNat_lt
  rw [second,UInt8.toNat_or,left,@toNat_above 0xF0 4 4 rfl (by decide) rfl b]
  exact @or_eq_add 4 _ _ (Nat.dvd_mul_left _ _) (by omega)

theorem toNat_third (b c : UInt8) : (third b c).toNat = b.toNat % 16 * 4 + c.toNat / 64 := by
  have left : ((b &&& 0x0F) <<< 2).toNat = b.toNat % 16 * 4 := by
    rw [@toNat_shiftLeft 2 2 rfl (by decide),@toNat_below 0x0F 4 rfl]
    omega
  have small := c.toNat_lt
  rw [third,UInt8.toNat_or,left,@toNat_above 0xC0 6 6 rfl (by decide) rfl c]
  exact @or_eq_add 2 _ _ (Nat.dvd_mul_left _ _) (by omega)

theorem toNat_fourth (c : UInt8) : (fourth c).toNat = c.toNat % 64 :=
  @toNat_below 0x3F 6 rfl c

theorem toNat_high {v0 v1 : UInt8} (small : v1.toNat < 64) :
    (high v0 v1).toNat = v0.toNat % 64 * 4 + v1.toNat / 16 := by
  have left : (v0 <<< 2).toNat = v0.toNat % 64 * 4 := by
    rw [@toNat_shiftLeft 2 2 rfl (by decide)]
    omega
  rw [high,UInt8.toNat_or,left,@toNat_shiftRight 4 4 rfl (by decide)]
  exact @or_eq_add 2 _ _ (Nat.dvd_mul_left _ _) (by omega)

theorem toNat_middle {v1 v2 : UInt8} (small : v2.toNat < 64) :
    (middle v1 v2).toNat = v1.toNat % 16 * 16 + v2.toNat / 4 := by
  have left : (v1 <<< 4).toNat = v1.toNat % 16 * 16 := by
    rw [@toNat_shiftLeft 4 4 rfl (by decide)]
    omega
  rw [middle,UInt8.toNat_or,left,@toNat_shiftRight 2 2 rfl (by decide)]
  exact @or_eq_add 4 _ _ (Nat.dvd_mul_left _ _) (by omega)

theorem toNat_low {v2 v3 : UInt8} (small : v3.toNat < 64) : (low v2 v3).toNat = v2.toNat % 4 * 64 + v3.toNat := by
  have left : (v2 <<< 6).toNat = v2.toNat % 4 * 64 := by
    rw [@toNat_shiftLeft 6 6 rfl (by decide)]
    omega
  rw [low,UInt8.toNat_or,left]
  exact @or_eq_add 6 _ _ (Nat.dvd_mul_left _ _) (by omega)

theorem first_lt (a : UInt8) : (first a).toNat < 64 := by
  have byte := a.toNat_lt
  rw [toNat_first]
  omega

theorem second_lt (a b : UInt8) : (second a b).toNat < 64 := by
  have byte := b.toNat_lt
  rw [toNat_second]
  omega

theorem third_lt (b c : UInt8) : (third b c).toNat < 64 := by
  have byte := c.toNat_lt
  rw [toNat_third]
  omega

theorem fourth_lt (c : UInt8) : (fourth c).toNat < 64 := by
  rw [toNat_fourth]
  omega

@[simp] theorem high_first_second (a b : UInt8) : high (first a) (second a b) = a := by
  apply UInt8.toNat_inj.mp
  have byte := a.toNat_lt
  have other := b.toNat_lt
  rw [toNat_high (second_lt a b),toNat_first,toNat_second]
  omega

@[simp] theorem middle_second_third (a b c : UInt8) : middle (second a b) (third b c) = b := by
  apply UInt8.toNat_inj.mp
  have byte := b.toNat_lt
  have other := c.toNat_lt
  rw [toNat_middle (third_lt b c),toNat_second,toNat_third]
  omega

@[simp] theorem low_third_fourth (b c : UInt8) : low (third b c) (fourth c) = c := by
  apply UInt8.toNat_inj.mp
  have byte := c.toNat_lt
  rw [toNat_low (fourth_lt c),toNat_third,toNat_fourth]
  omega

theorem packed_sextets (input : List UInt8) : packed (sextets input) = input := by
  fun_induction sextets input with
  | case1 a b c rest ih => simp [packed,ih]
  | case2 a b => simp [packed]
  | case3 a => simp [packed]
  | case4 => rfl

theorem sextets_append (whole : List UInt8) (rest : List UInt8) (groups : whole.length % 3 = 0) :
    sextets (whole ++ rest) = sextets whole ++ sextets rest := by
  fun_induction sextets whole with
  | case1 a b c whole ih =>
    have fewer : whole.length % 3 = 0 := by
      simp only [List.length_cons] at groups
      omega
    simp only [List.cons_append,sextets,ih fewer]
  | case2 a b => exact absurd groups (by simp)
  | case3 a => exact absurd groups (by simp)
  | case4 => rfl

theorem sextets_lt (input : List UInt8) : ∀ value ∈ sextets input, value.toNat < 64 := by
  fun_induction sextets input with
  | case1 a b c rest ih =>
    simpa [first_lt,second_lt,third_lt,fourth_lt] using ih
  | case2 a b => simp [first_lt,second_lt,third_lt]
  | case3 a => simp [first_lt,second_lt]
  | case4 => simp

theorem sextets_length (input : List UInt8) :
    (sextets input).length = 4 * (input.length / 3) + if input.length % 3 = 0 then 0 else input.length % 3 + 1 := by
  fun_induction sextets input with
  | case1 a b c rest ih =>
    have groups : (rest.length + 1 + 1 + 1) / 3 = rest.length / 3 + 1 := by omega
    have remainder : (rest.length + 1 + 1 + 1) % 3 = rest.length % 3 := by omega
    simp only [List.length_cons,ih,groups,remainder]
    omega
  | case2 a b => simp
  | case3 a => simp
  | case4 => simp

theorem packed_length (values : List UInt8) :
    (packed values).length = 3 * (values.length / 4) + (values.length % 4 - 1) := by
  fun_induction packed values with
  | case1 v0 v1 v2 v3 rest ih =>
    simp only [List.length_cons,ih]
    omega
  | case2 v0 v1 v2 => simp
  | case3 v0 v1 => simp
  | case4 values more three two =>
    match values with
    | [] => simp
    | [v0] => simp
    | [v0,v1] => exact absurd rfl (two v0 v1)
    | [v0,v1,v2] => exact absurd rfl (three v0 v1 v2)
    | v0 :: v1 :: v2 :: v3 :: rest => exact absurd rfl (more v0 v1 v2 v3 rest)

end Sextets
end TenonVpn
