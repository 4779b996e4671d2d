import TenonVpn.Digits
import TenonVpn.IPRange

/-! `UInt128`, a number of 128 bits in two words of 64. What it computes from the words is what the
numbers of `IPRange` are computed with: sums, products, quotients, shifts and texts. -/
namespace TenonVpn

namespace Word

def addingReportingOverflow (lhs rhs : UInt64) : UInt64 × Bool := (lhs + rhs,2^64 ≤ lhs.toNat + rhs.toNat)

def subtractingReportingOverflow (lhs rhs : UInt64) : UInt64 × Bool := (lhs - rhs,lhs < rhs)

def byteSwapped (word : UInt64) : UInt64 := ⟨Digits.foldBytes word.toBitVec 8⟩

end Word

structure UInt128 where
  upperBits : UInt64
  lowerBits : UInt64
deriving DecidableEq

namespace UInt128

/-- `init(integerLiteral:)`. -/
def literal (value : UInt64) : UInt128 := ⟨0,value⟩

def addingReportingOverflow (lhs rhs : UInt128) : UInt128 × Bool :=
  let lower := Word.addingReportingOverflow lhs.lowerBits rhs.lowerBits
  let upper := Word.addingReportingOverflow lhs.upperBits rhs.upperBits
  let carried := if lower.2 then Word.addingReportingOverflow upper.1 1 else (upper.1,false)
  (⟨carried.1,lower.1⟩,upper.2 || carried.2)

def subtractingReportingOverflow (lhs rhs : UInt128) : UInt128 × Bool :=
  let lower := Word.subtractingReportingOverflow lhs.lowerBits rhs.lowerBits
  let upper := Word.subtractingReportingOverflow lhs.upperBits rhs.upperBits
  let borrowed := if lower.2 then Word.subtractingReportingOverflow upper.1 1 else (upper.1,false)
  (⟨borrowed.1,lower.1⟩,upper.2 || borrowed.2)

/-- `<`. -/
def lt (lhs rhs : UInt128) : Bool :=
  if lhs.upperBits < rhs.upperBits then true
  else if lhs.upperBits = rhs.upperBits ∧ lhs.lowerBits < rhs.lowerBits then true
  else false

def and (lhs rhs : UInt128) : UInt128 := ⟨lhs.upperBits &&& rhs.upperBits,lhs.lowerBits &&& rhs.lowerBits⟩

def or (lhs rhs : UInt128) : UInt128 := ⟨lhs.upperBits ||| rhs.upperBits,lhs.lowerBits ||| rhs.lowerBits⟩

/-- `~`, which the standard library makes of `&-`. -/
def complement (value : UInt128) : UInt128 :=
  (subtractingReportingOverflow (subtractingReportingOverflow (literal 0) value).1 (literal 1)).1

def max : UInt128 := complement (literal 0)

/-- `+`, which traps on overflow. -/
def add (lhs rhs : UInt128) : Option UInt128 :=
  if lt (complement lhs) rhs then none else some (addingReportingOverflow lhs rhs).1

/-- `-`, which traps on underflow. -/
def sub (lhs rhs : UInt128) : Option UInt128 :=
  if lt lhs rhs then none else some (subtractingReportingOverflow lhs rhs).1

/-- `&>>`. The sum of the two parts does not trap, as `shiftRight_parts` says. -/
def maskedShiftRight (lhs rhs : UInt128) : UInt128 :=
  let shiftWidth := rhs.lowerBits &&& 127
  if shiftWidth = 0 then lhs
  else if shiftWidth ≤ 63 then
    ⟨lhs.upperBits >>> shiftWidth,(lhs.lowerBits >>> shiftWidth) + (lhs.upperBits <<< (64 - shiftWidth))⟩
  else if shiftWidth = 64 then ⟨0,lhs.upperBits⟩
  else ⟨0,lhs.upperBits >>> (shiftWidth - 64)⟩

/-- `&<<`, and `shiftLeft_parts`. -/
def maskedShiftLeft (lhs rhs : UInt128) : UInt128 :=
  let shiftWidth := rhs.lowerBits &&& 127
  if shiftWidth = 0 then lhs
  else if shiftWidth ≤ 63 then
    ⟨(lhs.upperBits <<< shiftWidth) + (lhs.lowerBits >>> (64 - shiftWidth)),lhs.lowerBits <<< shiftWidth⟩
  else if shiftWidth = 64 then ⟨lhs.lowerBits,0⟩
  else ⟨lhs.lowerBits <<< (shiftWidth - 64),0⟩

/-- `>>` of the standard library: nothing is left of a shift by the whole width. -/
def shiftRight (lhs rhs : UInt128) : UInt128 := if lt rhs (literal 128) then maskedShiftRight lhs rhs else literal 0

/-- `<<`. -/
def shiftLeft (lhs rhs : UInt128) : UInt128 := if lt rhs (literal 128) then maskedShiftLeft lhs rhs else literal 0

def byteSwapped (value : UInt128) : UInt128 := ⟨Word.byteSwapped value.lowerBits,Word.byteSwapped value.upperBits⟩

/-- `_variadicAdditionWithOverflowCount`: the sum and how often it overflowed. -/
def variadicAdditionWithOverflowCount (addends : List UInt64) : UInt64 × UInt64 :=
  addends.foldl (fun total addend =>
    let interimSum := Word.addingReportingOverflow total.1 addend
    (interimSum.1,if interimSum.2 then total.2 + 1 else total.2)) (0,0)

def lower32 : UInt64 := 4294967295

/-- The four parts of 32 bits, the upper ones first. -/
def segment (value : UInt128) : Nat → UInt64
  | 0 => value.upperBits >>> 32
  | 1 => value.upperBits &&& lower32
  | 2 => value.lowerBits >>> 32
  | _ => value.lowerBits &&& lower32

def multipliedFullWidth (value other : UInt128) : UInt128 × UInt128 :=
  let resultArray (lhsSegment rhsSegment : Nat) := value.segment lhsSegment * other.segment rhsSegment
  let low (lhsSegment rhsSegment : Nat) := resultArray lhsSegment rhsSegment &&& lower32
  let high (lhsSegment rhsSegment : Nat) := resultArray lhsSegment rhsSegment >>> 32
  let bitSegment8 := low 3 3
  let bitSegment7 := variadicAdditionWithOverflowCount [low 2 3,low 3 2,high 3 3]
  let bitSegment6 := variadicAdditionWithOverflowCount
    [low 1 3,low 2 2,low 3 1,high 2 3,high 3 2,bitSegment7.2]
  let bitSegment5 := variadicAdditionWithOverflowCount
    [low 0 3,low 1 2,low 2 1,low 3 0,high 1 3,high 2 2,high 3 1,bitSegment6.2]
  let bitSegment4 := variadicAdditionWithOverflowCount
    [low 0 2,low 1 1,low 2 0,high 0 3,high 1 2,high 2 1,high 3 0,bitSegment5.2]
  let bitSegment3 := variadicAdditionWithOverflowCount [low 0 1,low 1 0,high 0 2,high 1 1,high 2 0,bitSegment4.2]
  let bitSegment1 := variadicAdditionWithOverflowCount [resultArray 0 0,high 0 1,high 1 0,bitSegment3.2]
  let lowerLowerBits := variadicAdditionWithOverflowCount [bitSegment8,bitSegment7.1 <<< 32]
  let upperLowerBits := variadicAdditionWithOverflowCount
    [bitSegment7.1 >>> 32,bitSegment6.1,bitSegment5.1 <<< 32,lowerLowerBits.2]
  let lowerUpperBits := variadicAdditionWithOverflowCount
    [bitSegment5.1 >>> 32,bitSegment4.1,bitSegment3.1 <<< 32,upperLowerBits.2]
  let upperUpperBits := variadicAdditionWithOverflowCount [bitSegment3.1 >>> 32,bitSegment1.1,lowerUpperBits.2]
  (⟨upperUpperBits.1,lowerUpperBits.1⟩,⟨upperLowerBits.1,lowerLowerBits.1⟩)

def multipliedReportingOverflow (value rhs : UInt128) : UInt128 × Bool :=
  let multiplicationResult := value.multipliedFullWidth rhs
  (multiplicationResult.2,lt (literal 0) multiplicationResult.1)

/-- `*`, which traps on overflow. -/
def mul (lhs rhs : UInt128) : Option UInt128 :=
  let result := multipliedReportingOverflow lhs rhs
  if result.2 then none else some result.1

def toNat (value : UInt128) : Nat := value.upperBits.toNat * 2^64 + value.lowerBits.toNat

def toBitVec (value : UInt128) : BitVec 128 := value.upperBits.toBitVec ++ value.lowerBits.toBitVec

variable (lhs rhs value : UInt128)

theorem toNat_lt : value.toNat < 2^128 := by
  have upper := value.upperBits.toNat_lt
  have lower := value.lowerBits.toNat_lt
  rw [toNat]
  omega

theorem toNat_toBitVec : value.toBitVec.toNat = value.toNat := by
  rw [toBitVec,toNat,BitVec.toNat_append,UInt64.toNat_toBitVec,UInt64.toNat_toBitVec,Nat.shiftLeft_eq,
    Nat.mul_comm,Nat.two_pow_add_eq_or_of_lt value.lowerBits.toNat_lt]

theorem toBitVec_of_toNat {bits : BitVec 128} (same : value.toNat = bits.toNat) : value.toBitVec = bits :=
  BitVec.eq_of_toNat_eq (value.toNat_toBitVec.trans same)

theorem toNat_inj : lhs.toNat = rhs.toNat ↔ lhs = rhs := by
  refine ⟨fun same => ?_,congrArg toNat⟩
  obtain ⟨upper,lower⟩ := lhs
  obtain ⟨upper',lower'⟩ := rhs
  have below := lower.toNat_lt
  have below' := lower'.toNat_lt
  rw [toNat,toNat] at same
  dsimp only at same
  rw [mk.injEq,← UInt64.toNat_inj,← UInt64.toNat_inj]
  omega

theorem toNat_literal (word : UInt64) : (literal word).toNat = word.toNat := by
  rw [literal,toNat,UInt64.toNat_zero,Nat.zero_mul,Nat.zero_add]

theorem lt_iff : lt lhs rhs = true ↔ lhs.toNat < rhs.toNat := by
  have lower := lhs.lowerBits.toNat_lt
  have lower' := rhs.lowerBits.toNat_lt
  simp only [lt,toNat,← UInt64.toNat_inj,UInt64.lt_iff_toNat_lt]
  split
  · simp only [true_iff]
    omega
  · split
    · simp only [true_iff]
      omega
    · simp only [Bool.false_eq_true,false_iff]
      omega

theorem toNat_adding : (addingReportingOverflow lhs rhs).1.toNat = (lhs.toNat + rhs.toNat) % 2^128 := by
  have bounds := And.intro lhs.upperBits.toNat_lt rhs.upperBits.toNat_lt
  have bounds' := And.intro lhs.lowerBits.toNat_lt rhs.lowerBits.toNat_lt
  rw [addingReportingOverflow,Word.addingReportingOverflow,Word.addingReportingOverflow,Word.addingReportingOverflow]
  dsimp only
  simp only [toNat,decide_eq_true_eq]
  split <;> simp only [UInt64.toNat_add,UInt64.toNat_one] <;> omega

theorem overflow_adding : (addingReportingOverflow lhs rhs).2 = true ↔ 2^128 ≤ lhs.toNat + rhs.toNat := by
  have bounds := And.intro lhs.upperBits.toNat_lt rhs.upperBits.toNat_lt
  have bounds' := And.intro lhs.lowerBits.toNat_lt rhs.lowerBits.toNat_lt
  rw [addingReportingOverflow,Word.addingReportingOverflow,Word.addingReportingOverflow,Word.addingReportingOverflow]
  dsimp only
  simp only [toNat,decide_eq_true_eq]
  split <;> simp only [UInt64.toNat_add,UInt64.toNat_one,Bool.or_eq_true,decide_eq_true_eq,Bool.false_eq_true,
    or_false] <;> omega

theorem toNat_subtracting :
    (subtractingReportingOverflow lhs rhs).1.toNat = (2^128 + lhs.toNat - rhs.toNat) % 2^128 := by
  have bounds := And.intro lhs.upperBits.toNat_lt rhs.upperBits.toNat_lt
  have bounds' := And.intro lhs.lowerBits.toNat_lt rhs.lowerBits.toNat_lt
  rw [subtractingReportingOverflow,Word.subtractingReportingOverflow,Word.subtractingReportingOverflow,
    Word.subtractingReportingOverflow]
  dsimp only
  simp only [toNat,decide_eq_true_eq,UInt64.lt_iff_toNat_lt]
  split <;> simp only [UInt64.toNat_sub,UInt64.toNat_one] <;> omega

theorem overflow_subtracting : (subtractingReportingOverflow lhs rhs).2 = true ↔ lhs.toNat < rhs.toNat := by
  have bounds := And.intro lhs.upperBits.toNat_lt rhs.upperBits.toNat_lt
  have bounds' := And.intro lhs.lowerBits.toNat_lt rhs.lowerBits.toNat_lt
  rw [subtractingReportingOverflow,Word.subtractingReportingOverflow,Word.subtractingReportingOverflow,
    Word.subtractingReportingOverflow]
  dsimp only
  simp only [toNat,decide_eq_true_eq,UInt64.lt_iff_toNat_lt]
  split <;> simp only [UInt64.toNat_sub,UInt64.toNat_one,Bool.or_eq_true,decide_eq_true_eq,Bool.false_eq_true,
    or_false] <;> omega

theorem toNat_complement : (complement value).toNat = 2^128 - 1 - value.toNat := by
  have below := value.toNat_lt
  rw [complement,toNat_subtracting,toNat_subtracting,toNat_literal,toNat_literal,UInt64.toNat_zero,UInt64.toNat_one]
  omega

theorem toNat_max : max.toNat = 2^128 - 1 := by
  rw [max,toNat_complement,toNat_literal,UInt64.toNat_zero,Nat.sub_zero]

/-- `+` traps exactly where the sum exceeds the width. -/
theorem add_eq : (add lhs rhs).map toNat =
    if lhs.toNat + rhs.toNat < 2^128 then some (lhs.toNat + rhs.toNat) else none := by
  have below := lhs.toNat_lt
  have trapping : lt (complement lhs) rhs = true ↔ ¬lhs.toNat + rhs.toNat < 2^128 := by
    rw [lt_iff,toNat_complement]
    omega
  rw [add]
  split
  · next beyond => rw [if_neg (trapping.mp beyond),Option.map_none]
  · next fits =>
    rw [trapping,not_not] at fits
    rw [if_pos fits,Option.map_some,toNat_adding,Nat.mod_eq_of_lt fits]

theorem sub_eq : (sub lhs rhs).map toNat =
    if rhs.toNat ≤ lhs.toNat then some (lhs.toNat - rhs.toNat) else none := by
  have below := lhs.toNat_lt
  rw [sub]
  split
  · next under =>
    rw [lt_iff] at under
    rw [if_neg (by omega),Option.map_none]
  · next fits =>
    rw [lt_iff,Nat.not_lt] at fits
    rw [if_pos fits,Option.map_some,toNat_subtracting]
    congr 1
    omega

theorem toBitVec_and : (and lhs rhs).toBitVec = lhs.toBitVec &&& rhs.toBitVec := by
  rw [and,toBitVec,UInt64.toBitVec_and,UInt64.toBitVec_and,← BitVec.and_append]
  rfl

theorem toBitVec_or : (or lhs rhs).toBitVec = lhs.toBitVec ||| rhs.toBitVec := by
  rw [or,toBitVec,UInt64.toBitVec_or,UInt64.toBitVec_or,← BitVec.or_append]
  rfl

/-- The width that the masked shifts read. -/
def width : Nat := rhs.toNat % 128

theorem width_toNat : (rhs.lowerBits &&& 127).toNat = rhs.width := by
  have mask : (127 : Nat) = 2^7 - 1 := by decide
  rw [width,toNat,UInt64.toNat_and,show (127 : UInt64).toNat = 127 from rfl,mask,Nat.and_two_pow_sub_one_eq_mod]
  omega

/-- The two parts that a shift by less than a word brings together do not overflow. -/
theorem shiftRight_parts (upper lower : UInt64) {shift : UInt64} (positive : 0 < shift.toNat)
    (within : shift.toNat ≤ 63) :
    (upper.toNat * 2^64 + lower.toNat) / 2^shift.toNat =
        (upper >>> shift).toNat * 2^64 + ((lower >>> shift).toNat + (upper <<< (64 - shift)).toNat) ∧
      (lower >>> shift).toNat + (upper <<< (64 - shift)).toNat < 2^64 := by
  have turned : (64 - shift).toNat = 64 - shift.toNat :=
    UInt64.toNat_sub_of_le _ _ (UInt64.le_iff_toNat_le.mpr (Nat.le_succ_of_le within))
  have split : 2^shift.toNat * 2^(64 - shift.toNat) = 2^64 := by
    rw [← Nat.pow_add]
    congr 1
    omega
  rw [UInt64.toNat_shiftRight,UInt64.toNat_shiftRight,UInt64.toNat_shiftLeft,turned,
    Nat.mod_eq_of_lt (by omega : shift.toNat < 64),Nat.mod_eq_of_lt (by omega : 64 - shift.toNat < 64),
    Nat.shiftRight_eq_div_pow,Nat.shiftRight_eq_div_pow,Nat.shiftLeft_eq]
  exact Digits.div_digits split (Nat.two_pow_pos _) lower.toNat_lt

theorem shiftLeft_parts (upper lower : UInt64) {shift : UInt64} (positive : 0 < shift.toNat)
    (within : shift.toNat ≤ 63) :
    (upper.toNat * 2^64 + lower.toNat) * 2^shift.toNat % 2^128 =
        ((upper <<< shift).toNat + (lower >>> (64 - shift)).toNat) * 2^64 + (lower <<< shift).toNat ∧
      (upper <<< shift).toNat + (lower >>> (64 - shift)).toNat < 2^64 := by
  have turned : (64 - shift).toNat = 64 - shift.toNat :=
    UInt64.toNat_sub_of_le _ _ (UInt64.le_iff_toNat_le.mpr (Nat.le_succ_of_le within))
  have split : 2^shift.toNat * 2^(64 - shift.toNat) = 2^64 := by
    rw [← Nat.pow_add]
    congr 1
    omega
  rw [UInt64.toNat_shiftRight,UInt64.toNat_shiftLeft,UInt64.toNat_shiftLeft,turned,
    Nat.mod_eq_of_lt (by omega : shift.toNat < 64),Nat.mod_eq_of_lt (by omega : 64 - shift.toNat < 64),
    Nat.shiftRight_eq_div_pow,Nat.shiftLeft_eq,Nat.shiftLeft_eq]
  exact Digits.mul_digits split (Nat.two_pow_pos _) lower.toNat_lt

theorem word_sub_half {shift : UInt64} (more : 64 ≤ shift.toNat) : (shift - 64).toNat = shift.toNat - 64 :=
  UInt64.toNat_sub_of_le _ _ (UInt64.le_iff_toNat_le.mpr more)

theorem power_half {shift : Nat} (more : 64 ≤ shift) : 2^shift = 2^64 * 2^(shift - 64) := by
  rw [← Nat.pow_add]
  congr 1
  omega

theorem toNat_maskedShiftRight : (maskedShiftRight lhs rhs).toNat = lhs.toNat / 2^rhs.width := by
  have same := rhs.width_toNat
  have lower := lhs.lowerBits.toNat_lt
  have bound : rhs.width < 128 := Nat.mod_lt _ (by decide)
  rw [maskedShiftRight]
  generalize rhs.lowerBits &&& 127 = shift at same ⊢
  rw [← same] at bound ⊢
  simp only [← UInt64.toNat_inj,UInt64.le_iff_toNat_le,UInt64.reduceToNat]
  split
  · next none => rw [none,Nat.pow_zero,Nat.div_one]
  · next some =>
    split
    · next within =>
      obtain ⟨parts,fits⟩ := shiftRight_parts lhs.upperBits lhs.lowerBits (Nat.pos_of_ne_zero some) within
      rw [toNat,toNat,parts,UInt64.toNat_add,Nat.mod_eq_of_lt fits]
    · next beyond =>
      split
      · next half =>
        simp only [toNat,UInt64.toNat_zero,half]
        omega
      · next more =>
        have least : 64 ≤ shift.toNat := by omega
        rw [toNat,toNat,UInt64.toNat_zero,UInt64.toNat_shiftRight,word_sub_half least,Nat.shiftRight_eq_div_pow,
          Nat.mod_eq_of_lt (by omega : shift.toNat - 64 < 64),power_half least,← Nat.div_div_eq_div_mul,
          Nat.mul_comm lhs.upperBits.toNat,Nat.mul_add_div (Nat.two_pow_pos 64),Nat.div_eq_of_lt lower,Nat.add_zero,
          Nat.zero_mul,Nat.zero_add]

theorem toNat_maskedShiftLeft : (maskedShiftLeft lhs rhs).toNat = lhs.toNat * 2^rhs.width % 2^128 := by
  have same := rhs.width_toNat
  have lower := lhs.lowerBits.toNat_lt
  have below := lhs.toNat_lt
  have bound : rhs.width < 128 := Nat.mod_lt _ (by decide)
  rw [maskedShiftLeft]
  generalize rhs.lowerBits &&& 127 = shift at same ⊢
  rw [← same] at bound ⊢
  simp only [← UInt64.toNat_inj,UInt64.le_iff_toNat_le,UInt64.reduceToNat]
  split
  · next none => rw [none,Nat.pow_zero,Nat.mul_one,Nat.mod_eq_of_lt below]
  · next some =>
    split
    · next within =>
      obtain ⟨parts,fits⟩ := shiftLeft_parts lhs.upperBits lhs.lowerBits (Nat.pos_of_ne_zero some) within
      rw [toNat,toNat,parts,UInt64.toNat_add,Nat.mod_eq_of_lt fits]
    · next beyond =>
      split
      · next half =>
        simp only [toNat,UInt64.toNat_zero,half]
        omega
      · next more =>
        have least : 64 ≤ shift.toNat := by omega
        have whole : lhs.toNat * (2^64 * 2^(shift.toNat - 64)) =
            2^64 * (2^64 * (lhs.upperBits.toNat * 2^(shift.toNat - 64)) +
              lhs.lowerBits.toNat * 2^(shift.toNat - 64)) := by
          rw [toNat]
          ring
        rw [power_half least,whole,show (2 : Nat)^128 = 2^64 * 2^64 from rfl,Nat.mul_mod_mul_left,Nat.mul_add_mod,toNat,
          UInt64.toNat_zero,UInt64.toNat_shiftLeft,word_sub_half least,Nat.shiftLeft_eq,
          Nat.mod_eq_of_lt (by omega : shift.toNat - 64 < 64),Nat.add_zero,Nat.mul_comm]

theorem toNat_shiftRight : (shiftRight lhs rhs).toNat = lhs.toNat / 2^rhs.toNat := by
  have inside := lt_iff rhs (literal 128)
  simp only [toNat_literal,UInt64.reduceToNat] at inside
  rw [shiftRight]
  split
  · next small => rw [toNat_maskedShiftRight,width,Nat.mod_eq_of_lt (inside.mp small)]
  · next large =>
    rw [inside,Nat.not_lt] at large
    have wide : lhs.toNat < 2^rhs.toNat := Nat.lt_of_lt_of_le lhs.toNat_lt (Nat.pow_le_pow_right Nat.two_pos large)
    rw [Nat.div_eq_of_lt wide,toNat_literal,UInt64.toNat_zero]

theorem toNat_shiftLeft : (shiftLeft lhs rhs).toNat = lhs.toNat * 2^rhs.toNat % 2^128 := by
  have inside := lt_iff rhs (literal 128)
  simp only [toNat_literal,UInt64.reduceToNat] at inside
  rw [shiftLeft]
  split
  · next small => rw [toNat_maskedShiftLeft,width,Nat.mod_eq_of_lt (inside.mp small)]
  · next large =>
    rw [inside,Nat.not_lt] at large
    have multiple : 2^128 ∣ lhs.toNat * 2^rhs.toNat := Dvd.dvd.mul_left (Nat.pow_dvd_pow 2 large) _
    rw [Nat.mod_eq_zero_of_dvd multiple,toNat_literal,UInt64.toNat_zero]

def total (addends : List UInt64) : Nat := addends.foldr (fun addend sum => addend.toNat + sum) 0

/-- The sum of the addends is kept, as long as their number is one of 64 bits. -/
theorem variadic_total (addends : List UInt64) (few : addends.length < 2^64) :
    (variadicAdditionWithOverflowCount addends).1.toNat +
      2^64 * (variadicAdditionWithOverflowCount addends).2.toNat = total addends := by
  have step (rest : List UInt64) : ∀ start : UInt64 × UInt64, start.2.toNat + rest.length < 2^64 →
      (rest.foldl (fun total addend =>
        let interimSum := Word.addingReportingOverflow total.1 addend
        (interimSum.1,if interimSum.2 then total.2 + 1 else total.2)) start).1.toNat +
      2^64 * (rest.foldl (fun total addend =>
        let interimSum := Word.addingReportingOverflow total.1 addend
        (interimSum.1,if interimSum.2 then total.2 + 1 else total.2)) start).2.toNat =
      start.1.toNat + 2^64 * start.2.toNat + total rest := by
    induction rest with
    | nil => exact fun _ _ => rfl
    | cons addend rest ih =>
      intro start few
      have below := start.1.toNat_lt
      have below' := addend.toNat_lt
      rw [List.length_cons] at few
      rw [List.foldl_cons,ih]
      · simp only [Word.addingReportingOverflow,total,List.foldr_cons,decide_eq_true_eq]
        split <;> simp only [UInt64.toNat_add,UInt64.toNat_one] <;> omega
      · simp only [Word.addingReportingOverflow,decide_eq_true_eq]
        split
        · rw [UInt64.toNat_add,UInt64.toNat_one]
          omega
        · omega
  have whole := step addends (0,0) (by simpa using few)
  simpa [variadicAdditionWithOverflowCount] using whole

theorem toNat_upper32 (word : UInt64) : (word >>> 32).toNat = word.toNat / 2^32 := by
  rw [UInt64.toNat_shiftRight,Nat.shiftRight_eq_div_pow]
  rfl

theorem toNat_lower32 (word : UInt64) : (word &&& lower32).toNat = word.toNat % 2^32 := by
  rw [UInt64.toNat_and,show lower32.toNat = 2^32 - 1 from rfl,Nat.and_two_pow_sub_one_eq_mod]

theorem toNat_raised (word : UInt64) : (word <<< 32).toNat = word.toNat % 2^32 * 2^32 := by
  have shifted : (word <<< 32).toNat = word.toNat * 2^32 % 2^64 := by
    rw [UInt64.toNat_shiftLeft,Nat.shiftLeft_eq]
    rfl
  omega

theorem segment_lt (place : Nat) : (value.segment place).toNat < 2^32 := by
  have upper := value.upperBits.toNat_lt
  have lower := value.lowerBits.toNat_lt
  unfold segment
  split <;> simp only [toNat_upper32,toNat_lower32] <;> omega

theorem toNat_segments : value.toNat = (value.segment 0).toNat * 2^96 + (value.segment 1).toNat * 2^64 +
    (value.segment 2).toNat * 2^32 + (value.segment 3).toNat := by
  have upper := value.upperBits.toNat_lt
  have lower := value.lowerBits.toNat_lt
  simp only [toNat,segment,toNat_upper32,toNat_lower32]
  omega

/-- The product of two parts does not overflow, and falls into two parts again. -/
theorem product_parts {x y : UInt64} (left : x.toNat < 2^32) (right : y.toNat < 2^32) :
    (x * y).toNat = x.toNat * y.toNat ∧ (x * y).toNat ≤ (2^32 - 1) * (2^32 - 1) := by
  have most : x.toNat * y.toNat ≤ (2^32 - 1) * (2^32 - 1) :=
    Nat.mul_le_mul (Nat.le_sub_one_of_lt left) (Nat.le_sub_one_of_lt right)
  rw [UInt64.toNat_mul,Nat.mod_eq_of_lt (by omega)]
  exact ⟨rfl,most⟩

/-- The sums of the parts of the same weight, and their carries: what the words are made of is the product. -/
theorem multiplied_words {p : Nat → Nat → Nat} (most : ∀ x y, p x y ≤ (2^32 - 1) * (2^32 - 1))
    {t7 o7 t6 o6 t5 o5 t4 o4 t3 o3 t1 o1 ll oll ul oul lu olu uu ouu : Nat}
    (s7 : t7 + 2^64 * o7 = p 2 3 % 2^32 + (p 3 2 % 2^32 + p 3 3 / 2^32))
    (s6 : t6 + 2^64 * o6 = p 1 3 % 2^32 + (p 2 2 % 2^32 + (p 3 1 % 2^32 + (p 2 3 / 2^32 + (p 3 2 / 2^32 + o7)))))
    (s5 : t5 + 2^64 * o5 = p 0 3 % 2^32 + (p 1 2 % 2^32 + (p 2 1 % 2^32 + (p 3 0 % 2^32 + (p 1 3 / 2^32 +
      (p 2 2 / 2^32 + (p 3 1 / 2^32 + o6)))))))
    (s4 : t4 + 2^64 * o4 = p 0 2 % 2^32 + (p 1 1 % 2^32 + (p 2 0 % 2^32 + (p 0 3 / 2^32 + (p 1 2 / 2^32 +
      (p 2 1 / 2^32 + (p 3 0 / 2^32 + o5)))))))
    (s3 : t3 + 2^64 * o3 = p 0 1 % 2^32 + (p 1 0 % 2^32 + (p 0 2 / 2^32 + (p 1 1 / 2^32 + (p 2 0 / 2^32 + o4)))))
    (s1 : t1 + 2^64 * o1 = p 0 0 + (p 0 1 / 2^32 + (p 1 0 / 2^32 + o3)))
    (sll : ll + 2^64 * oll = p 3 3 % 2^32 + t7 % 2^32 * 2^32)
    (sul : ul + 2^64 * oul = t7 / 2^32 + (t6 + (t5 % 2^32 * 2^32 + oll)))
    (slu : lu + 2^64 * olu = t5 / 2^32 + (t4 + (t3 % 2^32 * 2^32 + oul)))
    (suu : uu + 2^64 * ouu = t3 / 2^32 + (t1 + olu)) :
    (uu + 2^64 * ouu) * 2^192 + lu * 2^128 + ul * 2^64 + ll = p 0 0 * 2^192 + (p 0 1 + p 1 0) * 2^160 +
      (p 0 2 + p 1 1 + p 2 0) * 2^128 + (p 0 3 + p 1 2 + p 2 1 + p 3 0) * 2^96 + (p 1 3 + p 2 2 + p 3 1) * 2^64 +
      (p 2 3 + p 3 2) * 2^32 + p 3 3 := by
  have none7 : o7 = 0 := by
    have := most 3 3
    omega
  have none6 : o6 = 0 := by
    have := most 2 3
    have := most 3 2
    omega
  have none5 : o5 = 0 := by
    have := most 1 3
    have := most 2 2
    have := most 3 1
    omega
  have none4 : o4 = 0 := by
    have := most 0 3
    have := most 1 2
    have := most 2 1
    have := most 3 0
    omega
  have none3 : o3 = 0 := by
    have := most 0 2
    have := most 1 1
    have := most 2 0
    omega
  have none1 : o1 = 0 := by
    have := most 0 0
    have := most 0 1
    have := most 1 0
    omega
  subst none7 none6 none5 none4 none3 none1
  omega

theorem words_below {uu ouu lu ul ll product : Nat}
    (whole : (uu + 2^64 * ouu) * 2^192 + lu * 2^128 + ul * 2^64 + ll = product) (below : product < 2^128 * 2^128) :
    (uu * 2^64 + lu) * 2^128 + (ul * 2^64 + ll) = product := by
  have none : ouu = 0 := by
    refine Nat.eq_zero_of_not_pos (fun some => Nat.not_le_of_lt below ?_)
    calc
      2^128 * 2^128 = 2^64 * 1 * 2^192 := by ring
      _ ≤ (uu + 2^64 * ouu) * 2^192 :=
        Nat.mul_le_mul_right _ (Nat.le_add_left_of_le (Nat.mul_le_mul_left _ some))
      _ ≤ product := by
        rw [← whole,Nat.add_assoc,Nat.add_assoc]
        exact Nat.le_add_right _ _
  subst none whole
  ring

theorem total_cons (addend : UInt64) (rest : List UInt64) : total (addend :: rest) = addend.toNat + total rest := rfl

theorem total_nil : total [] = 0 := rfl

theorem toNat_multiplied (value other : UInt128) :
    (multipliedFullWidth value other).1.toNat * 2^128 + (multipliedFullWidth value other).2.toNat =
      value.toNat * other.toNat := by
  have parts (x y : Nat) := product_parts (value.segment_lt x) (other.segment_lt y)
  have sums (addends : List UInt64) (few : addends.length ≤ 8) :=
    variadic_total addends (Nat.lt_of_le_of_lt few (by decide))
  have product : value.toNat * other.toNat =
      (value.segment 0 * other.segment 0).toNat * 2^192 +
      ((value.segment 0 * other.segment 1).toNat + (value.segment 1 * other.segment 0).toNat) * 2^160 +
      ((value.segment 0 * other.segment 2).toNat + (value.segment 1 * other.segment 1).toNat +
        (value.segment 2 * other.segment 0).toNat) * 2^128 +
      ((value.segment 0 * other.segment 3).toNat + (value.segment 1 * other.segment 2).toNat +
        (value.segment 2 * other.segment 1).toNat + (value.segment 3 * other.segment 0).toNat) * 2^96 +
      ((value.segment 1 * other.segment 3).toNat + (value.segment 2 * other.segment 2).toNat +
        (value.segment 3 * other.segment 1).toNat) * 2^64 +
      ((value.segment 2 * other.segment 3).toNat + (value.segment 3 * other.segment 2).toNat) * 2^32 +
      (value.segment 3 * other.segment 3).toNat := by
    rw [toNat_segments,toNat_segments]
    simp only [(parts _ _).1]
    ring
  have below : value.toNat * other.toNat < 2^128 * 2^128 := Nat.mul_lt_mul'' value.toNat_lt other.toNat_lt
  obtain ⟨result,made⟩ : ∃ result, multipliedFullWidth value other = result := ⟨_,rfl⟩
  rw [made]
  unfold multipliedFullWidth at made
  extract_lets resultArray low high bitSegment8 bitSegment7 bitSegment6 bitSegment5 bitSegment4 bitSegment3 bitSegment1
    lowerLowerBits upperLowerBits lowerUpperBits upperUpperBits at made
  have lows (x y : Nat) : (low x y).toNat = (resultArray x y).toNat % 2^32 := toNat_lower32 _
  have highs (x y : Nat) : (high x y).toNat = (resultArray x y).toNat / 2^32 := toNat_upper32 _
  have s7 : bitSegment7.1.toNat + 2^64 * bitSegment7.2.toNat = total [low 2 3,low 3 2,high 3 3] := sums _ (by simp)
  have s6 : bitSegment6.1.toNat + 2^64 * bitSegment6.2.toNat =
      total [low 1 3,low 2 2,low 3 1,high 2 3,high 3 2,bitSegment7.2] := sums _ (by simp)
  have s5 : bitSegment5.1.toNat + 2^64 * bitSegment5.2.toNat =
      total [low 0 3,low 1 2,low 2 1,low 3 0,high 1 3,high 2 2,high 3 1,bitSegment6.2] := sums _ (by simp)
  have s4 : bitSegment4.1.toNat + 2^64 * bitSegment4.2.toNat =
      total [low 0 2,low 1 1,low 2 0,high 0 3,high 1 2,high 2 1,high 3 0,bitSegment5.2] := sums _ (by simp)
  have s3 : bitSegment3.1.toNat + 2^64 * bitSegment3.2.toNat =
      total [low 0 1,low 1 0,high 0 2,high 1 1,high 2 0,bitSegment4.2] := sums _ (by simp)
  have s1 : bitSegment1.1.toNat + 2^64 * bitSegment1.2.toNat =
      total [resultArray 0 0,high 0 1,high 1 0,bitSegment3.2] := sums _ (by simp)
  have sll : lowerLowerBits.1.toNat + 2^64 * lowerLowerBits.2.toNat =
      total [bitSegment8,bitSegment7.1 <<< 32] := sums _ (by simp)
  have sul : upperLowerBits.1.toNat + 2^64 * upperLowerBits.2.toNat =
      total [bitSegment7.1 >>> 32,bitSegment6.1,bitSegment5.1 <<< 32,lowerLowerBits.2] := sums _ (by simp)
  have slu : lowerUpperBits.1.toNat + 2^64 * lowerUpperBits.2.toNat =
      total [bitSegment5.1 >>> 32,bitSegment4.1,bitSegment3.1 <<< 32,upperLowerBits.2] := sums _ (by simp)
  have suu : upperUpperBits.1.toNat + 2^64 * upperUpperBits.2.toNat =
      total [bitSegment3.1 >>> 32,bitSegment1.1,lowerUpperBits.2] := sums _ (by simp)
  have lowest : bitSegment8.toNat = (resultArray 3 3).toNat % 2^32 := lows 3 3
  have whole : value.toNat * other.toNat = (resultArray 0 0).toNat * 2^192 +
      ((resultArray 0 1).toNat + (resultArray 1 0).toNat) * 2^160 +
      ((resultArray 0 2).toNat + (resultArray 1 1).toNat + (resultArray 2 0).toNat) * 2^128 +
      ((resultArray 0 3).toNat + (resultArray 1 2).toNat + (resultArray 2 1).toNat + (resultArray 3 0).toNat) * 2^96 +
      ((resultArray 1 3).toNat + (resultArray 2 2).toNat + (resultArray 3 1).toNat) * 2^64 +
      ((resultArray 2 3).toNat + (resultArray 3 2).toNat) * 2^32 + (resultArray 3 3).toNat := product
  have most (x y : Nat) : (resultArray x y).toNat ≤ (2^32 - 1) * (2^32 - 1) := (parts x y).2
  clear_value upperUpperBits lowerUpperBits upperLowerBits lowerLowerBits bitSegment1 bitSegment3 bitSegment4
    bitSegment5 bitSegment6 bitSegment7 bitSegment8 high low resultArray
  simp only [total_cons,total_nil,Nat.add_zero,lows,highs,toNat_upper32,toNat_raised]
    at s7 s6 s5 s4 s3 s1 sll sul slu suu
  rw [lowest] at sll
  have words := multiplied_words most s7 s6 s5 s4 s3 s1 sll sul slu suu
  rw [← whole] at words
  rw [← made,toNat,toNat]
  exact words_below words below

theorem multiplied_eq (value other : UInt128) :
    (multipliedFullWidth value other).1.toNat = value.toNat * other.toNat / 2^128 ∧
      (multipliedFullWidth value other).2.toNat = value.toNat * other.toNat % 2^128 := by
  have below := (multipliedFullWidth value other).2.toNat_lt
  rw [← toNat_multiplied,Nat.add_comm,Nat.add_mul_div_right _ _ (Nat.two_pow_pos 128),Nat.div_eq_of_lt below,
    Nat.zero_add,Nat.add_mul_mod_self_right,Nat.mod_eq_of_lt below]
  exact ⟨rfl,rfl⟩

/-- `*` traps exactly where the product exceeds the width. -/
theorem mul_eq : (mul lhs rhs).map toNat =
    if lhs.toNat * rhs.toNat < 2^128 then some (lhs.toNat * rhs.toNat) else none := by
  obtain ⟨high,low⟩ := multiplied_eq lhs rhs
  have overflows : (multipliedReportingOverflow lhs rhs).2 = true ↔ ¬lhs.toNat * rhs.toNat < 2^128 := by
    rw [multipliedReportingOverflow,lt_iff,toNat_literal,UInt64.toNat_zero,high,Nat.div_pos_iff,Nat.not_lt]
    simp
  rw [mul]
  split
  · next beyond => rw [if_neg (overflows.mp beyond),Option.map_none]
  · next fits =>
    rw [overflows,not_not] at fits
    rw [if_pos fits,Option.map_some,multipliedReportingOverflow,low,Nat.mod_eq_of_lt fits]

/-- Sum, difference and product where they fit, a trap where they do not, and the whole product of two widths. -/
theorem arithmetic (lhs rhs : UInt128) :
    (add lhs rhs).map toNat = (if lhs.toNat + rhs.toNat < 2^128 then some (lhs.toNat + rhs.toNat) else none) ∧
    (sub lhs rhs).map toNat = (if rhs.toNat ≤ lhs.toNat then some (lhs.toNat - rhs.toNat) else none) ∧
    (mul lhs rhs).map toNat = (if lhs.toNat * rhs.toNat < 2^128 then some (lhs.toNat * rhs.toNat) else none) ∧
    (multipliedFullWidth lhs rhs).1.toNat * 2^128 + (multipliedFullWidth lhs rhs).2.toNat = lhs.toNat * rhs.toNat :=
  ⟨add_eq lhs rhs,sub_eq lhs rhs,mul_eq lhs rhs,toNat_multiplied lhs rhs⟩

theorem toNat_byteSwappedWord (word : UInt64) : (Word.byteSwapped word).toNat = Digits.reversed word.toNat 8 :=
  Digits.toNat_foldBytes word.toBitVec (by decide)

theorem toBitVec_byteSwapped (value : UInt128) : value.byteSwapped.toBitVec = TenonVpn.byteSwapped value.toBitVec := by
  refine toBitVec_of_toNat _ ?_
  have low := value.lowerBits.toNat_lt
  have whole : (TenonVpn.byteSwapped value.toBitVec).toNat = Digits.reversed value.toBitVec.toNat 16 :=
    Digits.toNat_foldBytes value.toBitVec (by decide)
  have power : (2 : Nat)^64 = 256^8 := by decide
  have upper : value.toNat / 256^8 = value.upperBits.toNat := by
    rw [toNat]
    omega
  have lower : Digits.reversed value.toNat 8 = Digits.reversed value.lowerBits.toNat 8 := by
    rw [toNat,power,Digits.reversed_low (Nat.le_refl 8)]
  rw [whole,toNat_toBitVec,Digits.reversed_add value.toNat 8 8,upper,lower,toNat,byteSwapped,toNat_byteSwappedWord,
    toNat_byteSwappedWord,power]

theorem toBitVec_shiftRight (lhs rhs : UInt128) : (shiftRight lhs rhs).toBitVec = lhs.toBitVec >>> rhs.toNat := by
  refine toBitVec_of_toNat _ ?_
  rw [toNat_shiftRight,BitVec.toNat_ushiftRight,toNat_toBitVec,Nat.shiftRight_eq_div_pow]

theorem toBitVec_shiftLeft (lhs rhs : UInt128) : (shiftLeft lhs rhs).toBitVec = lhs.toBitVec <<< rhs.toNat := by
  refine toBitVec_of_toNat _ ?_
  rw [toNat_shiftLeft,BitVec.toNat_shiftLeft,toNat_toBitVec,Nat.shiftLeft_eq]

theorem toBitVec_complement (value : UInt128) : value.complement.toBitVec = ~~~value.toBitVec := by
  refine toBitVec_of_toNat _ ?_
  rw [toNat_complement,BitVec.toNat_not,toNat_toBitVec]

theorem toBitVec_max : max.toBitVec = BitVec.allOnes 128 := by
  refine toBitVec_of_toNat _ ?_
  rw [toNat_max,BitVec.toNat_allOnes]

end UInt128

/-- The IPv6 branch of `mask(baseIP:)`. -/
def IPMask.maskIPv6 (m addr : UInt128) : Option (UInt128 × UInt128) :=
  if UInt128.lt (UInt128.literal 128) m then none
  else if m = UInt128.literal 128 then some (addr,addr)
  else if m = UInt128.literal 0 then some (UInt128.literal 0,UInt128.max)
  else do
    let m ← UInt128.sub (UInt128.literal 128) m
    let base := UInt128.shiftLeft (UInt128.shiftRight addr.byteSwapped m) m
    let last := UInt128.or base (UInt128.complement (UInt128.shiftLeft (UInt128.shiftRight UInt128.max m) m))
    some (base,last)

/-- An address of two words. -/
def IPAddress.ofWords (addr : UInt128) : IPAddress := .ipv6 addr.toBitVec

theorem IPMask.maskIPv6_eq (m addr : UInt128) :
    (IPMask.maskIPv6 m addr).map (Prod.map IPAddress.ofWords IPAddress.ofWords) =
      IPMask.mask (.ipv6 m.toBitVec) (.ipv6 addr.toBitVec) := by
  have limit : (UInt128.literal 128).toNat = 128 := UInt128.toNat_literal 128
  have none : (UInt128.literal 0).toNat = 0 := UInt128.toNat_literal 0
  have beyond := UInt128.lt_iff (UInt128.literal 128) m
  have all := UInt128.toNat_inj m (UInt128.literal 128)
  have nothing := UInt128.toNat_inj m (UInt128.literal 0)
  rw [limit] at beyond all
  rw [none] at nothing
  rw [IPMask.maskIPv6,IPMask.mask,UInt128.toNat_toBitVec]
  simp only [beyond,← all,← nothing]
  split
  · rfl
  · next within =>
    split
    · rfl
    · split
      · rw [Option.map_some,Prod.map,IPAddress.ofWords,IPAddress.ofWords,UInt128.toBitVec_max]
        rfl
      · have rest := UInt128.sub_eq (UInt128.literal 128) m
        rw [limit,if_pos (Nat.le_of_not_lt within),Option.map_eq_some_iff] at rest
        obtain ⟨rest,made,width⟩ := rest
        rw [made,Option.bind_eq_bind,Option.bind_some,Option.map_some,Prod.map,IPAddress.ofWords,IPAddress.ofWords]
        simp only [UInt128.toBitVec_or,UInt128.toBitVec_complement,UInt128.toBitVec_shiftLeft,
          UInt128.toBitVec_shiftRight,UInt128.toBitVec_byteSwapped,UInt128.toBitVec_max,width]
end TenonVpn
