import TenonVpn.RestoringDivision
import TenonVpn.UInt128

/-! Quotients and texts of `UInt128`. The division keeps a remainder of 128 bits, which is enough for
dividends of one width and not for all of two; every text it writes is read back. -/
namespace TenonVpn.UInt128
variable (lhs rhs value : UInt128)

/-- The loop that counts the bits of a word. -/
def walkBits (bitsToWalk : UInt64) : Nat := if 0 < bitsToWalk then walkBits (bitsToWalk >>> 1) + 1 else 0
termination_by bitsToWalk.toNat
decreasing_by
  next some =>
    have positive : 0 < bitsToWalk.toNat := some
    rw [UInt64.toNat_shiftRight,Nat.shiftRight_eq_div_pow]
    exact Nat.div_lt_self positive (by decide)

def significantBits (value : UInt128) : Nat :=
  if 0 < value.upperBits then 64 + walkBits value.upperBits else walkBits value.lowerBits

/-- `_bitFromDoubleWidth`. -/
def bitFromDoubleWidth (bitPosition : Nat) (high low : UInt128) : UInt128 :=
  if bitPosition = 0 then and low (literal 1)
  else if bitPosition ≤ 127 then and (shiftRight low (literal (UInt64.ofNat bitPosition))) (literal 1)
  else if bitPosition = 128 then and high (literal 1)
  else and (shiftRight high (literal (UInt64.ofNat (bitPosition - 128)))) (literal 1)

/-- The body of the division loop, on the quotient and the remainder. -/
def divisionStep (divisor high low : UInt128) (numeratorShiftWidth : Nat) (state : UInt128 × UInt128) :
    UInt128 × UInt128 :=
  let remainder := or (shiftLeft state.2 (literal 1)) (bitFromDoubleWidth numeratorShiftWidth high low)
  if lt remainder divisor then (state.1,remainder)
  else (or state.1 (shiftLeft (literal 1) (literal (UInt64.ofNat numeratorShiftWidth))),
    (subtractingReportingOverflow remainder divisor).1)

def divisionLoop (divisor high low : UInt128) : Nat → UInt128 × UInt128 → UInt128 × UInt128
  | 0, state => state
  | numeratorShiftWidth+1, state =>
    divisionLoop divisor high low numeratorShiftWidth (divisionStep divisor high low numeratorShiftWidth state)

/-- `_quotientAndRemainderFullWidth`; a zero is divided before the divisor is looked at. -/
def quotientAndRemainderFullWidth (divisor high low : UInt128) : Option (UInt128 × UInt128) :=
  if lt (literal 0) high then
    if divisor = literal 0 then none
    else some (divisionLoop divisor high low (high.significantBits + 128) (literal 0,literal 0))
  else if low = literal 0 then some (literal 0,literal 0)
  else if divisor = literal 0 then none
  else some (divisionLoop divisor high low low.significantBits (literal 0,literal 0))

def quotientAndRemainder (value rhs : UInt128) : Option (UInt128 × UInt128) :=
  rhs.quotientAndRemainderFullWidth (literal 0) value

/-- `/`, which gives the dividend back where it is divided by zero. -/
def div (lhs rhs : UInt128) : Option UInt128 :=
  if rhs = literal 0 then some lhs else (quotientAndRemainder lhs rhs).map Prod.fst

/-- `%`. -/
def mod (lhs rhs : UInt128) : Option UInt128 :=
  if rhs = literal 0 then some lhs else (quotientAndRemainder lhs rhs).map Prod.snd

theorem walkBits_le_iff (word : UInt64) (count : Nat) : walkBits word ≤ count ↔ word.toNat < 2^count := by
  induction word using walkBits.induct generalizing count with
  | case1 word some ih =>
    have positive : 0 < word.toNat := some
    have halved : (word >>> 1).toNat = word.toNat / 2 := by
      rw [UInt64.toNat_shiftRight,Nat.shiftRight_eq_div_pow]
      rfl
    rw [walkBits,if_pos some]
    cases count with
    | zero =>
      rw [Nat.pow_zero]
      omega
    | succ count =>
      rw [Nat.add_le_add_iff_right,ih,halved,Nat.pow_succ]
      omega
  | case2 word none =>
    have zero : word.toNat = 0 := Nat.eq_zero_of_not_pos none
    rw [walkBits,if_neg none,zero]
    exact iff_of_true (Nat.zero_le _) (Nat.two_pow_pos _)

theorem toNat_lt_significant : value.toNat < 2^value.significantBits := by
  have lower := value.lowerBits.toNat_lt
  rw [significantBits,toNat]
  split
  · have upper := (walkBits_le_iff value.upperBits _).mp (Nat.le_refl _)
    rw [Nat.pow_add]
    omega
  · next none =>
    have zero : value.upperBits.toNat = 0 := Nat.eq_zero_of_not_pos none
    rw [zero,Nat.zero_mul,Nat.zero_add]
    exact (walkBits_le_iff value.lowerBits _).mp (Nat.le_refl _)

theorem significantBits_le : value.significantBits ≤ 128 := by
  have upper := (walkBits_le_iff value.upperBits 64).mpr value.upperBits.toNat_lt
  have lower := (walkBits_le_iff value.lowerBits 64).mpr value.lowerBits.toNat_lt
  rw [significantBits]
  split <;> omega

theorem toNat_and : (and lhs rhs).toNat = lhs.toNat &&& rhs.toNat := by
  rw [← toNat_toBitVec,toBitVec_and,BitVec.toNat_and,toNat_toBitVec,toNat_toBitVec]

theorem toNat_or : (or lhs rhs).toNat = lhs.toNat ||| rhs.toNat := by
  rw [← toNat_toBitVec,toBitVec_or,BitVec.toNat_or,toNat_toBitVec,toNat_toBitVec]

/-- The number of a double width. -/
def double (high low : UInt128) : Nat := 2^128 * high.toNat + low.toNat

variable {divisor high low : UInt128}

theorem toNat_lowest : (and value (literal 1)).toNat = (value.toNat.testBit 0).toNat := by
  rw [toNat_and,toNat_literal,UInt64.toNat_one,Nat.and_one_is_mod,Nat.toNat_testBit,Nat.pow_zero,Nat.div_one]

theorem toNat_place {place : Nat} (small : place < 256) : (literal (UInt64.ofNat place)).toNat = place := by
  rw [toNat_literal,UInt64.toNat_ofNat',Nat.mod_eq_of_lt (by omega)]

theorem toNat_shifted {place : Nat} (small : place < 256) :
    (and (shiftRight value (literal (UInt64.ofNat place))) (literal 1)).toNat = (value.toNat.testBit place).toNat := by
  rw [toNat_lowest,toNat_shiftRight,toNat_place small,Nat.testBit_div_two_pow,Nat.zero_add]

theorem toNat_bitFromDoubleWidth (high low : UInt128) {place : Nat} (small : place < 256) :
    (bitFromDoubleWidth place high low).toNat = ((double high low).testBit place).toNat := by
  rw [bitFromDoubleWidth,double,Nat.testBit_two_pow_mul_add _ low.toNat_lt]
  split
  · next first =>
    subst first
    rw [toNat_lowest,if_pos (by decide)]
  · split
    · next lower => rw [toNat_shifted _ small,if_pos (by omega)]
    · split
      · next first =>
        subst first
        rw [toNat_lowest,if_neg (by decide)]
      · next upper => rw [toNat_shifted _ (by omega),if_neg (by omega)]

/-- The state of the loop and that of the division of numbers; the bits of the quotient below the place are clear. -/
def Represents (place : Nat) (state : UInt128 × UInt128) (numbers : Nat × Nat) : Prop :=
  state.1.toNat = numbers.1 ∧ state.2.toNat = numbers.2 ∧ 2^place ∣ numbers.1

theorem represents_step {place : Nat} (small : place < 256) {state : UInt128 × UInt128} {numbers : Nat × Nat}
    (represents : Represents (place+1) state numbers) :
    Represents place (divisionStep divisor high low place state)
      (RestoringDivision.step 128 (double high low) divisor.toNat place numbers) := by
  obtain ⟨quotient,remainder⟩ := state
  obtain ⟨quotient',remainder'⟩ := numbers
  obtain ⟨rfl,rfl,clear⟩ := represents
  dsimp only at clear
  have bit := RestoringDivision.bit_lt (double high low) place
  have shifted : (or (shiftLeft remainder (literal 1)) (bitFromDoubleWidth place high low)).toNat =
      2 * remainder.toNat % 2^128 + ((double high low).testBit place).toNat := by
    have even : remainder.toNat * 2^1 % 2^128 = 2^1 * (remainder.toNat % 2^127) := by omega
    rw [toNat_or,toNat_bitFromDoubleWidth _ _ small,toNat_shiftLeft,toNat_literal,UInt64.toNat_one,even,
      ← Nat.two_pow_add_eq_or_of_lt bit]
    omega
  have fewer : 2^place ∣ quotient.toNat := Dvd.dvd.trans (Nat.pow_dvd_pow 2 (Nat.le_succ place)) clear
  have set : (or quotient (shiftLeft (literal 1) (literal (UInt64.ofNat place)))).toNat =
      quotient.toNat + (if place < 128 then 2^place else 0) := by
    rw [toNat_or,toNat_shiftLeft,toNat_place small,toNat_literal,UInt64.toNat_one,Nat.one_mul]
    split
    · next inside =>
      obtain ⟨part,whole⟩ := clear
      rw [Nat.mod_eq_of_lt (Nat.pow_lt_pow_right Nat.one_lt_two inside),whole,
        ← Nat.two_pow_add_eq_or_of_lt (Nat.pow_lt_pow_right Nat.one_lt_two (Nat.lt_succ_self place))]
    · next outside =>
      rw [Nat.mod_eq_zero_of_dvd (Nat.pow_dvd_pow 2 (Nat.le_of_not_lt outside)),Nat.or_zero,Nat.add_zero]
  have compared := lt_iff (or (shiftLeft remainder (literal 1)) (bitFromDoubleWidth place high low)) divisor
  have below := toNat_lt (or (shiftLeft remainder (literal 1)) (bitFromDoubleWidth place high low))
  rw [shifted] at compared below
  rw [divisionStep,RestoringDivision.step]
  dsimp only
  split
  · next less =>
    rw [compared] at less
    rw [if_neg (by omega)]
    exact ⟨rfl,shifted,fewer⟩
  · next fits =>
    rw [compared,Nat.not_lt] at fits
    rw [if_pos fits]
    refine ⟨set,?_,?_⟩
    · rw [toNat_subtracting,shifted]
      omega
    · refine Nat.dvd_add fewer ?_
      split
      · exact dvd_refl _
      · exact dvd_zero _

theorem represents_loop {count : Nat} (few : count ≤ 256) {state : UInt128 × UInt128} {numbers : Nat × Nat}
    (represents : Represents count state numbers) :
    Represents 0 (divisionLoop divisor high low count state)
      (RestoringDivision.run 128 (double high low) divisor.toNat count numbers) := by
  induction count generalizing state numbers with
  | zero => exact represents
  | succ count ih =>
    rw [divisionLoop,RestoringDivision.run]
    exact ih (Nat.le_of_succ_le few) (represents_step (Nat.lt_of_succ_le few) represents)

/-- Quotient, as far as it has room, and remainder. -/
def Exact (divisor high low : UInt128) (result : UInt128 × UInt128) : Prop :=
  result.1.toNat = double high low / divisor.toNat % 2^128 ∧ result.2.toNat = double high low % divisor.toNat

theorem double_lt (high low : UInt128) : double high low < 2^(2 * 128) := by
  have upper := high.toNat_lt
  have lower := low.toNat_lt
  have product : 2^128 * (high.toNat + 1) ≤ 2^128 * 2^128 := Nat.mul_le_mul_left _ upper
  rw [Nat.mul_add,Nat.mul_one] at product
  rw [double,Nat.two_mul,Nat.pow_add]
  omega

theorem exact_loop (positive : 0 < divisor.toNat) {count : Nat} (few : count ≤ 256)
    (large : double high low < 2^count) :
    Exact divisor high low (divisionLoop divisor high low count (literal 0,literal 0)) ↔
      ∀ place, RestoringDivision.Roomy 128 (double high low) divisor.toNat place := by
  have start : Represents count (literal 0,literal 0) (0,0) :=
    ⟨toNat_literal 0,toNat_literal 0,Nat.dvd_zero _⟩
  obtain ⟨quotient,remainder,-⟩ := @represents_loop divisor high low _ few _ _ start
  rw [← RestoringDivision.run_start positive (Nat.le_of_lt divisor.toNat_lt) (double_lt high low) large,Exact,quotient,
    remainder,Prod.ext_iff]

theorem toNat_positive (nonzero : divisor ≠ literal 0) : 0 < divisor.toNat := by
  refine Nat.pos_of_ne_zero (fun zero => nonzero ?_)
  rw [← toNat_inj,zero]
  rfl

theorem quotientAndRemainderFullWidth_eq (nonzero : divisor ≠ literal 0) (high low : UInt128) :
    ∃ result, divisor.quotientAndRemainderFullWidth high low = some result ∧
      (Exact divisor high low result ↔ ∀ place, RestoringDivision.Roomy 128 (double high low) divisor.toNat place) := by
  have positive := toNat_positive nonzero
  have upper := lt_iff (literal 0) high
  rw [toNat_literal,UInt64.toNat_zero] at upper
  rw [quotientAndRemainderFullWidth]
  split
  · next wide =>
    have bits := high.significantBits_le
    refine ⟨_,rfl,exact_loop positive (by omega) ?_⟩
    have above := high.toNat_lt_significant
    have below := low.toNat_lt
    rw [double,Nat.pow_add]
    have room : (high.toNat + 1) * 2^128 ≤ 2^high.significantBits * 2^128 := Nat.mul_le_mul_right _ above
    omega
  · next narrow =>
    rw [upper,Nat.not_lt,Nat.le_zero] at narrow
    have only : double high low = low.toNat := by
      rw [double,narrow,Nat.mul_zero,Nat.zero_add]
    split
    · next empty =>
      have zero : double high low = 0 := by
        rw [only,empty]
        rfl
      refine ⟨_,rfl,iff_of_true ?_ (fun place => RestoringDivision.roomy_of_lt _ place ?_)⟩
      · rw [Exact,zero,Nat.zero_div,Nat.zero_mod,Nat.zero_mod]
        exact ⟨toNat_literal 0,toNat_literal 0⟩
      · rw [zero]
        exact Nat.two_pow_pos _
    · have bits := low.significantBits_le
      refine ⟨_,rfl,exact_loop positive (by omega) ?_⟩
      rw [only]
      exact low.toNat_lt_significant

theorem quotientAndRemainder_eq (value : UInt128) {rhs : UInt128} (nonzero : rhs ≠ literal 0) :
    ∃ result, value.quotientAndRemainder rhs = some result ∧ result.1.toNat = value.toNat / rhs.toNat ∧
      result.2.toNat = value.toNat % rhs.toNat := by
  obtain ⟨result,made,exactly⟩ := quotientAndRemainderFullWidth_eq nonzero (literal 0) value
  have only : double (literal 0) value = value.toNat := by
    rw [double,toNat_literal,UInt64.toNat_zero,Nat.mul_zero,Nat.zero_add]
  have small := value.toNat_lt
  rw [Exact,only] at exactly
  obtain ⟨quotient,remainder⟩ := exactly.mpr (fun place => RestoringDivision.roomy_of_lt _ place small)
  refine ⟨result,made,?_,remainder⟩
  rw [quotient,Nat.mod_eq_of_lt (Nat.lt_of_le_of_lt (Nat.div_le_self _ _) small)]

/-- Division by anything but zero ends. For a dividend of two widths it is exact if and only if no remainder on the
way has its upper bit set, as for every divisor up to half the width and every dividend of one width. -/
theorem division {divisor : UInt128} (nonzero : divisor ≠ literal 0) (high low : UInt128) :
    (∃ result, divisor.quotientAndRemainderFullWidth high low = some result ∧
      (Exact divisor high low result ↔
        ∀ place, 2 * (double high low / 2^(place+1) % divisor.toNat) < 2^128) ∧
      (2 * divisor.toNat ≤ 2^128 → Exact divisor high low result)) ∧
    (div low divisor).map toNat = some (low.toNat / divisor.toNat) ∧
    (mod low divisor).map toNat = some (low.toNat % divisor.toNat) := by
  obtain ⟨result,made,exactly⟩ := quotientAndRemainderFullWidth_eq nonzero high low
  obtain ⟨single,divided,quotient,remainder⟩ := low.quotientAndRemainder_eq nonzero
  refine ⟨⟨result,made,exactly,fun small => exactly.mpr (fun place => ?_)⟩,?_,?_⟩
  · exact RestoringDivision.roomy_of_le (toNat_positive nonzero) small _ place
  · rw [div,if_neg nonzero,divided,Option.map_some,Option.map_some,quotient]
  · rw [mod,if_neg nonzero,divided,Option.map_some,Option.map_some,remainder]

theorem division_three :
    (∃ result, (literal 3).quotientAndRemainderFullWidth (literal 1) (literal 7) = some result ∧
      (Exact (literal 3) (literal 1) (literal 7) result ↔
        ∀ place, 2 * (double (literal 1) (literal 7) / 2^(place+1) % (literal 3).toNat) < 2^128) ∧
      (2 * (literal 3).toNat ≤ 2^128 → Exact (literal 3) (literal 1) (literal 7) result)) ∧
    (div (literal 7) (literal 3)).map toNat = some ((literal 7).toNat / (literal 3).toNat) ∧
    (mod (literal 7) (literal 3)).map toNat = some ((literal 7).toNat % (literal 3).toNat) :=
  division (by decide) (literal 1) (literal 7)

/-- Half of the square of the width divided by the largest number: the remainder loses its upper bit. -/
example : ∃ result, max.quotientAndRemainderFullWidth ⟨9223372036854775808,0⟩ (literal 0) = some result ∧
    ¬Exact max ⟨9223372036854775808,0⟩ (literal 0) result := by
  obtain ⟨result,made,exactly⟩ := @quotientAndRemainderFullWidth_eq max (by decide)
    ⟨9223372036854775808,0⟩ (literal 0)
  refine ⟨result,made,fun exact => absurd (exactly.mp exact 127) ?_⟩
  rw [RestoringDivision.Roomy]
  decide

/-- A radix that `_valueToString` takes; others trap. -/
structure Radix where
  value : Nat
  least : 1 < value
  most : value < 37

def Radix.number (radix : Radix) : UInt128 := literal (UInt64.ofNat radix.value)

theorem Radix.toNat_number (radix : Radix) : radix.number.toNat = radix.value :=
  toNat_place (Nat.lt_trans radix.most (by decide))

theorem Radix.number_ne (radix : Radix) : radix.number ≠ literal 0 := by
  intro zero
  have value := radix.toNat_number
  have least := radix.least
  rw [zero,toNat_literal,UInt64.toNat_zero] at value
  omega

def characterPool (uppercase : Bool) : Text :=
  if uppercase then "0123456789ABCDEFGHIJKLMNOPQRSTUVWXYZ".toList else "0123456789abcdefghijklmnopqrstuvwxyz".toList

/-- The loop of `_valueToString` from a quotient that is not zero. -/
def insertDigits (radix : Radix) (uppercase : Bool) (value : UInt128) (result : Text) : Option Text :=
  match _divmod : value.quotientAndRemainder radix.number with
  | none => none
  | some divmodResult =>
    match (characterPool uppercase)[divmodResult.2.toNat]? with
    | none => none
    | some character =>
      if lt (literal 0) divmodResult.1 then insertDigits radix uppercase divmodResult.1 (character :: result)
      else some (character :: result)
termination_by value.toNat
decreasing_by
  next more =>
    obtain ⟨result,made,quotient,-⟩ := value.quotientAndRemainder_eq radix.number_ne
    cases made.symm.trans _divmod
    rw [lt_iff,toNat_literal,UInt64.toNat_zero,quotient,radix.toNat_number] at more
    rw [quotient,radix.toNat_number]
    exact Nat.div_lt_self (Nat.pos_of_ne_zero (fun zero => by simp [zero] at more)) radix.least

/-- `_valueToString`. -/
def valueToString (value : UInt128) (radix : Radix) (uppercase : Bool) : Option Text :=
  if value = literal 0 then some ['0'] else insertDigits radix uppercase value []

def decimalRadix : Radix := ⟨10,by decide,by decide⟩

def description (value : UInt128) : Option Text := value.valueToString decimalRadix true

/-- What a radix makes of digits, from a number in front of them. -/
def numeral (radix : Nat) (text : Text) (start : Nat) : Option Nat :=
  text.foldlM (fun sum c => (Text.digitValue radix c).map (sum * radix + ·)) start

theorem characterPool_digit : ∀ uppercase : Bool, ∀ radix < 37, ∀ digit < radix,
    ((characterPool uppercase)[digit]?).any (fun c =>
      Text.digitValue radix c == some digit && (c != '-' && c != '+')) = true := by
  decide +kernel

/-- A text of digits that a radix reads as the number. -/
structure Spells (radix : Radix) (value : Nat) (text : Text) : Prop where
  filled : text ≠ []
  digits : ∀ c ∈ text, (Text.digitValue radix.value c).isSome = true ∧ c ≠ '-' ∧ c ≠ '+'
  value : numeral radix.value text 0 = some value

theorem Spells.snoc {radix : Radix} {value digit : Nat} {text : Text} {c : Char} (spells : Spells radix value text)
    (digits : Text.digitValue radix.value c = some digit ∧ c ≠ '-' ∧ c ≠ '+') :
    Spells radix (value * radix.value + digit) (text ++ [c]) := by
  refine ⟨List.append_ne_nil_of_right_ne_nil _ (List.cons_ne_nil _ _),?_,?_⟩
  · intro c' member
    rcases List.mem_append.mp member with earlier | last
    · exact spells.digits c' earlier
    · rw [List.mem_singleton.mp last,digits.1]
      exact ⟨rfl,digits.2⟩
  · rw [numeral,List.foldlM_append,← numeral,spells.value]
    simp [digits.1]

theorem Spells.single {radix : Radix} {digit : Nat} {c : Char}
    (digits : Text.digitValue radix.value c = some digit ∧ c ≠ '-' ∧ c ≠ '+') : Spells radix digit [c] := by
  refine ⟨List.cons_ne_nil _ _,?_,?_⟩
  · intro c' member
    rw [List.mem_singleton.mp member,digits.1]
    exact ⟨rfl,digits.2⟩
  · simp [numeral,digits.1]

theorem insertDigits_eq (radix : Radix) (uppercase : Bool) (value : UInt128) (result : Text) :
    ∃ text, insertDigits radix uppercase value result = some (text ++ result) ∧ Spells radix value.toNat text := by
  induction size : value.toNat using Nat.strongRecOn generalizing value result with
  | ind n ih =>
    subst size
    obtain ⟨divmodResult,made,quotient,remainder⟩ := value.quotientAndRemainder_eq radix.number_ne
    rw [radix.toNat_number] at quotient remainder
    have below : divmodResult.2.toNat < radix.value := by
      rw [remainder]
      exact Nat.mod_lt _ (Nat.lt_trans Nat.one_pos radix.least)
    have digit := characterPool_digit uppercase radix.value radix.most _ below
    obtain ⟨c,character,digits⟩ := (Option.any_eq_true _ _).mp digit
    simp only [Bool.and_eq_true,beq_iff_eq,bne_iff_ne] at digits
    have whole : divmodResult.1.toNat * radix.value + divmodResult.2.toNat = value.toNat := by
      rw [quotient,remainder,Nat.div_add_mod']
    unfold insertDigits
    split
    · next trapped => exact absurd (made.symm.trans trapped) (Option.some_ne_none _)
    · next outcome divided =>
      cases made.symm.trans divided
      rw [character]
      dsimp only
      split
      · next more =>
        rw [lt_iff,toNat_literal,UInt64.toNat_zero] at more
        have smaller : divmodResult.1.toNat < value.toNat := by
          rw [quotient] at more ⊢
          exact Nat.div_lt_self (Nat.pos_of_ne_zero (fun zero => by simp [zero] at more)) radix.least
        obtain ⟨text,written,spells⟩ := ih _ smaller divmodResult.1 (c :: result) rfl
        refine ⟨text ++ [c],?_,?_⟩
        · rw [written,List.append_assoc,List.singleton_append]
        · rw [← whole]
          exact spells.snoc digits
      · next last =>
        rw [lt_iff,toNat_literal,UInt64.toNat_zero,Nat.not_lt,Nat.le_zero] at last
        rw [last,Nat.zero_mul,Nat.zero_add] at whole
        refine ⟨[c],rfl,?_⟩
        rw [← whole]
        exact Spells.single digits

theorem valueToString_spells (value : UInt128) (radix : Radix) (uppercase : Bool) :
    ∃ text, value.valueToString radix uppercase = some text ∧ Spells radix value.toNat text := by
  rw [valueToString]
  split
  · next zero =>
    have digit : Text.digitValue radix.value '0' = some 0 := by
      have least := radix.least
      rw [Text.digitValue]
      simp
      omega
    refine ⟨_,rfl,?_⟩
    rw [zero]
    exact Spells.single ⟨digit,by decide,by decide⟩
  · obtain ⟨text,written,spells⟩ := insertDigits_eq radix uppercase value []
    exact ⟨text,by rw [written,List.append_nil],spells⟩

theorem Spells.unsigned {radix : Radix} {value bound : Nat} {text : Text} (spells : Spells radix value text)
    (small : value < bound) : Text.unsigned radix.value bound text = some value := by
  obtain ⟨filled,digits,read⟩ := spells
  rw [numeral] at read
  cases text with
  | nil => exact absurd rfl filled
  | cons c rest =>
    obtain ⟨-,notMinus,notPlus⟩ := digits c List.mem_cons_self
    unfold Text.unsigned
    dsimp only
    split
    · next rest' same => exact absurd (List.cons.inj same).1 notMinus
    · next rest' same => exact absurd (List.cons.inj same).1 notPlus
    · rw [if_neg filled,read,Option.bind_eq_bind,Option.bind_some,if_pos small]

/-- The radix of a text that `init(_ source: String)` reads: a prefix says it, and ten has none. -/
def prefixed (radix : Nat) (text : Text) : Option Text :=
  match radix with
  | 2 => some ('0' :: 'b' :: text)
  | 8 => some ('0' :: 'o' :: text)
  | 10 => some text
  | 16 => some ('0' :: 'x' :: text)
  | _ => none

/-- Every value is read back from the text it is written as, in every radix and, where there is a prefix for the
radix, by the initializer. -/
theorem valueToString_reads (value : UInt128) (radix : Radix) (uppercase : Bool) :
    ∃ text, value.valueToString radix uppercase = some text ∧
      Text.unsigned radix.value (2^128) text = some value.toNat ∧
      ∀ source, prefixed radix.value text = some source → uint128 source = some value.toBitVec := by
  obtain ⟨text,written,spells⟩ := valueToString_spells value radix uppercase
  have read := spells.unsigned value.toNat_lt
  have bits : BitVec.ofNat 128 value.toNat = value.toBitVec := by
    rw [← toNat_toBitVec,BitVec.ofNat_toNat,BitVec.setWidth_eq]
  refine ⟨text,written,read,?_⟩
  intro source made
  unfold prefixed at made
  split at made
  · next two =>
    cases made
    rw [two] at read
    rw [uint128,read,Option.map_some,bits]
  · next eight =>
    cases made
    rw [eight] at read
    rw [uint128,read,Option.map_some,bits]
  · next ten =>
    cases made
    rw [ten] at read
    have plain : ∀ c ∈ text, (Text.digitValue 10 c).isSome = true := by
      intro c member
      rw [← ten]
      exact (spells.digits c member).1
    have sign (c : Char) (rest : Text) (wrong : Text.digitValue 10 c = none) : text ≠ '0' :: c :: rest := by
      rintro rfl
      have digit := plain c (List.mem_cons_of_mem _ List.mem_cons_self)
      rw [wrong] at digit
      cases digit
    rw [uint128,read,Option.map_some,bits]
    · exact fun rest => sign 'b' rest (by decide)
    · exact fun rest => sign 'o' rest (by decide)
    · exact fun rest => sign 'x' rest (by decide)
  · next sixteen =>
    cases made
    rw [sixteen] at read
    rw [uint128,read,Option.map_some,bits]
  · cases made

end TenonVpn.UInt128
