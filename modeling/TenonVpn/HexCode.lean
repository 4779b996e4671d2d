import TenonVpn.Data
import TenonVpn.Sextets

/-! `HexEncode` and `HexDecode` of `LibP2P`. Both count with an `int` up to a length that is
an `NSUInteger`: there is no result where the count overflows, which C leaves undefined. -/
namespace TenonVpn

def hexDigits : Text := "0123456789abcdefABCDEF".toList

/-- A text of an even number of hexadecimal digits, in either case. -/
structure HexText where
  text : Text
  digits : ∀ c ∈ text, c ∈ hexDigits
  even : text.length % 2 = 0

namespace LibP2P

def INT_MAX : Nat := 2^31 - 1

def isspace (char : UInt8) : Bool := char = 32 ∨ (9 ≤ char ∧ char ≤ 13)

def hexValue (char : UInt8) : Option Nat :=
  if 48 ≤ char ∧ char ≤ 57 then some (char.toNat - 48)
  else if 97 ≤ char ∧ char ≤ 102 then some (char.toNat - 97 + 10)
  else if 65 ≤ char ∧ char ≤ 70 then some (char.toNat - 65 + 10)
  else none

def hexNumber (sum : Nat) : Data → Nat
  | [] => sum
  | char :: rest =>
    match hexValue char with
    | some digit => hexNumber (sum * 16 + digit) rest
    | none => sum

def readSign : Data → Bool × Data
  | 45 :: rest => (true,rest)
  | 43 :: rest => (false,rest)
  | chars => (false,chars)

/-- `0x` is skipped where a digit follows it. -/
def skipBase : Data → Data
  | 48 :: x :: digit :: rest =>
    if (x = 120 ∨ x = 88) ∧ hexValue digit ≠ none then digit :: rest else 48 :: x :: digit :: rest
  | chars => chars

/-- `strtoul` with base 16; a sign is applied in `unsigned long`. -/
def strtoul (chars : Data) : Nat :=
  let signed := readSign (chars.dropWhile isspace)
  let value := hexNumber 0 (skipBase signed.2)
  if 2^64 ≤ value then 2^64 - 1 else if signed.1 then (2^64 - value) % 2^64 else value

/-- `length` of an `NSString`, in UTF-16 units. -/
def utf16Length : Text → Nat
  | [] => 0
  | c :: rest => (if c.toNat < 2^16 then 1 else 2) + utf16Length rest

def hexDecodeLoop (chars : Data) (len i : Nat) (data : Data) : Option Data :=
  if i < len then
    -- the two i++
    if i + 2 ≤ INT_MAX then
      let wholeByte := strtoul [chars.getD i 0,chars.getD (i+1) 0,0]
      hexDecodeLoop chars len (i+2) (data ++ (Data.memory 8 wholeByte).take 1)
    else none
  else some data
termination_by len - i

/-- `UTF8String` ends in a NUL, which a string of odd length reads as its last character. -/
def hexDecode (hexString : Text) : Option Data :=
  hexDecodeLoop (Data.utf8 hexString ++ [0]) (utf16Length hexString) 0 []

def hexEncodeLoop (dataBuffer : Data) (i : Nat) (hexString : Text) : Option Text :=
  if i < dataBuffer.length then
    if i + 1 ≤ INT_MAX then
      hexEncodeLoop dataBuffer (i+1) (hexString ++ Text.hexByte (dataBuffer.getD i 0).toFin)
    else none
  else some hexString
termination_by dataBuffer.length - i

/-- The bytes of an empty `NSData` are `NULL`. -/
def hexEncode (data : Data) : Option Text := if data = [] then some [] else hexEncodeLoop data 0 []

def asciiByte (c : Char) : UInt8 := UInt8.ofNat c.toNat

def hexOf (data : Data) : Text := data.flatMap fun byte => Text.hexByte byte.toFin

/-- What the digits stand for, two by two. -/
def bytesOf : Text → Data
  | high :: low :: rest =>
    UInt8.ofNat ((Text.digitValue 16 high).getD 0 * 16 + (Text.digitValue 16 low).getD 0) :: bytesOf rest
  | _ => []

theorem hexEncodeLoop_eq {dataBuffer : Data} {i : Nat} (hexString : Text) (start : i ≤ dataBuffer.length)
    (small : i ≤ INT_MAX) : hexEncodeLoop dataBuffer i hexString =
      if dataBuffer.length ≤ INT_MAX then
        some (hexString ++ hexOf (dataBuffer.drop i))
      else none := by
  fun_induction hexEncodeLoop dataBuffer i hexString with
  | case1 i hexString inside counts ih =>
    have next : dataBuffer.drop i = dataBuffer.getD i 0 :: dataBuffer.drop (i+1) := by
      rw [List.drop_eq_getElem_cons inside,List.getD_eq_getElem?_getD,List.getElem?_eq_getElem inside]
      rfl
    rw [ih inside counts,next,hexOf,hexOf,List.flatMap_cons,List.append_assoc]
  | case2 i hexString inside overflows => exact (if_neg (by omega)).symm
  | case3 i hexString ends =>
    have last : dataBuffer.drop i = [] := List.drop_eq_nil_of_le (by omega)
    rw [if_pos (by omega),last]
    exact congrArg some (List.append_nil hexString).symm

theorem hexEncode_eq (data : Data) : hexEncode data =
    if data.length ≤ INT_MAX then some (hexOf data) else none := by
  unfold hexEncode
  split
  next empty =>
    subst empty
    rfl
  next => exact hexEncodeLoop_eq [] (Nat.zero_le _) (Nat.zero_le _)

/-- A fact about each digit, from the list of them. -/
theorem forall_digit {P : Char → Prop} [DecidablePred P] (each : hexDigits.all (fun c => decide (P c)) = true) :
    ∀ c ∈ hexDigits, P c := fun c mem => of_decide_eq_true (List.all_eq_true.mp each c mem)

theorem digit_ascii : ∀ c ∈ hexDigits, String.utf8EncodeChar c = [asciiByte c] ∧ c.toNat < 2^16 :=
  forall_digit (by decide)

/-- A digit is read alike by the two, and written in lower case. -/
theorem digit_value : ∀ c ∈ hexDigits, ∃ digit < 16, Text.digitValue 16 c = some digit ∧
    hexValue (asciiByte c) = some digit ∧ Nat.digitChar digit = c.toLower :=
  forall_digit (by decide)

theorem digitChar_digit : ∀ digit < 16,
    Nat.digitChar digit ∈ hexDigits ∧ Text.digitValue 16 (Nat.digitChar digit) = some digit := by
  decide

theorem hexValue_plain (char : UInt8) : ∀ digit ∈ hexValue char, digit < 16 ∧ isspace char = false ∧
    char ≠ 45 ∧ char ≠ 43 ∧ char ≠ 120 ∧ char ≠ 88 := by
  revert char
  exact Sextets.forall_byte (by decide +kernel)

theorem readSign_cons {char : UInt8} (rest : Data) (minus : char ≠ 45) (plus : char ≠ 43) :
    readSign (char :: rest) = (false,char :: rest) := by
  unfold readSign
  split
  next same => exact absurd (List.cons.inj same).1 minus
  next same => exact absurd (List.cons.inj same).1 plus
  next => rfl

theorem skipBase_cons (char : UInt8) {x : UInt8} (rest : Data) (lower : x ≠ 120) (upper : x ≠ 88) :
    skipBase (char :: x :: rest) = char :: x :: rest := by
  unfold skipBase
  split
  next same =>
    obtain ⟨rfl,rfl,rfl⟩ : char = 48 ∧ x = _ ∧ rest = _ := by simpa using same
    exact if_neg fun found => found.1.elim lower upper
  next => rfl

/-- Two digits are neither blank nor sign nor `0x`. -/
theorem strtoul_digits {char0 char1 : UInt8} {high low : Nat} (first : hexValue char0 = some high)
    (second : hexValue char1 = some low) : strtoul [char0,char1,0] = high * 16 + low := by
  obtain ⟨small,blank,minus,plus,-,-⟩ := hexValue_plain char0 high first
  obtain ⟨small',-,-,-,lower,upper⟩ := hexValue_plain char1 low second
  have number : hexNumber 0 [char0,char1,0] = high * 16 + low := by
    simp only [hexNumber,first,second,Nat.zero_mul,Nat.zero_add]
    rfl
  have kept : [char0,char1,0].dropWhile isspace = [char0,char1,0] := by
    rw [List.dropWhile_cons_of_neg (by simp [blank])]
  unfold strtoul
  simp only [kept,readSign_cons _ minus plus,skipBase_cons _ _ lower upper,number]
  rw [if_neg (by omega),if_neg Bool.false_ne_true]

theorem utf8_digits {text : Text} (digits : ∀ c ∈ text, c ∈ hexDigits) :
    Data.utf8 text = text.map asciiByte := by
  induction text with
  | nil => rfl
  | cons c rest ih =>
    obtain ⟨first,others⟩ := List.forall_mem_cons.mp digits
    rw [List.map_cons,← ih others,Data.utf8,List.flatMap_cons,(digit_ascii c first).1]
    rfl

theorem utf16Length_digits {text : Text} (digits : ∀ c ∈ text, c ∈ hexDigits) : utf16Length text = text.length := by
  induction text with
  | nil => rfl
  | cons c rest ih =>
    obtain ⟨first,others⟩ := List.forall_mem_cons.mp digits
    rw [utf16Length,ih others,if_pos (digit_ascii c first).2,List.length_cons,Nat.add_comm]

theorem chars_getD (text : Text) {i : Nat} (inside : i < text.length) :
    (text.map asciiByte ++ [0]).getD i 0 = asciiByte text[i] := by
  rw [List.getD_eq_getElem?_getD,List.getElem?_append_left (by simpa using inside),List.getElem?_map,
    List.getElem?_eq_getElem inside]
  rfl

/-- One round of the loop stores what its two digits stand for. -/
theorem wholeByte_digits {high low : Char} (first : high ∈ hexDigits) (second : low ∈ hexDigits) (rest : Text) :
    (Data.memory 8 (strtoul [asciiByte high,asciiByte low,0])).take 1 ++ bytesOf rest =
      bytesOf (high :: low :: rest) := by
  obtain ⟨digit,-,read,value,-⟩ := digit_value high first
  obtain ⟨digit',-,read',value',-⟩ := digit_value low second
  rw [strtoul_digits value value',bytesOf,read,read']
  rfl

theorem hexDecodeLoop_eq {text : Text} {i : Nat} (data : Data) (digits : ∀ c ∈ text, c ∈ hexDigits)
    (even : text.length % 2 = 0) (pairs : i % 2 = 0) (start : i ≤ text.length) (small : i ≤ INT_MAX) :
    hexDecodeLoop (text.map asciiByte ++ [0]) text.length i data =
      if text.length ≤ INT_MAX then some (data ++ bytesOf (text.drop i)) else none := by
  fun_induction hexDecodeLoop (text.map asciiByte ++ [0]) text.length i data with
  | case1 i data inside counts =>
    rename_i ih
    have inside' : i + 1 < text.length := by omega
    have next : text.drop i = text[i] :: text[i+1] :: text.drop (i+2) := by
      rw [List.drop_eq_getElem_cons inside,List.drop_eq_getElem_cons inside']
    have stored := wholeByte_digits (digits _ (List.getElem_mem inside)) (digits _ (List.getElem_mem inside'))
      (text.drop (i+2))
    rw [← chars_getD text inside,← chars_getD text inside'] at stored
    rw [ih (by omega) (by omega) counts,next,List.append_assoc,← stored]
  | case2 i data inside overflows => exact (if_neg (by omega)).symm
  | case3 i data ends =>
    have last : text.drop i = [] := List.drop_eq_nil_of_le (by omega)
    rw [if_pos (by omega),last]
    exact congrArg some (List.append_nil data).symm

theorem hexDecode_eq (s : HexText) : hexDecode s.text =
    if s.text.length ≤ INT_MAX then some (bytesOf s.text) else none := by
  rw [hexDecode,utf8_digits s.digits,utf16Length_digits s.digits]
  exact hexDecodeLoop_eq [] s.digits s.even rfl (Nat.zero_le _) (Nat.zero_le _)

theorem byte_lt (byte : UInt8) : byte.toNat / 16 < 16 ∧ byte.toNat % 16 < 16 := by
  have small := byte.toNat_lt
  omega

theorem hexOf_digits (data : Data) : ∀ c ∈ hexOf data, c ∈ hexDigits := by
  intro c mem
  obtain ⟨byte,-,written⟩ := List.mem_flatMap.mp mem
  obtain ⟨high,low⟩ := byte_lt byte
  rcases List.mem_pair.mp written with rfl | rfl
  · exact (digitChar_digit _ high).1
  · exact (digitChar_digit _ low).1

theorem hexOf_length (data : Data) : (hexOf data).length = 2 * data.length := by
  induction data with
  | nil => rfl
  | cons byte rest ih =>
    unfold hexOf at ih ⊢
    rw [List.flatMap_cons,List.length_append,ih,Text.hexByte_length,List.length_cons]
    omega

def hexText (data : Data) : HexText where
  text := hexOf data
  digits := hexOf_digits data
  even := by
    rw [hexOf_length]
    exact Nat.mul_mod_right 2 _

theorem bytesOf_hexOf (data : Data) : bytesOf (hexOf data) = data := by
  induction data with
  | nil => rfl
  | cons byte rest ih =>
    obtain ⟨high,low⟩ := byte_lt byte
    have same : byte.toNat / 16 * 16 + byte.toNat % 16 = byte.toNat := Nat.div_add_mod' _ _
    change bytesOf (Nat.digitChar (byte.toNat / 16) :: Nat.digitChar (byte.toNat % 16) :: hexOf rest) = _
    rw [bytesOf,(digitChar_digit _ high).2,(digitChar_digit _ low).2,Option.getD_some,Option.getD_some,same,
      UInt8.ofNat_toNat,ih]

theorem pairs_induction {P : Text → Prop} (empty : P [])
    (pair : ∀ high low rest, P rest → P (high :: low :: rest)) :
    (text : Text) → text.length % 2 = 0 → P text
  | [], _ => empty
  | [_], odd => absurd odd (by simp)
  | high :: low :: rest, even =>
    have even' : rest.length % 2 = 0 := by
      simp only [List.length_cons] at even
      omega
    pair high low rest (pairs_induction empty pair rest even')

theorem hexOf_bytesOf (s : HexText) : hexOf (bytesOf s.text) = s.text.map Char.toLower := by
  obtain ⟨text,digits,even⟩ := s
  change hexOf (bytesOf text) = text.map Char.toLower
  revert digits
  apply pairs_induction (fun _ => rfl) _ text even
  intro high low rest ih digits
  obtain ⟨first,others⟩ := List.forall_mem_cons.mp digits
  obtain ⟨second,others⟩ := List.forall_mem_cons.mp others
  obtain ⟨digit,small,read,-,lower⟩ := digit_value high first
  obtain ⟨digit',small',read',-,lower'⟩ := digit_value low second
  have byte : (UInt8.ofNat (digit * 16 + digit')).toNat = digit * 16 + digit' := by
    rw [UInt8.toNat_ofNat']
    omega
  have upper : (digit * 16 + digit') / 16 = digit := by omega
  have under : (digit * 16 + digit') % 16 = digit' := by omega
  simp only [bytesOf,read,read',Option.getD_some,List.map_cons,← ih others,← lower,← lower']
  change Nat.digitChar ((UInt8.ofNat (digit * 16 + digit')).toNat / 16) ::
    Nat.digitChar ((UInt8.ofNat (digit * 16 + digit')).toNat % 16) :: hexOf (bytesOf rest) = _
  rw [byte,upper,under]

theorem bytesOf_length (s : HexText) : 2 * (bytesOf s.text).length = s.text.length := by
  rw [← hexOf_length,hexOf_bytesOf,List.length_map]

theorem hexDecode_hexEncode (data : Data) : (hexEncode data).bind hexDecode =
    if data.length < 2^30 then some data else none := by
  have decoded : hexDecode (hexOf data) = if (hexOf data).length ≤ INT_MAX then some (bytesOf (hexOf data)) else none :=
    hexDecode_eq (hexText data)
  rw [hexOf_length,bytesOf_hexOf] at decoded
  rw [hexEncode_eq]
  unfold INT_MAX at *
  by_cases short : data.length < 2^30
  · rw [if_pos (by omega),Option.bind_some,decoded,if_pos (by omega),if_pos short]
  · rw [if_neg short]
    split
    · rw [Option.bind_some,decoded,if_neg (by omega)]
    · rfl

theorem hexEncode_hexDecode (s : HexText) : (hexDecode s.text).bind hexEncode =
    if s.text.length < 2^31 then some (s.text.map Char.toLower) else none := by
  have length := bytesOf_length s
  rw [hexDecode_eq]
  by_cases short : s.text.length < 2^31
  · rw [if_pos short,if_pos (by unfold INT_MAX; omega),Option.bind_some,hexEncode_eq,hexOf_bytesOf]
    exact if_pos (by unfold INT_MAX; omega)
  · rw [if_neg short,if_neg (by unfold INT_MAX; omega)]
    rfl

/-- Decoding gives the bytes back exactly below 2^30 of them, and encoding gives the digits back in lower
case exactly below 2^31 of them. -/
theorem hexCode_iff (data : Data) (s : HexText) :
    ((hexEncode data).bind hexDecode = some data ↔ data.length < 2^30) ∧
    ((hexDecode s.text).bind hexEncode = some (s.text.map Char.toLower) ↔ s.text.length < 2^31) := by
  rw [hexDecode_hexEncode,hexEncode_hexDecode,Option.ite_none_right_eq_some,Option.ite_none_right_eq_some]
  exact ⟨and_iff_left rfl,and_iff_left rfl⟩

/-- The text of 2^30 + 1 bytes is longer than an `int` can count. -/
theorem not_hexDecode_long : (hexEncode (List.replicate (2^30 + 1) 0)).bind hexDecode ≠
    some (List.replicate (2^30 + 1) 0) := by
  have long : ¬(List.replicate (2^30 + 1) (0 : UInt8)).length < 2^30 := by
    rw [List.length_replicate]
    omega
  rw [hexDecode_hexEncode,if_neg long]
  exact (Option.some_ne_none _).symm

end LibP2P
end TenonVpn
