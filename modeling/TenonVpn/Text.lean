import Mathlib.Algebra.Group.Int.Defs
import Mathlib.Algebra.Group.Nat.Defs
import Mathlib.Data.List.Basic
import Mathlib.Data.List.Infix
import Mathlib.Data.List.DropRight

/-! Text as a list of characters, with the splitting, trimming, searching and
number conversions that the Swift and Objective-C standard libraries provide.
A character stands for one Swift `Character`. -/
namespace TenonVpn

abbrev Text := List Char

namespace Text

/-- Objective-C `componentsSeparatedByString:`, which keeps empty pieces. -/
def components (separator : Char) (text : Text) : List Text := text.splitOn separator

/-- Swift `split(separator:)`, which omits empty pieces. -/
def split (separator : Char) (text : Text) : List Text :=
  (components separator text).filter (fun piece => !piece.isEmpty)

/-- Foundation `trimmingCharacters(in:)` for one blank. It strips scalars, which differs only
where a combining mark follows a blank. -/
def trimming (blank : Char) (text : Text) : Text :=
  (text.dropWhile (· == blank)).rdropWhile (· == blank)

/-- Foundation `contains`: the empty text is found in no text. -/
def contains (text piece : Text) : Bool := !piece.isEmpty && decide (piece <:+: text)

def hasPrefix (text piece : Text) : Bool := piece.isPrefixOf text

def hasSuffix (text piece : Text) : Bool := piece.isSuffixOf text

def decimal (n : Nat) : Text := Nat.toDigits 10 n

def digits (text : Text) : Option Nat :=
  if text ≠ [] ∧ text.all Char.isDigit then some (Nat.ofDigitChars 10 text 0) else none

/-- Swift `FixedWidthInteger.init?(_ text:)` for a type with the given bounds:
one optional sign, then at least one digit and nothing else. -/
def integer (low high : Int) (text : Text) : Option Int := do
  let value ← match text with
    | '-' :: rest => (digits rest).map (fun n => -(n : Int))
    | '+' :: rest => (digits rest).map (fun n => (n : Int))
    | rest => (digits rest).map (fun n => (n : Int))
  if low ≤ value ∧ value ≤ high then some value else none

def uint64 (text : Text) : Option Nat := (integer 0 (2^64-1) text).map Int.toNat

def uint32 (text : Text) : Option Nat := (integer 0 (2^32-1) text).map Int.toNat

def uint16 (text : Text) : Option Nat := (integer 0 (2^16-1) text).map Int.toNat

def int64 (text : Text) : Option Int := integer (-2^63) (2^63-1) text

/-- Swift `Bool.init?(_ description:)`. -/
def bool (text : Text) : Option Bool :=
  if text = "true".toList then some true else if text = "false".toList then some false else none

def digitValue (radix : Nat) (c : Char) : Option Nat :=
  let value := if c.isDigit then c.toNat - '0'.toNat
    else if c.isLower then c.toNat - 'a'.toNat + 10
    else if c.isUpper then c.toNat - 'A'.toNat + 10
    else radix
  if value < radix then some value else none

/-- Swift `init?(_ text:radix:)` of an unsigned type with values below the bound. -/
def unsigned (radix bound : Nat) (text : Text) : Option Nat := do
  let number (rest : Text) : Option Nat :=
    if rest = [] then none
    else rest.foldlM (fun sum c => (digitValue radix c).map (sum * radix + ·)) 0
  let value ← match text with
    | '-' :: rest => (number rest).filter (· = 0)
    | '+' :: rest => number rest
    | rest => number rest
  if value < bound then some value else none

def signed : Int → Text
  | .ofNat n => decimal n
  | .negSucc n => '-' :: decimal (n+1)

/-- `intValue` and `integerValue` of an `NSString`: blanks, one optional sign and
the digits that follow, clamped to the bounds; 0 without digits. -/
def leading (low high : Int) (text : Text) : Int :=
  let magnitude (rest : Text) : Int := Nat.ofDigitChars 10 (rest.takeWhile Char.isDigit) 0
  let value := match text.dropWhile Char.isWhitespace with
    | '-' :: rest => -magnitude rest
    | '+' :: rest => magnitude rest
    | rest => magnitude rest
  max low (min high value)

def hexByte (byte : Fin 256) : Text :=
  [Nat.digitChar (byte.val / 16),Nat.digitChar (byte.val % 16)]

theorem components_field {separator : Char} {field : Text} (rest : Text) (free : separator ∉ field) :
    components separator (field ++ separator :: rest) = field :: components separator rest :=
  List.splitOn_append_cons_self_of_not_mem free rest

theorem components_last {separator : Char} {field : Text} (free : separator ∉ field) :
    components separator field = [field] := List.splitOn_eq_singleton free

theorem components_cons (separator c : Char) (text : Text) :
    components separator (c :: text) =
      if c = separator then [] :: components separator text
      else (components separator text).modifyHead (c :: ·) := by
  simp only [components,List.splitOn_cons_eq_if_modifyHead,beq_iff_eq]

theorem components_present (separator : Char) (text : Text) : 0 < (components separator text).length :=
  List.length_pos_iff.mpr (List.splitOn_ne_nil separator text)

theorem components_eq_cons (separator : Char) (text : Text) :
    ∃ first rest, components separator text = first :: rest :=
  List.ne_nil_iff_exists_cons.mp (List.splitOn_ne_nil separator text)

theorem not_mem_of_mem_components {separator : Char} {text piece : Text}
    (member : piece ∈ components separator text) : separator ∉ piece := by
  induction text generalizing piece with
  | nil =>
    cases List.mem_singleton.mp member
    exact List.not_mem_nil
  | cons c text ih =>
    obtain ⟨first,rest,cut⟩ := components_eq_cons separator text
    rw [components_cons,cut] at member
    split at member
    · rcases List.mem_cons.mp member with rfl | later
      · exact List.not_mem_nil
      · exact ih (cut ▸ later)
    · next other =>
      rcases List.mem_cons.mp member with rfl | later
      · intro inside
        rcases List.mem_cons.mp inside with same | inner
        · exact other same.symm
        · exact ih (cut ▸ List.mem_cons_self) inner
      · exact ih (cut ▸ List.mem_cons_of_mem _ later)

theorem split_eq_nil_iff {separator : Char} {text : Text} :
    split separator text = [] ↔ ∀ c ∈ text, c = separator := by
  induction text with
  | nil => exact ⟨fun _ _ impossible => absurd impossible List.not_mem_nil,fun _ => rfl⟩
  | cons c text ih =>
    rw [split,components_cons,List.forall_mem_cons,← ih,split]
    by_cases same : c = separator
    · simp [same]
    · obtain ⟨first,rest,cut⟩ := components_eq_cons separator text
      simp [same,cut]

theorem split_free {separator : Char} {text : Text} (free : separator ∉ text) (present : text ≠ []) :
    split separator text = [text] := by
  rw [split,components_last free]
  simp [present]

theorem head_split_eq_iff {separator : Char} {text : Text} (present : text ≠ []) :
    (split separator text).head?.getD [] = text ↔ separator ∉ text := by
  constructor
  · intro same
    cases pieces : split separator text with
    | nil =>
      rw [pieces] at same
      exact absurd same.symm present
    | cons first rest =>
      have member : first ∈ split separator text := pieces ▸ List.mem_cons_self
      rw [pieces] at same
      cases same
      exact not_mem_of_mem_components (List.mem_filter.mp member).1
  · intro free
    rw [split_free free present]
    rfl

theorem components_flatMap {separator : Char} {fields : List Text} (free : ∀ field ∈ fields, separator ∉ field) :
    components separator (fields.flatMap (· ++ [separator])) = fields ++ [[]] := by
  induction fields with
  | nil => rfl
  | cons field fields ih =>
    have later := ih (fun other member => free other (List.mem_cons_of_mem field member))
    rw [List.flatMap_cons,List.append_assoc,List.singleton_append,
      components_field _ (free field List.mem_cons_self),later,List.cons_append]

theorem mem_of_mem_components {separator c : Char} {text piece : Text} (member : piece ∈ components separator text)
    (inside : c ∈ piece) : c ∈ text := by
  induction text generalizing piece with
  | nil =>
    cases List.mem_singleton.mp member
    exact inside
  | cons d text ih =>
    obtain ⟨first,rest,cut⟩ := components_eq_cons separator text
    rw [components_cons,cut] at member
    split at member
    · rcases List.mem_cons.mp member with rfl | later
      · exact absurd inside List.not_mem_nil
      · exact List.mem_cons_of_mem d (ih (cut ▸ later) inside)
    · rcases List.mem_cons.mp member with rfl | later
      · rcases List.mem_cons.mp inside with rfl | inner
        · exact List.mem_cons_self
        · exact List.mem_cons_of_mem d (ih (cut ▸ List.mem_cons_self) inner)
      · exact List.mem_cons_of_mem d (ih (cut ▸ List.mem_cons_of_mem first later) inside)

theorem mem_split {separator : Char} {text piece : Text} (member : piece ∈ split separator text) :
    piece ≠ [] ∧ separator ∉ piece ∧ ∀ c ∈ piece, c ∈ text := by
  obtain ⟨found,filled⟩ := List.mem_filter.mp member
  exact ⟨by simpa using filled,not_mem_of_mem_components found,fun _ inside => mem_of_mem_components found inside⟩

theorem split_flatMap {separator : Char} {fields : List Text}
    (plain : ∀ field ∈ fields, field ≠ [] ∧ separator ∉ field) :
    split separator (fields.flatMap (· ++ [separator])) = fields := by
  rw [split,components_flatMap (fun field member => (plain field member).2),List.filter_append,
    List.filter_eq_self.mpr (fun field member => by simpa using (plain field member).1)]
  exact List.append_nil fields

theorem split_pair {separator : Char} {first second : Text} (left : first ≠ [] ∧ separator ∉ first)
    (right : second ≠ [] ∧ separator ∉ second) : split separator (first ++ separator :: second) = [first,second] := by
  rw [split,components_field _ left.2,components_last right.2]
  simp [left.1,right.1]

theorem trimming_eq {blank : Char} {text : Text} (same : (trimming blank text).length = text.length) :
    trimming blank text = text := by
  have inner : text.dropWhile (· == blank) <:+ text := List.dropWhile_suffix _
  have outer := List.rdropWhile_prefix (· == blank) (text.dropWhile (· == blank))
  have whole : text.dropWhile (· == blank) = text :=
    inner.eq_of_length (le_antisymm inner.length_le (same ▸ outer.length_le))
  rw [trimming] at same ⊢
  rw [outer.eq_of_length (by rw [same,whole]),whole]

theorem decimal_digits (n : Nat) : ∀ c ∈ decimal n, c.isDigit = true :=
  fun _ member => Nat.isDigit_of_mem_toDigits (by decide) (by decide) member

theorem decimal_ne_nil (n : Nat) : decimal n ≠ [] := by
  rw [decimal,Nat.toDigits_eq_if (by decide)]
  split <;> simp

theorem not_mem_decimal {c : Char} (n : Nat) (other : c.isDigit = false) : c ∉ decimal n :=
  fun member => by simp [decimal_digits n c member] at other

theorem digits_decimal (n : Nat) : digits (decimal n) = some n := by
  have all : (decimal n).all Char.isDigit = true := List.all_eq_true.mpr (decimal_digits n)
  simp only [digits,decimal_ne_nil,all,ne_eq,not_false_eq_true,and_self,if_true]
  exact congrArg some Nat.ofDigitChars_ten_toDigits

theorem integer_decimal (low high : Int) (n : Nat) : integer low high (decimal n) =
    if low ≤ (n : Int) ∧ (n : Int) ≤ high then some (n : Int) else none := by
  have read := digits_decimal n
  have first := decimal_digits n
  unfold integer
  revert read first
  generalize decimal n = text
  intro read first
  split
  · exact absurd (first '-' (by simp)) (by decide)
  · exact absurd (first '+' (by simp)) (by decide)
  · simp [read]

theorem uint64_decimal (n : Nat) : uint64 (decimal n) = if n < 2^64 then some n else none := by
  rw [uint64,integer_decimal]
  by_cases small : n < 2^64
  · rw [if_pos (by omega),if_pos small]
    rfl
  · rw [if_neg (by omega),if_neg small]
    rfl

theorem uint32_decimal {n : Nat} (small : n < 2^32) : uint32 (decimal n) = some n := by
  rw [uint32,integer_decimal,if_pos (by omega)]
  rfl

theorem uint16_decimal {n : Nat} (small : n < 2^16) : uint16 (decimal n) = some n := by
  rw [uint16,integer_decimal,if_pos (by omega)]
  rfl

theorem integer_range {low high value : Int} {text : Text} (read : integer low high text = some value) :
    low ≤ value ∧ value ≤ high := by
  have range {found : Option Int}
      (kept : (found.bind fun value => if low ≤ value ∧ value ≤ high then some value else none) = some value) :
      low ≤ value ∧ value ≤ high := by
    obtain ⟨one,-,kept⟩ := Option.bind_eq_some_iff.mp kept
    obtain ⟨within,same⟩ := Option.ite_none_right_eq_some.mp kept
    cases same
    exact within
  simp only [integer,Option.bind_eq_bind] at read
  split at read <;> exact range read

theorem int64_decimal {n : Nat} (small : n < 2^63) : int64 (decimal n) = some (n : Int) := by
  rw [int64,integer_decimal,if_pos (by omega)]

theorem leading_decimal (low high : Int) (n : Nat) :
    leading low high (decimal n) = max low (min high n) := by
  have first := decimal_digits n
  have all : (decimal n).takeWhile Char.isDigit = decimal n := List.takeWhile_eq_self_iff.mpr first
  have read : Nat.ofDigitChars 10 (decimal n) 0 = n := Nat.ofDigitChars_ten_toDigits
  have blank : (decimal n).dropWhile Char.isWhitespace = decimal n := by
    cases text : decimal n with
    | nil => rfl
    | cons c rest =>
      have digit := first c (by simp [text])
      have plain : c.isWhitespace = false := by
        cases space : c.isWhitespace with
        | false => rfl
        | true =>
          simp only [Char.isWhitespace,Bool.or_eq_true,decide_eq_true_eq] at space
          rcases space with ((rfl | rfl) | rfl) | rfl <;> exact absurd digit (by decide)
      simp [plain]
  unfold leading
  revert first all read blank
  generalize decimal n = text
  intro first all read blank
  simp only [blank]
  split
  · exact absurd (first '-' (by simp)) (by decide)
  · exact absurd (first '+' (by simp)) (by decide)
  · simp only [all,read]

theorem hexByte_length (byte : Fin 256) : (hexByte byte).length = 2 := rfl

private theorem digitChar_ne_comma : ∀ n : Fin 16, Nat.digitChar n.val ≠ ',' := by decide

theorem not_mem_hexByte (byte : Fin 256) : ',' ∉ hexByte byte := by
  have high := digitChar_ne_comma ⟨byte.val / 16,by omega⟩
  have low := digitChar_ne_comma ⟨byte.val % 16,by omega⟩
  simp [hexByte,Ne.symm high,Ne.symm low]

end Text
end TenonVpn
