import TenonVpn.Base64
import Mathlib.Data.List.Chain

/-! What the decoder makes of any text: its groups, the bytes that it stores and the output
lengths, and on which texts it stays within its buffer. -/
namespace TenonVpn.Base64
open Sextets

def values (text : Data) : Data := (text.map decode).filter (· ≠ xx)

/-- The text ends in the last character of a full group, or is empty. -/
def Whole (text : Data) : Prop := (values text).length % 4 = 0 ∧ ∀ char ∈ text.getLast?, decode char ≠ xx

instance (text : Data) : Decidable (Whole text) := inferInstanceAs (Decidable (_ ∧ _))

theorem values_append (first second : Data) : values (first ++ second) = values first ++ values second := by
  simp [values]

theorem values_cons_alphabet {char : UInt8} (text : Data) (alphabet : decode char ≠ xx) :
    values (char :: text) = decode char :: values text := by
  simp [values,alphabet]

theorem values_cons_other {char : UInt8} (text : Data) (other : decode char = xx) :
    values (char :: text) = values text := by
  simp [values,other]

theorem values_length_le (text : Data) : (values text).length ≤ text.length := by
  apply (List.length_filter_le _ _).trans
  rw [List.length_map]

theorem accumulate_values (accumulated text : Data) :
    (accumulate accumulated text).1 ++ values (accumulate accumulated text).2 = accumulated ++ values text := by
  fun_induction accumulate accumulated text with
  | case1 accumulated => rfl
  | case2 accumulated char rest alphabet full =>
    rw [values_cons_alphabet rest alphabet,List.append_assoc]
    rfl
  | case3 accumulated char rest alphabet more ih =>
    rw [ih,values_cons_alphabet rest alphabet,List.append_assoc]
    rfl
  | case4 accumulated char rest other ih =>
    rw [ih,values_cons_other rest (not_not.mp other)]

/-- The inner loop stops behind the fourth value, or at the end of the text. -/
theorem accumulate_stops (accumulated text : Data) (room : accumulated.length < 4) :
    ((accumulate accumulated text).1.length = 4 ∧
      ∃ front char, text = front ++ char :: (accumulate accumulated text).2 ∧ decode char ≠ xx) ∨
    ((accumulate accumulated text).1.length < 4 ∧ (accumulate accumulated text).2 = []) := by
  fun_induction accumulate accumulated text with
  | case1 accumulated => exact Or.inr ⟨room,rfl⟩
  | case2 accumulated char rest alphabet full =>
    refine Or.inl ⟨?_,[],char,rfl,alphabet⟩
    rw [List.length_append]
    exact full
  | case3 accumulated char rest alphabet more ih =>
    have still : (accumulated ++ [decode char]).length < 4 := by
      rw [List.length_append,List.length_singleton]
      simp only [BASE64_UNIT_SIZE] at more
      omega
    rcases ih still with ⟨full,front,last,eq,inside⟩ | short
    · exact Or.inl ⟨full,char :: front,last,congrArg (char :: ·) eq,inside⟩
    · exact Or.inr short
  | case4 accumulated char rest other ih =>
    rcases ih room with ⟨full,front,last,eq,inside⟩ | short
    · exact Or.inl ⟨full,char :: front,last,congrArg (char :: ·) eq,inside⟩
    · exact Or.inr short

theorem whole_append {front rest : Data} {char : UInt8} (alphabet : decode char ≠ xx)
    (count : (values (front ++ char :: rest)).length = 4 + (values rest).length) :
    Whole (front ++ char :: rest) ↔ Whole rest := by
  have lasts : (∀ last ∈ (front ++ char :: rest).getLast?, decode last ≠ xx) ↔
      ∀ last ∈ rest.getLast?, decode last ≠ xx := by
    cases rest with
    | nil => simp [alphabet]
    | cons next rest => simp [List.getLast?_append]
  rw [Whole,Whole,count,lasts,Nat.add_mod_left]

theorem not_whole {text : Data} (started : text ≠ []) (short : (values text).length < 4) : ¬Whole text := by
  rintro ⟨count,ends⟩
  have none : (values text).length = 0 := by omega
  have last := ends _ (List.getLast?_eq_some_getLast started)
  have found : decode (text.getLast started) ∈ values text := by
    rw [values,List.mem_filter]
    exact ⟨List.mem_map_of_mem (List.getLast_mem started),by simpa using last⟩
  rw [List.length_eq_zero_iff.mp none] at found
  exact List.not_mem_nil found

/-- What the inner loop finds in a text: a full group and the text after it, or less than a group. -/
theorem group_cases {text : Data} (started : text ≠ []) :
    (∃ v0 v1 v2 v3 rest, accumulate [] text = ([v0,v1,v2,v3],rest) ∧
      values text = v0 :: v1 :: v2 :: v3 :: values rest ∧ (Whole text ↔ Whole rest)) ∨
    (accumulate [] text = (values text,[]) ∧ (values text).length < 4 ∧ ¬Whole text) := by
  have split := accumulate_values [] text
  have stops := accumulate_stops [] text (by decide)
  generalize accumulate [] text = group at split stops
  obtain ⟨accumulated,rest⟩ := group
  rcases stops with ⟨four,front,char,eq,alphabet⟩ | ⟨few,ends⟩
  · match accumulated, four, split with
    | [v0,v1,v2,v3], _, split =>
      have found : values text = v0 :: v1 :: v2 :: v3 :: values rest := split.symm
      refine Or.inl ⟨v0,v1,v2,v3,rest,rfl,found,?_⟩
      have count : (values text).length = 4 + (values rest).length := by
        rw [found]
        simp only [List.length_cons]
        omega
      subst eq
      exact whole_append alphabet count
  · change rest = [] at ends
    subst ends
    have found : accumulated = values text := (List.append_nil _).symm.trans split
    subst found
    exact Or.inr ⟨rfl,few,not_whole started few⟩

theorem text_induction {P : Data → Prop} (empty : P [])
    (full : ∀ text v0 v1 v2 v3 rest, text ≠ [] → accumulate [] text = ([v0,v1,v2,v3],rest) →
      values text = v0 :: v1 :: v2 :: v3 :: values rest → (Whole text ↔ Whole rest) → P rest → P text)
    (short : ∀ text, text ≠ [] → accumulate [] text = (values text,[]) → (values text).length < 4 →
      ¬Whole text → P text) (text : Data) : P text := by
  induction counted : text.length using Nat.strong_induction_on generalizing text with
  | _ n ih =>
    by_cases started : text = []
    · exact started ▸ empty
    · rcases group_cases started with ⟨v0,v1,v2,v3,rest,group,found,whole⟩ | ⟨group,few,partly⟩
      · have less := accumulate_length [] text
        have nonempty := List.length_pos_iff.mpr started
        rw [group] at less
        exact full text v0 v1 v2 v3 rest started group found whole (ih rest.length (by simp only at less; omega) rest rfl)
      · exact short text started group few partly

theorem store_writes (slots : Nat → UInt8) (count : Nat) {out : Decoding} (fits : out.j + 2 < 2^64) :
    (out.store slots count).writes = out.writes ++ Writes.indexed out.j
      [high (slots 0) (slots 1),middle (slots 1) (slots 2),low (slots 2) (slots 3)] := by
  have next : wrap (out.j + 1) = out.j + 1 := Nat.mod_eq_of_lt (by omega)
  have last : wrap (out.j + 2) = out.j + 1 + 1 := Nat.mod_eq_of_lt fits
  rw [Decoding.store]
  simp only [next,last]
  rfl

theorem store_full (slots : Nat → UInt8) {out : Decoding} (fits : out.j + 3 < 2^64) :
    (out.store slots 4).j = out.j + 3 := by
  have advance : wrap (4 + (2^64 - 1)) = 3 := by
    unfold wrap
    omega
  change wrap (out.j + wrap (4 + (2^64 - 1))) = _
  rw [advance]
  exact Nat.mod_eq_of_lt fits

variable (uninitialized : Nat → Nat → UInt8)

theorem decodeGroups_nil (out : Decoding) : decodeGroups uninitialized [] out = out := by
  rw [decodeGroups]
  simp

theorem decodeGroups_step {text accumulated rest : Data} (out : Decoding) (started : text ≠ [])
    (group : accumulate [] text = (accumulated,rest)) :
    decodeGroups uninitialized text out = decodeGroups uninitialized rest
      (out.store (fun slot => accumulated.getD slot (uninitialized text.length slot)) accumulated.length) := by
  rw [decodeGroups,if_pos started,group]

theorem decodeGroups_full {text rest : Data} {v0 v1 v2 v3 : UInt8} {out : Decoding} (started : text ≠ [])
    (group : accumulate [] text = ([v0,v1,v2,v3],rest)) (fits : out.j + 3 < 2^64) :
    ∃ next : Decoding, decodeGroups uninitialized text out = decodeGroups uninitialized rest next ∧
      next.j = out.j + 3 ∧ next.lengths = out.lengths ++ [out.j + 3] ∧
      next.writes = out.writes ++ Writes.indexed out.j [high v0 v1,middle v1 v2,low v2 v3] := by
  have advanced := store_full (fun slot => [v0,v1,v2,v3].getD slot (uninitialized text.length slot)) fits
  exact ⟨_,decodeGroups_step uninitialized out started group,advanced,congrArg (out.lengths ++ [·]) advanced,
    store_writes _ _ (by omega)⟩

theorem count_full {text rest : Data} {v0 v1 v2 v3 : UInt8}
    (found : values text = v0 :: v1 :: v2 :: v3 :: values rest) :
    (values text).length / 4 = (values rest).length / 4 + 1 ∧ (values text).length % 4 = (values rest).length % 4 := by
  simp only [found,List.length_cons]
  omega

theorem packed_short {few : Data} (short : few.length < 4) (unfilled : Nat → UInt8) :
    packed few <+: [high (few.getD 0 (unfilled 0)) (few.getD 1 (unfilled 1)),
      middle (few.getD 1 (unfilled 1)) (few.getD 2 (unfilled 2)),
      low (few.getD 2 (unfilled 2)) (few.getD 3 (unfilled 3))] := by
  match few, short with
  | [], _ => exact List.nil_prefix
  | [v0], _ => exact List.nil_prefix
  | [v0,v1], _ => exact List.prefix_append [high v0 v1] _
  | [v0,v1,v2], _ => exact List.prefix_append [high v0 v1,middle v1 v2] _

/-- Each group stores three bytes, of which those of the values are the packed values. -/
theorem decodeGroups_writes (text : Data) (out : Decoding)
    (fits : out.j + 3 * ((values text).length / 4) + 2 < 2^64) :
    ∃ bytes, (decodeGroups uninitialized text out).writes = out.writes ++ Writes.indexed out.j bytes ∧
      bytes.length = 3 * ((values text).length / 4) + (if Whole text then 0 else 3) ∧
      packed (values text) <+: bytes := by
  induction text using text_induction generalizing out with
  | empty => exact ⟨[],by simp [decodeGroups_nil,Writes.indexed],by simp [values,Whole],by simp [values,packed]⟩
  | full text v0 v1 v2 v3 rest started group found whole ih =>
    obtain ⟨groups,remainder⟩ := count_full found
    rw [groups] at fits ⊢
    obtain ⟨next,goesOn,advanced,-,stored⟩ := decodeGroups_full uninitialized started group
      (by omega : out.j + 3 < 2^64)
    obtain ⟨bytes,writes,count,front⟩ := ih next (by rw [advanced]; omega)
    refine ⟨[high v0 v1,middle v1 v2,low v2 v3] ++ bytes,?_,?_,?_⟩
    · rw [goesOn,writes,advanced,stored,Writes.indexed_append,List.append_assoc]
      rfl
    · simp only [List.length_append,count,List.length_cons,List.length_nil,whole]
      omega
    · rw [found]
      exact (List.prefix_append_right_inj [high v0 v1,middle v1 v2,low v2 v3]).mpr front
  | short text started group few partly =>
    refine ⟨_,?_,?_,packed_short few (uninitialized text.length)⟩
    · rw [decodeGroups_step uninitialized out started group,decodeGroups_nil]
      exact store_writes _ _ (by omega)
    · rw [if_neg partly,Nat.div_eq_of_lt few]
      rfl

theorem decodeGroups_j (text : Data) (out : Decoding) (fits : out.j + 3 * ((values text).length / 4) < 2^64) :
    (decodeGroups uninitialized text out).j = if Whole text then out.j + 3 * ((values text).length / 4)
      else wrap (out.j + 3 * ((values text).length / 4) + wrap ((values text).length % 4 + (2^64 - 1))) := by
  induction text using text_induction generalizing out with
  | empty => simp [decodeGroups_nil,values,Whole]
  | full text v0 v1 v2 v3 rest started group found whole ih =>
    obtain ⟨groups,remainder⟩ := count_full found
    rw [groups] at fits ⊢
    obtain ⟨next,goesOn,advanced,-,-⟩ := decodeGroups_full uninitialized started group
      (by omega : out.j + 3 < 2^64)
    have same : out.j + 3 * ((values rest).length / 4 + 1) = out.j + 3 + 3 * ((values rest).length / 4) := by omega
    rw [goesOn,ih next (by rw [advanced]; omega)]
    simp only [advanced,whole,remainder,same]
  | short text started group few partly =>
    rw [decodeGroups_step uninitialized out started group,decodeGroups_nil,if_neg partly,Nat.div_eq_of_lt few,
      Nat.mod_eq_of_lt few]
    rfl

/-- The lengths after each group: three more each time, and a last one unless the text ends in a full group. -/
theorem decodeGroups_lengths (text : Data) (out : Decoding) (fits : out.j + 3 * ((values text).length / 4) < 2^64) :
    (decodeGroups uninitialized text out).lengths =
      out.lengths ++ (List.range' (out.j + 3) ((values text).length / 4) 3 ++
        if Whole text then [] else [(decodeGroups uninitialized text out).j]) := by
  induction text using text_induction generalizing out with
  | empty => simp [decodeGroups_nil,values,Whole]
  | full text v0 v1 v2 v3 rest started group found whole ih =>
    obtain ⟨groups,-⟩ := count_full found
    rw [groups] at fits ⊢
    obtain ⟨next,goesOn,advanced,listed,-⟩ := decodeGroups_full uninitialized started group
      (by omega : out.j + 3 < 2^64)
    rw [goesOn,ih next (by rw [advanced]; omega),advanced,listed,List.range'_succ,List.append_assoc]
    simp only [whole]
    rfl
  | short text started group few partly =>
    rw [decodeGroups_step uninitialized out started group,decodeGroups_nil,if_neg partly,Nat.div_eq_of_lt few]
    rfl

/-- What the decoder does with a text, the stored bytes being given. -/
structure Decodes (text bytes : Data) (decoded : OutputBuffer × List Nat) : Prop where
  size : decoded.1.outputBufferSize = text.length / 4 * 3
  writes : decoded.1.writes = Writes.indexed 0 bytes
  count : bytes.length = 3 * ((values text).length / 4) + if Whole text then 0 else 3
  front : packed (values text) <+: bytes
  outputLength : decoded.1.outputLength = if Whole text then 3 * ((values text).length / 4)
    else wrap (3 * ((values text).length / 4) + wrap ((values text).length % 4 + (2^64 - 1)))
  lengths : decoded.2 = List.range' 3 ((values text).length / 4) 3 ++
    if Whole text then [] else [decoded.1.outputLength]

theorem newBase64Decode_decodes (memory : Nat → UInt8) {inputBuffer text : Data} {length : Nat}
    (counted : readLength inputBuffer length = text.length) (read : inputBuffer.take text.length = text)
    (fits : text.length + 2 < 2^64) :
    ∃ bytes, Decodes text bytes (newBase64Decode memory uninitialized inputBuffer length) := by
  have few := values_length_le text
  let start : Decoding := {j := 0,writes := [],lengths := []}
  have decoded : newBase64Decode memory uninitialized inputBuffer length =
      (⟨memory,decodeSize text.length,(decodeGroups uninitialized text start).writes,
        (decodeGroups uninitialized text start).j⟩,(decodeGroups uninitialized text start).lengths) := by
    rw [newBase64Decode]
    simp only [counted,read]
    rfl
  obtain ⟨bytes,writes,count,front⟩ := decodeGroups_writes uninitialized text start (by change 0 + _ + 2 < _; omega)
  have j := decodeGroups_j uninitialized text start (by change 0 + _ < _; omega)
  have lengths := decodeGroups_lengths uninitialized text start (by change 0 + _ < _; omega)
  have groups : 0 + 3 * ((values text).length / 4) = 3 * ((values text).length / 4) := Nat.zero_add _
  have size : decodeSize text.length = text.length / 4 * 3 := by
    apply Nat.mod_eq_of_lt
    simp only [BASE64_UNIT_SIZE,BINARY_UNIT_SIZE]
    omega
  rw [decoded]
  refine ⟨bytes,size,writes,count,front,?_,lengths⟩
  rw [← groups]
  exact j

/-- The text of an `NSString` as ASCII data. -/
structure AsciiText extends Object where
  ascii : ∀ char ∈ bytes, char < 128

/-- All writes are within the buffer, no group lowers the length, and the length is within the
buffer; a length that underflows from 0 is larger than any buffer. -/
def Bounded (decoded : OutputBuffer × List Nat) : Prop :=
  decoded.1.InBounds ∧ List.IsChain (· ≤ ·) (0 :: decoded.2) ∧ decoded.1.outputLength ≤ decoded.1.outputBufferSize

theorem chain_groups (q : Nat) : List.IsChain (· ≤ ·) (0 :: List.range' 3 q 3) := by
  rw [List.isChain_iff_pairwise]
  exact List.pairwise_cons.mpr ⟨fun length _ => Nat.zero_le length,List.pairwise_le_range' 3⟩

theorem chain_last_iff (q last : Nat) : List.IsChain (· ≤ ·) (0 :: (List.range' 3 q 3 ++ [last])) ↔ 3 * q ≤ last := by
  rw [List.isChain_iff_pairwise,← List.cons_append,List.pairwise_append]
  constructor
  · rintro ⟨-,-,below⟩
    cases q with
    | zero => exact Nat.zero_le last
    | succ q =>
      have listed : 3 * (q+1) ∈ List.range' 3 (q+1) 3 := List.mem_range'.mpr ⟨q,by omega,by omega⟩
      exact below _ (List.mem_cons_of_mem 0 listed) last (List.mem_singleton_self last)
  · intro least
    refine ⟨List.isChain_iff_pairwise.mp (chain_groups q),List.pairwise_singleton _ _,?_⟩
    intro length listed last' same
    rw [List.mem_singleton.mp same]
    rcases List.mem_cons.mp listed with rfl | listed
    · exact Nat.zero_le last
    · obtain ⟨i,_,rfl⟩ := List.mem_range'.mp listed
      omega

theorem wrap_of_lt {n : Nat} (small : n < 2^64) : wrap n = n := Nat.mod_eq_of_lt small

theorem wrap_pred {r : Nat} (begun : r ≠ 0) (small : r < 2^64) : wrap (r + (2^64 - 1)) = r - 1 := by
  unfold wrap
  omega

theorem Decodes.stays_iff {text bytes : Data} {decoded : OutputBuffer × List Nat}
    (decodes : Decodes text bytes decoded) (fits : text.length + 2 < 2^64) :
    Bounded decoded ↔ Whole text ∨
      ((values text).length % 4 ≠ 0 ∧ 4 * ((values text).length / 4) + 4 ≤ text.length) := by
  have few := values_length_le text
  have inBounds : decoded.1.InBounds ↔ bytes = [] ∨ 0 + bytes.length ≤ decoded.1.outputBufferSize := by
    rw [OutputBuffer.InBounds,decodes.writes]
    exact Writes.indexed_lt_iff
  rw [Bounded,inBounds,decodes.lengths,decodes.size,decodes.count]
  by_cases whole : Whole text
  · simp only [decodes.outputLength,whole,↓reduceIte,true_or,iff_true,List.append_nil]
    exact ⟨Or.inr (by omega),chain_groups _,by omega⟩
  · have stored : bytes ≠ [] := by
      rintro rfl
      have count := decodes.count
      rw [if_neg whole] at count
      exact absurd count (by simp)
    simp only [stored,whole,↓reduceIte,false_or,chain_last_iff]
    have last := decodes.outputLength
    rw [if_neg whole] at last
    by_cases begun : (values text).length % 4 = 0
    · -- an empty group takes one from the length, or underflows
      rw [begun,Nat.zero_add,wrap_of_lt (by omega : 2^64 - 1 < 2^64)] at last
      simp only [begun,ne_eq,not_true_eq_false,false_and,iff_false,not_and]
      intro _ least
      unfold wrap at last
      omega
    · rw [wrap_pred begun (by omega),wrap_of_lt (by omega)] at last
      rw [last]
      omega

theorem AsciiText.decodes (memory : Nat → UInt8) (text : AsciiText) :
    ∃ bytes, Decodes text.bytes bytes (newBase64Decode memory uninitialized text.bytes text.bytes.length) := by
  have fits := text.fits
  have counted : readLength text.bytes text.bytes.length = text.bytes.length := if_neg (by omega)
  exact newBase64Decode_decodes uninitialized memory counted List.take_length (by omega)

/-- The decoder stays within its buffer exactly if the text ends in a full group or is empty, or its last group
is begun and other characters make up for those that it lacks. -/
theorem newBase64Decode_bounded_iff (memory : Nat → UInt8) (text : AsciiText) :
    Bounded (newBase64Decode memory uninitialized text.bytes text.bytes.length) ↔ Whole text.bytes ∨
      ((values text.bytes).length % 4 ≠ 0 ∧ 4 * ((values text.bytes).length / 4) + 4 ≤ text.bytes.length) := by
  have fits := text.fits
  obtain ⟨bytes,decodes⟩ := text.decodes uninitialized memory
  exact decodes.stays_iff (by omega)

/-- `A` is written behind an empty buffer; the line break after `QUJD` takes a byte from the output. -/
theorem not_bounded_letter_newline : ∃ letter newline : AsciiText, letter.bytes = [65] ∧
    ¬Bounded (newBase64Decode (fun _ => 0) (fun _ _ => 0) letter.bytes letter.bytes.length) ∧
    newline.bytes = [81,85,74,68,10] ∧
    ¬Bounded (newBase64Decode (fun _ => 0) (fun _ _ => 0) newline.bytes newline.bytes.length) := by
  let letter : AsciiText := {bytes := [65],fits := by decide,ascii := by simp}
  let newline : AsciiText := {bytes := [81,85,74,68,10],fits := by decide,ascii := by simp}
  refine ⟨letter,newline,rfl,?_,rfl,?_⟩
  · obtain ⟨bytes,decodes⟩ := letter.decodes (fun _ _ => 0) fun _ => 0
    rw [decodes.stays_iff (by decide)]
    decide +kernel
  · obtain ⟨bytes,decodes⟩ := newline.decodes (fun _ _ => 0) fun _ => 0
    rw [decodes.stays_iff (by decide)]
    decide +kernel

end TenonVpn.Base64
