import TenonVpn.Base64Decode

/-! The text that the encoder writes, with and without line breaks: its values are those of
the input, it fits in the buffer, and the decoder gives the input back. -/
namespace TenonVpn.Base64
open Sextets

theorem values_map_encode {sixes : Data} (small : ∀ value ∈ sixes, value.toNat < 64) :
    values (sixes.map encode) = sixes := by
  induction sixes with
  | nil => rfl
  | cons value rest ih =>
    obtain ⟨first,others⟩ := List.forall_mem_cons.mp small
    have back := decode_encode value first
    have alphabet : decode (encode value) ≠ xx := by
      rw [back]
      rintro rfl
      exact absurd first (by decide)
    rw [List.map_cons,values_cons_alphabet _ alphabet,back,ih others]

theorem ascii_map_encode {sixes : Data} (small : ∀ value ∈ sixes, value.toNat < 64) :
    ∀ char ∈ sixes.map encode, 0 < char ∧ char < 128 := by
  intro char mem
  obtain ⟨value,found,rfl⟩ := List.mem_map.mp mem
  exact ascii_encode value (small value found)

namespace Output
variable {out : Output} {text : Data}

/-- The output so far is the text: its characters are written one after the other. -/
def Holds (out : Output) (text : Data) : Prop := out.j = text.length ∧ out.writes = Writes.indexed 0 text

theorem holds_put (holds : out.Holds text) (char : UInt8) : (out.put char).Holds (text ++ [char]) := by
  obtain ⟨j,writes⟩ := holds
  refine ⟨?_,?_⟩
  · rw [List.length_append,← j]
    rfl
  · rw [Writes.indexed_append,Nat.zero_add,← writes,← j]
    rfl

theorem holds_putAll (holds : out.Holds text) (chars : Data) : (out.putAll chars).Holds (text ++ chars) := by
  induction chars generalizing out text with
  | nil => rwa [List.append_nil]
  | cons char rest ih =>
    have next := ih (holds_put holds char)
    rwa [List.append_assoc] at next

end Output

/-- What the encoder has made of the first `i` bytes, with the given number of line breaks. -/
structure Encodes (input : Data) (i breaks : Nat) (text : Data) : Prop where
  groups : i % 3 = 0
  values : values text = sextets (input.take i)
  length : text.length = 4 * (i / 3) + 2 * breaks
  ascii : ∀ char ∈ text, 0 < char ∧ char < 128

def Closed (text : Data) : Prop := ∀ char ∈ text.getLast?, decode char ≠ xx

theorem take_next {input : Data} {i : Nat} (within : i < input.length) :
    input.take (i+1) = input.take i ++ [input.getD i 0] := by
  rw [List.take_add_one,List.getD_eq_getElem?_getD,List.getElem?_eq_getElem within]
  rfl

namespace Encodes
variable {input text : Data} {i breaks : Nat}

theorem take_length_mod (encodes : Encodes input i breaks text) (within : i ≤ input.length) :
    (input.take i).length % 3 = 0 := by
  rw [List.length_take_of_le within]
  exact encodes.groups

theorem empty (input : Data) : Encodes input 0 0 [] := ⟨rfl,rfl,rfl,fun _ none => absurd none List.not_mem_nil⟩

theorem group (encodes : Encodes input i breaks text) (within : i + 3 ≤ input.length) :
    Encodes input (i+3) breaks (text ++
      (sextets [input.getD i 0,input.getD (i+1) 0,input.getD (i+2) 0]).map encode) where
  groups := by
    have groups := encodes.groups
    omega
  values := by
    rw [values_append,encodes.values,values_map_encode (sextets_lt _),take_next (by omega),take_next (by omega),
      take_next (by omega),List.append_assoc,List.append_assoc,
      sextets_append _ _ (encodes.take_length_mod (by omega))]
    rfl
  length := by
    have groups : (i + 3) / 3 = i / 3 + 1 := by omega
    have four : (sextets [input.getD i 0,input.getD (i+1) 0,input.getD (i+2) 0]).length = 4 := rfl
    rw [List.length_append,encodes.length,List.length_map,groups,four]
    omega
  ascii := fun char mem => (List.mem_append.mp mem).elim (encodes.ascii char) (ascii_map_encode (sextets_lt _) char)

theorem lineBreak (encodes : Encodes input i breaks text) : Encodes input i (breaks+1) (text ++ [13,10]) where
  groups := encodes.groups
  values := by
    rw [values_append,← encodes.values]
    exact List.append_nil _
  length := by
    rw [List.length_append,encodes.length]
    simp only [List.length_cons,List.length_nil]
    omega
  ascii := fun char mem => (List.mem_append.mp mem).elim (encodes.ascii char)
    ((by simp : ∀ char ∈ ([13,10] : Data), 0 < char ∧ char < 128) char)

end Encodes

theorem closed_group (text : Data) (a b c : UInt8) : Closed (text ++ (sextets [a,b,c]).map encode) := by
  intro char last
  have same : char = encode (fourth c) := by simpa [sextets,List.getLast?_append] using last.symm
  have back := decode_encode (fourth c) (fourth_lt c)
  rw [same,back]
  intro none
  have small := fourth_lt c
  rw [none] at small
  exact absurd small (by decide)

/-- A line's groups, up to less than a group before its end. -/
theorem encodeLine_spec {input text : Data} {lineEnd i breaks : Nat} {out : Output} (within : lineEnd ≤ input.length)
    (start : i ≤ lineEnd) (holds : out.Holds text) (encodes : Encodes input i breaks text) :
    ∃ text', (encodeLine input lineEnd i out).2.Holds text' ∧
      Encodes input (encodeLine input lineEnd i out).1 breaks text' ∧
      (i + 3 ≤ lineEnd ∨ Closed text → Closed text') ∧
      (encodeLine input lineEnd i out).1 ≤ lineEnd ∧ lineEnd < (encodeLine input lineEnd i out).1 + 3 := by
  fun_induction encodeLine input lineEnd i out generalizing text with
  | case1 i out more a b c =>
    rename_i ih
    simp only [BINARY_UNIT_SIZE] at more
    have grouped := encodes.group (by omega : i + 3 ≤ input.length)
    obtain ⟨text',holds',encodes',closed,ends⟩ := ih (by simp only [BINARY_UNIT_SIZE]; omega)
      (Output.holds_putAll holds _) grouped
    exact ⟨text',holds',encodes',fun _ => closed (Or.inr (closed_group text _ _ _)),ends⟩
  | case2 i out done =>
    simp only [BINARY_UNIT_SIZE] at done
    exact ⟨text,holds,encodes,fun closed => closed.resolve_left (by omega),start,by simp only; omega⟩

/-- Where the outer loop stands at the start of a line, after the given number of line breaks. -/
structure LineStart (input : Data) (separateLines : Bool) (lineEnd i breaks : Nat) (text : Data) : Prop where
  index : i = breaks * lineLength input.length separateLines
  ahead : lineEnd = i + lineLength input.length separateLines
  goesOn : i < input.length ∨ (breaks = 0 ∧ text = [])

theorem lineLength_true (length : Nat) : lineLength length true = 48 := rfl

theorem lineLength_false (length : Nat) : lineLength length false = length := rfl

theorem LineStart.within {input text : Data} {separateLines : Bool} {lineEnd i breaks : Nat}
    (lineStart : LineStart input separateLines lineEnd i breaks text) : i ≤ input.length := by
  rcases lineStart.goesOn with before | ⟨rfl,_⟩
  · exact Nat.le_of_lt before
  · rw [lineStart.index,Nat.zero_mul]
    exact Nat.zero_le _

theorem LineStart.breaks {input text : Data} {separateLines : Bool} {lineEnd i breaks : Nat}
    (lineStart : LineStart input separateLines lineEnd i breaks text) :
    breaks = 0 ∨ (separateLines = true ∧ breaks * 48 < input.length) := by
  have index := lineStart.index
  rcases lineStart.goesOn with before | ⟨none,_⟩
  · cases separateLines with
    | true => exact Or.inr ⟨rfl,index ▸ before⟩
    | false =>
      rw [index,lineLength_false] at before
      exact Or.inl (Nat.lt_one_iff.mp (Nat.lt_of_mul_lt_mul_right (by rwa [Nat.one_mul])))
  · exact Or.inl none

/-- A line that ends before the input does is of whole groups, and the next line starts where it ends. -/
theorem LineStart.next {input text text' : Data} {separateLines : Bool} {lineEnd i i' breaks : Nat}
    (lineStart : LineStart input separateLines lineEnd i breaks text) (before : lineEnd < input.length)
    (groups : i' % 3 = 0) (below : i' ≤ lineEnd) (above : lineEnd < i' + 3) :
    LineStart input separateLines (lineEnd + lineLength input.length separateLines) i' (breaks+1) text' := by
  have index := lineStart.index
  have ahead := lineStart.ahead
  cases separateLines with
  | true =>
    rw [lineLength_true] at index ahead
    have same : i' = lineEnd := by omega
    exact ⟨by rw [lineLength_true]; omega,by rw [same],Or.inl (by omega)⟩
  | false =>
    rw [lineLength_false] at ahead
    omega

theorem encodeLines_spec {input text : Data} {separateLines : Bool} {lineEnd i breaks : Nat} {out : Output}
    (lineStart : LineStart input separateLines lineEnd i breaks text) (holds : out.Holds text)
    (encodes : Encodes input i breaks text) :
    ∃ text' breaks', (encodeLines input separateLines lineEnd i out).2.Holds text' ∧
      Encodes input (encodeLines input separateLines lineEnd i out).1 breaks' text' ∧
      (input.length % 3 = 0 → Closed text') ∧
      (encodeLines input separateLines lineEnd i out).1 ≤ input.length ∧
      input.length < (encodeLines input separateLines lineEnd i out).1 + 3 ∧
      (breaks' = 0 ∨ (separateLines = true ∧ breaks' * 48 < input.length)) := by
  fun_induction encodeLines input separateLines lineEnd i out generalizing text breaks with
  | case1 lineEnd i out line =>
    rename_i ends
    have within : i ≤ clampLineEnd lineEnd input.length := by
      rw [ends]
      exact lineStart.within
    obtain ⟨text',holds',encodes',closed,below,above⟩ := encodeLine_spec (Nat.le_of_eq ends) within holds encodes
    refine ⟨text',breaks,holds',encodes',?_,below.trans (Nat.le_of_eq ends),ends.symm.trans_lt above,
      lineStart.breaks⟩
    intro full
    apply closed
    have groups := encodes.groups
    rcases lineStart.goesOn with before | ⟨_,rfl⟩
    · exact Or.inl (by omega)
    · exact Or.inr fun char none => absurd none (by simp)
  | case2 lineEnd i out line goesOn =>
    rename_i ih
    have clamped := clampLineEnd_eq lineEnd input.length
    have same : clampLineEnd lineEnd input.length = lineEnd := by omega
    have within : i ≤ clampLineEnd lineEnd input.length := by
      rw [same,lineStart.ahead]
      exact Nat.le_add_right _ _
    obtain ⟨text',holds',encodes',-,below,above⟩ := encodeLine_spec (by omega) within holds encodes
    have next : LineStart input separateLines
        (clampLineEnd lineEnd input.length + lineLength input.length separateLines) line.1 (breaks+1)
        (text' ++ [13,10]) := by
      rw [same]
      exact lineStart.next (by omega) encodes'.groups (below.trans (Nat.le_of_eq same))
        (same.symm.trans_lt above)
    exact ih next (Output.holds_putAll holds' _) encodes'.lineBreak

theorem values_pads (n : Nat) : values (List.replicate n 61) = [] := by
  have pad : decode 61 = xx := by decide +kernel
  induction n with
  | zero => rfl
  | succ n ih => rw [List.replicate_succ,values_cons_other _ pad,ih]

theorem encodes_rest {input text few : Data} {i breaks n : Nat} (encodes : Encodes input i breaks text)
    (within : i ≤ input.length) (split : input.take i ++ few = input) (padded : (sextets few).length + n = 4) :
    values (text ++ ((sextets few).map encode ++ List.replicate n 61)) = sextets input ∧
      (text ++ ((sextets few).map encode ++ List.replicate n 61)).length = 4 * (i / 3 + 1) + 2 * breaks ∧
      ∀ char ∈ text ++ ((sextets few).map encode ++ List.replicate n 61), 0 < char ∧ char < 128 := by
  refine ⟨?_,?_,?_⟩
  · have whole := sextets_append _ few (encodes.take_length_mod within)
    rw [split] at whole
    rw [values_append,values_append,values_map_encode (sextets_lt few),values_pads,List.append_nil,encodes.values,whole]
  · rw [List.length_append,List.length_append,List.length_map,List.length_replicate,padded,encodes.length]
    omega
  · intro char mem
    rcases List.mem_append.mp mem with before | mem
    · exact encodes.ascii char before
    · rcases List.mem_append.mp mem with coded | pad
      · exact ascii_map_encode (sextets_lt few) char coded
      · rw [List.eq_of_mem_replicate pad]
        decide

/-- The last group completes the text, with `=` for the characters that it lacks. -/
theorem encodeRest_spec {input text : Data} {i breaks : Nat} {out : Output} (within : i ≤ input.length)
    (last : input.length < i + 3) (holds : out.Holds text) (encodes : Encodes input i breaks text)
    (closed : input.length % 3 = 0 → Closed text) :
    ∃ text', (encodeRest input i out).Holds text' ∧ values text' = sextets input ∧
      text'.length = 4 * ((input.length + 2) / 3) + 2 * breaks ∧
      (∀ char ∈ text', 0 < char ∧ char < 128) ∧ (input.length % 3 = 0 → Closed text') := by
  have groups := encodes.groups
  have whole : input.take input.length = input := List.take_length
  unfold encodeRest
  split
  next two =>
    have split : input.take i ++ [input.getD i 0,input.getD (i+1) 0] = input := by
      have size : input.length = i + 1 + 1 := by omega
      rw [size,take_next two,take_next (by omega),List.append_assoc] at whole
      exact whole
    have third : third (input.getD (i+1) 0) 0 = (input.getD (i+1) 0 &&& 0x0F) <<< 2 := by simp [third]
    have chars := Output.holds_putAll holds ((sextets [input.getD i 0,input.getD (i+1) 0]).map encode ++
      List.replicate 1 61)
    obtain ⟨values,length,ascii⟩ := encodes_rest encodes within split (rfl : 3 + 1 = 4)
    have size : (input.length + 2) / 3 = i / 3 + 1 := by omega
    rw [sextets,third] at chars values length ascii
    exact ⟨_,chars,values,size ▸ length,ascii,fun full => by omega⟩
  next notTwo =>
    split
    next one =>
      have split : input.take i ++ [input.getD i 0] = input := by
        have size : input.length = i + 1 := by omega
        rw [size,take_next one] at whole
        exact whole
      have second : second (input.getD i 0) 0 = (input.getD i 0 &&& 0x03) <<< 4 := by simp [second]
      have chars := Output.holds_putAll holds ((sextets [input.getD i 0]).map encode ++ List.replicate 2 61)
      obtain ⟨values,length,ascii⟩ := encodes_rest encodes within split (rfl : 2 + 2 = 4)
      have size : (input.length + 2) / 3 = i / 3 + 1 := by omega
      rw [sextets,second] at chars values length ascii
      exact ⟨_,chars,values,size ▸ length,ascii,fun full => by omega⟩
    next done =>
      have ends : i = input.length := by omega
      have size : (input.length + 2) / 3 = i / 3 := by omega
      refine ⟨text,holds,?_,size ▸ encodes.length,encodes.ascii,closed⟩
      rw [encodes.values,ends,whole]

/-- The computed size does not overflow, and has room for the groups, their line breaks and the final NUL. -/
theorem encodeSize_eq {length : Nat} (separateLines : Bool) (fits : length < 2^63) :
    encodeSize length separateLines = 4 * ((length + 2) / 3) +
      (if separateLines then 4 * ((length + 2) / 3) / 64 * 2 else 0) + 1 := by
  have groups : length / BINARY_UNIT_SIZE + (if length % BINARY_UNIT_SIZE ≠ 0 then 1 else 0) =
      (length + 2) / 3 := by
    by_cases full : length % BINARY_UNIT_SIZE = 0
    · rw [if_neg (not_not.mpr full)]
      simp only [BINARY_UNIT_SIZE] at full ⊢
      omega
    · rw [if_pos full]
      simp only [BINARY_UNIT_SIZE] at full ⊢
      omega
  have bound : (length + 2) / 3 < 2^62 - 2^60 := by omega
  simp only [encodeSize,groups,BASE64_UNIT_SIZE,OUTPUT_LINE_LENGTH,CR_LF_SIZE]
  generalize (length + 2) / 3 = q at bound
  rw [wrap_of_lt (by omega : q * 4 < 2^64),Nat.mul_comm q 4]
  cases separateLines with
  | true => rw [if_pos rfl,if_pos rfl,wrap_of_lt (by omega : 4 * q + 4 * q / 64 * 2 < 2^64),wrap_of_lt (by omega)]
  | false => rw [if_neg Bool.false_ne_true,if_neg Bool.false_ne_true,wrap_of_lt (by omega)]

structure EncodedText (input : Data) (separateLines : Bool) (text : Data) : Prop where
  values : values text = sextets input
  ascii : ∀ char ∈ text, 0 < char ∧ char < 128
  closed : input.length % 3 = 0 → Closed text
  long : 4 * ((input.length + 2) / 3) ≤ text.length
  room : text.length + 1 ≤ encodeSize input.length separateLines

theorem encoded_text (input : Object) (separateLines : Bool) :
    ∃ text, EncodedText input.bytes separateLines text ∧
      ∀ malloc, newBase64Encode malloc input.bytes separateLines =
        (malloc (encodeSize input.bytes.length separateLines)).map fun memory =>
          {memory,outputBufferSize := encodeSize input.bytes.length separateLines,
           writes := Writes.indexed 0 (text ++ [0]),outputLength := text.length} := by
  have start : LineStart input.bytes separateLines (lineLength input.bytes.length separateLines) 0 0 [] :=
    ⟨(Nat.zero_mul _).symm,(Nat.zero_add _).symm,Or.inr ⟨rfl,rfl⟩⟩
  obtain ⟨front,breaks,holds,encodes,closed,within,last,bound⟩ :=
    encodeLines_spec start (⟨rfl,rfl⟩ : Output.Holds {j := 0,writes := []} []) (Encodes.empty input.bytes)
  obtain ⟨text,⟨j,writes⟩,values,length,ascii,closed⟩ := encodeRest_spec within last holds encodes closed
  refine ⟨text,⟨values,ascii,closed,by omega,?_⟩,?_⟩
  · rw [encodeSize_eq separateLines input.fits,length]
    rcases bound with rfl | ⟨rfl,bound⟩
    · omega
    · rw [if_pos rfl]
      omega
  · intro malloc
    rw [newBase64Encode]
    simp only
    cases malloc (encodeSize input.bytes.length separateLines) with
    | none => rfl
    | some memory =>
      simp only [Option.map_some,j,writes,Writes.indexed_append,Nat.zero_add]
      rfl

theorem EncodedText.whole_iff {input text : Data} {separateLines : Bool}
    (encoded : EncodedText input separateLines text) : Whole text ↔ input.length % 3 = 0 := by
  have count := sextets_length input
  rw [Whole,encoded.values,count]
  constructor
  · rintro ⟨groups,-⟩
    by_contra partly
    rw [if_neg partly] at groups
    omega
  · intro full
    rw [if_pos full]
    exact ⟨by omega,encoded.closed full⟩

/-- The decoder has given the input back, within its own buffer. -/
def Returns (input : Data) (decoded : OutputBuffer × List Nat) : Prop :=
  decoded.1.bytes decoded.1.outputLength = input ∧ decoded.1.outputLength = input.length ∧ Bounded decoded

theorem EncodedText.returns {input text bytes : Data} {separateLines : Bool}
    {decoded : OutputBuffer × List Nat} (encoded : EncodedText input separateLines text)
    (decodes : Decodes text bytes decoded) (fits : text.length + 2 < 2^64) : Returns input decoded := by
  have count := sextets_length input
  have unpacked := packed_length (sextets input)
  have front := decodes.front
  rw [packed_sextets] at unpacked
  rw [encoded.values,packed_sextets] at front
  have whole := encoded.whole_iff
  have long := encoded.long
  have few := values_length_le text
  have size : decoded.1.outputLength = input.length := by
    rw [decodes.outputLength,encoded.values]
    by_cases full : input.length % 3 = 0
    · rw [if_pos (whole.mpr full),unpacked]
      rw [if_pos full] at count
      omega
    · rw [if_neg full] at count
      rw [encoded.values] at few
      rw [if_neg (mt whole.mp full),wrap_pred (by omega) (by omega),wrap_of_lt (by omega),unpacked]
  refine ⟨?_,size,?_⟩
  · obtain ⟨rest,rfl⟩ := front
    rw [size,OutputBuffer.bytes,decodes.writes,Writes.content_indexed _ (by simp),List.take_left]
  · rw [decodes.stays_iff fits,encoded.values]
    by_cases full : input.length % 3 = 0
    · exact Or.inl (whole.mpr full)
    · rw [if_neg full] at count
      exact Or.inr ⟨by omega,by omega⟩

theorem strlen_append {text rest : Data} (ascii : ∀ char ∈ text, 0 < char ∧ char < 128) :
    strlen (text ++ 0 :: rest) = text.length := by
  have all : ∀ char ∈ text, decide (char ≠ 0) = true := by
    intro char mem
    have positive := (ascii char mem).1
    simp only [ne_eq,decide_not,Bool.not_eq_true',decide_eq_false_iff_not]
    rintro rfl
    exact absurd positive (by decide)
  rw [strlen,List.takeWhile_append_of_pos all,List.takeWhile_cons_of_neg (by simp),List.append_nil]

theorem content_text (memory : Nat → UInt8) (text : Data) {size : Nat} (room : text.length + 1 ≤ size) :
    ∃ rest, Writes.content memory (Writes.indexed 0 (text ++ [0])) size = text ++ 0 :: rest := by
  have front : (Writes.content memory (Writes.indexed 0 (text ++ [0])) size).take (text.length + 1) = text ++ [0] := by
    rw [Writes.take_content,Nat.min_eq_left room,Writes.content_indexed _ (by simp)]
    exact List.take_of_length_le (by simp)
  have whole := List.take_append_drop (text.length + 1) (Writes.content memory (Writes.indexed 0 (text ++ [0])) size)
  rw [front,List.append_assoc] at whole
  exact ⟨_,whole.symm⟩

/-- What comes of an input in encoding and decoding: all writes are within the buffers, and the decoder
gives the input back, whether it is told the length of the text or looks for its NUL. -/
def RoundTrips (memory : Nat → UInt8) (uninitialized : Nat → Nat → UInt8) (input : Data) (encoded : OutputBuffer) :
    Prop :=
  encoded.InBounds ∧ ∀ readsLength : Bool, Returns input (newBase64Decode memory uninitialized
    (encoded.bytes encoded.outputBufferSize) (if readsLength then encoded.outputLength else 2^64 - 1))

theorem newBase64Decode_newBase64Encode (malloc : Nat → Option (Nat → UInt8)) (memory : Nat → UInt8)
    (uninitialized : Nat → Nat → UInt8) (input : Object) (separateLines : Bool) :
    match newBase64Encode malloc input.bytes separateLines with
    | none => malloc (encodeSize input.bytes.length separateLines) = none
    | some encoded => RoundTrips memory uninitialized input.bytes encoded := by
  obtain ⟨text,encoded,result⟩ := encoded_text input separateLines
  rw [result malloc]
  cases found : malloc (encodeSize input.bytes.length separateLines) with
  | none => rfl
  | some left =>
    have room := encoded.room
    have fits := encodeSize_eq separateLines input.fits
    have short : text.length + 2 < 2^64 := by
      have inside := input.fits
      cases separateLines with
      | true =>
        rw [if_pos rfl] at fits
        omega
      | false =>
        rw [if_neg Bool.false_ne_true] at fits
        omega
    obtain ⟨rest,content⟩ := content_text left text room
    refine ⟨Writes.indexed_lt_iff.mpr (Or.inr ?_),?_⟩
    · rw [Nat.zero_add,List.length_append]
      exact room
    · intro readsLength
      have counted : readLength (text ++ 0 :: rest) (if readsLength then text.length else 2^64 - 1) =
          text.length := by
        cases readsLength with
        | true =>
          rw [if_pos rfl]
          exact if_neg (by omega)
        | false => exact strlen_append encoded.ascii
      obtain ⟨bytes,decodes⟩ := newBase64Decode_decodes uninitialized memory counted List.take_left short
      rw [← content] at decodes
      exact encoded.returns decodes short

end TenonVpn.Base64
