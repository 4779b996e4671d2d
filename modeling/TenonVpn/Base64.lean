import TenonVpn.Data
import TenonVpn.Writes
import TenonVpn.Sextets

/-! `NSData+Base65EnCode`: `NewBase64Encode` and `NewBase64Decode`, with the buffer sizes that
they compute and every write into the buffers. A `size_t` is a number below 2^64. -/
namespace TenonVpn.Base64
open Sextets

def base64EncodeLookup : Data :=
  "ABCDEFGHIJKLMNOPQRSTUVWXYZabcdefghijklmnopqrstuvwxyz0123456789+/\x00".toList.map fun char => UInt8.ofNat char.toNat

def xx : UInt8 := 65

def base64DecodeLookup : Data := [
  xx,xx,xx,xx,xx,xx,xx,xx,xx,xx,xx,xx,xx,xx,xx,xx,
  xx,xx,xx,xx,xx,xx,xx,xx,xx,xx,xx,xx,xx,xx,xx,xx,
  xx,xx,xx,xx,xx,xx,xx,xx,xx,xx,xx,62,xx,xx,xx,63,
  52,53,54,55,56,57,58,59,60,61,xx,xx,xx,xx,xx,xx,
  xx, 0, 1, 2, 3, 4, 5, 6, 7, 8, 9,10,11,12,13,14,
  15,16,17,18,19,20,21,22,23,24,25,xx,xx,xx,xx,xx,
  xx,26,27,28,29,30,31,32,33,34,35,36,37,38,39,40,
  41,42,43,44,45,46,47,48,49,50,51,xx,xx,xx,xx,xx,
  xx,xx,xx,xx,xx,xx,xx,xx,xx,xx,xx,xx,xx,xx,xx,xx,
  xx,xx,xx,xx,xx,xx,xx,xx,xx,xx,xx,xx,xx,xx,xx,xx,
  xx,xx,xx,xx,xx,xx,xx,xx,xx,xx,xx,xx,xx,xx,xx,xx,
  xx,xx,xx,xx,xx,xx,xx,xx,xx,xx,xx,xx,xx,xx,xx,xx,
  xx,xx,xx,xx,xx,xx,xx,xx,xx,xx,xx,xx,xx,xx,xx,xx,
  xx,xx,xx,xx,xx,xx,xx,xx,xx,xx,xx,xx,xx,xx,xx,xx,
  xx,xx,xx,xx,xx,xx,xx,xx,xx,xx,xx,xx,xx,xx,xx,xx,
  xx,xx,xx,xx,xx,xx,xx,xx,xx,xx,xx,xx,xx,xx,xx,xx]

def encode (value : UInt8) : UInt8 := base64EncodeLookup.getD value.toNat 0

/-- The index is a `char`, which is signed here: only the ASCII half of the table can be meant. -/
def decode (char : UInt8) : UInt8 := base64DecodeLookup.getD char.toNat xx

def BINARY_UNIT_SIZE : Nat := 3
def BASE64_UNIT_SIZE : Nat := 4
def OUTPUT_LINE_LENGTH : Nat := 64
def INPUT_LINE_LENGTH : Nat := OUTPUT_LINE_LENGTH / BASE64_UNIT_SIZE * BINARY_UNIT_SIZE
def CR_LF_SIZE : Nat := 2

def wrap (n : Nat) : Nat := n % 2^64

theorem decode_encode (value : UInt8) (small : value.toNat < 64) : decode (encode value) = value := by
  revert value
  exact forall_byte (by decide +kernel)

theorem ascii_encode (value : UInt8) (small : value.toNat < 64) : 0 < encode value ∧ encode value < 128 := by
  revert value
  exact forall_byte (by decide +kernel)

/-- An allocated buffer: what `malloc` found in it, its size, and the writes into it. -/
structure OutputBuffer where
  memory : Nat → UInt8
  outputBufferSize : Nat
  writes : List (Nat × UInt8)
  outputLength : Nat

namespace OutputBuffer

def bytes (buffer : OutputBuffer) (length : Nat) : Data := Writes.content buffer.memory buffer.writes length

def InBounds (buffer : OutputBuffer) : Prop := ∀ write ∈ buffer.writes, write.1 < buffer.outputBufferSize

end OutputBuffer

/-- An object in memory, whose size fits in `ptrdiff_t`. -/
structure Object where
  bytes : Data
  fits : bytes.length < 2^63

structure Output where
  j : Nat
  writes : List (Nat × UInt8)

namespace Output

def put (out : Output) (char : UInt8) : Output := {j := out.j + 1,writes := out.writes ++ [(out.j,char)]}

def putAll (out : Output) (chars : Data) : Output := chars.foldl put out

end Output

def encodeSize (length : Nat) (separateLines : Bool) : Nat :=
  let outputBufferSize := wrap ((length / BINARY_UNIT_SIZE + if length % BINARY_UNIT_SIZE ≠ 0 then 1 else 0)
    * BASE64_UNIT_SIZE)
  let outputBufferSize := if separateLines
    then wrap (outputBufferSize + outputBufferSize / OUTPUT_LINE_LENGTH * CR_LF_SIZE) else outputBufferSize
  wrap (outputBufferSize + 1)

/-- The `for` loop: a line's groups of three bytes. -/
def encodeLine (inputBuffer : Data) (lineEnd i : Nat) (out : Output) : Nat × Output :=
  if i + BINARY_UNIT_SIZE - 1 < lineEnd then
    let a := inputBuffer.getD i 0
    let b := inputBuffer.getD (i+1) 0
    let c := inputBuffer.getD (i+2) 0
    encodeLine inputBuffer lineEnd (i + BINARY_UNIT_SIZE) (out.putAll
      [encode ((a &&& 0xFC) >>> 2),encode (((a &&& 0x03) <<< 4) ||| ((b &&& 0xF0) >>> 4)),
        encode (((b &&& 0x0F) <<< 2) ||| ((c &&& 0xC0) >>> 6)),encode (c &&& 0x3F)])
  else (i,out)
termination_by lineEnd - i
decreasing_by
  simp only [BINARY_UNIT_SIZE] at *
  omega

def lineLength (length : Nat) (separateLines : Bool) : Nat := if separateLines then INPUT_LINE_LENGTH else length

def clampLineEnd (lineEnd length : Nat) : Nat := if lineEnd > length then length else lineEnd

theorem clampLineEnd_eq (lineEnd length : Nat) : clampLineEnd lineEnd length = min lineEnd length := by
  unfold clampLineEnd
  split <;> omega

/-- The outer loop; without separate lines the first line is the last. -/
def encodeLines (inputBuffer : Data) (separateLines : Bool) (lineEnd i : Nat) (out : Output) : Nat × Output :=
  let line := encodeLine inputBuffer (clampLineEnd lineEnd inputBuffer.length) i out
  if clampLineEnd lineEnd inputBuffer.length = inputBuffer.length then line
  else encodeLines inputBuffer separateLines
    (clampLineEnd lineEnd inputBuffer.length + lineLength inputBuffer.length separateLines) line.1
    (line.2.putAll [13,10])
termination_by inputBuffer.length - lineEnd
decreasing_by
  next goesOn =>
  have long : 0 < lineLength inputBuffer.length separateLines := by
    rw [clampLineEnd_eq] at goesOn
    cases separateLines with
    | true => exact (by decide : 0 < INPUT_LINE_LENGTH)
    | false => exact (by omega : 0 < inputBuffer.length)
  rw [clampLineEnd_eq] at goesOn ⊢
  omega

def encodeRest (inputBuffer : Data) (i : Nat) (out : Output) : Output :=
  let a := inputBuffer.getD i 0
  let b := inputBuffer.getD (i+1) 0
  if i + 1 < inputBuffer.length then
    out.putAll [encode ((a &&& 0xFC) >>> 2),encode (((a &&& 0x03) <<< 4) ||| ((b &&& 0xF0) >>> 4)),
      encode ((b &&& 0x0F) <<< 2),61]
  else if i < inputBuffer.length then
    out.putAll [encode ((a &&& 0xFC) >>> 2),encode ((a &&& 0x03) <<< 4),61,61]
  else out

/-- None where `malloc` returns `NULL`. -/
def newBase64Encode (malloc : Nat → Option (Nat → UInt8)) (buffer : Data) (separateLines : Bool) :
    Option OutputBuffer :=
  let outputBufferSize := encodeSize buffer.length separateLines
  match malloc outputBufferSize with
  | none => none
  | some memory =>
    let lines := encodeLines buffer separateLines (lineLength buffer.length separateLines) 0 {j := 0,writes := []}
    let out := encodeRest buffer lines.1 lines.2
    some {memory,outputBufferSize,writes := out.writes ++ [(out.j,0)],outputLength := out.j}

/-- The inner loop of the decoder: up to four values of alphabet characters, and the text after them. -/
def accumulate (accumulated : Data) : Data → Data × Data
  | [] => (accumulated,[])
  | char :: rest =>
    if decode char ≠ xx then
      if accumulated.length + 1 = BASE64_UNIT_SIZE then (accumulated ++ [decode char],rest)
      else accumulate (accumulated ++ [decode char]) rest
    else accumulate accumulated rest

theorem accumulate_length (accumulated text : Data) : (accumulate accumulated text).2.length ≤ text.length - 1 := by
  fun_induction accumulate accumulated text with
  | case1 accumulated => simp
  | case2 accumulated char rest alphabet full => simp
  | case3 accumulated char rest alphabet more ih =>
    rw [List.length_cons]
    omega
  | case4 accumulated char rest skipped ih =>
    rw [List.length_cons]
    omega

/-- Where the decoder writes next, what it has written, and the values of `j` after each group. -/
structure Decoding where
  j : Nat
  writes : List (Nat × UInt8)
  lengths : List Nat

/-- What a group of values stores; slots that were not filled hold whatever was in memory. -/
def Decoding.store (slots : Nat → UInt8) (accumulateIndex : Nat) (out : Decoding) : Decoding :=
  let j := wrap (out.j + wrap (accumulateIndex + (2^64 - 1)))
  {j,lengths := out.lengths ++ [j]
   writes := out.writes ++ [(out.j,(slots 0 <<< 2) ||| (slots 1 >>> 4)),
    (wrap (out.j + 1),(slots 1 <<< 4) ||| (slots 2 >>> 2)),(wrap (out.j + 2),(slots 2 <<< 6) ||| slots 3)]}

/-- The outer loop, over the text from `i` on. -/
def decodeGroups (uninitialized : Nat → Nat → UInt8) (text : Data) (out : Decoding) : Decoding :=
  if text ≠ [] then
    let group := accumulate [] text
    decodeGroups uninitialized group.2
      (out.store (fun slot => group.1.getD slot (uninitialized text.length slot)) group.1.length)
  else out
termination_by text.length
decreasing_by
  next started =>
  have shorter := accumulate_length [] text
  have nonempty := List.length_pos_iff.mpr started
  omega

def strlen (buffer : Data) : Nat := (buffer.takeWhile (· ≠ 0)).length

def readLength (inputBuffer : Data) (length : Nat) : Nat := if length = 2^64 - 1 then strlen inputBuffer else length

def decodeSize (length : Nat) : Nat := wrap (length / BASE64_UNIT_SIZE * BINARY_UNIT_SIZE)

/-- The result of `malloc` is used as it is: `memory` is what it found where it found memory. -/
def newBase64Decode (memory : Nat → UInt8) (uninitialized : Nat → Nat → UInt8) (inputBuffer : Data) (length : Nat) :
    OutputBuffer × List Nat :=
  let length := readLength inputBuffer length
  let out := decodeGroups uninitialized (inputBuffer.take length) {j := 0,writes := [],lengths := []}
  ({memory,outputBufferSize := decodeSize length,writes := out.writes,outputLength := out.j},out.lengths)

end TenonVpn.Base64
