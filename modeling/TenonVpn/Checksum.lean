import TenonVpn.Data
import TenonVpn.OnesComplement

/-! `BinaryDataScanner`, and the checksum of the internet protocols as `Checksum` computes it: the
words of a slice are added in 32 bits, where an overflow traps, and folded at the end. -/
namespace TenonVpn

/-- `CFSwapInt32`, and the same of any size. -/
def Data.byteSwapped (size n : Nat) : Nat := load (memory size n).reverse

structure BinaryDataScanner where
  data : Data
  littleEndian : Bool
  position : Nat := 0

/-- A read of an integer of the given size. -/
def BinaryDataScanner.read (scanner : BinaryDataScanner) (size : Nat) : Option (Nat × BinaryDataScanner) :=
  let bytes := (scanner.data.drop scanner.position).take size
  if scanner.data.length < scanner.position + size then none
  else some (Data.load (if scanner.littleEndian then bytes else bytes.reverse),
    {scanner with position := scanner.position + size})

/-- `+` of two `UInt32`. -/
def add32 (result value : Nat) : Option Nat := if result + value < 2^32 then some (result + value) else none

namespace Checksum

/-- The loop of `computeChecksumUnfold` over the bytes between the scanner's position and `end`;
an odd byte at the end is added as it is. -/
def addWords : Data → Nat → Option Nat
  | [],result => some result
  | [last],result => add32 result last.toNat
  | low :: high :: rest,result => (add32 result (low.toNat + 256 * high.toNat)).bind (addWords rest)

/-- Where `end` is before `start` one byte is read at `start`. -/
def computeChecksumUnfold (data : Data) (start stop initChecksum : Nat) : Option Nat :=
  if data.length < stop then none
  else if start ≤ stop then addWords ((data.take stop).drop start) initChecksum
  else data[start]?.bind (fun byte => add32 initChecksum byte.toNat)

def toChecksum (checksum : Nat) : UInt16 := ~~~UInt16.ofNat (OnesComplement.fold 65536 checksum)

def computeChecksum (data : Data) (start stop initChecksum : Nat) : Option UInt16 :=
  (computeChecksumUnfold data start stop initChecksum).map toChecksum

def validateChecksum (payload : Data) (start stop : Nat) : Option Bool :=
  (computeChecksumUnfold payload start stop 0).map (fun sum => toChecksum sum = 0)

/-- The sum of the words of a slice. -/
def wordSum : Data → Nat
  | [] => 0
  | [last] => last.toNat
  | low :: high :: rest => low.toNat + 256 * high.toNat + wordSum rest

theorem addWords_eq (data : Data) {result : Nat} (small : result < 2^32) :
    addWords data result = if result + wordSum data < 2^32 then some (result + wordSum data) else none := by
  induction data using wordSum.induct generalizing result with
  | case1 => rw [addWords,wordSum,Nat.add_zero,if_pos small]
  | case2 last => rfl
  | case3 low high rest ih =>
    rw [addWords,wordSum,add32]
    by_cases fits : result + (low.toNat + 256 * high.toNat) < 2^32
    · rw [if_pos fits,Option.bind_some,ih fits,Nat.add_assoc]
    · rw [if_neg fits,if_neg (by omega),Option.bind_none]

theorem computeChecksumUnfold_eq {data : Data} {start stop initChecksum : Nat} (within : stop ≤ data.length)
    (ordered : start ≤ stop) (small : initChecksum < 2^32) :
    computeChecksumUnfold data start stop initChecksum =
      if initChecksum + wordSum ((data.take stop).drop start) < 2^32
      then some (initChecksum + wordSum ((data.take stop).drop start)) else none := by
  rw [computeChecksumUnfold,if_neg (by omega),if_pos ordered,addWords_eq _ small]

/-- Slices that are not cut inside of a word are added one by one. -/
theorem wordSum_append {first : Data} (even : first.length % 2 = 0) (second : Data) :
    wordSum (first ++ second) = wordSum first + wordSum second := by
  induction first using wordSum.induct with
  | case1 => simp [wordSum]
  | case2 last => simp at even
  | case3 low high rest ih =>
    have even' : rest.length % 2 = 0 := by
      simp only [List.length_cons] at even
      omega
    rw [List.cons_append,List.cons_append,wordSum,wordSum,ih even']
    omega

theorem wordSum_le (data : Data) : 2 * wordSum data ≤ 65535 * (data.length + 1) := by
  induction data using wordSum.induct with
  | case1 => decide
  | case2 last =>
    have byte := last.toNat_lt
    simp only [wordSum,List.length_singleton]
    omega
  | case3 low high rest ih =>
    have byte := low.toNat_lt
    have byte' := high.toNat_lt
    simp only [wordSum,List.length_cons]
    omega

theorem wordSum_memory (value : UInt16) : wordSum (Data.memory 2 value.toNat) = value.toNat := by
  have small := value.toNat_lt
  simp only [Data.memory,wordSum,UInt8.toNat_ofNat']
  omega

theorem toChecksum_toNat (checksum : Nat) :
    (toChecksum checksum).toNat = OnesComplement.complement 65536 checksum := by
  have below := OnesComplement.fold_lt (by decide : 2 ≤ 65536) checksum
  rw [toChecksum,UInt16.toNat_not,UInt16.toNat_ofNat',OnesComplement.complement,Nat.mod_eq_of_lt below]

theorem toChecksum_eq_zero (checksum : Nat) :
    toChecksum checksum = 0 ↔ OnesComplement.fold 65536 checksum = 65535 := by
  have below := OnesComplement.fold_lt (by decide : 2 ≤ 65536) checksum
  rw [← UInt16.toNat_inj,toChecksum_toNat,OnesComplement.complement,UInt16.toNat_zero]
  omega

/-- A slice with the complement of its other words in it is valid, also with a sum from outside of it. -/
theorem fold_checksum (outside : Nat) {front : Data} (even : front.length % 2 = 0) (back : Data) :
    OnesComplement.fold 65536 (outside + wordSum (front ++ (Data.memory 2
      (toChecksum (outside + wordSum (front ++ (Data.zeros 2 ++ back)))).toNat ++ back))) = 65535 := by
  have blank : wordSum (Data.zeros 2) = 0 := rfl
  have two (n : Nat) : (Data.memory 2 n).length % 2 = 0 := by rw [Data.memory_length]
  have whole := OnesComplement.fold_add_complement (by decide : 2 ≤ 65536)
    (outside + wordSum (front ++ (Data.zeros 2 ++ back)))
  rw [← toChecksum_toNat] at whole
  obtain ⟨checksum,computed⟩ :
    ∃ checksum, toChecksum (outside + wordSum (front ++ (Data.zeros 2 ++ back))) = checksum := ⟨_,rfl⟩
  rw [computed] at whole ⊢
  rw [wordSum_append even,wordSum_append (by rfl : (Data.zeros 2).length % 2 = 0),blank] at whole
  rw [wordSum_append even,wordSum_append (two _),wordSum_memory]
  have same : outside + (wordSum front + (checksum.toNat + wordSum back)) =
      outside + (wordSum front + (0 + wordSum back)) + checksum.toNat := by omega
  rw [same]
  exact whole

end Checksum
end TenonVpn
