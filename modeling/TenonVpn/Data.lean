import TenonVpn.Text
import Mathlib.Data.List.TakeDrop

/-! Byte strings: the operations of Foundation `Data` that trap outside their bounds,
integers as the bytes that a little-endian host stores, and the bytes of a text. -/
namespace TenonVpn

abbrev Data := List UInt8

namespace Data

/-- `replaceSubrange(lower..<upper, with:)`; none where the range is not within the data. -/
def replaceSubrange (data : Data) (lower upper : Nat) (bytes : Data) : Option Data :=
  if lower ≤ upper ∧ upper ≤ data.length then some (data.take lower ++ bytes ++ data.drop upper) else none

def setByte (data : Data) (index : Nat) (byte : UInt8) : Option Data :=
  if index < data.length then some (data.set index byte) else none

def zeros (count : Nat) : Data := List.replicate count 0

/-- The bytes in memory of an integer of the given size, on a little-endian host. -/
def memory : Nat → Nat → Data
  | 0, _ => []
  | size+1, n => UInt8.ofNat n :: memory size (n / 256)

def load : Data → Nat
  | [] => 0
  | byte :: rest => byte.toNat + 256 * load rest

def bigEndian (port : UInt16) : UInt16 := UInt16.ofNat (port.toNat % 256 * 256 + port.toNat / 256)

def utf8 (text : Text) : Data := text.flatMap String.utf8EncodeChar

theorem replaceSubrange_middle (front : Data) {old back : Data} {lower upper : Nat} (bytes : Data)
    (start : front.length = lower) (stop : lower + old.length = upper) :
    replaceSubrange (front ++ (old ++ back)) lower upper bytes = some (front ++ (bytes ++ back)) := by
  subst start stop
  have within : front.length + old.length ≤ (front ++ (old ++ back)).length := by
    simp only [List.length_append]
    omega
  have rest : (front ++ (old ++ back)).drop (front.length + old.length) = back := by
    rw [← List.append_assoc,← List.length_append,List.drop_left]
  rw [replaceSubrange,if_pos ⟨Nat.le_add_right _ _,within⟩,List.take_left,rest,List.append_assoc]

theorem setByte_middle (front : Data) {back : Data} {index : Nat} {old : UInt8} (byte : UInt8)
    (start : front.length = index) :
    setByte (front ++ old :: back) index byte = some (front ++ byte :: back) := by
  subst start
  have within : front.length < (front ++ old :: back).length := by simp
  rw [setByte,if_pos within,List.set_append_right _ _ (le_refl _),Nat.sub_self,List.set_cons_zero]

theorem zeros_length (count : Nat) : (zeros count).length = count := List.length_replicate

theorem zeros_add (first second : Nat) : zeros (first + second) = zeros first ++ zeros second :=
  List.replicate_add first second 0

/-- A field written at the start of the zeros that remain of a fresh buffer. -/
theorem replaceSubrange_zeros {front : Data} (field : Data) {lower upper width rest : Nat}
    (start : front.length = lower) (stop : lower + width = upper) :
    replaceSubrange (front ++ zeros (width + rest)) lower upper field = some (front ++ field ++ zeros rest) := by
  rw [zeros_add,replaceSubrange_middle front field start (by rw [zeros_length,stop]),List.append_assoc]

theorem setByte_zeros {front : Data} (byte : UInt8) {index rest : Nat} (start : front.length = index) :
    setByte (front ++ zeros (1 + rest)) index byte = some (front ++ [byte] ++ zeros rest) := by
  have blank : zeros (1 + rest) = 0 :: zeros rest := zeros_add 1 rest
  rw [blank,setByte_middle front byte start,List.append_assoc]
  rfl

theorem memory_length (size n : Nat) : (memory size n).length = size := by
  induction size generalizing n with
  | zero => rfl
  | succ size ih => simp [memory,ih]

theorem load_memory (size n : Nat) : load (memory size n) = n % 256^size := by
  induction size generalizing n with
  | zero => simp [memory,load,Nat.mod_one]
  | succ size ih =>
    rw [memory,load,ih,Nat.pow_succ',Nat.mod_mul]
    simp

theorem load_lt (data : Data) : load data < 256^data.length := by
  induction data with
  | nil => decide
  | cons byte rest ih =>
    have small := byte.toNat_lt
    rw [load,List.length_cons,Nat.pow_succ]
    omega

theorem memory_load (data : Data) : memory data.length (load data) = data := by
  induction data with
  | nil => rfl
  | cons byte rest ih =>
    have small := byte.toNat_lt
    have low : UInt8.ofNat (byte.toNat + 256 * load rest) = byte := by
      apply UInt8.toNat.inj
      rw [UInt8.toNat_ofNat']
      omega
    have high : (byte.toNat + 256 * load rest) / 256 = load rest := by omega
    rw [load,List.length_cons,memory,low,high,ih]

theorem bigEndian_toNat (port : UInt16) :
    (bigEndian port).toNat = port.toNat % 256 * 256 + port.toNat / 256 := by
  have high : port.toNat / 256 < 256 := by
    have small := port.toNat_lt
    omega
  rw [bigEndian,UInt16.toNat_ofNat']
  omega

theorem bigEndian_bigEndian (port : UInt16) : bigEndian (bigEndian port) = port := by
  have high : port.toNat / 256 < 256 := by
    have small := port.toNat_lt
    omega
  apply UInt16.toNat.inj
  rw [bigEndian_toNat,bigEndian_toNat]
  omega

theorem memory_bigEndian (port : UInt16) :
    memory 2 (bigEndian port).toNat = [UInt8.ofNat (port.toNat / 256),UInt8.ofNat port.toNat] := by
  have high : port.toNat / 256 < 256 := by
    have small := port.toNat_lt
    omega
  have first : UInt8.ofNat (port.toNat % 256 * 256 + port.toNat / 256) = UInt8.ofNat (port.toNat / 256) := by
    apply UInt8.toNat.inj
    simp only [UInt8.toNat_ofNat']
    omega
  have second : UInt8.ofNat ((port.toNat % 256 * 256 + port.toNat / 256) / 256) = UInt8.ofNat port.toNat := by
    apply UInt8.toNat.inj
    rw [Nat.add_comm,Nat.add_mul_div_right _ _ (by decide),Nat.div_eq_of_lt high,Nat.zero_add,
      UInt8.toNat_ofNat',UInt8.toNat_ofNat',Nat.mod_mod]
  rw [bigEndian_toNat,memory,memory,memory,first,second]

end Data
end TenonVpn
