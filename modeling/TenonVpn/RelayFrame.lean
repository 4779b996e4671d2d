import TenonVpn.Data

/-! The header that a relay node reads before the stream: one record of six bytes for each
hop, the public key of the client, and its tag. A reader that knows the number of hops
recovers every field. -/
namespace TenonVpn

/-- A hop as the code holds it: the address as stored by `inet_pton`, the port in host order. -/
structure Hop where
  ip : UInt32
  port : UInt16
deriving DecidableEq

namespace Hop

def bytes (hop : Hop) : Data := Data.memory 4 hop.ip.toNat ++ Data.memory 2 (Data.bigEndian hop.port).toNat

def read (record : Data) : Hop where
  ip := UInt32.ofNat (Data.load (record.take 4))
  port := Data.bigEndian (UInt16.ofNat (Data.load (record.drop 4)))

theorem bytes_length (hop : Hop) : hop.bytes.length = 6 := by
  simp [bytes,Data.memory_length]

theorem read_bytes (hop : Hop) : read hop.bytes = hop := by
  have address : hop.bytes.take 4 = Data.memory 4 hop.ip.toNat :=
    List.take_left' (Data.memory_length 4 _)
  have port : hop.bytes.drop 4 = Data.memory 2 (Data.bigEndian hop.port).toNat :=
    List.drop_left' (Data.memory_length 4 _)
  have first : UInt32.ofNat (hop.ip.toNat % 256^4) = hop.ip := by
    rw [Nat.mod_eq_of_lt (show hop.ip.toNat < 256^4 from hop.ip.toNat_lt),UInt32.ofNat_toNat]
  have second : UInt16.ofNat ((Data.bigEndian hop.port).toNat % 256^2) = Data.bigEndian hop.port := by
    rw [Nat.mod_eq_of_lt (show _ < 256^2 from (Data.bigEndian hop.port).toNat_lt),UInt16.ofNat_toNat]
  rw [read,address,port,Data.load_memory,Data.load_memory,first,second,Data.bigEndian_bigEndian]

end Hop

structure RelayFrame where
  hops : List Hop
  publicKey : Data
  keyed : publicKey.length = 66
  payload : Data

namespace RelayFrame

def tag : Data := 3 :: Data.utf8 "ios".toList

def encode (frame : RelayFrame) : Data :=
  frame.hops.flatMap Hop.bytes ++ frame.publicKey ++ tag ++ frame.payload

def readHops : Nat → Data → Option (List Hop × Data)
  | 0, rest => some ([],rest)
  | count+1, bytes =>
    if 6 ≤ bytes.length then
      (readHops count (bytes.drop 6)).map (fun (hops,rest) => (Hop.read (bytes.take 6) :: hops,rest))
    else none

def decode (count : Nat) (bytes : Data) : Option RelayFrame := do
  let (hops,rest) ← readHops count bytes
  if keyed : (rest.take 66).length = 66 then
    if (rest.drop 66).take 4 = tag then some ⟨hops,rest.take 66,keyed,rest.drop 70⟩ else none
  else none

theorem readHops_bytes (hops : List Hop) (rest : Data) :
    readHops hops.length (hops.flatMap Hop.bytes ++ rest) = some (hops,rest) := by
  induction hops with
  | nil => rfl
  | cons hop hops ih =>
    have size : 6 ≤ (hop.bytes ++ (hops.flatMap Hop.bytes ++ rest)).length := by
      rw [List.length_append,hop.bytes_length]
      exact Nat.le_add_right _ _
    rw [List.flatMap_cons,List.append_assoc,List.length_cons,readHops,if_pos size,
      List.take_left' hop.bytes_length,List.drop_left' hop.bytes_length,ih]
    simp [Hop.read_bytes]

theorem decode_encode (frame : RelayFrame) : decode frame.hops.length frame.encode = some frame := by
  obtain ⟨hops,publicKey,keyed,payload⟩ := frame
  have split : encode ⟨hops,publicKey,keyed,payload⟩ =
      hops.flatMap Hop.bytes ++ (publicKey ++ (tag ++ payload)) := by
    simp only [encode,List.append_assoc]
  have key : (publicKey ++ (tag ++ payload)).take 66 = publicKey := List.take_left' keyed
  have behind : (publicKey ++ (tag ++ payload)).drop 66 = tag ++ payload := List.drop_left' keyed
  have tagged : (tag ++ payload).take 4 = tag := List.take_left' rfl
  have last : (publicKey ++ (tag ++ payload)).drop 70 = payload := by
    rw [← List.append_assoc]
    exact List.drop_left' (by simp [keyed]; rfl)
  simp [decode,split,readHops_bytes,key,behind,tagged,last,keyed]

end RelayFrame
end TenonVpn
