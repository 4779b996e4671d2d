import TenonVpn.Checksum

/-! `IPPacket` and `UDPProtocolParser`: a packet is built from its fields and read back. What is
built is valid and reads as the same packet; whether it is built depends on its length, and on
a sum in which the length stands with its bytes swapped. -/
namespace TenonVpn

inductive IPVersion
  | iPv4 | iPv6
deriving DecidableEq

namespace IPVersion

def rawValue : IPVersion → Nat
  | iPv4 => 4
  | iPv6 => 6

def ofRawValue (rawValue : Nat) : Option IPVersion := [iPv4,iPv6].find? (fun version => version.rawValue = rawValue)

end IPVersion

inductive TransportProtocol
  | icmp | tcp | udp
deriving DecidableEq

namespace TransportProtocol

def rawValue : TransportProtocol → Nat
  | icmp => 1
  | tcp => 6
  | udp => 17

def ofRawValue (rawValue : Nat) : Option TransportProtocol :=
  [icmp,tcp,udp].find? (fun transport => transport.rawValue = rawValue)

end TransportProtocol

/-- The number is held in network order. -/
structure Port where
  inport : UInt16
deriving DecidableEq

namespace Port

def bytes (port : Port) : Data := Data.memory 2 port.inport.toNat

def load (bytesInNetworkOrder : Data) : Port := ⟨UInt16.ofNat (Data.load bytesInNetworkOrder)⟩

def value (port : Port) : UInt16 := Data.bigEndian port.inport

end Port

/-- `UInt16(_:)` of a count, which traps where it does not fit. -/
def Data.exactUInt16 (count : Nat) : Option UInt16 := if count < 65536 then some (UInt16.ofNat count) else none

def Data.network16 (value : UInt16) : Data := memory 2 (bigEndian value).toNat

structure UDPProtocolParser where
  sourcePort : Port
  destinationPort : Port
  payload : Data
deriving DecidableEq

namespace UDPProtocolParser

def bytesLength (parser : UDPProtocolParser) : Nat := parser.payload.length + 8

/-- `init?(packetData:offset:)`. It does not look at the length and the checksum of the segment. -/
def init (packetData : Data) (offset : Nat) : Option UDPProtocolParser :=
  if packetData.length < offset + 8 then none
  else some {
    sourcePort := Port.load ((packetData.drop offset).take 2)
    destinationPort := Port.load ((packetData.drop (offset + 2)).take 2)
    payload := packetData.drop (offset + 8)}

def buildSegment (parser : UDPProtocolParser) (packetData : Data) (offset pseudoHeaderChecksum : Nat) :
    Option Data := do
  let sourced ← packetData.replaceSubrange offset (offset + 2) parser.sourcePort.bytes
  let addressed ← Data.replaceSubrange sourced (offset + 2) (offset + 4) parser.destinationPort.bytes
  let length ← Data.exactUInt16 parser.bytesLength
  let counted ← Data.replaceSubrange addressed (offset + 4) (offset + 6) (Data.network16 length)
  let filled ← Data.replaceSubrange counted (offset + 8) (offset + 8 + parser.payload.length) parser.payload
  let cleared ← Data.replaceSubrange filled (offset + 6) (offset + 8) (Data.zeros 2)
  let checksum ← Checksum.computeChecksum cleared offset cleared.length pseudoHeaderChecksum
  Data.replaceSubrange cleared (offset + 6) (offset + 8) (Data.memory 2 checksum.toNat)

end UDPProtocolParser

/-- Addresses are held in network order, as `UInt32InNetworkOrder` gives them. -/
structure IPPacket where
  version : IPVersion := .iPv4
  headerLength : Nat := 20
  tos : UInt8 := 0
  identification : UInt16 := 0
  offset : UInt16 := 0
  TTL : UInt8 := 64
  sourceAddress : UInt32
  destinationAddress : UInt32
  transportProtocol : TransportProtocol := .udp
  protocolParser : UDPProtocolParser
deriving DecidableEq

inductive Unparsed
  | traps
  | returnsNil
deriving DecidableEq

namespace IPPacket

def peekProtocol (data : Data) : Option TransportProtocol :=
  if data.length < 20 then none else data[9]?.bind (fun byte => TransportProtocol.ofRawValue byte.toNat)

def orTrap {α : Type} (value : Option α) : Except Unparsed α := value.elim (.error .traps) .ok

def orNil {α : Type} (value : Option α) : Except Unparsed α := value.elim (.error .returnsNil) .ok

def guardElse (condition : Bool) : Except Unparsed Unit := if condition then .ok () else .error .returnsNil

/-- `init?(packetData:)`. -/
def init (packetData : Data) : Except Unparsed IPPacket := do
  let (vhl,scanner) ← orTrap (BinaryDataScanner.read ⟨packetData,false,0⟩ 1)
  let version ← orNil (IPVersion.ofRawValue (vhl / 16))
  let headerLength := vhl % 16 * 4
  guardElse (headerLength ≤ packetData.length)
  let (tos,scanner) ← orTrap (scanner.read 1)
  let totalLength ← orTrap (Data.exactUInt16 packetData.length)
  let (length,scanner) ← orTrap (scanner.read 2)
  guardElse (totalLength.toNat = length)
  let (identification,scanner) ← orTrap (scanner.read 2)
  let (offset,scanner) ← orTrap (scanner.read 2)
  let (TTL,scanner) ← orTrap (scanner.read 1)
  let (proto,scanner) ← orTrap (scanner.read 1)
  let transportProtocol ← orNil (TransportProtocol.ofRawValue proto)
  let (_,scanner) ← orTrap (scanner.read 2)
  guardElse (version = .iPv4)
  let (source,scanner) ← orTrap (scanner.read 4)
  let (destination,_) ← orTrap (scanner.read 4)
  guardElse (transportProtocol = .udp)
  let protocolParser ← orNil (UDPProtocolParser.init packetData headerLength)
  .ok {
    version
    headerLength
    tos := UInt8.ofNat tos
    identification := UInt16.ofNat identification
    offset := UInt16.ofNat offset
    TTL := UInt8.ofNat TTL
    sourceAddress := UInt32.ofNat (Data.byteSwapped 4 source)
    destinationAddress := UInt32.ofNat (Data.byteSwapped 4 destination)
    transportProtocol
    protocolParser}

def addressSum (address : UInt32) : Nat := address.toNat / 65536 + address.toNat % 65536

def computePseudoHeaderChecksum (packet : IPPacket) : Option Nat := do
  let source ← add32 0 (addressSum packet.sourceAddress)
  let both ← add32 source (addressSum packet.destinationAddress)
  let transport ← add32 both (packet.transportProtocol.rawValue * 256)
  add32 transport (Data.byteSwapped 4 packet.protocolParser.bytesLength)

/-- `buildPacket()`; none where it traps. -/
def buildPacket (packet : IPPacket) : Option Data := do
  let size := packet.headerLength + packet.protocolParser.bytesLength
  let first ← Data.replaceSubrange (Data.zeros size) 0 1
    [UInt8.ofNat (packet.headerLength / 4 + packet.version.rawValue * 16)]
  let served ← Data.replaceSubrange first 1 2 [packet.tos]
  let totalLength ← Data.exactUInt16 size
  let counted ← Data.replaceSubrange served 2 4 (Data.network16 totalLength)
  let identified ← Data.replaceSubrange counted 4 6 (Data.network16 packet.identification)
  let fragmented ← Data.replaceSubrange identified 6 8 (Data.network16 packet.offset)
  let living ← Data.replaceSubrange fragmented 8 9 [packet.TTL]
  let transporting ← Data.replaceSubrange living 9 10 [UInt8.ofNat packet.transportProtocol.rawValue]
  let cleared ← Data.replaceSubrange transporting 10 12 (Data.zeros 2)
  let sourced ← Data.replaceSubrange cleared 12 16 (Data.memory 4 packet.sourceAddress.toNat)
  let addressed ← Data.replaceSubrange sourced 16 20 (Data.memory 4 packet.destinationAddress.toNat)
  let pseudoHeaderChecksum ← computePseudoHeaderChecksum packet
  let built ← packet.protocolParser.buildSegment addressed packet.headerLength pseudoHeaderChecksum
  let checksum ← Checksum.computeChecksum built 0 packet.headerLength 0
  Data.replaceSubrange built 10 12 (Data.memory 2 checksum.toNat)

end IPPacket

namespace UDPProtocolParser

/-- What stands before the checksum. -/
def leading (parser : UDPProtocolParser) : Data :=
  parser.sourcePort.bytes ++ parser.destinationPort.bytes ++ Data.network16 (UInt16.ofNat parser.bytesLength)

def segment (parser : UDPProtocolParser) (checksum : Data) : Data := parser.leading ++ (checksum ++ parser.payload)

theorem leading_length (parser : UDPProtocolParser) : parser.leading.length = 6 := by
  simp only [leading,Port.bytes,Data.network16,List.length_append,Data.memory_length]

theorem segment_length (parser : UDPProtocolParser) {checksum : Data} (two : checksum.length = 2) :
    (parser.segment checksum).length = parser.bytesLength := by
  simp only [segment,List.length_append,leading_length,two,bytesLength]
  omega

/-- The segment is written behind what is in front of it, unless its length or the sum does not fit. -/
theorem buildSegment_eq (parser : UDPProtocolParser) {front : Data} {offset : Nat} (start : front.length = offset)
    {pseudo : Nat} (small : pseudo < 2^32) (short : parser.bytesLength < 65536) :
    parser.buildSegment (front ++ Data.zeros parser.bytesLength) offset pseudo =
      if pseudo + Checksum.wordSum (parser.segment (Data.zeros 2)) < 2^32
      then some (front ++ parser.segment (Data.memory 2
        (Checksum.toChecksum (pseudo + Checksum.wordSum (parser.segment (Data.zeros 2)))).toNat))
      else none := by
  have room : parser.bytesLength = 2 + (2 + (2 + (2 + (parser.payload.length + 0)))) := by
    rw [bytesLength]
    omega
  have sourced : Data.replaceSubrange (front ++ Data.zeros parser.bytesLength) offset (offset + 2)
      parser.sourcePort.bytes = some (front ++ parser.sourcePort.bytes ++
        Data.zeros (2 + (2 + (2 + (parser.payload.length + 0))))) := by
    rw [room]
    exact Data.replaceSubrange_zeros _ start rfl
  have addressed : Data.replaceSubrange (front ++ parser.sourcePort.bytes ++
      Data.zeros (2 + (2 + (2 + (parser.payload.length + 0))))) (offset + 2) (offset + 4)
      parser.destinationPort.bytes = some (front ++ parser.sourcePort.bytes ++ parser.destinationPort.bytes ++
        Data.zeros (2 + (2 + (parser.payload.length + 0)))) :=
    Data.replaceSubrange_zeros _ (by simp only [List.length_append,Port.bytes,Data.memory_length,start]) rfl
  have counted : Data.replaceSubrange (front ++ parser.sourcePort.bytes ++ parser.destinationPort.bytes ++
      Data.zeros (2 + (2 + (parser.payload.length + 0)))) (offset + 4) (offset + 6)
      (Data.network16 (UInt16.ofNat parser.bytesLength)) =
        some (front ++ parser.leading ++ Data.zeros (2 + (parser.payload.length + 0))) := by
    rw [Data.replaceSubrange_zeros _ (by simp only [List.length_append,Port.bytes,Data.memory_length,start]) rfl]
    simp only [leading,List.append_assoc]
  have before : (front ++ parser.leading).length = offset + 6 := by
    rw [List.length_append,leading_length,start]
  have filled : Data.replaceSubrange (front ++ parser.leading ++ Data.zeros (2 + (parser.payload.length + 0)))
      (offset + 8) (offset + 8 + parser.payload.length) parser.payload =
        some (front ++ parser.segment (Data.zeros 2)) := by
    rw [Data.zeros_add,← List.append_assoc,Data.replaceSubrange_zeros parser.payload
      (by rw [List.length_append,before,Data.zeros_length]) rfl]
    simp only [segment,Data.zeros,List.replicate_zero,List.append_nil,List.append_assoc]
  have restored (old new : Data) (two : old.length = 2) : Data.replaceSubrange (front ++ parser.segment old)
      (offset + 6) (offset + 8) new = some (front ++ parser.segment new) := by
    rw [segment,← List.append_assoc,Data.replaceSubrange_middle _ new before (by rw [two]),segment,List.append_assoc]
  have summed : Checksum.computeChecksum (front ++ parser.segment (Data.zeros 2)) offset
      (front ++ parser.segment (Data.zeros 2)).length pseudo =
        if pseudo + Checksum.wordSum (parser.segment (Data.zeros 2)) < 2^32
        then some (Checksum.toChecksum (pseudo + Checksum.wordSum (parser.segment (Data.zeros 2)))) else none := by
    have behind : offset ≤ (front ++ parser.segment (Data.zeros 2)).length := by
      rw [List.length_append]
      omega
    rw [Checksum.computeChecksum,Checksum.computeChecksumUnfold_eq (le_refl _) behind small,List.take_length,
      ← start,List.drop_left,apply_ite (Option.map Checksum.toChecksum),Option.map_some,Option.map_none]
  simp only [buildSegment,sourced,addressed,Data.exactUInt16,if_pos short,counted,filled,
    restored _ _ (Data.zeros_length 2),summed,bind,Option.bind_some]
  split
  · rw [Option.bind_some]
  · rw [Option.bind_none]

end UDPProtocolParser

namespace IPPacket

def totalLength (packet : IPPacket) : Nat := packet.headerLength + packet.protocolParser.bytesLength

/-- The header up to the checksum. -/
def leading (packet : IPPacket) : Data :=
  [UInt8.ofNat (packet.headerLength / 4 + packet.version.rawValue * 16)] ++ [packet.tos] ++
    Data.network16 (UInt16.ofNat packet.totalLength) ++ Data.network16 packet.identification ++
    Data.network16 packet.offset ++ [packet.TTL] ++ [UInt8.ofNat packet.transportProtocol.rawValue]

def addresses (packet : IPPacket) : Data :=
  Data.memory 4 packet.sourceAddress.toNat ++ Data.memory 4 packet.destinationAddress.toNat

/-- The options are left zero. -/
def header (packet : IPPacket) (checksum : Data) : Data :=
  packet.leading ++ (checksum ++ (packet.addresses ++ Data.zeros (packet.headerLength - 20)))

/-- The header length of an IP packet: a number of words, that its first byte can say. -/
structure Headed (packet : IPPacket) : Prop where
  least : 20 ≤ packet.headerLength
  most : packet.headerLength ≤ 60
  words : packet.headerLength % 4 = 0

theorem headed_of_default {packet : IPPacket} (usual : packet.headerLength = 20) : packet.Headed :=
  ⟨by omega,by omega,by omega⟩

/-- The sum of the pseudo header, where it does not overflow. -/
def pseudoSum (packet : IPPacket) : Nat :=
  addressSum packet.sourceAddress + addressSum packet.destinationAddress +
    packet.transportProtocol.rawValue * 256 + Data.byteSwapped 4 packet.protocolParser.bytesLength

/-- What `buildPacket` needs: a length of 16 bits, and a sum of 32 bits. -/
def Fits (packet : IPPacket) : Prop :=
  packet.totalLength < 65536 ∧
    packet.pseudoSum + Checksum.wordSum (packet.protocolParser.segment (Data.zeros 2)) < 2^32

instance decidableFits (packet : IPPacket) : Decidable packet.Fits := by
  unfold Fits
  infer_instance

/-- The segment as it is sent. -/
def builtSegment (packet : IPPacket) : Data := packet.protocolParser.segment (Data.memory 2
  (Checksum.toChecksum (packet.pseudoSum +
    Checksum.wordSum (packet.protocolParser.segment (Data.zeros 2)))).toNat)

/-- The packet as it is sent. -/
def built (packet : IPPacket) : Data :=
  packet.header (Data.memory 2 (Checksum.toChecksum (Checksum.wordSum (packet.header (Data.zeros 2)))).toNat) ++
    packet.builtSegment

theorem leading_length (packet : IPPacket) : packet.leading.length = 10 := by
  simp only [leading,Data.network16,List.length_append,Data.memory_length,List.length_singleton]

theorem header_length {packet : IPPacket} (headed : packet.Headed) {checksum : Data} (two : checksum.length = 2) :
    (packet.header checksum).length = packet.headerLength := by
  have least := headed.least
  simp only [header,addresses,List.length_append,leading_length,two,Data.memory_length,Data.zeros_length]
  omega

theorem computePseudoHeaderChecksum_eq (packet : IPPacket) :
    packet.computePseudoHeaderChecksum = if packet.pseudoSum < 2^32 then some packet.pseudoSum else none := by
  rw [computePseudoHeaderChecksum,pseudoSum]
  simp only [add32,bind,Nat.zero_add]
  split
  · rw [Option.bind_some]
    split
    · rw [Option.bind_some]
      split
      · rw [Option.bind_some]
      · rw [if_neg (by omega),Option.bind_none]
    · rw [if_neg (by omega),Option.bind_none]
  · rw [if_neg (by omega),Option.bind_none]

/-- The header is written field by field over zeros, as long as the total length fits. -/
theorem buildPacket_header {packet : IPPacket} (headed : packet.Headed) (short : packet.totalLength < 65536) :
    packet.buildPacket = packet.computePseudoHeaderChecksum.bind (fun pseudo =>
      (packet.protocolParser.buildSegment (packet.header (Data.zeros 2) ++ Data.zeros packet.protocolParser.bytesLength)
        packet.headerLength pseudo).bind (fun built =>
          (Checksum.computeChecksum built 0 packet.headerLength 0).bind (fun checksum =>
            Data.replaceSubrange built 10 12 (Data.memory 2 checksum.toNat)))) := by
  have least := headed.least
  have fresh : Data.zeros (packet.headerLength + packet.protocolParser.bytesLength) = [] ++ Data.zeros
      (1 + (1 + (2 + (2 + (2 + (1 + (1 + (2 + (4 + (4 + (packet.headerLength - 20 +
        packet.protocolParser.bytesLength))))))))))) := by
    rw [List.nil_append]
    congr 1
    omega
  have two (value : UInt16) : (Data.network16 value).length = 2 := Data.memory_length 2 _
  have total : Data.exactUInt16 (packet.headerLength + packet.protocolParser.bytesLength) =
      some (UInt16.ofNat packet.totalLength) := if_pos short
  rw [buildPacket]
  simp only [bind,fresh,total]
  rw [Data.replaceSubrange_zeros _ (by simp) rfl]
  rw [Option.bind_some,Data.replaceSubrange_zeros _ (by simp) rfl]
  rw [Option.bind_some,Option.bind_some,Data.replaceSubrange_zeros _ (by simp) rfl]
  rw [Option.bind_some,Data.replaceSubrange_zeros _ (by simp [two]) rfl]
  rw [Option.bind_some,Data.replaceSubrange_zeros _ (by simp [two]) rfl]
  rw [Option.bind_some,Data.replaceSubrange_zeros _ (by simp [two]) rfl]
  rw [Option.bind_some,Data.replaceSubrange_zeros _ (by simp [two]) rfl]
  rw [Option.bind_some,Data.replaceSubrange_zeros _ (by simp [two]) rfl]
  rw [Option.bind_some,Data.replaceSubrange_zeros _ (by simp [two,Data.zeros_length]) rfl]
  rw [Option.bind_some,Data.replaceSubrange_zeros _ (by simp [two,Data.zeros_length,Data.memory_length]) rfl]
  rw [Option.bind_some,Data.zeros_add,← List.append_assoc]
  simp only [header,leading,addresses,List.append_assoc,List.nil_append]

theorem header_sum_lt {packet : IPPacket} (headed : packet.Headed) {checksum : Data} (two : checksum.length = 2) :
    Checksum.wordSum (packet.header checksum) < 2^32 := by
  have most := headed.most
  have bound := Checksum.wordSum_le (packet.header checksum)
  rw [header_length headed two] at bound
  omega

/-- The last step: the checksum of the header goes over the zeros at its place. -/
theorem header_checksum {packet : IPPacket} (headed : packet.Headed) (segment : Data) :
    (Checksum.computeChecksum (packet.header (Data.zeros 2) ++ segment) 0 packet.headerLength 0).bind
      (fun checksum => Data.replaceSubrange (packet.header (Data.zeros 2) ++ segment) 10 12
        (Data.memory 2 checksum.toNat)) =
      some (packet.header (Data.memory 2
        (Checksum.toChecksum (Checksum.wordSum (packet.header (Data.zeros 2)))).toNat) ++ segment) := by
  have length := header_length headed (Data.zeros_length 2)
  have whole : ((packet.header (Data.zeros 2) ++ segment).take packet.headerLength).drop 0 =
      packet.header (Data.zeros 2) := by
    rw [← length,List.take_left,List.drop_zero]
  have within : packet.headerLength ≤ (packet.header (Data.zeros 2) ++ segment).length := by
    rw [List.length_append,length]
    omega
  have place (old : Data) : packet.header old ++ segment = packet.leading ++ (old ++
      (packet.addresses ++ Data.zeros (packet.headerLength - 20) ++ segment)) := by
    simp only [header,List.append_assoc]
  rw [Checksum.computeChecksum,Checksum.computeChecksumUnfold_eq within (Nat.zero_le _) (by decide),whole,Nat.zero_add,
    if_pos (header_sum_lt headed (Data.zeros_length 2)),Option.map_some,Option.bind_some,place (Data.zeros 2),
    Data.replaceSubrange_middle _ _ packet.leading_length (by rw [Data.zeros_length]),place]

theorem buildPacket_eq {packet : IPPacket} (headed : packet.Headed) :
    packet.buildPacket = if packet.Fits then some packet.built else none := by
  by_cases short : packet.totalLength < 65536
  · have shorter : packet.protocolParser.bytesLength < 65536 := by
      rw [totalLength] at short
      omega
    rw [buildPacket_header headed short,computePseudoHeaderChecksum_eq]
    by_cases small : packet.pseudoSum < 2^32
    · rw [if_pos small,Option.bind_some,UDPProtocolParser.buildSegment_eq _ (header_length headed
        (Data.zeros_length 2)) small shorter]
      split
      next fits => rw [if_pos ⟨short,fits⟩,Option.bind_some,header_checksum headed,built,builtSegment]
      next overflows => rw [if_neg (fun fits => overflows fits.2),Option.bind_none]
    · rw [if_neg small,if_neg (fun fits => small (lt_of_le_of_lt (Nat.le_add_right _ _) fits.2)),Option.bind_none]
  · have long : Data.exactUInt16 (packet.headerLength + packet.protocolParser.bytesLength) = none := if_neg short
    rw [if_neg (fun fits => short fits.1),buildPacket]
    simp only [bind,long,Option.bind_none,Option.bind_fun_none]

/-- The pseudo header of the protocol, as it is not sent. -/
def pseudoHeader (packet : IPPacket) : Data :=
  packet.addresses ++ ([0,UInt8.ofNat packet.transportProtocol.rawValue] ++
    Data.network16 (UInt16.ofNat packet.protocolParser.bytesLength))

theorem byteSwapped_four {n : Nat} (short : n < 65536) :
    Data.byteSwapped 4 n = n % 256 * 16777216 + n / 256 * 65536 := by
  have third : n / 256 / 256 = 0 := by omega
  have second : n / 256 % 256 = n / 256 := by omega
  simp only [Data.byteSwapped,Data.memory,List.reverse_cons,List.reverse_nil,List.nil_append,List.cons_append,
    Data.load,UInt8.toNat_ofNat',third,second]
  omega

theorem wordSum_address (address : UInt32) : Checksum.wordSum (Data.memory 4 address.toNat) = addressSum address := by
  have small := address.toNat_lt
  simp only [Data.memory,Checksum.wordSum,addressSum,UInt8.toNat_ofNat']
  omega

theorem wordSum_pseudoHeader {packet : IPPacket} (short : packet.protocolParser.bytesLength < 65536) :
    Checksum.wordSum packet.pseudoHeader = addressSum packet.sourceAddress + addressSum packet.destinationAddress +
      packet.transportProtocol.rawValue * 256 +
        (packet.protocolParser.bytesLength % 256 * 256 + packet.protocolParser.bytesLength / 256) := by
  have four (n : Nat) : (Data.memory 4 n).length % 2 = 0 := by rw [Data.memory_length]
  have eight : packet.addresses.length % 2 = 0 := by
    rw [addresses,List.length_append,Data.memory_length,Data.memory_length]
  have transport : packet.transportProtocol.rawValue < 256 := by
    cases packet.transportProtocol <;> decide
  have kind : Checksum.wordSum [0,UInt8.ofNat packet.transportProtocol.rawValue] =
      packet.transportProtocol.rawValue * 256 := by
    rw [Checksum.wordSum,Checksum.wordSum,UInt8.toNat_ofNat',Nat.mod_eq_of_lt transport]
    simp only [UInt8.toNat_zero]
    omega
  rw [pseudoHeader,Checksum.wordSum_append eight,addresses,Checksum.wordSum_append (four _),wordSum_address,
    wordSum_address,Checksum.wordSum_append (by simp),kind,Data.network16,Checksum.wordSum_memory,
    Data.bigEndian_toNat,UInt16.toNat_ofNat',Nat.mod_eq_of_lt short]
  omega

/-- The sum is the one of the pseudo header but for whole carries: the length stands in it with its four
bytes swapped instead of two. -/
theorem pseudoSum_eq {packet : IPPacket} (short : packet.protocolParser.bytesLength < 65536) :
    packet.pseudoSum = Checksum.wordSum packet.pseudoHeader + 65535 *
      (packet.protocolParser.bytesLength % 256 * 256 + packet.protocolParser.bytesLength / 256) := by
  rw [pseudoSum,byteSwapped_four short,wordSum_pseudoHeader short]
  omega

theorem addressSum_le (address : UInt32) : addressSum address ≤ 131070 := by
  have small := address.toNat_lt
  rw [addressSum]
  omega

/-- A segment of less than 511 bytes cannot overflow the sum. -/
theorem fits_of_short {packet : IPPacket} (headed : packet.Headed)
    (short : packet.protocolParser.bytesLength < 511) : packet.Fits := by
  have most := headed.most
  have source := addressSum_le packet.sourceAddress
  have destination := addressSum_le packet.destinationAddress
  have bound := Checksum.wordSum_le (packet.protocolParser.segment (Data.zeros 2))
  have transport : packet.transportProtocol.rawValue ≤ 17 := by
    cases packet.transportProtocol <;> decide
  rw [UDPProtocolParser.segment_length _ (Data.zeros_length 2)] at bound
  refine ⟨?_,?_⟩
  · rw [totalLength]
    omega
  · rw [pseudoSum,byteSwapped_four (by omega)]
    omega

/-- A datagram from 10.0.0.1 to 198.18.0.1. -/
def datagram (payload : Data) : IPPacket := {
  sourceAddress := 16777226
  destinationAddress := 16782022
  protocolParser := {sourcePort := ⟨13568⟩,destinationPort := ⟨20480⟩,payload}}

example : ¬(datagram (List.replicate 759 255)).Fits := by decide +kernel

theorem validateChecksum_of_sum {data : Data} {start stop : Nat} (within : stop ≤ data.length) (ordered : start ≤ stop)
    (small : Checksum.wordSum ((data.take stop).drop start) < 2^32)
    (sum : OnesComplement.fold 65536 (Checksum.wordSum ((data.take stop).drop start)) = 65535) :
    Checksum.validateChecksum data start stop = some true := by
  rw [Checksum.validateChecksum,Checksum.computeChecksumUnfold_eq within ordered (by decide),Nat.zero_add,if_pos small,
    Option.map_some,decide_eq_true ((Checksum.toChecksum_eq_zero _).mpr sum)]

theorem built_length {packet : IPPacket} (headed : packet.Headed) : packet.built.length = packet.totalLength := by
  rw [built,List.length_append,header_length headed (Data.memory_length 2 _),builtSegment,
    UDPProtocolParser.segment_length _ (Data.memory_length 2 _),totalLength]

theorem header_valid {packet : IPPacket} (headed : packet.Headed) :
    Checksum.validateChecksum packet.built 0 packet.headerLength = some true := by
  have length := header_length headed (Data.memory_length 2
    (Checksum.toChecksum (Checksum.wordSum (packet.header (Data.zeros 2)))).toNat)
  have front : (packet.built.take packet.headerLength).drop 0 = packet.header (Data.memory 2
      (Checksum.toChecksum (Checksum.wordSum (packet.header (Data.zeros 2)))).toNat) := by
    rw [List.drop_zero,built]
    exact List.take_left' length
  refine validateChecksum_of_sum ?_ (Nat.zero_le _) ?_ ?_
  · rw [built_length headed,totalLength]
    omega
  · rw [front]
    exact header_sum_lt headed (Data.memory_length 2 _)
  · have sum := @Checksum.fold_checksum 0 packet.leading (by rw [leading_length])
      (packet.addresses ++ Data.zeros (packet.headerLength - 20))
    rw [Nat.zero_add,Nat.zero_add] at sum
    rw [front]
    exact sum

theorem pseudoHeader_length (packet : IPPacket) : packet.pseudoHeader.length = 12 := by
  simp only [pseudoHeader,addresses,Data.network16,List.length_append,Data.memory_length,List.length_cons,
    List.length_nil]

theorem segment_valid {packet : IPPacket} (short : packet.protocolParser.bytesLength < 65536) :
    Checksum.validateChecksum (packet.pseudoHeader ++ packet.builtSegment) 0
      (packet.pseudoHeader ++ packet.builtSegment).length = some true := by
  have length : (packet.pseudoHeader ++ packet.builtSegment).length = 12 + packet.protocolParser.bytesLength := by
    rw [List.length_append,pseudoHeader_length,builtSegment,
      UDPProtocolParser.segment_length _ (Data.memory_length 2 _)]
  have whole : ((packet.pseudoHeader ++ packet.builtSegment).take
      (packet.pseudoHeader ++ packet.builtSegment).length).drop 0 = packet.pseudoHeader ++ packet.builtSegment := by
    rw [List.take_length,List.drop_zero]
  have bound := Checksum.wordSum_le (packet.pseudoHeader ++ packet.builtSegment)
  rw [length] at bound
  refine validateChecksum_of_sum (le_refl _) (Nat.zero_le _) ?_ ?_
  · rw [whole]
    omega
  · have sum : OnesComplement.fold 65536 (packet.pseudoSum + Checksum.wordSum packet.builtSegment) = 65535 :=
      @Checksum.fold_checksum packet.pseudoSum packet.protocolParser.leading
        (by rw [UDPProtocolParser.leading_length]) packet.protocolParser.payload
    obtain ⟨-,multiple⟩ := (OnesComplement.fold_eq_last (by decide) _).mp sum
    have even : packet.pseudoHeader.length % 2 = 0 := by rw [pseudoHeader_length]
    have positive : 0 < Checksum.wordSum packet.pseudoHeader := by
      have headed : packet.protocolParser.bytesLength = packet.protocolParser.payload.length + 8 := rfl
      rw [wordSum_pseudoHeader short]
      omega
    rw [pseudoSum_eq short] at multiple
    rw [whole,Checksum.wordSum_append even]
    exact (OnesComplement.fold_eq_last (by decide) _).mpr ⟨by omega,by omega⟩

/-- The number that a read of the header gives. -/
def field (packetData : Data) (position size : Nat) : Nat := Data.load ((packetData.drop position).take size).reverse

theorem read_field {packetData : Data} {position size : Nat} (within : position + size ≤ packetData.length) :
    BinaryDataScanner.read ⟨packetData,false,position⟩ size =
      some (field packetData position size,⟨packetData,false,position + size⟩) := by
  have inside : ¬packetData.length < position + size := by omega
  rw [BinaryDataScanner.read,if_neg inside]
  rfl

theorem ok_bind {α β : Type} (value : α) (rest : α → Except Unparsed β) : (Except.ok value >>= rest) = rest value := rfl

/-- A packet with all of a header is read without a trap. -/
theorem init_eq {packetData : Data} (long : 20 ≤ packetData.length) (short : packetData.length < 65536) :
    init packetData = (do
      let version ← orNil (IPVersion.ofRawValue (field packetData 0 1 / 16))
      guardElse (field packetData 0 1 % 16 * 4 ≤ packetData.length)
      guardElse (packetData.length = field packetData 2 2)
      let transportProtocol ← orNil (TransportProtocol.ofRawValue (field packetData 9 1))
      guardElse (version = .iPv4)
      guardElse (transportProtocol = .udp)
      let protocolParser ← orNil (UDPProtocolParser.init packetData (field packetData 0 1 % 16 * 4))
      .ok {
        version
        headerLength := field packetData 0 1 % 16 * 4
        tos := UInt8.ofNat (field packetData 1 1)
        identification := UInt16.ofNat (field packetData 4 2)
        offset := UInt16.ofNat (field packetData 6 2)
        TTL := UInt8.ofNat (field packetData 8 1)
        sourceAddress := UInt32.ofNat (Data.byteSwapped 4 (field packetData 12 4))
        destinationAddress := UInt32.ofNat (Data.byteSwapped 4 (field packetData 16 4))
        transportProtocol
        protocolParser}) := by
  have known : orTrap (Data.exactUInt16 packetData.length) = .ok (UInt16.ofNat packetData.length) := by
    rw [Data.exactUInt16,if_pos short]
    rfl
  have count : (UInt16.ofNat packetData.length).toNat = packetData.length := by
    rw [UInt16.toNat_ofNat',Nat.mod_eq_of_lt short]
  have read (position size : Nat) (within : position + size ≤ 20) :
      orTrap (BinaryDataScanner.read ⟨packetData,false,position⟩ size) =
        .ok (field packetData position size,⟨packetData,false,position + size⟩) := by
    rw [read_field (by omega)]
    rfl
  rw [init]
  simp (disch := omega) only [read,known,ok_bind,count]

theorem field_skip {front rest : Data} {position size : Nat} (behind : front.length ≤ position) :
    field (front ++ rest) position size = field rest (position - front.length) size := by
  rw [field,List.drop_append,List.drop_eq_nil_of_le behind,List.nil_append,field]

theorem field_here {bytes back : Data} {position size : Nat} (start : position = 0) (filled : bytes.length = size) :
    field (bytes ++ back) position size = Data.load bytes.reverse := by
  rw [field,start,List.drop_zero,List.take_left' filled]

theorem load_network16 (value : UInt16) : Data.load (Data.network16 value).reverse = value.toNat := by
  have small := value.toNat_lt
  rw [Data.network16,Data.memory_bigEndian]
  simp only [List.reverse_cons,List.reverse_nil,List.nil_append,List.cons_append,Data.load,UInt8.toNat_ofNat']
  omega

theorem load_byte (byte : UInt8) : Data.load [byte].reverse = byte.toNat := by
  rw [List.reverse_singleton,Data.load,Data.load,Nat.mul_zero,Nat.add_zero]

/-- An address is read back: its bytes are swapped twice. -/
theorem load_address (address : UInt32) :
    UInt32.ofNat (Data.byteSwapped 4 (Data.load (Data.memory 4 address.toNat).reverse)) = address := by
  have back := Data.memory_load (Data.memory 4 address.toNat).reverse
  rw [List.length_reverse,Data.memory_length] at back
  rw [Data.byteSwapped,back,List.reverse_reverse,Data.load_memory]
  apply UInt32.toNat.inj
  rw [UInt32.toNat_ofNat']
  have small := address.toNat_lt
  omega

theorem init_segment (parser : UDPProtocolParser) {front : Data} {offset : Nat} (start : front.length = offset)
    {checksum : Data} (two : checksum.length = 2) :
    UDPProtocolParser.init (front ++ parser.segment checksum) offset = some parser := by
  subst start
  have port (port : Port) : Port.load port.bytes = port := by
    have small := port.inport.toNat_lt
    rw [Port.load,Port.bytes,Data.load_memory,Nat.mod_eq_of_lt (by omega),UInt16.ofNat_toNat]
  have long : ¬(front ++ parser.segment checksum).length < front.length + 8 := by
    rw [List.length_append,UDPProtocolParser.segment_length _ two,UDPProtocolParser.bytesLength]
    omega
  have parts : parser.segment checksum = parser.sourcePort.bytes ++ (parser.destinationPort.bytes ++
      (Data.network16 (UInt16.ofNat parser.bytesLength) ++ (checksum ++ parser.payload))) := by
    simp only [UDPProtocolParser.segment,UDPProtocolParser.leading,List.append_assoc]
  have source : (parser.segment checksum).take 2 = parser.sourcePort.bytes := by
    rw [parts]
    exact List.take_left' (Data.memory_length 2 _)
  have destination : ((parser.segment checksum).drop 2).take 2 = parser.destinationPort.bytes := by
    have skip (rest : Data) : (parser.sourcePort.bytes ++ rest).drop 2 = rest :=
      List.drop_left' (Data.memory_length 2 _)
    rw [parts,skip]
    exact List.take_left' (Data.memory_length 2 _)
  have payload : (parser.segment checksum).drop 8 = parser.payload := by
    have eight : (parser.leading ++ checksum).length = 8 := by
      rw [List.length_append,UDPProtocolParser.leading_length,two]
    rw [UDPProtocolParser.segment,← List.append_assoc]
    exact List.drop_left' eight
  rw [UDPProtocolParser.init,if_neg long]
  simp only [← List.drop_drop,List.drop_left,source,destination,payload,port]

/-- What is built is read back. -/
theorem init_built {packet : IPPacket} (headed : packet.Headed) (short : packet.totalLength < 65536)
    (fourth : packet.version = .iPv4) (datagram : packet.transportProtocol = .udp) :
    init packet.built = .ok packet := by
  have least := headed.least
  have most := headed.most
  have words := headed.words
  have length := built_length headed
  obtain ⟨checksum,two,split⟩ : ∃ checksum : Data, checksum.length = 2 ∧ packet.built =
      [UInt8.ofNat (packet.headerLength / 4 + packet.version.rawValue * 16)] ++ ([packet.tos] ++
        (Data.network16 (UInt16.ofNat packet.totalLength) ++ (Data.network16 packet.identification ++
          (Data.network16 packet.offset ++ ([packet.TTL] ++ ([UInt8.ofNat packet.transportProtocol.rawValue] ++
            (checksum ++ (Data.memory 4 packet.sourceAddress.toNat ++ (Data.memory 4 packet.destinationAddress.toNat ++
              (Data.zeros (packet.headerLength - 20) ++ packet.builtSegment)))))))))) := by
    refine ⟨_,Data.memory_length 2
      (Checksum.toChecksum (Checksum.wordSum (packet.header (Data.zeros 2)))).toNat,?_⟩
    simp only [built,header,leading,addresses,List.append_assoc]
  have sixteen (value : UInt16) : (Data.network16 value).length = 2 := Data.memory_length 2 _
  have first : field packet.built 0 1 = packet.headerLength / 4 + 64 := by
    rw [split,field_here rfl (by rfl),load_byte,UInt8.toNat_ofNat',fourth,IPVersion.rawValue]
    omega
  have fields : field packet.built 1 1 = packet.tos.toNat ∧ field packet.built 2 2 = packet.totalLength ∧
      field packet.built 4 2 = packet.identification.toNat ∧ field packet.built 6 2 = packet.offset.toNat ∧
      field packet.built 8 1 = packet.TTL.toNat ∧ field packet.built 9 1 = 17 ∧
      field packet.built 12 4 = Data.load (Data.memory 4 packet.sourceAddress.toNat).reverse ∧
      field packet.built 16 4 = Data.load (Data.memory 4 packet.destinationAddress.toNat).reverse := by
    rw [split]
    simp (disch := simp [sixteen,two,Data.memory_length]) only [field_skip,field_here,List.length_singleton,sixteen,two,
      Data.memory_length,load_network16,load_byte]
    refine ⟨trivial,?_,trivial,trivial,trivial,?_,trivial,trivial⟩
    · rw [UInt16.toNat_ofNat',Nat.mod_eq_of_lt short]
    · rw [datagram]
      rfl
  obtain ⟨served,total,identified,fragmented,living,transporting,sourced,addressed⟩ := fields
  have words : (packet.headerLength / 4 + 64) % 16 * 4 = packet.headerLength := by omega
  have fourth' : (packet.headerLength / 4 + 64) / 16 = 4 := by omega
  have parsed : UDPProtocolParser.init packet.built packet.headerLength = some packet.protocolParser :=
    init_segment _ (header_length headed (Data.memory_length 2 _)) (Data.memory_length 2 _)
  have inside : packet.headerLength ≤ packet.totalLength := Nat.le_add_right _ _
  rw [init_eq (by omega) (by omega),first,words,fourth',served,total,identified,fragmented,living,transporting,sourced,
    addressed,load_address,load_address,parsed,length]
  simp only [UInt8.ofNat_toNat,UInt16.ofNat_toNat,decide_eq_true inside]
  change (Except.ok {packet with version := .iPv4,transportProtocol := .udp} : Except Unparsed IPPacket) = .ok packet
  rw [← fourth,← datagram]

theorem init_of_buildPacket {packet : IPPacket} (headed : packet.Headed) (fourth : packet.version = .iPv4)
    (datagram : packet.transportProtocol = .udp) {packetData : Data} (builds : packet.buildPacket = some packetData) :
    init packetData = .ok packet := by
  rw [buildPacket_eq headed] at builds
  split at builds
  next fits =>
    cases builds
    exact init_built headed fits.1 fourth datagram
  next => cases builds

/-- A packet is built unless its length or its sum is too large. What is built has the length of the packet,
is valid by both of its checksums, and reads as the packet. -/
theorem init_buildPacket {packet : IPPacket} (headed : packet.Headed) (fourth : packet.version = .iPv4)
    (datagram : packet.transportProtocol = .udp) :
    (packet.buildPacket.isSome ↔ packet.Fits) ∧ ∀ packetData, packet.buildPacket = some packetData →
      packetData.length = packet.totalLength ∧
      Checksum.validateChecksum packetData 0 packet.headerLength = some true ∧
      Checksum.validateChecksum (packet.pseudoHeader ++ packetData.drop packet.headerLength) 0
        (packet.pseudoHeader ++ packetData.drop packet.headerLength).length = some true ∧
      init packetData = .ok packet := by
  rw [buildPacket_eq headed]
  by_cases fits : packet.Fits
  · have inside : packet.protocolParser.bytesLength ≤ packet.totalLength := Nat.le_add_left _ _
    have segment : packet.built.drop packet.headerLength = packet.builtSegment :=
      List.drop_left' (header_length headed (Data.memory_length 2 _))
    rw [if_pos fits]
    refine ⟨⟨fun _ => fits,fun _ => rfl⟩,?_⟩
    rintro packetData ⟨⟩
    rw [segment]
    exact ⟨built_length headed,header_valid headed,segment_valid (lt_of_le_of_lt inside fits.1),
      init_built headed fits.1 fourth datagram⟩
  · rw [if_neg fits]
    refine ⟨⟨fun built => by simp at built,fun held => absurd held fits⟩,?_⟩
    rintro packetData ⟨⟩

theorem init_buildPacket_datagram :
    ∃ packetData, (datagram [1,2,3]).buildPacket = some packetData ∧ packetData.length = 31 ∧
      init packetData = .ok (datagram [1,2,3]) := by
  have fits : (datagram [1,2,3]).Fits := fits_of_short (headed_of_default rfl) (by decide)
  obtain ⟨builds,sound⟩ := @init_buildPacket (datagram [1,2,3]) (headed_of_default rfl) rfl rfl
  obtain ⟨packetData,built⟩ := Option.isSome_iff_exists.mp (builds.mpr fits)
  obtain ⟨length,-,-,read⟩ := sound packetData built
  exact ⟨packetData,built,length,read⟩

theorem bind_ok {α β : Type} {first : Except Unparsed α} {rest : α → Except Unparsed β} {result : β}
    (whole : (first >>= rest) = .ok result) : ∃ value, first = .ok value ∧ rest value = .ok result := by
  cases first with
  | error reason => cases whole
  | ok value => exact ⟨value,rfl,whole⟩

theorem guardElse_ok {condition : Bool} {result : Unit} (passed : guardElse condition = .ok result) :
    condition = true := by
  cases condition with
  | false => cases passed
  | true => rfl

theorem orNil_ok {α : Type} {value : Option α} {result : α} (present : orNil value = .ok result) :
    value = some result := by
  cases value with
  | none => cases present
  | some value =>
    cases present
    rfl

theorem bind_untrapped {α β : Type} {first : Except Unparsed α} {rest : α → Except Unparsed β}
    (safe : first ≠ .error .traps) (safe' : ∀ value, rest value ≠ .error .traps) :
    (first >>= rest) ≠ .error .traps := by
  cases first with
  | error reason =>
    intro trapped
    cases trapped
    exact safe rfl
  | ok value => exact safe' value

theorem guardElse_untrapped (condition : Bool) : guardElse condition ≠ .error .traps := by
  cases condition with
  | false => exact fun trapped => nomatch trapped
  | true => exact fun trapped => nomatch trapped

theorem orNil_untrapped {α : Type} (value : Option α) : orNil value ≠ .error .traps := by
  cases value with
  | none => exact fun trapped => nomatch trapped
  | some value => exact fun trapped => nomatch trapped

theorem init_untrapped {packetData : Data} (long : 20 ≤ packetData.length) (short : packetData.length < 65536) :
    init packetData ≠ .error .traps := by
  rw [init_eq long short]
  refine bind_untrapped (orNil_untrapped _) (fun version => ?_)
  refine bind_untrapped (guardElse_untrapped _) (fun _ => ?_)
  refine bind_untrapped (guardElse_untrapped _) (fun _ => ?_)
  refine bind_untrapped (orNil_untrapped _) (fun transportProtocol => ?_)
  refine bind_untrapped (guardElse_untrapped _) (fun _ => ?_)
  refine bind_untrapped (guardElse_untrapped _) (fun _ => ?_)
  exact bind_untrapped (orNil_untrapped _) (fun protocolParser trapped => nomatch trapped)

/-- What the parser promises of a packet that it returns. -/
structure Accepted (packetData : Data) (packet : IPPacket) : Prop where
  version : packet.version = .iPv4
  transportProtocol : packet.transportProtocol = .udp
  headerLength : packet.headerLength = field packetData 0 1 % 16 * 4
  totalLength : packet.totalLength = packetData.length
  payload : packet.protocolParser.payload = packetData.drop (packet.headerLength + 8)

theorem init_accepted {packetData : Data} (long : 20 ≤ packetData.length) (short : packetData.length < 65536)
    {packet : IPPacket} (accepted : init packetData = .ok packet) : Accepted packetData packet := by
  rw [init_eq long short] at accepted
  obtain ⟨version,-,accepted⟩ := bind_ok accepted
  obtain ⟨-,-,accepted⟩ := bind_ok accepted
  obtain ⟨-,-,accepted⟩ := bind_ok accepted
  obtain ⟨transportProtocol,-,accepted⟩ := bind_ok accepted
  obtain ⟨_,fourth,accepted⟩ := bind_ok accepted
  obtain ⟨_,datagram,accepted⟩ := bind_ok accepted
  obtain ⟨protocolParser,parsed,accepted⟩ := bind_ok accepted
  have parsed := orNil_ok parsed
  rw [UDPProtocolParser.init] at parsed
  split at parsed
  next shorter => cases parsed
  next longer =>
    cases parsed
    cases accepted
    refine ⟨of_decide_eq_true (guardElse_ok fourth),of_decide_eq_true (guardElse_ok datagram),rfl,?_,rfl⟩
    simp only [totalLength,UDPProtocolParser.bytesLength,List.length_drop]
    omega

/-- The parser never traps on a packet with a whole header, and a packet that it accepts, with a header that is
not too short, is built again into one of the same length that reads the same, as long as the sum fits. -/
theorem buildPacket_init {packetData : Data} (long : 20 ≤ packetData.length) (short : packetData.length < 65536) :
    init packetData ≠ .error .traps ∧ ∀ packet, init packetData = .ok packet → Accepted packetData packet ∧
      (20 ≤ packet.headerLength → packet.Fits →
        ∃ rebuilt, packet.buildPacket = some rebuilt ∧ rebuilt.length = packetData.length ∧
          init rebuilt = .ok packet) := by
  refine ⟨init_untrapped long short,?_⟩
  intro packet parsed
  have accepted := init_accepted long short parsed
  refine ⟨accepted,?_⟩
  intro least fits
  have length := accepted.headerLength
  have headed : packet.Headed := ⟨least,by omega,by omega⟩
  refine ⟨packet.built,?_,?_,?_⟩
  · rw [buildPacket_eq headed,if_pos fits]
  · rw [built_length headed,accepted.totalLength]
  · exact init_built headed fits.1 accepted.version accepted.transportProtocol

/-- A packet of 31 bytes as it comes from the system, with a service field and no checksums. -/
def incoming : Data :=
  [69,16,0,31,0,7,64,0,60,17,0,0,10,0,0,1,198,18,0,1,200,0,0,53,0,11,0,0,1,2,3]

theorem buildPacket_init_incoming : ∃ packet rebuilt, init incoming = .ok packet ∧
    packet.buildPacket = some rebuilt ∧ rebuilt.length = 31 ∧ init rebuilt = .ok packet := by
  have sound := (@buildPacket_init incoming (by decide) (by decide)).2
  obtain ⟨packet,parsed⟩ : ∃ packet, init incoming = .ok packet := ⟨_,rfl⟩
  have again := (sound packet parsed).2
  cases parsed
  obtain ⟨rebuilt,built,length,read⟩ := again (by decide) (fits_of_short ⟨by decide,by decide,by decide⟩ (by decide))
  exact ⟨_,rebuilt,rfl,built,length,read⟩

end IPPacket
end TenonVpn
