import TenonVpn.PrivateKey
import TenonVpn.RelayFrame
import TenonVpn.StreamCipher

/-! `CryptoStreamProcessor`: the relay header in front of the first encrypted bytes, and
the received bytes, of which a few are control codes. The cipher and the state that
`getCrypto` makes from an IV are parameters. -/
namespace TenonVpn

inductive CryptoAlgorithm
  | aes128CFB
  | aes192CFB
  | aes256CFB
  | chacha20
  | salsa20
  | rc4md5
deriving DecidableEq

namespace CryptoAlgorithm

def ivLength : CryptoAlgorithm → Nat
  | aes128CFB | aes192CFB | aes256CFB | rc4md5 => 16
  | chacha20 | salsa20 => 8

theorem ivLength_pos (algorithm : CryptoAlgorithm) : 0 < algorithm.ivLength := by
  cases algorithm <;> decide

end CryptoAlgorithm

inductive CryptoOperation
  | encrypt
  | decrypt

structure Buffer where
  buffer : Data
  offset : Nat

namespace Buffer

def append (buffer : Buffer) (data : Data) : Buffer := {buffer with buffer := buffer.buffer ++ data}

def get (buffer : Buffer) (length : Nat) : Option (Data × Buffer) :=
  if buffer.offset + length ≤ buffer.buffer.length then
    some ((buffer.buffer.drop buffer.offset).take length,{buffer with offset := buffer.offset + length})
  else none

def getAll (buffer : Buffer) : Option (Data × Buffer) := buffer.get (buffer.buffer.length - buffer.offset)

def release (buffer : Buffer) : Buffer := {buffer with buffer := []}

theorem get_short {buffer : Buffer} {length : Nat} (short : buffer.buffer.length < buffer.offset + length) :
    buffer.get length = none := by
  rw [get,if_neg (by omega)]

theorem get_start {data : Data} {length : Nat} (enough : length ≤ data.length) :
    (Buffer.mk data 0).get length = some (data.take length,⟨data,length⟩) := by
  rw [get,if_pos (by simpa using enough)]
  simp

theorem getAll_rest {data : Data} {offset : Nat} (within : offset ≤ data.length) :
    (Buffer.mk data offset).getAll = some (data.drop offset,⟨data,data.length⟩) := by
  have stop : offset + (data.length - offset) = data.length := by omega
  have whole : (data.drop offset).take (data.length - offset) = data.drop offset :=
    List.take_of_length_le (by simp)
  simp [getAll,get,stop,whole]

end Buffer

structure CryptoStreamProcessor (σ : Type) where
  algorithm : CryptoAlgorithm
  localPublicKey : Text
  method : Text
  chooseVpnNodeIntIp : UInt32
  chooseVpnNodePort : UInt16
  useSmartRoute : Bool
  readIV : Option Data
  sendKey : Bool
  buffer : Buffer
  writeIV : Data
  encryptor : Option σ
  decryptor : Option σ

/-- What the processor does with received bytes: plain bytes for the next layer, or the
status that it stores before `_exit`. -/
inductive Received
  | plaintext (data : Data)
  | vpnsvrStatus (code : Data)
deriving DecidableEq

def Received.data : Received → Data
  | plaintext data => data
  | vpnsvrStatus _ => []

namespace CryptoStreamProcessor
variable {σ : Type}

/-- `Factory.build`, where a missing or unreadable field traps. -/
def build (algorithm : CryptoAlgorithm) (writeIV : Data) (inPubkey inMethod : Text) :
    Option (CryptoStreamProcessor σ) := do
  let array := Text.components ',' inMethod
  let method ← array[0]?
  let vpnIp ← Text.uint32 (← array[1]?)
  let vpnPort ← Text.uint16 (← array[2]?)
  let smartRoute ← Text.bool (← array[3]?)
  some {
    algorithm
    localPublicKey := inPubkey
    method
    chooseVpnNodeIntIp := UInt32.ofNat vpnIp
    chooseVpnNodePort := UInt16.ofNat vpnPort
    useSmartRoute := smartRoute
    readIV := none
    sendKey := false
    buffer := ⟨[],0⟩
    writeIV
    encryptor := none
    decryptor := none}

theorem build_some {algorithm : CryptoAlgorithm} {writeIV : Data} {inPubkey inMethod : Text}
    {processor : CryptoStreamProcessor σ} (parsed : build algorithm writeIV inPubkey inMethod = some processor) :
    processor.sendKey = false ∧ processor.encryptor = none ∧ processor.writeIV = writeIV ∧
      processor.localPublicKey = inPubkey := by
  simp only [build,Option.bind_eq_bind,Option.bind_eq_some_iff,Option.some.injEq] at parsed
  obtain ⟨_,_,_,_,_,_,_,_,_,_,_,_,_,_,rfl⟩ := parsed
  exact ⟨rfl,rfl,rfl,rfl⟩

def exRouteIp (group : UserDefaults) : UInt32 :=
  UInt32.ofNat ((Text.uint32 ((group.string "ex_route_ip_int".toList).getD "0".toList)).getD 0)

def exRoutePort (group : UserDefaults) : UInt16 :=
  UInt16.ofNat ((Text.uint16 ((group.string "ex_route_port_int".toList).getD "0".toList)).getD 0)

def relayMethod : Data := Data.utf8 "ios".toList

def writeHop (response : Data) (start : Nat) (hop : Hop) : Option Data := do
  let addressed ← Data.replaceSubrange response start (start + 4) (Data.memory 4 hop.ip.toNat)
  Data.replaceSubrange addressed (start + 4) (start + 6) (Data.memory 2 (Data.bigEndian hop.port).toNat)

variable (group : UserDefaults) (processor : CryptoStreamProcessor σ)

def exHop : Hop := ⟨exRouteIp group,exRoutePort group⟩

def vpnHop : Hop := ⟨processor.chooseVpnNodeIntIp,processor.chooseVpnNodePort⟩

def writeHops (response : Data) : Option Data :=
  if processor.useSmartRoute then
    if 0 < exRouteIp group then do
      let routed ← writeHop response 0 (exHop group)
      writeHop routed 6 processor.vpnHop
    else writeHop response 0 processor.vpnHop
  else some response

def startPos : Nat :=
  (if processor.useSmartRoute then 6 else 0) + if 0 < exRouteIp group then 6 else 0

def relayData (data : Data) : Option Data := do
  let start := startPos group processor
  let publicLen := 66
  let length := start + publicLen + 1 + relayMethod.length + data.length
  let routed ← writeHops group processor (Data.zeros length)
  let keyed ← Data.replaceSubrange routed start (start + publicLen) (Data.utf8 processor.localPublicKey)
  let counted ← Data.setByte keyed (start + publicLen) (UInt8.ofNat relayMethod.length)
  let tagged ← Data.replaceSubrange counted (start + publicLen + 1) (start + publicLen + 1 + relayMethod.length)
    relayMethod
  Data.replaceSubrange tagged (start + publicLen + 1 + relayMethod.length) length data

def hopsWritten : List Hop :=
  if processor.useSmartRoute then
    if 0 < exRouteIp group then [exHop group,processor.vpnHop] else [processor.vpnHop]
  else []

def lead : Data :=
  if processor.useSmartRoute then (hopsWritten group processor).flatMap Hop.bytes
  else Data.zeros (startPos group processor)

variable {group processor}

theorem writeHop_eq {front : Data} {start rest : Nat} (hop : Hop) (first : front.length = start) :
    writeHop (front ++ Data.zeros (6 + rest)) start hop = some (front ++ hop.bytes ++ Data.zeros rest) := by
  have address : Data.replaceSubrange (front ++ Data.zeros (4 + (2 + rest))) start (start + 4)
      (Data.memory 4 hop.ip.toNat) = some (front ++ Data.memory 4 hop.ip.toNat ++ Data.zeros (2 + rest)) :=
    Data.replaceSubrange_zeros _ first rfl
  have port : Data.replaceSubrange (front ++ Data.memory 4 hop.ip.toNat ++ Data.zeros (2 + rest)) (start + 4)
      (start + 6) (Data.memory 2 (Data.bigEndian hop.port).toNat) =
        some (front ++ hop.bytes ++ Data.zeros rest) := by
    rw [Data.replaceSubrange_zeros _ (by rw [List.length_append,first,Data.memory_length]) rfl,Hop.bytes,
      List.append_assoc front]
  have room : 6 + rest = 4 + (2 + rest) := by omega
  rw [writeHop,room,address]
  exact port

theorem writeHops_eq (rest : Nat) : writeHops group processor (Data.zeros (startPos group processor + rest)) =
    some (lead group processor ++ Data.zeros rest) := by
  by_cases smart : processor.useSmartRoute = true
  · by_cases extra : 0 < exRouteIp group
    · have first : writeHop (Data.zeros (12 + rest)) 0 (exHop group) =
          some ((exHop group).bytes ++ Data.zeros (6 + rest)) := by
        have room : 12 + rest = 6 + (6 + rest) := by omega
        rw [room]
        exact @writeHop_eq [] _ _ _ rfl
      have second : writeHop ((exHop group).bytes ++ Data.zeros (6 + rest)) 6 processor.vpnHop =
          some ((exHop group).bytes ++ processor.vpnHop.bytes ++ Data.zeros rest) :=
        writeHop_eq _ (exHop group).bytes_length
      simp [writeHops,lead,hopsWritten,startPos,smart,extra,first,second]
    · have only : writeHop (Data.zeros (6 + rest)) 0 processor.vpnHop =
          some (processor.vpnHop.bytes ++ Data.zeros rest) := @writeHop_eq [] _ _ _ rfl
      simp [writeHops,lead,hopsWritten,startPos,smart,extra,only]
  · simp [writeHops,lead,smart,Data.zeros_add]

theorem lead_length : (lead group processor).length = startPos group processor := by
  unfold lead hopsWritten startPos
  split
  · split <;> simp [Hop.bytes_length]
  · exact Data.zeros_length _

theorem relayData_eq (keyed : (Data.utf8 processor.localPublicKey).length = 66) (data : Data) :
    relayData group processor data = some (lead group processor ++ (Data.utf8 processor.localPublicKey ++
      (RelayFrame.tag ++ data))) := by
  obtain ⟨start,started⟩ : ∃ start, startPos group processor = start := ⟨_,rfl⟩
  have first : (lead group processor).length = start := lead_length.trans started
  have hops : writeHops group processor (Data.zeros (start + (66 + (1 + (3 + data.length))))) =
      some (lead group processor ++ Data.zeros (66 + (1 + (3 + data.length)))) := started ▸ writeHops_eq _
  have named : relayMethod.length = 3 := rfl
  obtain ⟨front,fronted⟩ : ∃ front, lead group processor ++ Data.utf8 processor.localPublicKey = front := ⟨_,rfl⟩
  have second : front.length = start + 66 := by rw [← fronted,List.length_append,first,keyed]
  have key : Data.replaceSubrange (lead group processor ++ Data.zeros (66 + (1 + (3 + data.length)))) start
      (start + 66) (Data.utf8 processor.localPublicKey) = some (front ++ Data.zeros (1 + (3 + data.length))) := by
    rw [Data.replaceSubrange_zeros _ first rfl,fronted]
  have count : Data.setByte (front ++ Data.zeros (1 + (3 + data.length))) (start + 66) (UInt8.ofNat 3) =
      some (front ++ [3] ++ Data.zeros (3 + data.length)) := Data.setByte_zeros _ second
  have name : Data.replaceSubrange (front ++ [3] ++ Data.zeros (3 + data.length)) (start + 66 + 1)
      (start + 66 + 1 + 3) relayMethod = some (front ++ [3] ++ relayMethod ++ Data.zeros data.length) :=
    Data.replaceSubrange_zeros _ (by rw [List.length_append,second]; rfl) rfl
  have last : Data.replaceSubrange (front ++ [3] ++ relayMethod ++ Data.zeros data.length)
      (start + 66 + 1 + 3) (start + 66 + 1 + 3 + data.length) data =
        some (front ++ [3] ++ relayMethod ++ data ++ Data.zeros 0) :=
    @Data.replaceSubrange_zeros _ _ _ _ data.length 0 (by rw [List.length_append,List.length_append,second]; rfl) rfl
  have whole : front ++ [3] ++ relayMethod ++ data ++ Data.zeros 0 =
      lead group processor ++ (Data.utf8 processor.localPublicKey ++ (RelayFrame.tag ++ data)) := by
    have tag : RelayFrame.tag = [3] ++ relayMethod := rfl
    rw [← List.append_assoc (lead group processor),fronted,tag]
    simp only [List.append_assoc,Data.zeros,List.replicate_zero,List.append_nil]
  have length : start + 66 + 1 + 3 + data.length = start + (66 + (1 + (3 + data.length))) := by omega
  rw [length] at last
  simp only [relayData,started,named,length,hops,Option.bind_eq_bind,Option.bind_some,key,count,name,last,whole]

def vpnHopStart (group : UserDefaults) : Nat := if 0 < exRouteIp group then 6 else 0

theorem relayData_vpnHop (group : UserDefaults) (smart : processor.useSmartRoute = true)
    (keyed : (Data.utf8 processor.localPublicKey).length = 66) (data : Data) :
    ∃ header, relayData group processor data = some header ∧
      (header.drop (vpnHopStart group)).take 6 = processor.vpnHop.bytes := by
  refine ⟨_,relayData_eq keyed data,?_⟩
  by_cases extra : 0 < exRouteIp group
  · have front : lead group processor = (exHop group).bytes ++ processor.vpnHop.bytes := by
      simp [lead,hopsWritten,smart,extra]
    rw [vpnHopStart,if_pos extra,front,List.append_assoc,List.drop_left' (exHop group).bytes_length,
      List.take_left' processor.vpnHop.bytes_length]
  · have front : lead group processor = processor.vpnHop.bytes := by simp [lead,hopsWritten,smart,extra]
    rw [vpnHopStart,if_neg extra,front,List.drop_zero,List.take_left' processor.vpnHop.bytes_length]

/-- The header is the hops written, the key, the tag and the data with nothing in between,
and a reader that knows the number of hops recovers them. -/
def Framed (group : UserDefaults) (processor : CryptoStreamProcessor σ) (data : Data) : Prop :=
  ∃ frame : RelayFrame, frame.hops = hopsWritten group processor ∧
    frame.publicKey = Data.utf8 processor.localPublicKey ∧ frame.payload = data ∧
    relayData group processor data = some frame.encode ∧
    RelayFrame.decode (hopsWritten group processor).length frame.encode = some frame

def Covered (group : UserDefaults) (processor : CryptoStreamProcessor σ) : Prop :=
  processor.useSmartRoute = true ∨ exRouteIp group = 0

theorem lead_covered (covered : Covered group processor) :
    lead group processor = (hopsWritten group processor).flatMap Hop.bytes := by
  unfold lead
  split
  · rfl
  · next plain =>
    rcases covered with smart | absent
    · exact absurd smart plain
    · simp [hopsWritten,startPos,plain,absent,Data.zeros]

theorem startPos_uncovered (uncovered : ¬Covered group processor) : startPos group processor = 6 := by
  obtain ⟨plain,extra⟩ := not_or.mp uncovered
  have above : 0 < exRouteIp group := UInt32.pos_iff_ne_zero.mpr extra
  simp [startPos,plain,above]

/-- Without smart route a stored ex-route still moves the public key by six bytes. -/
theorem relayData_framed_iff (keyed : (Data.utf8 processor.localPublicKey).length = 66) (data : Data) :
    Framed group processor data ↔ Covered group processor := by
  constructor
  · rintro ⟨frame,hops,publicKey,payload,written,-⟩
    by_contra uncovered
    have none' : hopsWritten group processor = [] := by
      have plain := (not_or.mp uncovered).1
      simp [hopsWritten,plain]
    have same : lead group processor ++ (Data.utf8 processor.localPublicKey ++ (RelayFrame.tag ++ data)) =
        Data.utf8 processor.localPublicKey ++ (RelayFrame.tag ++ data) := by
      have encoded := Option.some.inj ((relayData_eq keyed data).symm.trans written)
      simpa [RelayFrame.encode,hops,none',publicKey,payload] using encoded
    have lengths := congrArg List.length same
    rw [List.length_append,lead_length,startPos_uncovered uncovered] at lengths
    omega
  · intro covered
    let frame : RelayFrame := ⟨hopsWritten group processor,Data.utf8 processor.localPublicKey,keyed,data⟩
    refine ⟨frame,rfl,rfl,rfl,?_,RelayFrame.decode_encode frame⟩
    rw [relayData_eq keyed data,lead_covered covered]
    simp only [frame,RelayFrame.encode,List.append_assoc]

def built (useSmartRoute : Bool) : CryptoStreamProcessor σ where
  algorithm := .aes128CFB
  localPublicKey := List.replicate 66 '0'
  method := "aes-128-cfb".toList
  chooseVpnNodeIntIp := 16777343
  chooseVpnNodePort := 443
  useSmartRoute
  readIV := none
  sendKey := false
  buffer := ⟨[],0⟩
  writeIV := List.replicate 16 7
  encryptor := none
  decryptor := none

def exRouted : UserDefaults := UserDefaults.empty.set (.string "16777343".toList) "ex_route_ip_int".toList

theorem relayData_framed_smart : Framed exRouted (@built UInt8 true) [1,2,3] ↔ Covered exRouted (@built UInt8 true) :=
  relayData_framed_iff (by decide) _

theorem relayData_not_framed :
    build .aes128CFB (List.replicate 16 7) (List.replicate 66 '0') "aes-128-cfb,16777343,443,false".toList =
      some (@built UInt8 false) ∧ ¬Framed exRouted (@built UInt8 false) [] := by
  refine ⟨rfl,?_⟩
  rintro ⟨frame,hops,publicKey,payload,written,-⟩
  have size : (relayData exRouted (@built UInt8 false) []).map List.length = some 76 := by decide +kernel
  have none' : hopsWritten exRouted (@built UInt8 false) = [] := rfl
  rw [written,RelayFrame.encode,hops,none',publicKey,payload] at size
  exact absurd size (by decide +kernel)

end CryptoStreamProcessor
end TenonVpn
