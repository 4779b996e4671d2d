import TenonVpn.CryptoStreamProcessor

/-! The uplink of `ShadowsocksAdapter`: a write passes the stream obfuscater, which puts
the request in front of the first one, and the crypto stream processor, which puts the
relay header and the IV in front of what it encrypts first. -/
namespace TenonVpn

def uint8 (n : Nat) : Option UInt8 := if n < 2^8 then some (UInt8.ofNat n) else none

/-- `UInt16(_:)` of an `Int`, which traps outside of the range. -/
def uint16 (n : Int) : Option UInt16 := if 0 ≤ n ∧ n < 2^16 then some (UInt16.ofNat n.toNat) else none

structure OriginStreamObfuscater where
  host : Text
  port : Int
  requestSend : Bool

structure ShadowsocksAdapter (σ : Type) where
  streamObfuscator : OriginStreamObfuscater
  cryptor : CryptoStreamProcessor σ

namespace OriginStreamObfuscater

def requestData (obfuscater : OriginStreamObfuscater) (data : Data) : Option Data := do
  let host := Data.utf8 obfuscater.host
  let length := 1 + 1 + host.length + 2 + data.length
  let kind ← Data.setByte (Data.zeros length) 0 3
  let counted ← Data.setByte kind 1 (← uint8 host.length)
  let named ← Data.replaceSubrange counted 2 (2 + host.length) host
  let beport := Data.bigEndian (← uint16 obfuscater.port)
  let addressed ← Data.replaceSubrange named (2 + host.length) (4 + host.length) (Data.memory 2 beport.toNat)
  Data.replaceSubrange addressed (4 + host.length) length data

def output (obfuscater : OriginStreamObfuscater) (data : Data) : Option (Data × OriginStreamObfuscater) :=
  if obfuscater.requestSend then some (data,obfuscater)
  else (requestData obfuscater data).map (·,{obfuscater with requestSend := true})

/-- The address of the request: its kind, the host with its length, and the port in big-endian order. -/
def request (obfuscater : OriginStreamObfuscater) : Data :=
  3 :: UInt8.ofNat (Data.utf8 obfuscater.host).length :: Data.utf8 obfuscater.host ++
    [UInt8.ofNat (obfuscater.port.toNat / 256),UInt8.ofNat obfuscater.port.toNat]

structure Addressable (obfuscater : OriginStreamObfuscater) : Prop where
  host : (Data.utf8 obfuscater.host).length ≤ 255
  nonneg : 0 ≤ obfuscater.port
  port : obfuscater.port ≤ 65535

theorem requestData_eq {obfuscater : OriginStreamObfuscater} (addressable : Addressable obfuscater) (data : Data) :
    requestData obfuscater data = some (request obfuscater ++ data) := by
  obtain ⟨short,nonneg,wide⟩ := addressable
  obtain ⟨host,encoded⟩ : ∃ host, Data.utf8 obfuscater.host = host := ⟨_,rfl⟩
  obtain ⟨port,number⟩ : ∃ port : Nat, obfuscater.port = port := ⟨obfuscater.port.toNat,by omega⟩
  have counts : uint8 host.length = some (UInt8.ofNat host.length) := by
    rw [uint8,if_pos (by rw [encoded] at short; omega)]
  have fits : uint16 port = some (UInt16.ofNat port) := by
    rw [uint16,if_pos (by omega),Int.toNat_natCast]
  obtain ⟨ending,ended⟩ : ∃ ending : Data, [UInt8.ofNat (port / 256),UInt8.ofNat port] = ending := ⟨_,rfl⟩
  have bytes : Data.memory 2 (Data.bigEndian (UInt16.ofNat port)).toNat = ending := by
    have small : port < UInt16.size := Nat.lt_of_le_of_lt (by omega : port ≤ 65535) (by decide)
    rw [Data.memory_bigEndian,UInt16.toNat_ofNat_of_lt' small,ended]
  obtain ⟨front,fronted⟩ : ∃ front : Data, [3,UInt8.ofNat host.length] = front := ⟨_,rfl⟩
  have first : front.length = 2 := by rw [← fronted]; rfl
  have two : ending.length = 2 := by rw [← ended]; rfl
  have kind : Data.setByte (Data.zeros (1 + (1 + (host.length + (2 + data.length))))) 0 3 =
      some ([3] ++ Data.zeros (1 + (host.length + (2 + data.length)))) := @Data.setByte_zeros [] _ _ _ rfl
  have count : Data.setByte ([3] ++ Data.zeros (1 + (host.length + (2 + data.length)))) 1
      (UInt8.ofNat host.length) = some (front ++ Data.zeros (host.length + (2 + data.length))) := by
    rw [← fronted]
    exact @Data.setByte_zeros [3] _ _ _ rfl
  have name : Data.replaceSubrange (front ++ Data.zeros (host.length + (2 + data.length))) 2
      (2 + host.length) host = some (front ++ host ++ Data.zeros (2 + data.length)) :=
    Data.replaceSubrange_zeros _ first rfl
  have address : Data.replaceSubrange (front ++ host ++ Data.zeros (2 + data.length)) (2 + host.length)
      (4 + host.length) ending = some (front ++ host ++ ending ++ Data.zeros data.length) :=
    Data.replaceSubrange_zeros _ (by rw [List.length_append,first]) (by omega)
  have last : Data.replaceSubrange (front ++ host ++ ending ++ Data.zeros data.length) (4 + host.length)
      (1 + 1 + host.length + 2 + data.length) data =
        some (front ++ host ++ ending ++ data ++ Data.zeros 0) :=
    @Data.replaceSubrange_zeros _ _ _ _ data.length 0
      (by rw [List.length_append,List.length_append,first,two]; omega) (by omega)
  have whole : request obfuscater ++ data = front ++ host ++ ending ++ data ++ Data.zeros 0 := by
    rw [← fronted,← ended,request,encoded,number,Int.toNat_natCast,Data.zeros,List.replicate_zero,List.append_nil]
    rfl
  have length : 1 + 1 + host.length + 2 + data.length = 1 + (1 + (host.length + (2 + data.length))) := by omega
  rw [length] at last
  simp only [requestData,encoded,number,length,kind,counts,fits,count,name,address,bytes,
    last,whole,Option.bind_eq_bind,Option.bind_some]

end OriginStreamObfuscater

namespace CryptoStreamProcessor
variable {σ : Type} (cipher : StreamCipher σ UInt8) (getCrypto : CryptoOperation → Data → σ)

def encrypt (processor : CryptoStreamProcessor σ) (data : Data) : Data × CryptoStreamProcessor σ :=
  let encryptor := processor.encryptor.getD (getCrypto .encrypt processor.writeIV)
  ((cipher.update encryptor data).1,{processor with encryptor := some (cipher.update encryptor data).2})

def output (group : UserDefaults) (processor : CryptoStreamProcessor σ) (data : Data) :
    Option (Data × CryptoStreamProcessor σ) :=
  let (encrypted,encrypting) := encrypt cipher getCrypto processor data
  if encrypting.sendKey then some (encrypted,encrypting)
  else
    let sending := {encrypting with sendKey := true}
    (relayData group sending (sending.writeIV ++ encrypted)).map (·,sending)

theorem output_first (group : UserDefaults) {processor : CryptoStreamProcessor σ} (unsent : processor.sendKey = false)
    (unused : processor.encryptor = none) (keyed : (Data.utf8 processor.localPublicKey).length = 66) (data : Data) :
    ∃ header next, relayData group processor [] = some header ∧
      output cipher getCrypto group processor data = some
        (header ++ processor.writeIV ++ (cipher.update (getCrypto .encrypt processor.writeIV) data).1,next) ∧
      next.sendKey = true ∧ next.encryptor = some (cipher.update (getCrypto .encrypt processor.writeIV) data).2 := by
  let sending := {processor with
    sendKey := true
    encryptor := some (cipher.update (getCrypto .encrypt processor.writeIV) data).2}
  have keyed' : (Data.utf8 sending.localPublicKey).length = 66 := keyed
  refine ⟨_,sending,relayData_eq keyed [],?_,rfl,rfl⟩
  simp only [output,encrypt,unused,Option.getD_none,unsent,Bool.false_eq_true,if_false]
  rw [relayData_eq keyed',Option.map_some]
  simp only [List.append_assoc,List.append_nil]
  rfl

theorem output_later (group : UserDefaults) {processor : CryptoStreamProcessor σ} (sent : processor.sendKey = true)
    {encryptor : σ} (used : processor.encryptor = some encryptor) (data : Data) :
    ∃ next, output cipher getCrypto group processor data = some ((cipher.update encryptor data).1,next) ∧
      next.sendKey = true ∧ next.encryptor = some (cipher.update encryptor data).2 := by
  refine ⟨{processor with encryptor := some (cipher.update encryptor data).2},?_,sent,rfl⟩
  simp [output,encrypt,used,sent]

end CryptoStreamProcessor

namespace ShadowsocksAdapter
variable {σ : Type} (cipher : StreamCipher σ UInt8) (getCrypto : CryptoOperation → Data → σ)

def getAdapterFor (algorithm : CryptoAlgorithm) (writeIV : Data) (pubkey method host : Text) (port : Int) :
    Option (ShadowsocksAdapter σ) :=
  (CryptoStreamProcessor.build algorithm writeIV pubkey method).map (⟨⟨host,port,false⟩,·⟩)

theorem getAdapterFor_some {algorithm : CryptoAlgorithm} {writeIV : Data} {pubkey method host : Text} {port : Int}
    {adapter : ShadowsocksAdapter σ} (made : getAdapterFor algorithm writeIV pubkey method host port = some adapter) :
    adapter.streamObfuscator = ⟨host,port,false⟩ ∧ adapter.cryptor.sendKey = false ∧
      adapter.cryptor.encryptor = none ∧ adapter.cryptor.writeIV = writeIV ∧
      adapter.cryptor.localPublicKey = pubkey := by
  obtain ⟨cryptor,parsed,rfl⟩ := Option.map_eq_some_iff.mp made
  exact ⟨rfl,CryptoStreamProcessor.build_some parsed⟩

def write (group : UserDefaults) (adapter : ShadowsocksAdapter σ) (data : Data) :
    Option (Data × ShadowsocksAdapter σ) := do
  let (requested,streamObfuscator) ← adapter.streamObfuscator.output data
  let (encrypted,cryptor) ← adapter.cryptor.output cipher getCrypto group requested
  some (encrypted,⟨streamObfuscator,cryptor⟩)

/-- The writes of a session, each with the user defaults of its time. -/
def uplink : Machine (ShadowsocksAdapter σ) (UserDefaults × Data) Data where
  step adapter := fun (group,data) =>
    match write cipher getCrypto group adapter data with
    | none => ([],none)
    | some (bytes,next) => ([bytes],some next)

def encrypted (writeIV request uploaded : Data) : Data × σ :=
  cipher.update (getCrypto .encrypt writeIV) (request ++ uploaded)

structure Sending (writeIV request : Data) (adapter : ShadowsocksAdapter σ) (uploaded : Data) : Prop where
  requested : adapter.streamObfuscator.requestSend = true
  sent : adapter.cryptor.sendKey = true
  encryptor : adapter.cryptor.encryptor = some (encrypted cipher getCrypto writeIV request uploaded).2

theorem write_first (group : UserDefaults) {adapter : ShadowsocksAdapter σ}
    (waiting : adapter.streamObfuscator.requestSend = false) (unsent : adapter.cryptor.sendKey = false)
    (unused : adapter.cryptor.encryptor = none) (addressable : adapter.streamObfuscator.Addressable)
    (keyed : (Data.utf8 adapter.cryptor.localPublicKey).length = 66) (data : Data) :
    ∃ header next, adapter.cryptor.relayData group [] = some header ∧
      write cipher getCrypto group adapter data = some (header ++ adapter.cryptor.writeIV ++
        (encrypted cipher getCrypto adapter.cryptor.writeIV adapter.streamObfuscator.request data).1,next) ∧
      Sending cipher getCrypto adapter.cryptor.writeIV adapter.streamObfuscator.request next data := by
  have requested : adapter.streamObfuscator.output data = some (adapter.streamObfuscator.request ++ data,
      {adapter.streamObfuscator with requestSend := true}) := by
    simp [OriginStreamObfuscater.output,waiting,OriginStreamObfuscater.requestData_eq addressable]
  obtain ⟨header,next,relayed,out,sent,encryptor⟩ := CryptoStreamProcessor.output_first cipher getCrypto group
    unsent unused keyed (adapter.streamObfuscator.request ++ data)
  refine ⟨header,⟨{adapter.streamObfuscator with requestSend := true},next⟩,relayed,?_,rfl,sent,encryptor⟩
  simp only [write,requested,out,Option.bind_eq_bind,Option.bind_some,encrypted]

theorem write_later (group : UserDefaults) {writeIV request uploaded : Data} {adapter : ShadowsocksAdapter σ}
    (sending : Sending cipher getCrypto writeIV request adapter uploaded) (data : Data) :
    ∃ bytes next, write cipher getCrypto group adapter data = some (bytes,next) ∧
      Sending cipher getCrypto writeIV request next (uploaded ++ data) ∧
      (encrypted cipher getCrypto writeIV request uploaded).1 ++ bytes =
        (encrypted cipher getCrypto writeIV request (uploaded ++ data)).1 := by
  obtain ⟨requested,sent,encryptor⟩ := sending
  have passed : adapter.streamObfuscator.output data = some (data,adapter.streamObfuscator) := by
    simp [OriginStreamObfuscater.output,requested]
  have both := cipher.update_append (getCrypto .encrypt writeIV) (request ++ uploaded) data
  rw [List.append_assoc] at both
  obtain ⟨next,out,sent,used⟩ := CryptoStreamProcessor.output_later cipher getCrypto group sent encryptor data
  refine ⟨(cipher.update (encrypted cipher getCrypto writeIV request uploaded).2 data).1,
    ⟨adapter.streamObfuscator,next⟩,?_,⟨requested,sent,?_⟩,?_⟩
  · simp only [write,passed,out,Option.bind_eq_bind,Option.bind_some]
  · rw [used,encrypted,encrypted,both]
  · rw [encrypted,encrypted,both]

theorem uplink_step (writeIV request : Data) (adapter : ShadowsocksAdapter σ) (uploaded : Data)
    (one : UserDefaults × Data) (sending : Sending cipher getCrypto writeIV request adapter uploaded) :
    ∃ next, ((uplink cipher getCrypto).step adapter one).2 = some next ∧
      Sending cipher getCrypto writeIV request next (uploaded ++ one.2) ∧
      (encrypted cipher getCrypto writeIV request uploaded).1 ++
        ((uplink cipher getCrypto).step adapter one).1.flatMap id =
          (encrypted cipher getCrypto writeIV request (uploaded ++ one.2)).1 := by
  obtain ⟨bytes,next,written,kept,extended⟩ := write_later cipher getCrypto one.1 sending one.2
  refine ⟨next,?_,kept,?_⟩
  · simp only [uplink,written]
  · simpa [uplink,written] using extended

/-- However an upload is cut into writes, the socket gets the relay header, the IV and the
encryption of the request and the payloads. -/
theorem uplink_outputs {algorithm : CryptoAlgorithm} {writeIV : Data} {pubkey method host : Text} {port : Int}
    {adapter : ShadowsocksAdapter σ} (made : getAdapterFor algorithm writeIV pubkey method host port = some adapter)
    (addressable : OriginStreamObfuscater.Addressable ⟨host,port,false⟩) (keyed : (Data.utf8 pubkey).length = 66)
    (first : UserDefaults × Data) (rest : List (UserDefaults × Data)) :
    ∃ header, adapter.cryptor.relayData first.1 [] = some header ∧
      (∃ last, (uplink cipher getCrypto).after adapter (first :: rest) = some last) ∧
      ((uplink cipher getCrypto).outputs adapter (first :: rest)).flatten = header ++ writeIV ++
        (cipher.update (getCrypto .encrypt writeIV) (OriginStreamObfuscater.request ⟨host,port,false⟩ ++
          (first :: rest).flatMap Prod.snd)).1 := by
  obtain ⟨session,unsent,unused,rfl,rfl⟩ := getAdapterFor_some made
  obtain ⟨header,next,relayed,written,sending⟩ := write_first cipher getCrypto first.1
    (congrArg OriginStreamObfuscater.requestSend session) unsent unused (session ▸ addressable) keyed first.2
  obtain ⟨together,last,finished,-⟩ := Machine.outputs_of_stream
    (fun s uploaded one sending _ => uplink_step cipher getCrypto adapter.cryptor.writeIV
      adapter.streamObfuscator.request s uploaded one sending)
    sending rest (fun _ _ => trivial)
  have stepped : (uplink cipher getCrypto).step adapter first = ([header ++ adapter.cryptor.writeIV ++
      (encrypted cipher getCrypto adapter.cryptor.writeIV adapter.streamObfuscator.request first.2).1],some next) := by
    simp only [uplink,written]
  refine ⟨header,relayed,⟨last,?_⟩,?_⟩
  · rw [Machine.after,stepped]
    exact finished
  · rw [List.flatMap_id] at together
    simp only [Machine.outputs,stepped,List.flatten_append,List.flatten_cons,List.flatten_nil,List.append_nil]
    rw [List.append_assoc (header ++ adapter.cryptor.writeIV),together,session]
    rfl

def feedback : StreamCipher UInt8 UInt8 := StreamCipher.ofStep (fun s x => (s ^^^ x,s ^^^ x))

def feedbackStart : CryptoOperation → Data → UInt8 := fun _ iv => iv.headD 0

def opened : ShadowsocksAdapter UInt8 := ⟨⟨"tenon.com".toList,443,false⟩,CryptoStreamProcessor.built true⟩

theorem getAdapterFor_opened : getAdapterFor .aes128CFB (List.replicate 16 7) (List.replicate 66 '0')
    "aes-128-cfb,16777343,443,true".toList "tenon.com".toList 443 = some opened := by
  have parsed : @CryptoStreamProcessor.build UInt8 .aes128CFB (List.replicate 16 7) (List.replicate 66 '0')
      "aes-128-cfb,16777343,443,true".toList = some (CryptoStreamProcessor.built true) := rfl
  rw [getAdapterFor,parsed]
  rfl

theorem uplink_outputs_opened : ∃ header, opened.cryptor.relayData UserDefaults.empty [] = some header ∧
    (∃ last, (uplink feedback feedbackStart).after opened
      [(UserDefaults.empty,[]),(CryptoStreamProcessor.exRouted,[71,69,84])] = some last) ∧
    ((uplink feedback feedbackStart).outputs opened
      [(UserDefaults.empty,[]),(CryptoStreamProcessor.exRouted,[71,69,84])]).flatten =
        header ++ List.replicate 16 7 ++ (feedback.update (feedbackStart .encrypt (List.replicate 16 7))
          (OriginStreamObfuscater.request ⟨"tenon.com".toList,443,false⟩ ++
            [(UserDefaults.empty,[]),(CryptoStreamProcessor.exRouted,[71,69,84])].flatMap Prod.snd)).1 := by
  have addressable : OriginStreamObfuscater.Addressable ⟨"tenon.com".toList,443,false⟩ :=
    ⟨by decide,by decide,by decide⟩
  exact uplink_outputs feedback feedbackStart getAdapterFor_opened addressable (by decide)
    (UserDefaults.empty,[]) [(CryptoStreamProcessor.exRouted,[71,69,84])]

end ShadowsocksAdapter
end TenonVpn
