import TenonVpn.Downlink
import TenonVpn.ShadowsocksAdapter
import TenonVpn.TunnelFlow

/-! A tunnel over a Shadowsocks adapter, from end to end: the bytes of the remote socket are the
relay header, the IV and the encryption of what the proxy socket hands on, and the local socket
gets the decryption of what comes back. -/
namespace TenonVpn

/-- How the adapter of a session starts: as its factory makes it, with a public key of the
length the relay header has room for, and with the user defaults that its writes will find. -/
structure ShadowsocksStart (σ : Type) (host : Text) where
  algorithm : CryptoAlgorithm
  writeIV : Data
  pubkey : Text
  method : Text
  port : Int
  groups : Nat → UserDefaults
  adapter : ShadowsocksAdapter σ
  made : ShadowsocksAdapter.getAdapterFor algorithm writeIV pubkey method host port = some adapter
  keyed : (Data.utf8 pubkey).length = 66

namespace ShadowsocksAdapter
variable {σ : Type} (cipher : StreamCipher σ UInt8) (getCrypto : CryptoOperation → Data → σ)

/-- Both directions of a Shadowsocks adapter; each write finds the user defaults of its time. -/
def coder : Coder (ShadowsocksAdapter σ × (Nat → UserDefaults)) (CryptoStreamProcessor σ) where
  output := fun (adapter,groups) data =>
    (write cipher getCrypto (groups 0) adapter data).map (fun (bytes,next) => (bytes,(next,fun n => groups (n + 1))))
  input processor data :=
    let (received,next) := CryptoStreamProcessor.input cipher getCrypto processor data
    next.map (fun next => (received.flatMap Received.data,next))

variable {cipher getCrypto} {host : Text} (start : ShadowsocksStart σ host)

theorem write_addressable {group : UserDefaults} {adapter : ShadowsocksAdapter σ}
    (waiting : adapter.streamObfuscator.requestSend = false) {data : Data} {out : Data × ShadowsocksAdapter σ}
    (written : write cipher getCrypto group adapter data = some out) : adapter.streamObfuscator.Addressable := by
  obtain ⟨⟨requested,obfuscater⟩,output,-⟩ := Option.bind_eq_some_iff.mp written
  rw [OriginStreamObfuscater.output,waiting] at output
  simp only [Bool.false_eq_true,if_false] at output
  obtain ⟨request,made,-⟩ := Option.map_eq_some_iff.mp output
  simp only [OriginStreamObfuscater.requestData,uint8,uint16,Option.bind_eq_bind,Option.bind_eq_some_iff,
    Option.ite_none_right_eq_some] at made
  obtain ⟨_,_,_,⟨short,_⟩,_,_,_,_,_,⟨⟨nonneg,wide⟩,_⟩,_⟩ := made
  exact ⟨by omega,nonneg,by omega⟩

theorem sent_of_codes {chunks sent : List Data} {last : ShadowsocksAdapter σ × (Nat → UserDefaults)}
    (codes : Codes (coder cipher getCrypto).output (start.adapter,start.groups) chunks sent last) :
    (chunks = [] ∧ sent = [] ∧ last = (start.adapter,start.groups)) ∨
      (∃ header, start.adapter.cryptor.relayData (start.groups 0) [] = some header ∧
        sent.flatten = header ++ start.writeIV ++ (encrypted cipher getCrypto start.writeIV
          (OriginStreamObfuscater.request ⟨host,start.port,false⟩) chunks.flatten).1) ∧
      Sending cipher getCrypto start.writeIV (OriginStreamObfuscater.request ⟨host,start.port,false⟩) last.1
        chunks.flatten := by
  obtain ⟨session,unsent,unused,iv,key⟩ := getAdapterFor_some start.made
  induction codes with
  | nil => exact Or.inl ⟨rfl,rfl,rfl⟩
  | @snoc chunks sent last next chunk out before step ih =>
    obtain ⟨⟨bytes,adapter⟩,written,same⟩ := Option.map_eq_some_iff.mp step
    cases same
    right
    rcases ih with ⟨rfl,rfl,rfl⟩ | ⟨⟨header,relayed,together⟩,sending⟩
    · have waiting : start.adapter.streamObfuscator.requestSend = false := by rw [session]
      obtain ⟨header,first,relayed,written',sending⟩ := write_first cipher getCrypto (start.groups 0) waiting unsent
        unused (write_addressable waiting written) (by rw [key]; exact start.keyed) chunk
      cases written.symm.trans written'
      rw [session,iv] at sending
      refine ⟨⟨header,relayed,?_⟩,?_⟩
      · simp only [List.nil_append,List.flatten_singleton,session,iv]
      · simpa only [List.nil_append,List.flatten_singleton] using sending
    · obtain ⟨more,later,written',kept,extended⟩ := write_later cipher getCrypto (last.2 0) sending chunk
      cases written.symm.trans written'
      refine ⟨⟨header,relayed,?_⟩,?_⟩
      · rw [List.flatten_append,List.flatten_singleton,together,List.append_assoc,extended,List.flatten_append,
          List.flatten_singleton]
      · simpa only [List.flatten_append,List.flatten_singleton] using kept

theorem started_build {algorithm : CryptoAlgorithm} {writeIV : Data} {inPubkey inMethod : Text}
    {processor : CryptoStreamProcessor σ}
    (parsed : CryptoStreamProcessor.build algorithm writeIV inPubkey inMethod = some processor) :
    CryptoStreamProcessor.Started processor ∧ processor.algorithm = algorithm := by
  simp only [CryptoStreamProcessor.build,Option.bind_eq_bind,Option.bind_eq_some_iff,Option.some.injEq] at parsed
  obtain ⟨_,_,_,_,_,_,_,_,_,_,_,_,_,_,rfl⟩ := parsed
  exact ⟨⟨rfl,rfl,rfl⟩,rfl⟩

/-- A control code ends the process, so what is read without an end is the stream behind the IV. -/
theorem delivered_of_codes {received plain : List Data} {last : CryptoStreamProcessor σ}
    (codes : Codes (coder cipher getCrypto).input start.adapter.cryptor received plain last) :
    plain.flatten = CryptoStreamProcessor.plaintextOf cipher getCrypto start.algorithm.ivLength received.flatten ∧
      CryptoStreamProcessor.Holds cipher getCrypto start.algorithm last received.flatten := by
  obtain ⟨cryptor,built,same⟩ := Option.map_eq_some_iff.mp start.made
  have started := started_build built
  have cryptor_eq : start.adapter.cryptor = cryptor := by rw [← same]
  induction codes with
  | nil =>
    rw [cryptor_eq,← started.2]
    refine ⟨?_,CryptoStreamProcessor.holds_started started.1⟩
    exact (if_pos cryptor.algorithm.ivLength_pos).symm
  | @snoc received plain last next chunk out before step ih =>
    obtain ⟨together,holds⟩ := ih
    obtain ⟨later,stepped,same⟩ : ∃ later, (CryptoStreamProcessor.input cipher getCrypto last chunk).2 = some later ∧
        ((CryptoStreamProcessor.input cipher getCrypto last chunk).1.flatMap Received.data,later) = (out,next) :=
      Option.map_eq_some_iff.mp step
    have ordinary : chunk ∉ CryptoStreamProcessor.controlCodes := by
      intro control
      have three := CryptoStreamProcessor.controlCodes_length chunk control
      rw [CryptoStreamProcessor.input,if_pos ⟨three,control⟩] at stepped
      cases stepped
    cases same
    obtain ⟨later',stepped',kept,extended⟩ := CryptoStreamProcessor.holds_input holds ordinary
    cases stepped.symm.trans stepped'
    rw [List.flatten_append,List.flatten_singleton,List.flatten_append,List.flatten_singleton,together]
    exact ⟨extended,kept⟩

end ShadowsocksAdapter

namespace Tunnel
variable {σ : Type} (cipher : StreamCipher σ UInt8) (getCrypto : CryptoOperation → Data → σ)

/-- Adapters that start as `starts` says and run their own coder. -/
structure OverShadowsocks (starts : (session : ConnectSession) → ShadowsocksStart σ session.host)
    (surroundings : Surroundings (ShadowsocksAdapter σ × (Nat → UserDefaults)) (CryptoStreamProcessor σ)) : Prop where
  coder : surroundings.coder = ShadowsocksAdapter.coder cipher getCrypto
  start : ∀ session, surroundings.start session =
    (((starts session).adapter,(starts session).groups),(starts session).adapter.cryptor)

/-- What went over both sockets of a tunnel, in the terms of either end: the remote one was sent
nothing, or the header, the IV and the encrypted request and payload, where the payload is what
the proxy socket made of the bytes it read; and the local one was sent the greeting and the
decryption of what the remote one received. -/
def EndToEnd {κ ρ : Type} (foundation : Foundation)
    (starts : (session : ConnectSession) → ShadowsocksStart σ session.host) (tunnel : Tunnel κ ρ) : Prop :=
  ∀ adapter ∈ tunnel.adapterSocket, adapter.kind ≠ .direct → ∃ payload plain : List Data,
    tunnel.proxySocket.Relayed foundation tunnel.proxySocket.socket.reads.head? payload ∧
    (payload = [] ∧ adapter.socket.sent = [] ∨ ∃ header,
      (starts adapter.session).adapter.cryptor.relayData ((starts adapter.session).groups 0) [] = some header ∧
      adapter.socket.sent.flatten = header ++ (starts adapter.session).writeIV ++
        (cipher.update (getCrypto .encrypt (starts adapter.session).writeIV)
          (OriginStreamObfuscater.request ⟨adapter.session.host,(starts adapter.session).port,false⟩ ++
            payload.flatten)).1) ∧
    tunnel.proxySocket.socket.sent = tunnel.proxySocket.greeting ++ plain ∧
    plain.flatten = CryptoStreamProcessor.plaintextOf cipher getCrypto
      (starts adapter.session).algorithm.ivLength adapter.socket.received.flatten

variable {cipher getCrypto} {starts : (session : ConnectSession) → ShadowsocksStart σ session.host}
  {surroundings : Surroundings (ShadowsocksAdapter σ × (Nat → UserDefaults)) (CryptoStreamProcessor σ)}
  {tunnel : Tunnel (ShadowsocksAdapter σ × (Nat → UserDefaults)) (CryptoStreamProcessor σ)}

theorem endToEnd_of_flow (layered : OverShadowsocks cipher getCrypto starts surroundings)
    (flow : tunnel.Flow surroundings) (running : tunnel.cancelled = false) (status : tunnel.status = .forwarding)
    (open_proxy : tunnel.proxySocket.cancelled = false) :
    EndToEnd cipher getCrypto surroundings.foundation starts tunnel := by
  obtain ⟨remote,present,⟨payload,relayed,written⟩,plain,delivered,sent⟩ :=
    (carries_of_flow flow running).relays status open_proxy
  intro adapter present' secured
  cases present.symm.trans present'
  rw [AdapterSocket.Written,layered.coder,layered.start] at written
  rw [AdapterSocket.Delivered,layered.coder,layered.start] at delivered
  cases kind : remote.kind with
  | direct => exact absurd kind secured
  | shadowsocks internalStatus up down =>
    rw [kind] at written delivered
    refine ⟨payload,plain,relayed,?_,sent,(ShadowsocksAdapter.delivered_of_codes _ delivered).1⟩
    rcases ShadowsocksAdapter.sent_of_codes _ written with ⟨empty,silent,-⟩ | ⟨coded,-⟩
    · exact Or.inl ⟨empty,silent⟩
    · exact Or.inr coded

theorem endToEnd_visits (layered : OverShadowsocks cipher getCrypto starts surroundings) (fresh : tunnel.Fresh)
    {events : List Event} (along : (machine surroundings).Along Enabled tunnel events) :
    (machine surroundings).Visits (fun tunnel => tunnel.cancelled = false → tunnel.status = .forwarding →
      tunnel.proxySocket.cancelled = false → EndToEnd cipher getCrypto surroundings.foundation starts tunnel)
      tunnel events :=
  (Machine.Along.visits keeps_flow (flow_fresh fresh) along).imp (fun _ => endToEnd_of_flow layered)

def plainStarts (session : ConnectSession) : ShadowsocksStart UInt8 session.host where
  algorithm := .aes128CFB
  writeIV := List.replicate 16 7
  pubkey := List.replicate 66 '0'
  method := "aes-128-cfb,16777343,443,true".toList
  port := 443
  groups _ := UserDefaults.empty
  adapter := ⟨⟨session.host,443,false⟩,CryptoStreamProcessor.built true⟩
  made := rfl
  keyed := by decide

def shadowsocksSurroundings :
    Surroundings (ShadowsocksAdapter UInt8 × (Nat → UserDefaults)) (CryptoStreamProcessor UInt8) where
  foundation := HTTPHeader.plainFoundation
  inet := ⟨fun _ => none,fun _ => none⟩
  country _ := []
  manager := ⟨[.allRule .shadowsocks]⟩
  coder := ShadowsocksAdapter.coder ShadowsocksAdapter.feedback ShadowsocksAdapter.feedbackStart
  start session := (((plainStarts session).adapter,(plainStarts session).groups),(plainStarts session).adapter.cryptor)
  connectTo _ := some false

def securedEvents : List Event :=
  [.openTunnel,.proxyRead (Data.utf8 HTTPHeader.request),.resolved none,.adapterConnected,.adapterWrote,
    .proxyRead [97,98,99],.adapterRead (List.replicate 16 9 ++ [72,105]),.adapterWrote,.proxyWrote]

theorem endToEnd_visits_secured : (machine shadowsocksSurroundings).Visits
    (fun tunnel => tunnel.cancelled = false → tunnel.status = .forwarding → tunnel.proxySocket.cancelled = false →
      EndToEnd ShadowsocksAdapter.feedback ShadowsocksAdapter.feedbackStart HTTPHeader.plainFoundation plainStarts
        tunnel) {proxySocket := {kind := .http {}}} securedEvents := by
  have layered : OverShadowsocks ShadowsocksAdapter.feedback ShadowsocksAdapter.feedbackStart plainStarts
      shadowsocksSurroundings := ⟨rfl,fun _ => rfl⟩
  refine endToEnd_visits layered ⟨rfl,rfl,?_⟩ (by decide +kernel)
  rintro _ ⟨⟩
  rfl

end Tunnel
end TenonVpn
