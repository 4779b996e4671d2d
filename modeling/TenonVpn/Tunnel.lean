import TenonVpn.HTTPProxySocket
import TenonVpn.Machine
import TenonVpn.Rule

/-! `Tunnel` with its proxy socket, its adapter and their raw sockets: a local connection is
read for a request, a remote one is opened for it, and bytes go back and forth until one side
disconnects. A raw socket holds what it was asked for and not yet answered; its answers, the
resolver's and the timer's are the events. -/
namespace TenonVpn

inductive SocketStatus
  | invalid | connecting | established | disconnecting | closed
deriving DecidableEq

def SocketStatus.isDisconnected (status : SocketStatus) : Bool := status = .closed || status = .invalid

/-- `gone` says that `disconnect` would find no connection and tell the delegate at once, as
`NWTCPSocket` and `TUNTCPSocket` do. -/
structure RawSocket where
  gone : Bool := false
  connecting : Bool := false
  reads : List ReadRequest := []
  writes : Nat := 0
  received : List Data := []
  sent : List Data := []
  leaving : Bool := false
  closed : Bool := false

namespace RawSocket

def read (socket : RawSocket) (request : ReadRequest) : RawSocket :=
  {socket with reads := socket.reads ++ [request]}

def write (socket : RawSocket) (data : Data) : RawSocket :=
  {socket with writes := socket.writes + 1, sent := socket.sent ++ [data]}

def didRead (socket : RawSocket) (data : Data) : RawSocket :=
  {socket with reads := socket.reads.tail, received := socket.received ++ [data]}

def didWrite (socket : RawSocket) : RawSocket := {socket with writes := socket.writes - 1}

/-- A socket tells until it has told that it disconnected. One that was gone when it was asked to leave told that at
once, and afterwards tells what still waits in its queue, the end for a second time. -/
def telling (socket : RawSocket) : Bool := !socket.closed || (socket.gone && socket.leaving)

theorem telling_of_open {socket : RawSocket} (opened : socket.closed = false) : socket.telling = true := by
  rw [telling,opened]
  rfl

theorem leaving_of_telling {socket : RawSocket} (telling : socket.telling = true) (closed : socket.closed = true) :
    socket.leaving = true := by
  rw [RawSocket.telling,closed,Bool.not_true,Bool.false_or,Bool.and_eq_true] at telling
  exact telling.2

end RawSocket

inductive ProxySocketKind
  | http (socket : HTTPProxySocket)
  | direct (destinationIPAddress : Option Text)

structure ProxySocket where
  kind : ProxySocketKind
  status : SocketStatus := .established
  cancelled : Bool := false
  socket : RawSocket := {}

inductive ShadowsocksAdapterStatus
  | invalid | connecting | connected | forwarding | stopped
deriving DecidableEq

/-- A Shadowsocks adapter has the states of its two directions, which share no field. -/
inductive AdapterKind (κ ρ : Type)
  | direct
  | shadowsocks (internalStatus : ShadowsocksAdapterStatus) (up : κ) (down : ρ)

structure AdapterSocket (κ ρ : Type) where
  kind : AdapterKind κ ρ
  session : ConnectSession
  status : SocketStatus := .invalid
  cancelled : Bool := false
  socket : RawSocket := {}

/-- What the obfuscaters and the cryptor of an adapter do to a write and to a read; none where
the process ends. -/
structure Coder (κ ρ : Type) where
  output : κ → Data → Option (Data × κ)
  input : ρ → Data → Option (Data × ρ)

/-- What surrounds a tunnel: `connectTo` tells whether the socket it leaves is gone, and is
none where connecting throws. -/
structure Surroundings (κ ρ : Type) where
  foundation : Foundation
  inet : InetPton
  country : Text → Text
  manager : RuleManager
  coder : Coder κ ρ
  start : ConnectSession → κ × ρ
  connectTo : ConnectSession → Option Bool

inductive TunnelStatus
  | invalid | readingRequest | waitingToBeReady | forwarding | closing | closed
deriving DecidableEq

/-- `tunnelDidClose` counts what the delegate was told; `timers` are the reads that wait for the
forward interval. -/
structure Tunnel (κ ρ : Type) where
  proxySocket : ProxySocket
  adapterSocket : Option (AdapterSocket κ ρ) := none
  readySignal : Nat := 0
  cancelled : Bool := false
  status : TunnelStatus := .invalid
  delegate : Bool := true
  tunnelDidClose : Nat := 0
  resolving : Option Text := none
  timers : Nat := 0

namespace ProxySocket

def read (proxy : ProxySocket) (request : ReadRequest) : ProxySocket :=
  {proxy with socket := proxy.socket.read request}

def write (proxy : ProxySocket) (data : Data) : ProxySocket :=
  if proxy.cancelled then proxy else {proxy with socket := proxy.socket.write data}

end ProxySocket

namespace AdapterSocket
variable {κ ρ : Type}

def readData (adapter : AdapterSocket κ ρ) : AdapterSocket κ ρ :=
  if adapter.cancelled then adapter else {adapter with socket := adapter.socket.read .data}

def writeRaw (adapter : AdapterSocket κ ρ) (data : Data) : AdapterSocket κ ρ :=
  if adapter.cancelled then adapter else {adapter with socket := adapter.socket.write data}

def write (coder : Coder κ ρ) (adapter : AdapterSocket κ ρ) (data : Data) : Option (AdapterSocket κ ρ) :=
  match adapter.kind with
  | .direct => some (adapter.writeRaw data)
  | .shadowsocks internalStatus up down => do
    let (coded,up) ← coder.output up data
    some ({adapter with kind := .shadowsocks internalStatus up down}.writeRaw coded)

end AdapterSocket

namespace Tunnel
variable {κ ρ : Type} (surroundings : Surroundings κ ρ)

def isClosed (tunnel : Tunnel κ ρ) : Bool :=
  tunnel.proxySocket.status.isDisconnected && match tunnel.adapterSocket with
    | none => true
    | some adapter => adapter.status.isDisconnected

def checkStatus (tunnel : Tunnel κ ρ) : Tunnel κ ρ :=
  if tunnel.isClosed then {tunnel with
    status := .closed
    tunnelDidClose := if tunnel.delegate then tunnel.tunnelDidClose + 1 else tunnel.tunnelDidClose
    delegate := false}
  else tunnel

/-- `disconnect` of the proxy socket, where `didDisconnect` is the tunnel's answer if the raw
socket tells at once. -/
def disconnectProxy (didDisconnect : Tunnel κ ρ → Tunnel κ ρ) (tunnel : Tunnel κ ρ) : Tunnel κ ρ :=
  let proxy := tunnel.proxySocket
  if proxy.cancelled then tunnel
  else if proxy.socket.gone then didDisconnect {tunnel with proxySocket := {proxy with
    status := .closed
    cancelled := true
    socket := {proxy.socket with leaving := true, closed := true}}}
  else {tunnel with proxySocket := {proxy with
    status := .disconnecting
    cancelled := true
    socket := {proxy.socket with leaving := true}}}

def disconnectAdapter (didDisconnect : Tunnel κ ρ → Tunnel κ ρ) (tunnel : Tunnel κ ρ) : Tunnel κ ρ :=
  match tunnel.adapterSocket with
  | none => tunnel
  | some adapter =>
    if adapter.socket.gone then didDisconnect {tunnel with adapterSocket := some {adapter with
      status := .closed
      cancelled := true
      socket := {adapter.socket with leaving := true, closed := true}}}
    else {tunnel with adapterSocket := some {adapter with
      status := .disconnecting
      cancelled := true
      socket := {adapter.socket with leaving := true}}}

def closeAdapter (tunnel : Tunnel κ ρ) : Tunnel κ ρ :=
  match tunnel.adapterSocket with
  | none => tunnel
  | some adapter => if adapter.status.isDisconnected then tunnel else disconnectAdapter checkStatus tunnel

/-- `close()`, and `forceClose()`, which differs in what it asks of the raw sockets only. The
tunnel is cancelled before it disconnects a socket, so its answer is to check its status. -/
def close (tunnel : Tunnel κ ρ) : Tunnel κ ρ :=
  if tunnel.cancelled then tunnel
  else
    let closing := {tunnel with cancelled := true, status := .closing}
    closeAdapter (if closing.proxySocket.status.isDisconnected then closing else disconnectProxy checkStatus closing)

def didDisconnectWith (tunnel : Tunnel κ ρ) : Tunnel κ ρ :=
  checkStatus (if tunnel.cancelled then tunnel else close tunnel)

def writeAdapter (tunnel : Tunnel κ ρ) (data : Data) : Option (Tunnel κ ρ) := do
  let adapter ← tunnel.adapterSocket
  let adapter ← adapter.write surroundings.coder data
  some {tunnel with adapterSocket := some adapter}

def didReadProxy (tunnel : Tunnel κ ρ) (data : Data) : Option (Tunnel κ ρ) :=
  if tunnel.cancelled then some tunnel else writeAdapter surroundings tunnel data

def didReadAdapter (tunnel : Tunnel κ ρ) (data : Data) : Tunnel κ ρ :=
  if tunnel.cancelled then tunnel else {tunnel with proxySocket := tunnel.proxySocket.write data}

def withHTTP (tunnel : Tunnel κ ρ) (http : HTTPProxySocket) : Tunnel κ ρ :=
  {tunnel with proxySocket := {tunnel.proxySocket with kind := .http http}}

def readProxy (tunnel : Tunnel κ ρ) (request : ReadRequest) : Tunnel κ ρ :=
  {tunnel with proxySocket := tunnel.proxySocket.read request}

def readAdapter (tunnel : Tunnel κ ρ) : Tunnel κ ρ :=
  {tunnel with adapterSocket := tunnel.adapterSocket.map AdapterSocket.readData}

/-- `proxySocket.readData()`. -/
def readDataProxy (tunnel : Tunnel κ ρ) : Option (Tunnel κ ρ) :=
  if tunnel.proxySocket.cancelled then some tunnel
  else match tunnel.proxySocket.kind with
    | .direct _ => some (tunnel.readProxy .data)
    | .http http => do
      let (asked,http) ← http.readData
      match asked with
      | .deliver data => didReadProxy surroundings (tunnel.withHTTP http) data
      | .read request => some ((tunnel.withHTTP http).readProxy request)
      | .disconnect => some (disconnectProxy didDisconnectWith (tunnel.withHTTP http))

def didWriteProxy (tunnel : Tunnel κ ρ) : Tunnel κ ρ :=
  if tunnel.cancelled then tunnel else {tunnel with timers := tunnel.timers + 1}

def didWriteAdapter (tunnel : Tunnel κ ρ) : Option (Tunnel κ ρ) :=
  if tunnel.cancelled then some tunnel else readDataProxy surroundings tunnel

/-- `didBecomeReadyToForwardWith(socket:)`, as the proxy socket calls it. -/
def becomeReady (tunnel : Tunnel κ ρ) : Option (Tunnel κ ρ) :=
  if tunnel.cancelled then some tunnel
  else
    let signalled := {tunnel with readySignal := tunnel.readySignal + 1}
    if signalled.readySignal = 2 then
      (readDataProxy surroundings {signalled with status := .forwarding}).map readAdapter
    else some signalled

def respondTo (tunnel : Tunnel κ ρ) : Option (Tunnel κ ρ) :=
  if tunnel.proxySocket.cancelled then some tunnel
  else match tunnel.proxySocket.kind with
    | .direct _ => becomeReady surroundings tunnel
    | .http http =>
      if http.isConnectCommand then
        let responding := tunnel.withHTTP {http with writeStatus := .sendingConnectResponse}
        some {responding with
          proxySocket := responding.proxySocket.write HTTPProxySocket.connectSuccessResponse}
      else becomeReady surroundings (tunnel.withHTTP {http with writeStatus := .forwarding})

/-- `didBecomeReadyToForwardWith(socket:)`, as the adapter calls it: the proxy socket responds last. -/
def becomeReadyAdapter (tunnel : Tunnel κ ρ) : Option (Tunnel κ ρ) :=
  if tunnel.cancelled then some tunnel
  else (becomeReady surroundings tunnel).bind (respondTo surroundings)

def adapterFor (session : ConnectSession) : AdapterFactory → AdapterSocket κ ρ
  | .direct => {kind := .direct, session, status := .connecting}
  | .shadowsocks =>
    {kind := .shadowsocks .connecting (surroundings.start session).1 (surroundings.start session).2,
     session, status := .connecting}

def openAdapter (tunnel : Tunnel κ ρ) (host ipAddress : Text) : Option (Tunnel κ ρ) :=
  if tunnel.cancelled then some tunnel
  else do
    let session : ConnectSession := ⟨host,ipAddress,surroundings.country ipAddress,none⟩
    let factory ← (surroundings.manager.matchSession surroundings.inet session).2
    let adapter := adapterFor surroundings session factory
    match surroundings.connectTo session with
    | none => some (disconnectAdapter didDisconnectWith {tunnel with adapterSocket := some adapter})
    | some gone => some {tunnel with adapterSocket := some {adapter with
        socket := {adapter.socket with gone, connecting := true}}}

def isIP (host : Text) : Bool := (surroundings.inet.v4 host).isSome || (surroundings.inet.v6 host).isSome

def didReceive (tunnel : Tunnel κ ρ) (host : Text) : Option (Tunnel κ ρ) :=
  if tunnel.cancelled then some tunnel
  else
    let waiting := {tunnel with status := .waitingToBeReady}
    if isIP surroundings host then openAdapter surroundings waiting host host
    else some {waiting with resolving := some host}

def openProxy (tunnel : Tunnel κ ρ) : Option (Tunnel κ ρ) :=
  if tunnel.proxySocket.cancelled then some tunnel
  else match tunnel.proxySocket.kind with
    | .http http => some ((tunnel.withHTTP http.openSocket.2).readProxy http.openSocket.1)
    | .direct (some host) => didReceive surroundings tunnel host
    | .direct none => some (disconnectProxy didDisconnectWith tunnel)

def openTunnel (tunnel : Tunnel κ ρ) : Option (Tunnel κ ρ) :=
  if tunnel.cancelled then some tunnel
  else (openProxy surroundings tunnel).map (fun opened => {opened with status := .readingRequest})

/-- What a tunnel is told: by its server, by its two raw sockets, by the resolver (none for an
error, else the addresses) and by the timer. `proxyLost` and `adapterLost` are known to a raw
socket alone. -/
inductive Event
  | openTunnel
  | close
  | proxyRead (data : Data)
  | proxyWrote
  | proxyDisconnected
  | proxyLost
  | adapterConnected
  | adapterRead (data : Data)
  | adapterWrote
  | adapterDisconnected
  | adapterLost
  | resolved (ipv4Result : Option (List Text))
  | readAgain

def proxyRead (tunnel : Tunnel κ ρ) (data : Data) : Option (Tunnel κ ρ) :=
  let tunnel := {tunnel with proxySocket := {tunnel.proxySocket with
    socket := tunnel.proxySocket.socket.didRead data}}
  match tunnel.proxySocket.kind with
  | .direct _ => didReadProxy surroundings tunnel data
  | .http http => do
    let (heard,http) ← http.didRead surroundings.foundation data
    match heard with
    | .request host _ => didReceive surroundings (tunnel.withHTTP http) host
    | .data data => didReadProxy surroundings (tunnel.withHTTP http) data
    | .failed _ => some (disconnectProxy didDisconnectWith (tunnel.withHTTP http))
    | .nothing => some (tunnel.withHTTP http)

def proxyWrote (tunnel : Tunnel κ ρ) : Option (Tunnel κ ρ) :=
  let tunnel := {tunnel with proxySocket := {tunnel.proxySocket with socket := tunnel.proxySocket.socket.didWrite}}
  match tunnel.proxySocket.kind with
  | .direct _ => some (didWriteProxy tunnel)
  | .http http =>
    if http.writeStatus = .sendingConnectResponse then
      becomeReady surroundings (tunnel.withHTTP {http with writeStatus := .forwarding})
    else some (didWriteProxy tunnel)

def proxyDisconnected (tunnel : Tunnel κ ρ) : Tunnel κ ρ :=
  didDisconnectWith {tunnel with proxySocket := {tunnel.proxySocket with
    status := .closed
    socket := {tunnel.proxySocket.socket with closed := true}}}

def adapterConnected (tunnel : Tunnel κ ρ) (adapter : AdapterSocket κ ρ) : Option (Tunnel κ ρ) :=
  let connected := {adapter with status := .established, socket := {adapter.socket with connecting := false}}
  match adapter.kind with
  | .direct => becomeReadyAdapter surroundings {tunnel with adapterSocket := some connected}
  | .shadowsocks _ up down => becomeReadyAdapter surroundings {tunnel with
      adapterSocket := some {connected with kind := .shadowsocks .forwarding up down}}

def adapterRead (tunnel : Tunnel κ ρ) (adapter : AdapterSocket κ ρ) (data : Data) : Option (Tunnel κ ρ) :=
  let read := {adapter with socket := adapter.socket.didRead data}
  match adapter.kind with
  | .direct => some (didReadAdapter {tunnel with adapterSocket := some read} data)
  | .shadowsocks internalStatus up down => do
    let (plain,down) ← surroundings.coder.input down data
    some (didReadAdapter {tunnel with
      adapterSocket := some {read with kind := .shadowsocks internalStatus up down}} plain)

def adapterWrote (tunnel : Tunnel κ ρ) (adapter : AdapterSocket κ ρ) : Option (Tunnel κ ρ) :=
  let wrote := {tunnel with adapterSocket := some {adapter with socket := adapter.socket.didWrite}}
  match adapter.kind with
  | .direct => didWriteAdapter surroundings wrote
  | .shadowsocks internalStatus _ _ =>
    if internalStatus = .forwarding then didWriteAdapter surroundings wrote else some wrote

def adapterDisconnected (tunnel : Tunnel κ ρ) (adapter : AdapterSocket κ ρ) : Tunnel κ ρ :=
  didDisconnectWith {tunnel with adapterSocket := some {adapter with
    status := .closed
    socket := {adapter.socket with closed := true}}}

/-- The address of a resolver's answer: empty after an error; the first of no addresses traps. -/
def firstAddress : Option (List Text) → Option Text
  | none => some []
  | some addresses => addresses.head?

def resolved (tunnel : Tunnel κ ρ) (ipv4Result : Option (List Text)) : Option (Tunnel κ ρ) := do
  let host ← tunnel.resolving
  let ipAddress ← firstAddress ipv4Result
  openAdapter surroundings {tunnel with resolving := none} host ipAddress

/-- The answer to an event; none where the process ends. -/
def handle (tunnel : Tunnel κ ρ) : Event → Option (Tunnel κ ρ)
  | .openTunnel => openTunnel surroundings tunnel
  | .close => some (close tunnel)
  | .proxyRead data => proxyRead surroundings tunnel data
  | .proxyWrote => proxyWrote surroundings tunnel
  | .proxyDisconnected => some (proxyDisconnected tunnel)
  | .proxyLost => some {tunnel with proxySocket := {tunnel.proxySocket with
      socket := {tunnel.proxySocket.socket with gone := true}}}
  | .adapterConnected => tunnel.adapterSocket.bind (adapterConnected surroundings tunnel)
  | .adapterRead data => tunnel.adapterSocket.bind (adapterRead surroundings tunnel · data)
  | .adapterWrote => tunnel.adapterSocket.bind (adapterWrote surroundings tunnel)
  | .adapterDisconnected => tunnel.adapterSocket.map (adapterDisconnected tunnel)
  | .adapterLost => tunnel.adapterSocket.map (fun adapter => {tunnel with adapterSocket := some {adapter with
      socket := {adapter.socket with gone := true}}})
  | .resolved ipv4Result => resolved surroundings tunnel ipv4Result
  | .readAgain => some (readAdapter {tunnel with timers := tunnel.timers - 1})

def machine : Machine (Tunnel κ ρ) Event Empty where
  step tunnel event := ([],handle surroundings tunnel event)

/-- What `RawTCPSocketProtocol` promises of its events: each answers what the socket was asked, and none comes after
the socket told that it disconnected, but for what waits in the queue of one that told it early. A server opens a
tunnel once. -/
def Enabled (tunnel : Tunnel κ ρ) : Event → Prop
  | .openTunnel => tunnel.status = .invalid
  | .close | .proxyLost | .adapterLost => True
  | .proxyRead data => tunnel.proxySocket.socket.telling = true ∧
      ∃ request ∈ tunnel.proxySocket.socket.reads.head?, request.Serves data
  | .proxyWrote => tunnel.proxySocket.socket.telling = true ∧ 0 < tunnel.proxySocket.socket.writes
  | .proxyDisconnected => tunnel.proxySocket.socket.telling = true
  | .adapterConnected => ∃ adapter ∈ tunnel.adapterSocket, adapter.socket.closed = false ∧
      adapter.socket.connecting = true
  | .adapterRead data => ∃ adapter ∈ tunnel.adapterSocket, adapter.socket.telling = true ∧
      ∃ request ∈ adapter.socket.reads.head?, request.Serves data
  | .adapterWrote => ∃ adapter ∈ tunnel.adapterSocket, adapter.socket.telling = true ∧ 0 < adapter.socket.writes
  | .adapterDisconnected => ∃ adapter ∈ tunnel.adapterSocket, adapter.socket.telling = true
  | .resolved _ => tunnel.resolving.isSome
  | .readAgain => 0 < tunnel.timers

instance decidableEnabled (tunnel : Tunnel κ ρ) (event : Event) : Decidable (tunnel.Enabled event) := by
  cases event <;> unfold Enabled <;> infer_instance

/-- A tunnel as its server makes it, over a local socket that has seen no traffic. -/
structure Fresh (tunnel : Tunnel κ ρ) : Prop where
  whole : tunnel = {proxySocket := {kind := tunnel.proxySocket.kind, socket := tunnel.proxySocket.socket}}
  socket : tunnel.proxySocket.socket = {gone := tunnel.proxySocket.socket.gone}
  kind : ∀ http, tunnel.proxySocket.kind = .http http → http = {}

end Tunnel
end TenonVpn
