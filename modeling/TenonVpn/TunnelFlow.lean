import TenonVpn.TunnelClosing

/-! What a tunnel carries. In each direction one operation is under way at a time, so no socket
is read or written while it still owes an answer; and what was sent on is what was read: the
requests as the proxy socket rewrites them, through the coder of the adapter, and back. -/
namespace TenonVpn

/-- A coder makes chunks of chunks, one of each, and ends in the state `last`. -/
inductive Codes {σ α β : Type*} (code : σ → α → Option (β × σ)) (start : σ) : List α → List β → σ → Prop
  | nil : Codes code start [] [] start
  | snoc {chunks : List α} {coded : List β} {last next : σ} {chunk : α} {out : β}
      (before : Codes code start chunks coded last) (step : code last chunk = some (out,next)) :
      Codes code start (chunks ++ [chunk]) (coded ++ [out]) next

theorem Codes.of_nil {σ α β : Type*} {code : σ → α → Option (β × σ)} {start last : σ} {coded : List β}
    (codes : Codes code start [] coded last) : coded = [] ∧ last = start := by
  generalize empty : ([] : List α) = chunks at codes
  cases codes with
  | nil => exact ⟨rfl,rfl⟩
  | snoc before step => exact absurd empty.symm (List.append_ne_nil_of_right_ne_nil _ (List.cons_ne_nil _ _))

/-- What a proxy socket handed on of what it received, while its socket owes `asked`. -/
def ProxySocket.Relayed (foundation : Foundation) (proxy : ProxySocket) (asked : Option ReadRequest)
    (chunks : List Data) : Prop :=
  match proxy.kind with
  | .direct _ => proxy.socket.received = chunks
  | .http http => HTTPProxySocket.Framed foundation http asked proxy.socket.received.flatten chunks.flatten

/-- What a proxy socket says by itself before it forwards. -/
def ProxySocket.greeting (proxy : ProxySocket) : List Data :=
  match proxy.kind with
  | .direct _ => []
  | .http http => if http.isConnectCommand then [HTTPProxySocket.connectSuccessResponse] else []

/-- A proxy socket that was asked to disconnect and has not yet told. -/
def ProxySocket.leave (proxy : ProxySocket) : ProxySocket :=
  {proxy with
    status := .disconnecting
    cancelled := true
    socket := {proxy.socket with leaving := true}}

def ProxySocket.Forwards (proxy : ProxySocket) : Prop :=
  ∀ http, proxy.kind = .http http → http.writeStatus = .forwarding

/-- The statuses of a tunnel between its opening and its forwarding. -/
def TunnelStatus.Preparing (status : TunnelStatus) : Prop := status = .readingRequest ∨ status = .waitingToBeReady

namespace AdapterSocket
variable {κ ρ : Type}

/-- What was written to an adapter, given what its socket was sent. -/
def Written (surroundings : Surroundings κ ρ) (adapter : AdapterSocket κ ρ) (chunks : List Data) : Prop :=
  match adapter.kind with
  | .direct => adapter.socket.sent = chunks
  | .shadowsocks _ up _ => Codes surroundings.coder.output (surroundings.start adapter.session).1 chunks
      adapter.socket.sent up

/-- What an adapter handed on of what its socket received. -/
def Delivered (surroundings : Surroundings κ ρ) (adapter : AdapterSocket κ ρ) (chunks : List Data) : Prop :=
  match adapter.kind with
  | .direct => adapter.socket.received = chunks
  | .shadowsocks _ _ down => Codes surroundings.coder.input (surroundings.start adapter.session).2
      adapter.socket.received chunks down

structure Forwards (adapter : AdapterSocket κ ρ) : Prop where
  running : adapter.cancelled = false
  connected : adapter.socket.connecting = false
  forwards : ∀ internalStatus up down, adapter.kind = .shadowsocks internalStatus up down →
    internalStatus = .forwarding

/-- The socket of an adapter before any traffic. -/
structure Blank (surroundings : Surroundings κ ρ) (adapter : AdapterSocket κ ρ) : Prop where
  reads : adapter.socket.reads = []
  writes : adapter.socket.writes = 0
  written : adapter.Written surroundings []
  delivered : adapter.Delivered surroundings []

/-- An adapter whose connection is under way, or which could not ask for one. -/
structure Opening (surroundings : Surroundings κ ρ) (adapter : AdapterSocket κ ρ) : Prop
    extends Blank surroundings adapter where
  awaited : adapter.socket.connecting = true ∧ adapter.cancelled = false ∨
    adapter.socket.connecting = false ∧ adapter.socket.leaving = true

end AdapterSocket

namespace Tunnel
variable {κ ρ : Type} (surroundings : Surroundings κ ρ)

/-- What is under way from the local side to the remote one. -/
def uploading (tunnel : Tunnel κ ρ) : Nat :=
  tunnel.proxySocket.socket.reads.length + (tunnel.adapterSocket.map (·.socket.writes)).getD 0

/-- What is under way from the remote side to the local one. -/
def downloading (tunnel : Tunnel κ ρ) : Nat :=
  (tunnel.adapterSocket.map (·.socket.reads.length)).getD 0 + tunnel.proxySocket.socket.writes + tunnel.timers

def Uplink (count : Nat) (proxy : ProxySocket) (adapter : AdapterSocket κ ρ) : Prop :=
  proxy.socket.reads.length + adapter.socket.writes = count ∧ ∃ chunks,
    proxy.Relayed surroundings.foundation proxy.socket.reads.head? chunks ∧ adapter.Written surroundings chunks

def Downlink (count timers : Nat) (proxy : ProxySocket) (adapter : AdapterSocket κ ρ) : Prop :=
  adapter.socket.reads.length + proxy.socket.writes + timers = count ∧ ∃ chunks,
    adapter.Delivered surroundings chunks ∧ proxy.socket.sent = proxy.greeting ++ chunks

/-- No byte has gone to the local side, and none is asked of the remote one. -/
structure Early (tunnel : Tunnel κ ρ) : Prop where
  signal : tunnel.readySignal = 0
  timers : tunnel.timers = 0
  writes : tunnel.proxySocket.socket.writes = 0
  sent : tunnel.proxySocket.socket.sent = []

/-- The request is known and nothing of it is sent yet. -/
structure Requested (tunnel : Tunnel κ ρ) : Prop where
  opened : tunnel.status.Preparing
  running : tunnel.proxySocket.cancelled = false
  reads : tunnel.proxySocket.socket.reads = []
  relayed : tunnel.proxySocket.Relayed surroundings.foundation none []

/-- Both sides are ready, and what goes to the local one is in order. -/
structure Linked (down : Nat) (tunnel : Tunnel κ ρ) (adapter : AdapterSocket κ ρ) : Prop where
  present : tunnel.adapterSocket = some adapter
  status : tunnel.status = .forwarding
  resolving : tunnel.resolving = none
  running : tunnel.proxySocket.cancelled = false
  proxy : tunnel.proxySocket.Forwards
  remote : adapter.Forwards
  down : Downlink surroundings down tunnel.timers tunnel.proxySocket adapter

structure Forwarding (up down : Nat) (tunnel : Tunnel κ ρ) (adapter : AdapterSocket κ ρ) : Prop
    extends Linked surroundings down tunnel adapter where
  up : Uplink surroundings up tunnel.proxySocket adapter

/-- Where a running tunnel stands. -/
inductive Phase (tunnel : Tunnel κ ρ) : Prop
  | made (fresh : tunnel.Fresh)
  | reading (http : HTTPProxySocket) (early : tunnel.Early) (adapter : tunnel.adapterSocket = none)
      (resolving : tunnel.resolving = none) (opened : tunnel.status.Preparing)
      (kind : tunnel.proxySocket.kind = .http http) (scanner : http.scanner = {})
      (status : http.readStatus = .readingFirstHeader) (running : tunnel.proxySocket.cancelled = false)
      (reads : tunnel.proxySocket.socket.reads = [.pattern HTTPProxySocket.doubleCRLF])
      (received : tunnel.proxySocket.socket.received = [])
  | refused (early : tunnel.Early) (adapter : tunnel.adapterSocket = none)
      (resolving : tunnel.resolving = none) (opened : tunnel.status.Preparing)
      (reads : tunnel.proxySocket.socket.reads = []) (leaving : tunnel.proxySocket.socket.leaving = true)
  | resolving (early : tunnel.Early) (requested : tunnel.Requested surroundings)
      (adapter : tunnel.adapterSocket = none) (resolving : tunnel.resolving.isSome)
  | connecting (early : tunnel.Early) (requested : tunnel.Requested surroundings) (adapter : AdapterSocket κ ρ)
      (present : tunnel.adapterSocket = some adapter) (resolving : tunnel.resolving = none)
      (opening : adapter.Opening surroundings)
  | responding (requested : tunnel.Requested surroundings) (adapter : AdapterSocket κ ρ)
      (present : tunnel.adapterSocket = some adapter) (resolving : tunnel.resolving = none)
      (blank : adapter.Blank surroundings) (forwards : adapter.Forwards) (http : HTTPProxySocket)
      (kind : tunnel.proxySocket.kind = .http http) (command : http.isConnectCommand = true)
      (status : http.writeStatus = .sendingConnectResponse) (signal : tunnel.readySignal = 1)
      (timers : tunnel.timers = 0) (writes : tunnel.proxySocket.socket.writes = 1)
      (sent : tunnel.proxySocket.socket.sent = [HTTPProxySocket.connectSuccessResponse])
  | forwarding (adapter : AdapterSocket κ ρ) (forwarding : tunnel.Forwarding surroundings 1 1 adapter)
  | ending (adapter : AdapterSocket κ ρ) (present : tunnel.adapterSocket = some adapter)
      (status : tunnel.status = .forwarding) (resolving : tunnel.resolving = none)
      (proxy : tunnel.proxySocket.Forwards) (remote : adapter.Forwards)
      (ended : tunnel.proxySocket.cancelled = true) (leaving : tunnel.proxySocket.socket.leaving = true)
      (up : tunnel.uploading = 0)

/-- What holds between two events: one operation at most in each direction, and the phase of a
tunnel that still runs. -/
structure Flow (tunnel : Tunnel κ ρ) : Prop where
  up : tunnel.uploading ≤ 1
  down : tunnel.downloading ≤ 1
  phase : tunnel.cancelled = false → tunnel.Phase surroundings

end Tunnel

namespace AdapterSocket
variable {κ ρ : Type} {surroundings : Surroundings κ ρ} {adapter next : AdapterSocket κ ρ}

theorem writeRaw_running (running : adapter.cancelled = false) (data : Data) :
    adapter.writeRaw data = {adapter with socket := adapter.socket.write data} := by
  rw [writeRaw,running]
  rfl

theorem readData_running (running : adapter.cancelled = false) :
    adapter.readData = {adapter with socket := adapter.socket.read .data} := by
  rw [readData,running]
  rfl

/-- A write of an adapter goes through its coder, and leaves what it reads alone. -/
theorem written_write (forwards : adapter.Forwards) {chunks : List Data} (written : adapter.Written surroundings chunks)
    {data : Data} (stepped : adapter.write surroundings.coder data = some next) :
    next.Forwards ∧ next.Written surroundings (chunks ++ [data]) ∧
      next.socket.writes = adapter.socket.writes + 1 ∧ next.socket.reads = adapter.socket.reads ∧
      ∀ chunks, adapter.Delivered surroundings chunks → next.Delivered surroundings chunks := by
  obtain ⟨running,connected,ready⟩ := forwards
  rw [write] at stepped
  rw [Written] at written
  cases kind : adapter.kind with
  | direct =>
    rw [kind] at stepped written
    cases stepped
    rw [writeRaw_running running]
    refine ⟨⟨running,connected,ready⟩,?_,rfl,rfl,fun chunks delivered => ?_⟩
    · rw [Written]
      simp only [kind,RawSocket.write,written]
    · rw [Delivered] at delivered ⊢
      simpa only [kind,RawSocket.write] using delivered
  | shadowsocks internalStatus up down =>
    rw [kind] at stepped written
    obtain ⟨⟨coded,later⟩,output,stepped⟩ := Option.bind_eq_some_iff.mp stepped
    cases stepped
    rw [writeRaw_running (by exact running)]
    refine ⟨⟨running,connected,?_⟩,written.snoc output,rfl,rfl,fun chunks delivered => ?_⟩
    · rintro _ _ _ ⟨⟩
      exact ready _ _ _ kind
    · rw [Delivered,kind] at delivered
      exact delivered

end AdapterSocket

namespace TunnelStatus
variable {status : TunnelStatus}

theorem Preparing.opened (preparing : status.Preparing) : status ≠ .invalid := by
  rcases preparing with rfl | rfl <;> exact TunnelStatus.noConfusion

theorem Preparing.waits (preparing : status.Preparing) : status ≠ .forwarding := by
  rcases preparing with rfl | rfl <;> exact TunnelStatus.noConfusion

end TunnelStatus

namespace Tunnel
variable {κ ρ : Type} {surroundings : Surroundings κ ρ} {tunnel : Tunnel κ ρ} {adapter : AdapterSocket κ ρ}

/-- What the proxy socket hands on while nothing is under way is written to the adapter. -/
theorem linked_didReadProxy {down : Nat} (linked : tunnel.Linked surroundings down adapter)
    (running : tunnel.cancelled = false) (reads : tunnel.proxySocket.socket.reads = [])
    (writes : adapter.socket.writes = 0) {chunks : List Data} {data : Data}
    (relayed : tunnel.proxySocket.Relayed surroundings.foundation none (chunks ++ [data]))
    (written : adapter.Written surroundings chunks) {next : Tunnel κ ρ}
    (stepped : didReadProxy surroundings tunnel data = some next) :
    next.cancelled = false ∧ ∃ remote, next.Forwarding surroundings 1 down remote := by
  obtain ⟨present,status,resolving,open_proxy,proxy,remote,counted,delivered,order,sent⟩ := linked
  rw [didReadProxy,running] at stepped
  obtain ⟨adapter,present',stepped⟩ := Option.bind_eq_some_iff.mp stepped
  cases present.symm.trans present'
  obtain ⟨later,step,stepped⟩ := Option.bind_eq_some_iff.mp stepped
  cases stepped
  obtain ⟨forwards,written',writes',reads',kept⟩ := AdapterSocket.written_write remote written step
  refine ⟨running,later,⟨rfl,status,resolving,open_proxy,proxy,forwards,?_,delivered,kept _ order,sent⟩,?_,
    chunks ++ [data],?_,written'⟩
  · rw [reads']
    exact counted
  · simp only [reads,writes',writes,List.length_nil]
  · simp only [reads,List.head?_nil]
    exact relayed

/-- `proxySocket.readData()` of a tunnel that forwards takes up the way to the remote side. -/
theorem forwarding_readDataProxy {down : Nat} (forwarding : tunnel.Forwarding surroundings 0 down adapter)
    (running : tunnel.cancelled = false) {next : Tunnel κ ρ}
    (stepped : readDataProxy surroundings tunnel = some next) :
    next.cancelled = false ∧ ∃ remote, next.Forwarding surroundings 1 down remote := by
  obtain ⟨linked,counted,chunks,relayed,written⟩ := forwarding
  have reads : tunnel.proxySocket.socket.reads = [] := List.length_eq_zero_iff.mp (by omega)
  have writes : adapter.socket.writes = 0 := by omega
  rw [reads,List.head?_nil] at relayed
  obtain ⟨present,status,resolving,open_proxy,proxy,remote,delivered⟩ := linked
  rw [readDataProxy,open_proxy] at stepped
  simp only [Bool.false_eq_true,if_false] at stepped
  rw [ProxySocket.Relayed] at relayed
  cases kind : tunnel.proxySocket.kind with
  | direct destinationIPAddress =>
    rw [kind] at stepped relayed
    cases stepped
    refine ⟨running,adapter,⟨present,status,resolving,open_proxy,proxy,remote,delivered⟩,?_,chunks,?_,written⟩
    · simp [readProxy,ProxySocket.read,RawSocket.read,reads,writes]
    · rw [ProxySocket.Relayed]
      simpa only [readProxy,ProxySocket.read,RawSocket.read,kind] using relayed
  | http http =>
    rw [kind] at stepped relayed
    obtain ⟨⟨asked,later⟩,read,stepped⟩ := Option.bind_eq_some_iff.mp stepped
    obtain ⟨asked',later',read',outcome⟩ := HTTPProxySocket.framed_readData relayed
    cases read.symm.trans read'
    obtain ⟨command,write⟩ := HTTPProxySocket.readData_kept read
    have forwards : ({tunnel.proxySocket with kind := .http later} : ProxySocket).Forwards := by
      rintro _ ⟨⟩
      exact write.trans (proxy http kind)
    have greeting : ({tunnel.proxySocket with kind := .http later} : ProxySocket).greeting =
        tunnel.proxySocket.greeting := by
      simp only [ProxySocket.greeting,kind,command]
    rw [Downlink,← greeting] at delivered
    rcases outcome with ⟨data,rfl,framed⟩ | ⟨request,rfl,framed⟩
    · have linked : (tunnel.withHTTP later).Linked surroundings down adapter :=
        ⟨present,status,resolving,open_proxy,forwards,remote,delivered⟩
      refine linked_didReadProxy linked running reads writes ?_ written stepped
      rw [ProxySocket.Relayed]
      simpa only [withHTTP,List.flatten_append,List.flatten_singleton] using framed
    · cases stepped
      refine ⟨running,adapter,⟨present,status,resolving,open_proxy,forwards,remote,delivered⟩,?_,chunks,?_,written⟩
      · simp [readProxy,withHTTP,ProxySocket.read,RawSocket.read,reads,writes]
      · rw [ProxySocket.Relayed]
        simpa only [readProxy,withHTTP,ProxySocket.read,RawSocket.read,reads,List.nil_append,List.head?_cons]
          using framed

/-- `adapterSocket?.readData()` takes up the way back. -/
theorem forwarding_readAdapter {up down : Nat} (forwarding : tunnel.Forwarding surroundings up down adapter) :
    ∃ remote, (readAdapter tunnel).Forwarding surroundings up (down + 1) remote := by
  obtain ⟨⟨present,status,resolving,open_proxy,proxy,remote,counted,delivered⟩,written⟩ := forwarding
  obtain ⟨running,connected,forwards⟩ := remote
  refine ⟨{adapter with socket := adapter.socket.read .data},⟨?_,status,resolving,open_proxy,proxy,
    ⟨running,connected,forwards⟩,?_,delivered⟩,written⟩
  · rw [readAdapter,present,Option.map_some,AdapterSocket.readData_running running]
  · simp only [readAdapter,RawSocket.read,List.length_append,List.length_singleton]
    omega

/-- The second signal starts both directions. -/
theorem forwarding_becomeReady
    (forwarding : ({tunnel with status := .forwarding} : Tunnel κ ρ).Forwarding surroundings 0 0 adapter)
    (running : tunnel.cancelled = false) (signal : tunnel.readySignal = 1) {next : Tunnel κ ρ}
    (stepped : becomeReady surroundings tunnel = some next) :
    ∃ remote, next.Forwarding surroundings 1 1 remote := by
  have second : tunnel.readySignal + 1 = 2 := by rw [signal]
  rw [becomeReady,if_neg (by simp [running])] at stepped
  dsimp only at stepped
  rw [if_pos second] at stepped
  obtain ⟨read,reads,rfl⟩ := Option.map_eq_some_iff.mp stepped
  have signalled : ({tunnel with readySignal := tunnel.readySignal + 1, status := .forwarding} :
      Tunnel κ ρ).Forwarding surroundings 0 0 adapter := by
    obtain ⟨⟨present,status,resolving,open_proxy,proxy,remote,down⟩,up⟩ := forwarding
    exact ⟨⟨present,status,resolving,open_proxy,proxy,remote,down⟩,up⟩
  obtain ⟨-,remote,uplink⟩ := forwarding_readDataProxy signalled running reads
  exact forwarding_readAdapter uplink

theorem becomeReady_first (running : tunnel.cancelled = false) (signal : tunnel.readySignal = 0) :
    becomeReady surroundings tunnel = some {tunnel with readySignal := 1} := by
  simp [becomeReady,running,signal]

theorem flow_forwarding (forwarding : tunnel.Forwarding surroundings 1 1 adapter) : tunnel.Flow surroundings := by
  have present := forwarding.present
  have up := forwarding.up.1
  have down := forwarding.down.1
  refine ⟨?_,?_,fun _ => .forwarding adapter forwarding⟩
  · rw [uploading,present,Option.map_some,Option.getD_some]
    omega
  · rw [downloading,present,Option.map_some,Option.getD_some]
    omega

/-- `respondTo` of the proxy socket, once the adapter is ready. -/
theorem flow_respondTo (running : tunnel.cancelled = false) (signal : tunnel.readySignal = 1)
    (requested : tunnel.Requested surroundings) (present : tunnel.adapterSocket = some adapter)
    (resolving : tunnel.resolving = none) (blank : adapter.Blank surroundings) (forwards : adapter.Forwards)
    (timers : tunnel.timers = 0) (writes : tunnel.proxySocket.socket.writes = 0)
    (sent : tunnel.proxySocket.socket.sent = []) {next : Tunnel κ ρ}
    (stepped : respondTo surroundings tunnel = some next) : next.Flow surroundings := by
  obtain ⟨opened,open_proxy,reads,relayed⟩ := requested
  rw [respondTo,open_proxy] at stepped
  simp only [Bool.false_eq_true,if_false] at stepped
  cases kind : tunnel.proxySocket.kind with
  | direct destinationIPAddress =>
    rw [kind] at stepped
    have silent : tunnel.proxySocket.greeting = [] := by rw [ProxySocket.greeting,kind]
    have ready : ({tunnel with status := .forwarding} : Tunnel κ ρ).Forwarding surroundings 0 0 adapter := by
      refine ⟨⟨present,rfl,resolving,open_proxy,?_,forwards,?_,[],blank.delivered,?_⟩,?_,[],?_,blank.written⟩
      · intro http impossible
        exact absurd (kind.symm.trans impossible) ProxySocketKind.noConfusion
      · simp only [blank.reads,writes,timers,List.length_nil]
      · simp only [sent,silent,List.append_nil]
      · simp only [reads,blank.writes,List.length_nil]
      · simp only [reads,List.head?_nil]
        exact relayed
    obtain ⟨remote,forwarding⟩ := forwarding_becomeReady ready running signal stepped
    exact flow_forwarding forwarding
  | http http =>
    rw [kind] at stepped
    rw [ProxySocket.Relayed,kind] at relayed
    dsimp only at stepped
    split at stepped
    · next command =>
      cases stepped
      have responds : (tunnel.withHTTP {http with writeStatus := .sendingConnectResponse}).proxySocket.write
          HTTPProxySocket.connectSuccessResponse = {tunnel.proxySocket with
            kind := .http {http with writeStatus := .sendingConnectResponse}
            socket := tunnel.proxySocket.socket.write HTTPProxySocket.connectSuccessResponse} := by
        simp [withHTTP,ProxySocket.write,open_proxy]
      rw [responds]
      refine ⟨?_,?_,fun _ => .responding ⟨opened,open_proxy,reads,?_⟩ adapter present resolving blank forwards
        {http with writeStatus := .sendingConnectResponse} rfl command rfl signal timers ?_ ?_⟩
      · simp [uploading,withHTTP,RawSocket.write,reads,present,blank.writes]
      · simp [downloading,withHTTP,RawSocket.write,present,blank.reads,writes,timers]
      · exact HTTPProxySocket.framed_writeStatus relayed _
      · simp [RawSocket.write,writes]
      · simp [RawSocket.write,sent]
    · next plain =>
      have silent : ({tunnel.proxySocket with kind := .http {http with writeStatus := .forwarding}} :
          ProxySocket).greeting = [] := by simp [ProxySocket.greeting,plain]
      have ready : ({tunnel.withHTTP {http with writeStatus := .forwarding} with status := .forwarding} :
          Tunnel κ ρ).Forwarding surroundings 0 0 adapter := by
        refine ⟨⟨present,rfl,resolving,open_proxy,?_,forwards,?_,[],blank.delivered,?_⟩,?_,[],?_,blank.written⟩
        · rintro _ ⟨⟩
          rfl
        · simp only [withHTTP,blank.reads,writes,timers,List.length_nil]
        · simp only [withHTTP,sent,silent,List.append_nil]
        · simp only [withHTTP,reads,blank.writes,List.length_nil]
        · rw [withHTTP,reads,List.head?_nil]
          exact HTTPProxySocket.framed_writeStatus relayed _
      obtain ⟨remote,forwarding⟩ := forwarding_becomeReady ready running signal stepped
      exact flow_forwarding forwarding

theorem loads_of_traffic {first second : Tunnel κ ρ}
    (same : first.sockets.map traffic = second.sockets.map traffic) (timers : first.timers = second.timers) :
    first.uploading = second.uploading ∧ first.downloading = second.downloading := by
  cases one : first.adapterSocket with
  | none => cases other : second.adapterSocket <;> simp_all [sockets,traffic,uploading,downloading]
  | some adapter => cases other : second.adapterSocket <;> simp_all [sockets,traffic,uploading,downloading]

/-- The tunnel is cancelled, and no operation more is under way. -/
structure Fades (tunnel next : Tunnel κ ρ) : Prop where
  cancelled : next.cancelled = true
  up : next.uploading ≤ tunnel.uploading
  down : next.downloading ≤ tunnel.downloading

theorem flow_fades {next : Tunnel κ ρ} (up : tunnel.uploading ≤ 1) (down : tunnel.downloading ≤ 1)
    (fades : Fades tunnel next) : next.Flow surroundings :=
  ⟨fades.up.trans up,fades.down.trans down,fun running => absurd (running.symm.trans fades.cancelled) (by decide)⟩

theorem fades_hushed {f : Tunnel κ ρ → Tunnel κ ρ} (hushed : Hushed f) {first : Tunnel κ ρ}
    (cancelled : (f first).cancelled = true) (up : first.uploading ≤ tunnel.uploading)
    (down : first.downloading ≤ tunnel.downloading) : Fades tunnel (f first) := by
  obtain ⟨same,timers,-⟩ := hushed first
  obtain ⟨up',down'⟩ := loads_of_traffic same timers
  exact ⟨cancelled,up'.trans_le up,down'.trans_le down⟩

theorem fades_close (tunnel : Tunnel κ ρ) : Fades tunnel (close tunnel) :=
  fades_hushed hushed_close (cancelled_close tunnel) le_rfl le_rfl

theorem fades_didDisconnectWith {first : Tunnel κ ρ} (up : first.uploading ≤ tunnel.uploading)
    (down : first.downloading ≤ tunnel.downloading) : Fades tunnel (didDisconnectWith first) :=
  fades_hushed hushed_didDisconnectWith (cancelled_didDisconnectWith first) up down

theorem fades_disconnectProxy {first : Tunnel κ ρ} (cancelled : first.cancelled = true)
    (up : first.uploading ≤ tunnel.uploading) (down : first.downloading ≤ tunnel.downloading) :
    Fades tunnel (disconnectProxy didDisconnectWith first) :=
  have hushed := hushed_disconnectProxy hushed_didDisconnectWith
  fades_hushed hushed ((hushed first).2.2 cancelled) up down

theorem fades_proxyRead (cancelled : tunnel.cancelled = true) {data : Data} {next : Tunnel κ ρ}
    (stepped : proxyRead surroundings tunnel data = some next) : Fades tunnel next := by
  have up (kind : ProxySocketKind) : ({tunnel with proxySocket := {tunnel.proxySocket with
      kind
      socket := tunnel.proxySocket.socket.didRead data}} : Tunnel κ ρ).uploading ≤ tunnel.uploading := by
    simp only [uploading,RawSocket.didRead,List.length_tail]
    omega
  rw [proxyRead] at stepped
  dsimp only at stepped
  split at stepped
  · rw [didReadProxy_cancelled (by exact cancelled)] at stepped
    cases stepped
    exact ⟨cancelled,up tunnel.proxySocket.kind,le_rfl⟩
  · obtain ⟨⟨heard,http⟩,-,stepped⟩ := Option.bind_eq_some_iff.mp stepped
    dsimp only at stepped
    cases heard with
    | request host port =>
      dsimp only at stepped
      rw [didReceive_cancelled (by exact cancelled)] at stepped
      cases stepped
      exact ⟨cancelled,up (.http http),le_rfl⟩
    | data bytes =>
      dsimp only at stepped
      rw [didReadProxy_cancelled (by exact cancelled)] at stepped
      cases stepped
      exact ⟨cancelled,up (.http http),le_rfl⟩
    | failed error =>
      cases stepped
      exact fades_disconnectProxy cancelled (up (.http http)) le_rfl
    | nothing =>
      cases stepped
      exact ⟨cancelled,up (.http http),le_rfl⟩

theorem fades_proxyWrote (cancelled : tunnel.cancelled = true) {next : Tunnel κ ρ}
    (stepped : proxyWrote surroundings tunnel = some next) : Fades tunnel next := by
  have down (kind : ProxySocketKind) : ({tunnel with proxySocket := {tunnel.proxySocket with
      kind
      socket := tunnel.proxySocket.socket.didWrite}} : Tunnel κ ρ).downloading ≤ tunnel.downloading := by
    simp only [downloading,RawSocket.didWrite]
    omega
  rw [proxyWrote] at stepped
  dsimp only at stepped
  split at stepped
  · rw [didWriteProxy_cancelled (by exact cancelled)] at stepped
    cases stepped
    exact ⟨cancelled,le_rfl,down tunnel.proxySocket.kind⟩
  · next http _ =>
    split at stepped
    · rw [becomeReady_cancelled (by exact cancelled)] at stepped
      cases stepped
      exact ⟨cancelled,le_rfl,down (.http {http with writeStatus := .forwarding})⟩
    · rw [didWriteProxy_cancelled (by exact cancelled)] at stepped
      cases stepped
      exact ⟨cancelled,le_rfl,down tunnel.proxySocket.kind⟩

theorem fades_adapter (cancelled : tunnel.cancelled = true) {next : AdapterSocket κ ρ}
    (present : tunnel.adapterSocket = some adapter) (writes : next.socket.writes ≤ adapter.socket.writes)
    (reads : next.socket.reads.length ≤ adapter.socket.reads.length) :
    Fades tunnel {tunnel with adapterSocket := some next} := by
  refine ⟨cancelled,?_,?_⟩
  · simp only [uploading,present,Option.map_some,Option.getD_some]
    omega
  · simp only [downloading,present,Option.map_some,Option.getD_some]
    omega

theorem fades_adapterConnected (cancelled : tunnel.cancelled = true)
    (present : tunnel.adapterSocket = some adapter) {next : Tunnel κ ρ}
    (stepped : adapterConnected surroundings tunnel adapter = some next) : Fades tunnel next := by
  rw [adapterConnected] at stepped
  dsimp only at stepped
  split at stepped <;>
  · rw [becomeReadyAdapter_cancelled (by exact cancelled)] at stepped
    cases stepped
    exact fades_adapter cancelled present le_rfl le_rfl

theorem fades_adapterRead (cancelled : tunnel.cancelled = true)
    (present : tunnel.adapterSocket = some adapter) {data : Data} {next : Tunnel κ ρ}
    (stepped : adapterRead surroundings tunnel adapter data = some next) : Fades tunnel next := by
  have fewer : (adapter.socket.didRead data).reads.length ≤ adapter.socket.reads.length := by
    simp [RawSocket.didRead]
  rw [adapterRead] at stepped
  split at stepped
  · rw [didReadAdapter_cancelled (by exact cancelled)] at stepped
    cases stepped
    exact fades_adapter cancelled present le_rfl fewer
  · obtain ⟨⟨plain,down⟩,-,stepped⟩ := Option.bind_eq_some_iff.mp stepped
    dsimp only at stepped
    rw [didReadAdapter_cancelled (by exact cancelled)] at stepped
    cases stepped
    exact fades_adapter cancelled present le_rfl fewer

theorem fades_adapterWrote (cancelled : tunnel.cancelled = true)
    (present : tunnel.adapterSocket = some adapter) {next : Tunnel κ ρ}
    (stepped : adapterWrote surroundings tunnel adapter = some next) : Fades tunnel next := by
  have fewer : adapter.socket.didWrite.writes ≤ adapter.socket.writes := Nat.sub_le _ _
  rw [adapterWrote] at stepped
  split at stepped
  · rw [didWriteAdapter_cancelled (by exact cancelled)] at stepped
    cases stepped
    exact fades_adapter cancelled present fewer le_rfl
  · split at stepped
    · rw [didWriteAdapter_cancelled (by exact cancelled)] at stepped
      cases stepped
      exact fades_adapter cancelled present fewer le_rfl
    · cases stepped
      exact fades_adapter cancelled present fewer le_rfl

/-- A timer that fires hands what is under way to the remote socket, at most. -/
theorem loads_readAgain (due : 0 < tunnel.timers) :
    (readAdapter {tunnel with timers := tunnel.timers - 1}).uploading = tunnel.uploading ∧
      (readAdapter {tunnel with timers := tunnel.timers - 1}).downloading ≤ tunnel.downloading := by
  have read (adapter : AdapterSocket κ ρ) : adapter.readData.socket.writes = adapter.socket.writes ∧
      adapter.readData.socket.reads.length ≤ adapter.socket.reads.length + 1 := by
    rw [AdapterSocket.readData]
    split
    · exact ⟨rfl,Nat.le_succ _⟩
    · exact ⟨rfl,by simp [RawSocket.read]⟩
  cases remote : tunnel.adapterSocket with
  | none =>
    refine ⟨by simp only [uploading,readAdapter,remote,Option.map_none],?_⟩
    simp only [downloading,readAdapter,remote,Option.map_none,Option.getD_none]
    omega
  | some adapter =>
    obtain ⟨writes,reads⟩ := read adapter
    refine ⟨by simp only [uploading,readAdapter,remote,Option.map_some,Option.getD_some,writes],?_⟩
    simp only [downloading,readAdapter,remote,Option.map_some,Option.getD_some]
    omega

theorem fades_handle (cancelled : tunnel.cancelled = true) {event : Event} (enabled : tunnel.Enabled event)
    {next : Tunnel κ ρ} (stepped : handle surroundings tunnel event = some next) : Fades tunnel next := by
  cases event with
  | openTunnel =>
    rw [handle,openTunnel,if_pos cancelled] at stepped
    cases stepped
    exact ⟨cancelled,le_rfl,le_rfl⟩
  | close =>
    cases stepped
    exact fades_close tunnel
  | proxyRead data => exact fades_proxyRead cancelled stepped
  | proxyWrote => exact fades_proxyWrote cancelled stepped
  | proxyDisconnected =>
    cases stepped
    exact fades_didDisconnectWith le_rfl le_rfl
  | proxyLost =>
    cases stepped
    exact ⟨cancelled,le_rfl,le_rfl⟩
  | adapterConnected =>
    obtain ⟨adapter,present,stepped⟩ := Option.bind_eq_some_iff.mp stepped
    exact fades_adapterConnected cancelled present stepped
  | adapterRead data =>
    obtain ⟨adapter,present,stepped⟩ := Option.bind_eq_some_iff.mp stepped
    exact fades_adapterRead cancelled present stepped
  | adapterWrote =>
    obtain ⟨adapter,present,stepped⟩ := Option.bind_eq_some_iff.mp stepped
    exact fades_adapterWrote cancelled present stepped
  | adapterDisconnected =>
    obtain ⟨adapter,present,rfl⟩ := Option.map_eq_some_iff.mp stepped
    obtain ⟨-,up,down⟩ := @fades_adapter _ _ _ _ cancelled {adapter with
      status := .closed
      socket := {adapter.socket with closed := true}} present le_rfl le_rfl
    exact fades_didDisconnectWith up down
  | adapterLost =>
    obtain ⟨adapter,present,rfl⟩ := Option.map_eq_some_iff.mp stepped
    exact fades_adapter cancelled present le_rfl le_rfl
  | resolved ipv4Result =>
    obtain ⟨host,-,stepped⟩ := Option.bind_eq_some_iff.mp stepped
    obtain ⟨ipAddress,-,stepped⟩ := Option.bind_eq_some_iff.mp stepped
    rw [openAdapter_cancelled (by exact cancelled)] at stepped
    cases stepped
    exact ⟨cancelled,le_rfl,le_rfl⟩
  | readAgain =>
    cases stepped
    obtain ⟨up,down⟩ := loads_readAgain enabled
    exact ⟨cancelled,up.le,down⟩

theorem openAdapter_running (running : tunnel.cancelled = false) {host ipAddress : Text} {next : Tunnel κ ρ}
    (stepped : openAdapter surroundings tunnel host ipAddress = some next) :
    ∃ adapter : AdapterSocket κ ρ, adapter.Opening surroundings ∧
      next = {tunnel with adapterSocket := some adapter} := by
  rw [openAdapter,if_neg (by simp [running])] at stepped
  obtain ⟨factory,-,stepped⟩ := Option.bind_eq_some_iff.mp stepped
  obtain ⟨adapter,made⟩ : ∃ adapter, adapterFor surroundings
    ⟨host,ipAddress,surroundings.country ipAddress,none⟩ factory = adapter := ⟨_,rfl⟩
  have fresh : adapter.socket = {} ∧ adapter.cancelled = false ∧
      ∀ socket : RawSocket, socket.sent = [] → socket.received = [] →
        ({adapter with socket} : AdapterSocket κ ρ).Written surroundings [] ∧
        ({adapter with socket} : AdapterSocket κ ρ).Delivered surroundings [] := by
    rw [← made]
    cases factory with
    | direct => exact ⟨rfl,rfl,fun socket sent received => ⟨sent,received⟩⟩
    | shadowsocks =>
      refine ⟨rfl,rfl,fun socket sent received => ⟨?_,?_⟩⟩
      · simp only [adapterFor,AdapterSocket.Written,sent]
        exact Codes.nil
      · simp only [adapterFor,AdapterSocket.Delivered,received]
        exact Codes.nil
  obtain ⟨socket,uncancelled,coded⟩ := fresh
  dsimp only at stepped
  rw [made] at stepped
  split at stepped
  · cases stepped
    refine ⟨{adapter with
        status := .disconnecting
        cancelled := true
        socket := {adapter.socket with leaving := true}},⟨⟨?_,?_,?_,?_⟩,Or.inr ⟨?_,rfl⟩⟩,?_⟩
    · rw [socket]
    · rw [socket]
    · exact (coded {adapter.socket with leaving := true} (by rw [socket]) (by rw [socket])).1
    · exact (coded {adapter.socket with leaving := true} (by rw [socket]) (by rw [socket])).2
    · rw [socket]
    · simp [disconnectAdapter,socket]
  · next gone _ =>
    cases stepped
    refine ⟨{adapter with socket := {adapter.socket with gone, connecting := true}},
      ⟨⟨?_,?_,?_,?_⟩,Or.inl ⟨rfl,uncancelled⟩⟩,rfl⟩
    · rw [socket]
    · rw [socket]
    · exact (coded {adapter.socket with gone, connecting := true} (by rw [socket]) (by rw [socket])).1
    · exact (coded {adapter.socket with gone, connecting := true} (by rw [socket]) (by rw [socket])).2

/-- The request is under way: its host is being resolved, or the adapter opens. -/
def Asking (surroundings : Surroundings κ ρ) (tunnel : Tunnel κ ρ) : Prop :=
  (tunnel.adapterSocket = none ∧ tunnel.resolving.isSome) ∨
    (tunnel.resolving = none ∧ ∃ adapter, tunnel.adapterSocket = some adapter ∧ adapter.Opening surroundings)

theorem didReceive_running (running : tunnel.cancelled = false) (missing : tunnel.adapterSocket = none)
    (resolving : tunnel.resolving = none) {host : Text} {next : Tunnel κ ρ}
    (stepped : didReceive surroundings tunnel host = some next) :
    next.Asking surroundings ∧ next = {tunnel with
      status := .waitingToBeReady
      adapterSocket := next.adapterSocket
      resolving := next.resolving} := by
  rw [didReceive,if_neg (by simp [running])] at stepped
  dsimp only at stepped
  split at stepped
  · obtain ⟨adapter,opening,rfl⟩ := openAdapter_running (by exact running) stepped
    exact ⟨Or.inr ⟨resolving,adapter,rfl,opening⟩,rfl⟩
  · cases stepped
    exact ⟨Or.inl ⟨missing,rfl⟩,rfl⟩

theorem flow_requested (early : tunnel.Early) (requested : tunnel.Requested surroundings)
    (asking : tunnel.Asking surroundings) : tunnel.Flow surroundings := by
  rcases asking with ⟨missing,resolving⟩ | ⟨resolved,adapter,present,opening⟩
  · refine ⟨?_,?_,fun _ => .resolving early requested missing resolving⟩
    · simp [uploading,missing,requested.reads]
    · simp [downloading,missing,early.writes,early.timers]
  · refine ⟨?_,?_,fun _ => .connecting early requested adapter present resolved opening⟩
    · simp [uploading,present,requested.reads,opening.writes]
    · simp [downloading,present,early.writes,early.timers,opening.reads]

/-- A proxy socket that disconnects of itself takes the tunnel along at once, or tells it later. -/
theorem disconnectProxy_outcome (open_proxy : tunnel.proxySocket.cancelled = false) :
    Fades tunnel (disconnectProxy didDisconnectWith tunnel) ∨
      disconnectProxy didDisconnectWith tunnel = {tunnel with proxySocket := tunnel.proxySocket.leave} := by
  rw [disconnectProxy]
  simp only [open_proxy,Bool.false_eq_true,if_false]
  split
  · exact Or.inl (fades_didDisconnectWith le_rfl le_rfl)
  · exact Or.inr rfl

theorem flow_refused {next : Tunnel κ ρ} (early : tunnel.Early) (missing : tunnel.adapterSocket = none)
    (resolving : tunnel.resolving = none) (reads : tunnel.proxySocket.socket.reads = []) {status : TunnelStatus}
    (opened : status.Preparing) (outcome : Fades tunnel next ∨ next = {tunnel with
      proxySocket := tunnel.proxySocket.leave
      status := status}) : next.Flow surroundings := by
  have up : tunnel.uploading = 0 := by simp [uploading,missing,reads]
  have down : tunnel.downloading = 0 := by simp [downloading,missing,early.writes,early.timers]
  rcases outcome with fades | rfl
  · exact flow_fades (by omega) (by omega) fades
  · exact ⟨up.trans_le (Nat.zero_le 1),down.trans_le (Nat.zero_le 1),
      fun _ => .refused ⟨early.signal,early.timers,early.writes,early.sent⟩ missing resolving opened reads rfl⟩

theorem flow_openTunnel (fresh : tunnel.Fresh) {next : Tunnel κ ρ}
    (stepped : openTunnel surroundings tunnel = some next) : next.Flow surroundings := by
  obtain ⟨whole,socket,kinds⟩ := fresh
  obtain ⟨kind,kind_eq⟩ : ∃ kind, tunnel.proxySocket.kind = kind := ⟨_,rfl⟩
  obtain ⟨gone,gone_eq⟩ : ∃ gone, tunnel.proxySocket.socket.gone = gone := ⟨_,rfl⟩
  rw [socket,kind_eq,gone_eq] at whole
  rw [kind_eq] at kinds
  subst whole
  rw [openTunnel,if_neg (by simp)] at stepped
  obtain ⟨opened,opens,rfl⟩ := Option.map_eq_some_iff.mp stepped
  rw [openProxy,if_neg (by simp)] at opens
  have early : ({proxySocket := {kind, socket := {gone}}} : Tunnel κ ρ).Early := ⟨rfl,rfl,rfl,rfl⟩
  cases kind with
  | direct destinationIPAddress =>
    cases destinationIPAddress with
    | none =>
      cases opens
      refine @flow_refused _ _ _ _ _ early rfl rfl rfl .readingRequest (Or.inl rfl) ?_
      rcases @disconnectProxy_outcome κ ρ {proxySocket := {kind := .direct none, socket := {gone}}} rfl with
        ⟨cancelled,up,down⟩ | left
      · exact Or.inl ⟨cancelled,up,down⟩
      · exact Or.inr (congrArg (fun tunnel : Tunnel κ ρ => {tunnel with status := .readingRequest}) left)
    | some host =>
      obtain ⟨asking,same⟩ := didReceive_running rfl rfl rfl opens
      obtain ⟨adapterSocket,remote⟩ : ∃ remote, opened.adapterSocket = remote := ⟨_,rfl⟩
      rw [same]
      refine flow_requested ⟨rfl,rfl,rfl,rfl⟩ ⟨Or.inl rfl,rfl,rfl,rfl⟩ asking
  | http http =>
    cases kinds http rfl
    cases opens
    refine ⟨?_,?_,fun _ => .reading {readStatus := .readingFirstHeader} ⟨rfl,rfl,rfl,rfl⟩ rfl rfl
      (Or.inl rfl) rfl rfl rfl rfl rfl rfl⟩
    · simp [uploading,readProxy,withHTTP,ProxySocket.read,RawSocket.read]
    · simp [downloading,readProxy,withHTTP,ProxySocket.read,RawSocket.read]

/-- The request that a phase says is read. -/
theorem phase_reads (phase : tunnel.Phase surroundings) {request : ReadRequest}
    (asked : request ∈ tunnel.proxySocket.socket.reads.head?) :
    (∃ http, tunnel.Early ∧ tunnel.adapterSocket = none ∧ tunnel.resolving = none ∧
        tunnel.proxySocket.kind = .http http ∧ http.scanner = {} ∧ http.readStatus = .readingFirstHeader ∧
        tunnel.status.Preparing ∧ tunnel.proxySocket.cancelled = false ∧
        tunnel.proxySocket.socket.reads = [request] ∧ tunnel.proxySocket.socket.received = []) ∨
      ∃ adapter, tunnel.Forwarding surroundings 1 1 adapter ∧ tunnel.proxySocket.socket.reads = [request] ∧
        adapter.socket.writes = 0 := by
  have absent (reads : tunnel.proxySocket.socket.reads = []) : False := by
    rw [reads] at asked
    cases asked
  cases phase with
  | made fresh => exact (absent (by rw [fresh.socket])).elim
  | reading http early missing resolving opened kind scanner status running reads received =>
    rw [reads] at asked
    cases asked
    exact Or.inl ⟨http,early,missing,resolving,kind,scanner,status,opened,running,reads,received⟩
  | refused early missing resolving opened reads leaving => exact (absent reads).elim
  | resolving early requested missing resolving => exact (absent requested.reads).elim
  | connecting early requested adapter present resolving opening => exact (absent requested.reads).elim
  | responding requested adapter present resolving blank forwards http kind command status signal timers writes sent =>
    exact (absent requested.reads).elim
  | forwarding adapter forwarding =>
    have counted := forwarding.up.1
    cases reads : tunnel.proxySocket.socket.reads with
    | nil => exact (absent reads).elim
    | cons first rest =>
      rw [reads] at asked counted
      cases asked
      rw [List.length_cons] at counted
      have none_left : rest = [] := List.length_eq_zero_iff.mp (by omega)
      subst none_left
      exact Or.inr ⟨adapter,forwarding,rfl,by omega⟩
  | ending adapter present status resolving proxy remote ended leaving up =>
    exact (absent (List.length_eq_zero_iff.mp (by rw [uploading] at up; omega))).elim

/-- A request that cannot be read ends the way to the remote side, and the other way fades out. -/
theorem flow_disconnectProxy (linked : tunnel.Linked surroundings 1 adapter)
    (reads : tunnel.proxySocket.socket.reads = []) (writes : adapter.socket.writes = 0) :
    (disconnectProxy didDisconnectWith tunnel).Flow surroundings := by
  obtain ⟨present,status,resolving,open_proxy,proxy,remote,down⟩ := linked
  have up : tunnel.uploading = 0 := by simp [uploading,reads,present,writes]
  have counted : tunnel.downloading ≤ 1 := by
    simp only [downloading,present,Option.map_some,Option.getD_some]
    exact down.1.le
  rcases disconnectProxy_outcome open_proxy with fades | left
  · exact flow_fades (by omega) counted fades
  · rw [left]
    exact ⟨up.trans_le (Nat.zero_le 1),counted,
      fun _ => .ending adapter present status resolving proxy remote rfl rfl up⟩

theorem flow_readFirst (running : tunnel.cancelled = false) (early : tunnel.Early)
    (missing : tunnel.adapterSocket = none) (resolving : tunnel.resolving = none) (opened : tunnel.status.Preparing)
    {http : HTTPProxySocket} (kind : tunnel.proxySocket.kind = .http http) (scanner : http.scanner = {})
    (status : http.readStatus = .readingFirstHeader) (open_proxy : tunnel.proxySocket.cancelled = false)
    {request : ReadRequest} (reads : tunnel.proxySocket.socket.reads = [request])
    (received : tunnel.proxySocket.socket.received = []) {data : Data} {next : Tunnel κ ρ}
    (stepped : proxyRead surroundings tunnel data = some next) : next.Flow surroundings := by
  have emptied : (tunnel.proxySocket.socket.didRead data).reads = [] := by
    rw [RawSocket.didRead,reads]
    rfl
  rw [proxyRead] at stepped
  dsimp only at stepped
  rw [kind] at stepped
  obtain ⟨⟨heard,later⟩,read,stepped⟩ := Option.bind_eq_some_iff.mp stepped
  have early' : (({tunnel with proxySocket := {tunnel.proxySocket with
      socket := tunnel.proxySocket.socket.didRead data}} : Tunnel κ ρ).withHTTP later).Early :=
    ⟨early.signal,early.timers,early.writes,early.sent⟩
  rcases HTTPProxySocket.framed_first scanner status read with ⟨error,rfl⟩ | ⟨host,port,rfl,framed⟩
  · cases stepped
    refine flow_refused early' missing resolving emptied opened ?_
    exact disconnectProxy_outcome open_proxy
  · obtain ⟨asking,same⟩ := didReceive_running (by exact running) (by exact missing) (by exact resolving) stepped
    rw [same]
    rw [same] at asking
    refine flow_requested ⟨early.signal,early.timers,early.writes,early.sent⟩
      ⟨Or.inr rfl,open_proxy,emptied,?_⟩ asking
    rw [ProxySocket.Relayed]
    simpa only [withHTTP,RawSocket.didRead,received,List.nil_append,List.flatten_singleton,List.flatten_nil]
      using framed

theorem flow_readNext (running : tunnel.cancelled = false) (forwarding : tunnel.Forwarding surroundings 1 1 adapter)
    {request : ReadRequest} (reads : tunnel.proxySocket.socket.reads = [request])
    (writes : adapter.socket.writes = 0) {data : Data} (serves : request.Serves data) {next : Tunnel κ ρ}
    (stepped : proxyRead surroundings tunnel data = some next) : next.Flow surroundings := by
  obtain ⟨⟨present,status,resolving,open_proxy,proxy,remote,down⟩,-,chunks,relayed,written⟩ := forwarding
  have emptied : (tunnel.proxySocket.socket.didRead data).reads = [] := by
    rw [RawSocket.didRead,reads]
    rfl
  rw [reads,List.head?_cons,ProxySocket.Relayed] at relayed
  rw [proxyRead] at stepped
  dsimp only at stepped
  cases kind : tunnel.proxySocket.kind with
  | direct destinationIPAddress =>
    rw [kind] at stepped relayed
    rw [Downlink,ProxySocket.greeting,kind] at down
    have linked : ({tunnel with proxySocket := {tunnel.proxySocket with
        kind := .direct destinationIPAddress
        socket := tunnel.proxySocket.socket.didRead data}} : Tunnel κ ρ).Linked surroundings 1 adapter := by
      refine ⟨present,status,resolving,open_proxy,fun http impossible => ?_,remote,down⟩
      exact absurd impossible ProxySocketKind.noConfusion
    obtain ⟨-,later,forwarding⟩ := linked_didReadProxy linked running emptied writes
      (congrArg (· ++ [data]) relayed) written stepped
    exact flow_forwarding forwarding
  | http http =>
    rw [kind] at stepped relayed
    obtain ⟨⟨heard,later⟩,read,stepped⟩ := Option.bind_eq_some_iff.mp stepped
    obtain ⟨write,command⟩ := HTTPProxySocket.didRead_kept read
    have forwards : ({tunnel.proxySocket with
        kind := .http later
        socket := tunnel.proxySocket.socket.didRead data} : ProxySocket).Forwards := by
      rintro _ ⟨⟩
      exact write.trans (proxy http kind)
    rw [Downlink,ProxySocket.greeting,kind] at down
    dsimp only at down
    rw [← command (HTTPProxySocket.framed_status relayed)] at down
    have linked : (({tunnel with proxySocket := {tunnel.proxySocket with
        socket := tunnel.proxySocket.socket.didRead data}} : Tunnel κ ρ).withHTTP later).Linked
          surroundings 1 adapter :=
      ⟨present,status,resolving,open_proxy,forwards,remote,down⟩
    rcases HTTPProxySocket.framed_didRead relayed serves read with ⟨error,rfl,-⟩ | ⟨bytes,rfl,framed⟩
    · cases stepped
      exact flow_disconnectProxy linked emptied writes
    · obtain ⟨-,later,forwarding⟩ := linked_didReadProxy linked running emptied writes (by
        rw [ProxySocket.Relayed]
        simpa only [withHTTP,RawSocket.didRead,List.flatten_append,List.flatten_singleton] using framed)
        written stepped
      exact flow_forwarding forwarding

theorem flow_proxyRead (running : tunnel.cancelled = false) (phase : tunnel.Phase surroundings)
    {request : ReadRequest} (asked : request ∈ tunnel.proxySocket.socket.reads.head?) {data : Data}
    (serves : request.Serves data) {next : Tunnel κ ρ} (stepped : proxyRead surroundings tunnel data = some next) :
    next.Flow surroundings := by
  rcases phase_reads phase asked with
    ⟨http,early,missing,resolving,kind,scanner,status,opened,open_proxy,reads,received⟩ |
      ⟨adapter,forwarding,reads,writes⟩
  · exact flow_readFirst running early missing resolving opened kind scanner status open_proxy reads received stepped
  · exact flow_readNext running forwarding reads writes serves stepped

theorem proxyWrote_forwards (forwards : tunnel.proxySocket.Forwards) (running : tunnel.cancelled = false) :
    proxyWrote surroundings tunnel = some {tunnel with
      proxySocket := {tunnel.proxySocket with socket := tunnel.proxySocket.socket.didWrite}
      timers := tunnel.timers + 1} := by
  rw [proxyWrote]
  dsimp only
  cases kind : tunnel.proxySocket.kind with
  | direct destinationIPAddress => simp [didWriteProxy,running]
  | http http => simp [didWriteProxy,running,forwards http kind]

theorem flow_proxyWrote (running : tunnel.cancelled = false) (phase : tunnel.Phase surroundings)
    (up : tunnel.uploading ≤ 1) (down : tunnel.downloading ≤ 1) (owed : 0 < tunnel.proxySocket.socket.writes)
    {next : Tunnel κ ρ} (stepped : proxyWrote surroundings tunnel = some next) : next.Flow surroundings := by
  have absent (writes : tunnel.proxySocket.socket.writes = 0) : False := by omega
  cases phase with
  | made fresh => exact (absent (by rw [fresh.socket])).elim
  | reading http early missing resolving opened kind scanner status running reads received =>
    exact (absent early.writes).elim
  | refused early missing resolving opened reads leaving => exact (absent early.writes).elim
  | resolving early requested missing resolving => exact (absent early.writes).elim
  | connecting early requested adapter present resolving opening => exact (absent early.writes).elim
  | responding requested adapter present resolving blank forwards http kind command status signal timers writes sent =>
    obtain ⟨opened,open_proxy,reads,relayed⟩ := requested
    rw [ProxySocket.Relayed,kind] at relayed
    rw [proxyWrote] at stepped
    dsimp only at stepped
    rw [kind] at stepped
    dsimp only at stepped
    rw [if_pos status] at stepped
    have ready : ({tunnel with
        proxySocket := {tunnel.proxySocket with
          kind := .http {http with writeStatus := .forwarding}
          socket := tunnel.proxySocket.socket.didWrite}
        status := .forwarding} : Tunnel κ ρ).Forwarding surroundings 0 0 adapter := by
      refine ⟨⟨present,rfl,resolving,open_proxy,?_,forwards,?_,[],blank.delivered,?_⟩,?_,[],?_,blank.written⟩
      · rintro _ ⟨⟩
        rfl
      · simp only [RawSocket.didWrite,blank.reads,writes,timers,List.length_nil]
      · simp only [RawSocket.didWrite,sent,ProxySocket.greeting,command,if_true,List.append_nil]
      · simp only [RawSocket.didWrite,reads,blank.writes,List.length_nil]
      · simp only [RawSocket.didWrite,reads,List.head?_nil]
        exact HTTPProxySocket.framed_writeStatus relayed _
    obtain ⟨remote,forwarding⟩ := forwarding_becomeReady (by exact ready) (by exact running) (by exact signal) stepped
    exact flow_forwarding forwarding
  | forwarding adapter forwarding =>
    obtain ⟨⟨present,status,resolving,open_proxy,proxy,remote,counted,delivered⟩,uplink⟩ := forwarding
    rw [proxyWrote_forwards proxy running] at stepped
    cases stepped
    refine @flow_forwarding _ _ _ _ adapter
      ⟨⟨present,status,resolving,open_proxy,proxy,remote,?_,delivered⟩,uplink⟩
    simp only [RawSocket.didWrite]
    omega
  | ending adapter present status resolving proxy remote ended leaving empty =>
    rw [proxyWrote_forwards proxy running] at stepped
    cases stepped
    refine ⟨up,?_,fun _ => .ending adapter present status resolving proxy remote ended leaving empty⟩
    simp only [downloading,RawSocket.didWrite] at down ⊢
    omega

theorem flow_becomeReadyAdapter (running : tunnel.cancelled = false) (early : tunnel.Early)
    (requested : tunnel.Requested surroundings) (resolving : tunnel.resolving = none)
    (blank : adapter.Blank surroundings) (forwards : adapter.Forwards) {next : Tunnel κ ρ}
    (stepped : becomeReadyAdapter surroundings {tunnel with adapterSocket := some adapter} = some next) :
    next.Flow surroundings := by
  obtain ⟨signal,timers,writes,sent⟩ := early
  obtain ⟨opened,open_proxy,reads,relayed⟩ := requested
  have ready : becomeReady surroundings {tunnel with adapterSocket := some adapter} =
      some {tunnel with adapterSocket := some adapter, readySignal := 1} := becomeReady_first running signal
  rw [becomeReadyAdapter,if_neg (by simp [running]),ready,Option.bind_some] at stepped
  have requested' : ({tunnel with adapterSocket := some adapter, readySignal := 1} : Tunnel κ ρ).Requested
      surroundings := ⟨opened,open_proxy,reads,relayed⟩
  exact @flow_respondTo _ _ _ {tunnel with adapterSocket := some adapter, readySignal := 1} adapter running rfl
    requested' rfl resolving blank forwards timers writes sent _ stepped

theorem flow_adapterConnected (running : tunnel.cancelled = false) (phase : tunnel.Phase surroundings)
    (present : tunnel.adapterSocket = some adapter) (awaited : adapter.socket.connecting = true)
    {next : Tunnel κ ρ} (stepped : adapterConnected surroundings tunnel adapter = some next) :
    next.Flow surroundings := by
  have absent (missing : tunnel.adapterSocket = none) : False := by
    rw [present] at missing
    cases missing
  have idle {remote : AdapterSocket κ ρ} (present' : tunnel.adapterSocket = some remote)
      (connected : remote.socket.connecting = false) : False := by
    cases present.symm.trans present'
    exact absurd (awaited.symm.trans connected) (by decide)
  cases phase with
  | made fresh => exact (absent (by rw [fresh.whole])).elim
  | reading http early missing resolving opened kind scanner status running reads received =>
    exact (absent missing).elim
  | refused early missing resolving opened reads leaving => exact (absent missing).elim
  | resolving early requested missing resolving => exact (absent missing).elim
  | responding requested remote present resolving blank forwards http kind command status signal timers writes sent =>
    exact (idle present forwards.connected).elim
  | forwarding remote forwarding => exact (idle forwarding.present forwarding.remote.connected).elim
  | ending remote present status resolving proxy forwards ended leaving up =>
    exact (idle present forwards.connected).elim
  | connecting early requested remote present' resolving opening =>
    cases present.symm.trans present'
    obtain ⟨⟨reads,writes,written,delivered⟩,waiting⟩ := opening
    have running_adapter : adapter.cancelled = false := by
      rcases waiting with ⟨-,uncancelled⟩ | ⟨failed,-⟩
      · exact uncancelled
      · exact absurd (awaited.symm.trans failed) (by decide)
    rw [adapterConnected] at stepped
    dsimp only at stepped
    rw [AdapterSocket.Written] at written
    rw [AdapterSocket.Delivered] at delivered
    cases kind : adapter.kind with
    | direct =>
      rw [kind] at stepped written delivered
      refine flow_becomeReadyAdapter running early requested resolving ?_ ?_ stepped
      · exact ⟨reads,writes,written,delivered⟩
      · exact ⟨running_adapter,rfl,by rintro _ _ _ ⟨⟩⟩
    | shadowsocks internalStatus up down =>
      rw [kind] at stepped written delivered
      refine flow_becomeReadyAdapter running early requested resolving ?_ ?_ stepped
      · exact ⟨reads,writes,written,delivered⟩
      · refine ⟨running_adapter,rfl,?_⟩
        rintro _ _ _ ⟨⟩
        rfl

/-- A read of an adapter goes through its coder, and leaves what was written alone. -/
theorem adapterRead_eq (remote : adapter.Forwards) {data : Data} {next : Tunnel κ ρ}
    (stepped : adapterRead surroundings tunnel adapter data = some next) :
    ∃ plain later, next = didReadAdapter {tunnel with adapterSocket := some later} plain ∧ later.Forwards ∧
      later.socket = adapter.socket.didRead data ∧
      (∀ chunks, adapter.Delivered surroundings chunks → later.Delivered surroundings (chunks ++ [plain])) ∧
      ∀ chunks, adapter.Written surroundings chunks → later.Written surroundings chunks := by
  obtain ⟨running,connected,ready⟩ := remote
  rw [adapterRead] at stepped
  dsimp only at stepped
  cases kind : adapter.kind with
  | direct =>
    rw [kind] at stepped
    cases stepped
    refine ⟨data,_,rfl,⟨running,connected,by rintro _ _ _ ⟨⟩⟩,rfl,fun chunks delivered => ?_,fun chunks written => ?_⟩
    · rw [AdapterSocket.Delivered,kind] at delivered
      exact congrArg (· ++ [data]) delivered
    · rw [AdapterSocket.Written,kind] at written
      exact written
  | shadowsocks internalStatus up down =>
    rw [kind] at stepped
    obtain ⟨⟨plain,after⟩,input,stepped⟩ := Option.bind_eq_some_iff.mp stepped
    cases stepped
    refine ⟨plain,_,rfl,⟨running,connected,?_⟩,rfl,fun chunks delivered => ?_,fun chunks written => ?_⟩
    · rintro _ _ _ ⟨⟩
      exact ready _ _ _ kind
    · rw [AdapterSocket.Delivered,kind] at delivered
      exact delivered.snoc input
    · rw [AdapterSocket.Written,kind] at written
      exact written

/-- What an adapter hands on goes to the proxy socket, or nowhere once that one disconnects. -/
theorem flow_adapterRead (running : tunnel.cancelled = false) (phase : tunnel.Phase surroundings)
    (down : tunnel.downloading ≤ 1)
    (present : tunnel.adapterSocket = some adapter) (owed : adapter.socket.reads ≠ []) {data : Data}
    {next : Tunnel κ ρ} (stepped : adapterRead surroundings tunnel adapter data = some next) :
    next.Flow surroundings := by
  have absent (missing : tunnel.adapterSocket = none) : False := by
    rw [present] at missing
    cases missing
  have idle {remote : AdapterSocket κ ρ} (present' : tunnel.adapterSocket = some remote)
      (reads : remote.socket.reads = []) : False := by
    cases present.symm.trans present'
    exact owed reads
  cases phase with
  | made fresh => exact (absent (by rw [fresh.whole])).elim
  | reading http early missing resolving opened kind scanner status running reads received =>
    exact (absent missing).elim
  | refused early missing resolving opened reads leaving => exact (absent missing).elim
  | resolving early requested missing resolving => exact (absent missing).elim
  | connecting early requested remote present resolving opening => exact (idle present opening.reads).elim
  | responding requested remote present resolving blank forwards http kind command status signal timers writes sent =>
    exact (idle present blank.reads).elim
  | forwarding remote forwarding =>
    obtain ⟨⟨present',status,resolving,open_proxy,proxy,remote,counted,chunks,delivered,sent⟩,uplink⟩ := forwarding
    cases present.symm.trans present'
    obtain ⟨plain,later,rfl,forwards,socket,extended,kept⟩ := adapterRead_eq remote stepped
    have delivered' : didReadAdapter {tunnel with adapterSocket := some later} plain = {tunnel with
        adapterSocket := some later
        proxySocket := {tunnel.proxySocket with socket := tunnel.proxySocket.socket.write plain}} := by
      simp [didReadAdapter,running,ProxySocket.write,open_proxy]
    rw [delivered']
    obtain ⟨loaded,written,relayed,sent_up⟩ := uplink
    refine @flow_forwarding _ _ _ _ later ⟨⟨rfl,status,resolving,open_proxy,proxy,forwards,?_,chunks ++ [plain],
      extended _ delivered,?_⟩,?_,written,relayed,kept _ sent_up⟩
    · have first : 0 < adapter.socket.reads.length := List.length_pos_iff.mpr owed
      simp only [socket,RawSocket.didRead,RawSocket.write,List.length_tail]
      omega
    · simp only [RawSocket.write,sent,List.append_assoc]
      rfl
    · rw [socket]
      exact loaded
  | ending remote present' status resolving proxy forwards ended leaving empty =>
    cases present.symm.trans present'
    obtain ⟨plain,later,rfl,forwards',socket,-,-⟩ := adapterRead_eq forwards stepped
    have dropped : didReadAdapter {tunnel with adapterSocket := some later} plain =
        {tunnel with adapterSocket := some later} := by
      simp [didReadAdapter,running,ProxySocket.write,ended]
    have empty' : ({tunnel with adapterSocket := some later} : Tunnel κ ρ).uploading = 0 := by
      rw [uploading,present] at empty
      rw [uploading,Option.map_some,Option.getD_some,socket]
      exact empty
    rw [dropped]
    refine ⟨empty'.trans_le (Nat.zero_le 1),?_,
      fun _ => .ending later rfl status resolving proxy forwards' ended leaving empty'⟩
    simp only [downloading,present,Option.map_some,Option.getD_some,socket,RawSocket.didRead,
      List.length_tail] at down ⊢
    omega

/-- The written bytes make room for the next ones of the local side. -/
theorem flow_adapterWrote (running : tunnel.cancelled = false) (phase : tunnel.Phase surroundings)
    (present : tunnel.adapterSocket = some adapter) (owed : 0 < adapter.socket.writes)
    {next : Tunnel κ ρ} (stepped : adapterWrote surroundings tunnel adapter = some next) : next.Flow surroundings := by
  have absent (missing : tunnel.adapterSocket = none) : False := by
    rw [present] at missing
    cases missing
  have idle {remote : AdapterSocket κ ρ} (present' : tunnel.adapterSocket = some remote)
      (writes : remote.socket.writes = 0) : False := by
    cases present.symm.trans present'
    omega
  cases phase with
  | made fresh => exact (absent (by rw [fresh.whole])).elim
  | reading http early missing resolving opened kind scanner status running reads received =>
    exact (absent missing).elim
  | refused early missing resolving opened reads leaving => exact (absent missing).elim
  | resolving early requested missing resolving => exact (absent missing).elim
  | connecting early requested remote present resolving opening => exact (idle present opening.writes).elim
  | responding requested remote present resolving blank forwards http kind command status signal timers writes sent =>
    exact (idle present blank.writes).elim
  | ending remote present status resolving proxy forwards ended leaving empty =>
    rw [uploading,present,Option.map_some,Option.getD_some] at empty
    exact (idle present (by omega)).elim
  | forwarding remote forwarding =>
    obtain ⟨⟨present',status,resolving,open_proxy,proxy,⟨running_adapter,connected,forwards⟩,down⟩,counted,
      chunks,relayed,written⟩ := forwarding
    cases present.symm.trans present'
    have wrote : ({tunnel with adapterSocket := some {adapter with
        socket := adapter.socket.didWrite}} : Tunnel κ ρ).Forwarding surroundings 0 1
          {adapter with socket := adapter.socket.didWrite} := by
      refine ⟨⟨rfl,status,resolving,open_proxy,proxy,⟨running_adapter,connected,forwards⟩,down⟩,?_,chunks,relayed,
        written⟩
      simp only [RawSocket.didWrite]
      omega
    have continues : didWriteAdapter surroundings {tunnel with adapterSocket := some {adapter with
        socket := adapter.socket.didWrite}} = some next := by
      rw [adapterWrote] at stepped
      cases kind : adapter.kind with
      | direct =>
        rw [kind] at stepped
        simpa only [kind] using stepped
      | shadowsocks internalStatus up down =>
        cases forwards _ _ _ kind
        rw [kind] at stepped
        simpa only [kind,if_true] using stepped
    rw [didWriteAdapter,if_neg (by simp [running])] at continues
    obtain ⟨-,later,forwarding⟩ := forwarding_readDataProxy wrote running continues
    exact flow_forwarding forwarding

theorem flow_readAgain (phase : tunnel.Phase surroundings)
    (up : tunnel.uploading ≤ 1) (down : tunnel.downloading ≤ 1) (due : 0 < tunnel.timers) :
    (readAdapter {tunnel with timers := tunnel.timers - 1}).Flow surroundings := by
  have absent (timers : tunnel.timers = 0) : False := by omega
  cases phase with
  | made fresh => exact (absent (by rw [fresh.whole])).elim
  | reading http early missing resolving opened kind scanner status running reads received =>
    exact (absent early.timers).elim
  | refused early missing resolving opened reads leaving => exact (absent early.timers).elim
  | resolving early requested missing resolving => exact (absent early.timers).elim
  | connecting early requested remote present resolving opening => exact (absent early.timers).elim
  | responding requested remote present resolving blank forwards http kind command status signal timers writes sent =>
    exact (absent timers).elim
  | forwarding remote forwarding =>
    obtain ⟨⟨present,status,resolving,open_proxy,proxy,forwards,counted,delivered⟩,uplink⟩ := forwarding
    have less : ({tunnel with timers := tunnel.timers - 1} : Tunnel κ ρ).Forwarding surroundings 1 0 remote := by
      refine ⟨⟨present,status,resolving,open_proxy,proxy,forwards,?_,delivered⟩,uplink⟩
      simp only
      omega
    obtain ⟨later,forwarding⟩ := forwarding_readAdapter less
    exact flow_forwarding forwarding
  | ending remote present status resolving proxy forwards ended leaving empty =>
    obtain ⟨up',down'⟩ := loads_readAgain due
    have reads : readAdapter {tunnel with timers := tunnel.timers - 1} = {tunnel with
        adapterSocket := some {remote with socket := remote.socket.read .data}
        timers := tunnel.timers - 1} := by
      rw [readAdapter,present,Option.map_some,AdapterSocket.readData_running forwards.running]
    refine ⟨up'.trans_le up,down'.trans down,fun _ => ?_⟩
    rw [reads] at up' ⊢
    exact .ending _ rfl status resolving proxy ⟨forwards.running,forwards.connected,forwards.forwards⟩ ended leaving
      (up'.trans empty)

theorem flow_resolved (running : tunnel.cancelled = false) (phase : tunnel.Phase surroundings)
    (owed : tunnel.resolving.isSome) {ipv4Result : Option (List Text)} {next : Tunnel κ ρ}
    (stepped : resolved surroundings tunnel ipv4Result = some next) : next.Flow surroundings := by
  have absent (resolving : tunnel.resolving = none) : False := by
    rw [resolving] at owed
    cases owed
  cases phase with
  | made fresh => exact (absent (by rw [fresh.whole])).elim
  | reading http early missing resolving opened kind scanner status running reads received =>
    exact (absent resolving).elim
  | refused early missing resolving opened reads leaving => exact (absent resolving).elim
  | connecting early requested remote present resolving opening => exact (absent resolving).elim
  | responding requested remote present resolving blank forwards http kind command status signal timers writes sent =>
    exact (absent resolving).elim
  | forwarding remote forwarding => exact (absent forwarding.resolving).elim
  | ending remote present status resolving proxy forwards ended leaving empty => exact (absent resolving).elim
  | resolving early requested missing resolving =>
    obtain ⟨host,-,stepped⟩ := Option.bind_eq_some_iff.mp stepped
    obtain ⟨ipAddress,-,stepped⟩ := Option.bind_eq_some_iff.mp stepped
    obtain ⟨adapter,opening,rfl⟩ := openAdapter_running (by exact running) stepped
    exact flow_requested ⟨early.signal,early.timers,early.writes,early.sent⟩
      ⟨requested.opened,requested.running,requested.reads,requested.relayed⟩ (Or.inr ⟨rfl,adapter,rfl,opening⟩)

theorem phase_proxyLost (phase : tunnel.Phase surroundings) :
    ({tunnel with proxySocket := {tunnel.proxySocket with
      socket := {tunnel.proxySocket.socket with gone := true}}} : Tunnel κ ρ).Phase surroundings := by
  have early' (early : tunnel.Early) : ({tunnel with proxySocket := {tunnel.proxySocket with
      socket := {tunnel.proxySocket.socket with gone := true}}} : Tunnel κ ρ).Early :=
    ⟨early.signal,early.timers,early.writes,early.sent⟩
  have requested' (requested : tunnel.Requested surroundings) : ({tunnel with proxySocket := {tunnel.proxySocket with
      socket := {tunnel.proxySocket.socket with gone := true}}} : Tunnel κ ρ).Requested surroundings :=
    ⟨requested.opened,requested.running,requested.reads,requested.relayed⟩
  cases phase with
  | made fresh =>
    obtain ⟨whole,socket,kind⟩ := fresh
    refine .made ⟨?_,?_,kind⟩
    · rw [whole]
    · rw [socket]
  | reading http early missing resolving opened kind scanner status running reads received =>
    exact .reading http (early' early) missing resolving opened kind scanner status running reads received
  | refused early missing resolving opened reads leaving =>
    exact .refused (early' early) missing resolving opened reads leaving
  | resolving early requested missing resolving =>
    exact .resolving (early' early) (requested' requested) missing resolving
  | connecting early requested adapter present resolving opening =>
    exact .connecting (early' early) (requested' requested) adapter present resolving opening
  | responding requested adapter present resolving blank forwards http kind command status signal timers writes sent =>
    exact .responding (requested' requested) adapter present resolving blank forwards http kind command status signal
      timers writes sent
  | forwarding adapter forwarding =>
    obtain ⟨⟨present,status,resolving,open_proxy,proxy,remote,down⟩,up⟩ := forwarding
    exact .forwarding adapter ⟨⟨present,status,resolving,open_proxy,proxy,remote,down⟩,up⟩
  | ending adapter present status resolving proxy remote ended leaving up =>
    exact .ending adapter present status resolving proxy remote ended leaving up

theorem phase_adapterLost (phase : tunnel.Phase surroundings) (present : tunnel.adapterSocket = some adapter) :
    ({tunnel with adapterSocket := some {adapter with
      socket := {adapter.socket with gone := true}}} : Tunnel κ ρ).Phase surroundings := by
  have absent (missing : tunnel.adapterSocket = none) : False := by
    rw [present] at missing
    cases missing
  have blank' (blank : adapter.Blank surroundings) : ({adapter with
      socket := {adapter.socket with gone := true}} : AdapterSocket κ ρ).Blank surroundings :=
    ⟨blank.reads,blank.writes,blank.written,blank.delivered⟩
  have forwards' (forwards : adapter.Forwards) : ({adapter with
      socket := {adapter.socket with gone := true}} : AdapterSocket κ ρ).Forwards :=
    ⟨forwards.running,forwards.connected,forwards.forwards⟩
  cases phase with
  | made fresh => exact (absent (by rw [fresh.whole])).elim
  | reading http early missing resolving opened kind scanner status running reads received =>
    exact (absent missing).elim
  | refused early missing resolving opened reads leaving => exact (absent missing).elim
  | resolving early requested missing resolving => exact (absent missing).elim
  | connecting early requested remote present' resolving opening =>
    cases present.symm.trans present'
    exact .connecting ⟨early.signal,early.timers,early.writes,early.sent⟩
      ⟨requested.opened,requested.running,requested.reads,requested.relayed⟩ _ rfl resolving
      ⟨blank' opening.toBlank,opening.awaited⟩
  | responding requested remote present' resolving blank forwards http kind command status signal timers writes sent =>
    cases present.symm.trans present'
    exact .responding ⟨requested.opened,requested.running,requested.reads,requested.relayed⟩ _ rfl resolving
      (blank' blank) (forwards' forwards) http kind command status signal timers writes sent
  | forwarding remote forwarding =>
    obtain ⟨⟨present',status,resolving,open_proxy,proxy,remote,down⟩,up⟩ := forwarding
    cases present.symm.trans present'
    exact .forwarding _ ⟨⟨rfl,status,resolving,open_proxy,proxy,forwards' remote,down⟩,up⟩
  | ending remote present' status resolving proxy forwards ended leaving empty =>
    cases present.symm.trans present'
    refine .ending _ rfl status resolving proxy (forwards' forwards) ended leaving ?_
    rw [uploading,present] at empty
    exact empty

theorem flow_handle (flow : tunnel.Flow surroundings) {event : Event} (enabled : tunnel.Enabled event)
    {next : Tunnel κ ρ} (stepped : handle surroundings tunnel event = some next) : next.Flow surroundings := by
  obtain ⟨up,down,phase⟩ := flow
  cases running : tunnel.cancelled with
  | true => exact flow_fades up down (fades_handle running enabled stepped)
  | false =>
    have phase := phase running
    cases event with
    | openTunnel =>
      cases phase with
      | made fresh => exact flow_openTunnel fresh stepped
      | reading http early missing resolving opened kind scanner status running reads received =>
        exact absurd enabled opened.opened
      | refused early missing resolving opened reads leaving => exact absurd enabled opened.opened
      | resolving early requested missing resolving => exact absurd enabled requested.opened.opened
      | connecting early requested remote present resolving opening => exact absurd enabled requested.opened.opened
      | responding requested remote present resolving blank forwards http kind command status signal timers writes
          sent =>
        exact absurd enabled requested.opened.opened
      | forwarding remote forwarding =>
        exact absurd (enabled.symm.trans forwarding.status) TunnelStatus.noConfusion
      | ending remote present status resolving proxy forwards ended leaving empty =>
        exact absurd (enabled.symm.trans status) TunnelStatus.noConfusion
    | close =>
      cases stepped
      exact flow_fades up down (fades_close tunnel)
    | proxyRead data =>
      obtain ⟨-,request,asked,serves⟩ := enabled
      exact flow_proxyRead running phase asked serves stepped
    | proxyWrote => exact flow_proxyWrote running phase up down enabled.2 stepped
    | proxyDisconnected =>
      cases stepped
      exact flow_fades up down (fades_didDisconnectWith le_rfl le_rfl)
    | proxyLost =>
      cases stepped
      exact ⟨up,down,fun _ => phase_proxyLost phase⟩
    | adapterConnected =>
      obtain ⟨adapter,present,-,awaited⟩ := enabled
      obtain ⟨adapter,present',stepped⟩ := Option.bind_eq_some_iff.mp stepped
      cases present.symm.trans present'
      exact flow_adapterConnected running phase present awaited stepped
    | adapterRead data =>
      obtain ⟨adapter,present,-,request,asked,-⟩ := enabled
      obtain ⟨adapter,present',stepped⟩ := Option.bind_eq_some_iff.mp stepped
      cases present.symm.trans present'
      have owed : adapter.socket.reads ≠ [] := by
        intro reads
        rw [reads] at asked
        cases asked
      exact flow_adapterRead running phase down present owed stepped
    | adapterWrote =>
      obtain ⟨adapter,present,-,owed⟩ := enabled
      obtain ⟨adapter,present',stepped⟩ := Option.bind_eq_some_iff.mp stepped
      cases present.symm.trans present'
      exact flow_adapterWrote running phase present owed stepped
    | adapterDisconnected =>
      obtain ⟨adapter,present,rfl⟩ := Option.map_eq_some_iff.mp stepped
      refine flow_fades up down (fades_didDisconnectWith ?_ ?_)
      · simp [uploading,present]
      · simp [downloading,present]
    | adapterLost =>
      obtain ⟨adapter,present,rfl⟩ := Option.map_eq_some_iff.mp stepped
      refine ⟨?_,?_,fun _ => phase_adapterLost phase present⟩
      · rw [uploading,present] at up
        exact up
      · rw [downloading,present] at down
        exact down
    | resolved ipv4Result => exact flow_resolved running phase enabled stepped
    | readAgain =>
      cases stepped
      exact flow_readAgain phase up down enabled

theorem flow_fresh (fresh : tunnel.Fresh) : tunnel.Flow surroundings := by
  refine ⟨?_,?_,fun _ => .made fresh⟩
  · rw [uploading,fresh.whole,fresh.socket]
    exact Nat.zero_le 1
  · rw [downloading,fresh.whole,fresh.socket]
    exact Nat.zero_le 1

theorem keeps_flow : (machine surroundings).Keeps (fun tunnel => tunnel.Flow surroundings) Enabled :=
  fun _ _ _ flow enabled stepped => flow_handle flow enabled stepped

/-- In every state of a run each socket owes one read and one write at most; while the tunnel
forwards exactly one operation is under way in each direction; and a tunnel that was opened
and still runs is never left with nothing to wait for. -/
structure Paced (tunnel : Tunnel κ ρ) : Prop where
  sockets : ∀ socket ∈ tunnel.sockets, socket.reads.length ≤ 1 ∧ socket.writes ≤ 1
  busy : tunnel.cancelled = false → tunnel.status = .forwarding → tunnel.proxySocket.cancelled = false →
    tunnel.uploading = 1 ∧ tunnel.downloading = 1
  awaits : tunnel.cancelled = false → tunnel.status ≠ .invalid →
    0 < tunnel.uploading + tunnel.downloading ∨ tunnel.resolving.isSome = true ∨
      ∃ socket ∈ tunnel.sockets, socket.connecting = true ∨ socket.leaving = true

theorem phase_awaits (phase : tunnel.Phase surroundings) (opened : tunnel.status ≠ .invalid) :
    0 < tunnel.uploading + tunnel.downloading ∨ tunnel.resolving.isSome = true ∨
      ∃ socket ∈ tunnel.sockets, socket.connecting = true ∨ socket.leaving = true := by
  cases phase with
  | made fresh => exact absurd (by rw [fresh.whole]) opened
  | reading http early missing resolving opened kind scanner status running reads received =>
    left
    rw [uploading,reads,List.length_singleton]
    omega
  | refused early missing resolving opened reads leaving =>
    exact Or.inr (Or.inr ⟨tunnel.proxySocket.socket,List.mem_cons_self,Or.inr leaving⟩)
  | resolving early requested missing resolving => exact Or.inr (Or.inl resolving)
  | connecting early requested adapter present resolving opening =>
    refine Or.inr (Or.inr ⟨adapter.socket,by simp [sockets,present],?_⟩)
    rcases opening.awaited with ⟨connecting,-⟩ | ⟨-,leaving⟩
    · exact Or.inl connecting
    · exact Or.inr leaving
  | responding requested adapter present resolving blank forwards http kind command status signal timers writes sent =>
    left
    rw [downloading,writes]
    omega
  | forwarding adapter forwarding =>
    left
    have counted := forwarding.up.1
    rw [uploading,forwarding.present,Option.map_some,Option.getD_some]
    omega
  | ending adapter present status resolving proxy remote ended leaving up =>
    exact Or.inr (Or.inr ⟨tunnel.proxySocket.socket,List.mem_cons_self,Or.inr leaving⟩)

theorem phase_forwarding (phase : tunnel.Phase surroundings) (status : tunnel.status = .forwarding)
    (open_proxy : tunnel.proxySocket.cancelled = false) :
    ∃ adapter, tunnel.Forwarding surroundings 1 1 adapter := by
  cases phase with
  | made fresh =>
    rw [fresh.whole] at status
    cases status
  | reading http early missing resolving opened kind scanner first running reads received =>
    exact absurd status opened.waits
  | refused early missing resolving opened reads leaving => exact absurd status opened.waits
  | resolving early requested missing resolving => exact absurd status requested.opened.waits
  | connecting early requested adapter present resolving opening => exact absurd status requested.opened.waits
  | responding requested adapter present resolving blank forwards http kind command write signal timers writes sent =>
    exact absurd status requested.opened.waits
  | forwarding adapter forwarding => exact ⟨adapter,forwarding⟩
  | ending adapter present _ resolving proxy remote ended leaving up =>
    exact absurd (open_proxy.symm.trans ended) (by decide)

theorem paced_of_flow (flow : tunnel.Flow surroundings) : tunnel.Paced := by
  obtain ⟨up,down,phase⟩ := flow
  refine ⟨?_,fun running status open_proxy => ?_,fun running => phase_awaits (phase running)⟩
  · rw [uploading] at up
    rw [downloading] at down
    cases remote : tunnel.adapterSocket with
    | none =>
      simp only [sockets,remote,Option.toList_none,List.map_nil,List.forall_mem_singleton]
      omega
    | some adapter =>
      rw [remote,Option.map_some,Option.getD_some] at up down
      simp only [sockets,remote,Option.toList_some,List.map_cons,List.map_nil,List.forall_mem_cons,
        List.not_mem_nil,IsEmpty.forall_iff,implies_true,and_true]
      omega
  · obtain ⟨adapter,forwarding⟩ := phase_forwarding (phase running) status open_proxy
    rw [uploading,downloading,forwarding.present,Option.map_some,Option.getD_some,Option.map_some,Option.getD_some]
    exact ⟨forwarding.up.1,forwarding.down.1⟩

theorem paced_visits (fresh : tunnel.Fresh) {events : List Event}
    (along : (machine surroundings).Along Enabled tunnel events) :
    (machine surroundings).Visits Paced tunnel events :=
  (Machine.Along.visits keeps_flow (flow_fresh fresh) along).imp (fun _ => paced_of_flow)

theorem paced_visits_request : (machine plainSurroundings).Visits Paced accepted requestEvents :=
  paced_visits fresh_accepted along_requestEvents

/-- What a tunnel carries, as long as it runs: nothing reaches the remote side before it
forwards, and from then on the remote side was sent what the proxy socket handed on, and the
local side its greeting and what the adapter handed on. -/
structure Carries (surroundings : Surroundings κ ρ) (tunnel : Tunnel κ ρ) : Prop where
  before : tunnel.status ≠ .forwarding → ∀ adapter ∈ tunnel.adapterSocket, adapter.socket.sent = []
  relays : tunnel.status = .forwarding → tunnel.proxySocket.cancelled = false →
    ∃ adapter ∈ tunnel.adapterSocket,
      (∃ chunks, tunnel.proxySocket.Relayed surroundings.foundation tunnel.proxySocket.socket.reads.head? chunks ∧
        adapter.Written surroundings chunks) ∧
      ∃ chunks, adapter.Delivered surroundings chunks ∧
        tunnel.proxySocket.socket.sent = tunnel.proxySocket.greeting ++ chunks

theorem blank_sent (blank : adapter.Blank surroundings) : adapter.socket.sent = [] := by
  have written := blank.written
  rw [AdapterSocket.Written] at written
  split at written
  · exact written
  · exact written.of_nil.1

theorem phase_before (phase : tunnel.Phase surroundings) (status : tunnel.status ≠ .forwarding) :
    ∀ adapter ∈ tunnel.adapterSocket, adapter.socket.sent = [] := by
  have absent (missing : tunnel.adapterSocket = none) : ∀ adapter ∈ tunnel.adapterSocket, adapter.socket.sent = [] := by
    rw [missing]
    rintro _ ⟨⟩
  have idle {remote : AdapterSocket κ ρ} (present : tunnel.adapterSocket = some remote)
      (blank : remote.Blank surroundings) : ∀ adapter ∈ tunnel.adapterSocket, adapter.socket.sent = [] := by
    rw [present]
    rintro _ ⟨⟩
    exact blank_sent blank
  cases phase with
  | made fresh => exact absent (by rw [fresh.whole])
  | reading http early missing resolving opened kind scanner first running reads received => exact absent missing
  | refused early missing resolving opened reads leaving => exact absent missing
  | resolving early requested missing resolving => exact absent missing
  | connecting early requested adapter present resolving opening => exact idle present opening.toBlank
  | responding requested adapter present resolving blank forwards http kind command write signal timers writes sent =>
    exact idle present blank
  | forwarding adapter forwarding => exact absurd forwarding.status status
  | ending adapter present forwards resolving proxy remote ended leaving up => exact absurd forwards status

theorem carries_of_flow (flow : tunnel.Flow surroundings) (running : tunnel.cancelled = false) :
    tunnel.Carries surroundings := by
  refine ⟨phase_before (flow.phase running),fun status open_proxy => ?_⟩
  obtain ⟨adapter,forwarding⟩ := phase_forwarding (flow.phase running) status open_proxy
  exact ⟨adapter,forwarding.present,forwarding.up.2,forwarding.down.2⟩

theorem carries_visits (fresh : tunnel.Fresh) {events : List Event}
    (along : (machine surroundings).Along Enabled tunnel events) :
    (machine surroundings).Visits (fun tunnel => tunnel.cancelled = false → tunnel.Carries surroundings)
      tunnel events :=
  (Machine.Along.visits keeps_flow (flow_fresh fresh) along).imp (fun _ => carries_of_flow)

theorem carries_visits_request : (machine plainSurroundings).Visits
    (fun tunnel => tunnel.cancelled = false → tunnel.Carries plainSurroundings) accepted requestEvents :=
  carries_visits fresh_accepted along_requestEvents

end Tunnel
end TenonVpn
