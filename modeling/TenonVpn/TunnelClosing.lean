import TenonVpn.Tunnel

/-! How a tunnel ends. Whoever disconnects first, both raw sockets are asked to leave, the
delegate is told once, when both are gone, and from the moment of cancelling nothing is sent. -/
namespace TenonVpn.Tunnel
variable {κ ρ : Type} {surroundings : Surroundings κ ρ} {tunnel : Tunnel κ ρ}

/-- Of a socket: whether its status says disconnected, whether it was asked to leave and whether it told. -/
structure Ends where
  disconnected : Bool
  leaving : Bool
  closed : Bool

def ends (status : SocketStatus) (socket : RawSocket) : Ends := ⟨status.isDisconnected,socket.leaving,socket.closed⟩

/-- The part of a tunnel that closing it changes. -/
structure Control where
  proxy : Ends
  proxyCancelled : Bool
  adapter : Option Ends
  cancelled : Bool
  delegate : Bool
  told : Nat

def control (tunnel : Tunnel κ ρ) : Control where
  proxy := ends tunnel.proxySocket.status tunnel.proxySocket.socket
  proxyCancelled := tunnel.proxySocket.cancelled
  adapter := tunnel.adapterSocket.map (fun adapter => ends adapter.status adapter.socket)
  cancelled := tunnel.cancelled
  delegate := tunnel.delegate
  told := tunnel.tunnelDidClose

def Ends.Left (ends : Ends) : Prop := ends.leaving = true ∨ ends.closed = true

namespace Control

def Gone (control : Control) : Prop := control.proxy.closed = true ∧ ∀ adapter ∈ control.adapter, adapter.closed = true

/-- Both sockets were asked to leave, unless they told before. -/
def Left (control : Control) : Prop := control.proxy.Left ∧ ∀ adapter ∈ control.adapter, adapter.Left

/-- What holds whenever the tunnel looks at its sockets, also in the middle of closing. -/
structure Steady (control : Control) : Prop where
  proxy : control.proxy.disconnected = control.proxy.closed
  adapter : ∀ adapter ∈ control.adapter, adapter.disconnected = adapter.closed
  asked : control.proxyCancelled = control.proxy.leaving
  once : control.told = if control.delegate then 0 else 1
  last : control.delegate = false → control.Gone ∧ control.cancelled = true

def Told (control : Control) : Prop := control.Gone → control.delegate = false

/-- What holds between two events. -/
structure Orderly (control : Control) : Prop extends Steady control where
  left : control.cancelled = true → control.Left
  noticed : control.proxy.closed = true ∨ (∃ adapter ∈ control.adapter, adapter.closed = true) →
    control.cancelled = true
  told : control.Told

end Control

theorem isClosed_iff (steady : tunnel.control.Steady) : tunnel.isClosed = true ↔ tunnel.control.Gone := by
  have proxy := steady.proxy
  have adapter := steady.adapter
  rw [isClosed,Control.Gone]
  cases remote : tunnel.adapterSocket with
  | none => simp_all [control,ends]
  | some socket => simp_all [control,ends]

theorem control_checkStatus (tunnel : Tunnel κ ρ) : (checkStatus tunnel).control =
    if tunnel.isClosed then {tunnel.control with
      told := if tunnel.control.delegate then tunnel.control.told + 1 else tunnel.control.told
      delegate := false}
    else tunnel.control := by
  rw [checkStatus]
  split <;> rfl

/-- `checkStatus` tells the delegate where it is due, and changes nothing of the sockets. -/
theorem steady_checkStatus (steady : tunnel.control.Steady) (cancelled : tunnel.cancelled = true) :
    (checkStatus tunnel).control.Steady ∧ (checkStatus tunnel).control.Told ∧
      (checkStatus tunnel).control.cancelled = true ∧
      (checkStatus tunnel).control.proxy = tunnel.control.proxy ∧
      (checkStatus tunnel).control.adapter = tunnel.control.adapter := by
  rw [control_checkStatus]
  have closed_iff := isClosed_iff steady
  obtain ⟨proxy,adapter,asked,once,last⟩ := steady
  split
  · next closed =>
    have once' : (if tunnel.control.delegate then tunnel.control.told + 1 else tunnel.control.told) = 1 := by
      cases delegate : tunnel.control.delegate with
      | true => simp [once,delegate]
      | false => simp [once,delegate]
    exact ⟨⟨proxy,adapter,asked,once',fun _ => ⟨closed_iff.mp closed,cancelled⟩⟩,fun _ => rfl,cancelled,rfl,rfl⟩
  · next opened =>
    exact ⟨⟨proxy,adapter,asked,once,last⟩,fun gone => absurd (closed_iff.mpr gone) opened,cancelled,rfl,rfl⟩

theorem not_gone_of_proxy (opened : tunnel.control.proxy.closed = false) : ¬tunnel.control.Gone := by
  rintro ⟨closed,-⟩
  rw [opened] at closed
  cases closed

theorem untold_of_proxy (steady : tunnel.control.Steady) (opened : tunnel.control.proxy.closed = false) :
    tunnel.control.delegate = true := by
  by_contra silent
  exact not_gone_of_proxy opened (steady.last ((Bool.not_eq_true _).mp silent)).1

/-- `proxySocket.disconnect()` of a tunnel that is closing. -/
theorem steady_disconnectProxy (steady : tunnel.control.Steady) (cancelled : tunnel.cancelled = true)
    (opened : tunnel.control.proxy.closed = false) :
    (disconnectProxy checkStatus tunnel).control.Steady ∧
      (tunnel.control.Told → (disconnectProxy checkStatus tunnel).control.Told) ∧
      (disconnectProxy checkStatus tunnel).control.cancelled = true ∧
      (disconnectProxy checkStatus tunnel).control.proxy.Left ∧
      (disconnectProxy checkStatus tunnel).control.adapter = tunnel.control.adapter := by
  obtain ⟨proxy,adapter,asked,once,last⟩ := steady
  have untold := untold_of_proxy ⟨proxy,adapter,asked,once,last⟩ opened
  rw [disconnectProxy]
  split
  · next left => exact ⟨⟨proxy,adapter,asked,once,last⟩,id,cancelled,Or.inl (asked.symm.trans left),rfl⟩
  · split
    · next answers =>
      have marked : ({tunnel with proxySocket := {tunnel.proxySocket with
          status := .closed
          cancelled := true
          socket := {tunnel.proxySocket.socket with leaving := true, closed := true}}} : Tunnel κ ρ).control.Steady :=
        ⟨rfl,adapter,rfl,once,fun silent => by rw [control] at untold; simp_all [control]⟩
      obtain ⟨steady,told,still,proxy',adapter'⟩ := steady_checkStatus marked cancelled
      exact ⟨steady,fun _ => told,still,by rw [proxy']; exact Or.inl rfl,adapter'⟩
    · refine ⟨⟨?_,adapter,rfl,once,fun silent => ?_⟩,fun _ gone => ?_,cancelled,Or.inl rfl,rfl⟩
      · exact opened.symm
      · exact absurd (untold.symm.trans silent) (by decide)
      · exact absurd (opened.symm.trans gone.1) (by decide)

theorem steady_closeAdapter (steady : tunnel.control.Steady) (cancelled : tunnel.cancelled = true) :
    (closeAdapter tunnel).control.Steady ∧ (tunnel.control.Told → (closeAdapter tunnel).control.Told) ∧
      (closeAdapter tunnel).control.cancelled = true ∧
      (closeAdapter tunnel).control.proxy = tunnel.control.proxy ∧
      ∀ adapter ∈ (closeAdapter tunnel).control.adapter, adapter.Left := by
  have whole := steady
  obtain ⟨proxy,adapter,asked,once,last⟩ := steady
  rw [closeAdapter]
  split
  · next missing =>
    exact ⟨whole,id,cancelled,rfl,fun ends member => by rw [control,missing] at member; cases member⟩
  · next remote present =>
    have remote_ends : ends remote.status remote.socket ∈ tunnel.control.adapter := by
      rw [control,present]
      rfl
    split
    · next disconnected =>
      refine ⟨whole,id,cancelled,rfl,fun ends member => Or.inr ?_⟩
      rw [control,present] at member
      cases member
      exact (adapter _ remote_ends).symm.trans disconnected
    · next connected =>
      have opened : remote.socket.closed = false := by
        by_contra closed
        exact connected ((adapter _ remote_ends).trans ((Bool.not_eq_false _).mp closed))
      have untold : tunnel.control.delegate = true := by
        by_contra silent
        have closed := (last (by simpa using silent)).1.2 _ remote_ends
        exact absurd (opened.symm.trans closed) (by decide)
      simp only [disconnectAdapter,present]
      split
      · next answers =>
        have marked : ({tunnel with adapterSocket := some {remote with
            status := .closed
            cancelled := true
            socket := {remote.socket with leaving := true, closed := true}}} : Tunnel κ ρ).control.Steady := by
          refine ⟨proxy,?_,asked,once,fun silent => absurd (untold.symm.trans silent) (by decide)⟩
          rintro ends ⟨⟩
          rfl
        obtain ⟨steady,told,still,proxy',adapter'⟩ := steady_checkStatus marked cancelled
        refine ⟨steady,fun _ => told,still,proxy',?_⟩
        rw [adapter']
        rintro ends ⟨⟩
        exact Or.inl rfl
      · next waits =>
        refine ⟨⟨proxy,?_,asked,once,fun silent => absurd (untold.symm.trans silent) (by decide)⟩,
          fun _ gone => ?_,cancelled,rfl,?_⟩
        · rintro ends ⟨⟩
          exact opened.symm
        · exact absurd (opened.symm.trans (gone.2 _ rfl)) (by decide)
        · rintro ends ⟨⟩
          exact Or.inl rfl

/-- Closing a tunnel asks both sockets to leave. -/
theorem steady_close (steady : tunnel.control.Steady) (running : tunnel.cancelled = false) :
    (close tunnel).control.Steady ∧ (tunnel.control.Told → (close tunnel).control.Told) ∧
      (close tunnel).control.cancelled = true ∧ (close tunnel).control.Left := by
  have closing : ({tunnel with cancelled := true, status := .closing} : Tunnel κ ρ).control.Steady :=
    ⟨steady.proxy,steady.adapter,steady.asked,steady.once,fun silent => ⟨(steady.last silent).1,rfl⟩⟩
  rw [close,running]
  simp only [Bool.false_eq_true,if_false]
  split
  · next disconnected =>
    obtain ⟨steady',told',cancelled',proxy',adapter'⟩ := steady_closeAdapter closing rfl
    refine ⟨steady',told',cancelled',?_,adapter'⟩
    rw [proxy']
    exact Or.inr (steady.proxy.symm.trans disconnected)
  · next connected =>
    have opened : tunnel.control.proxy.closed = false := by
      rw [← steady.proxy]
      exact (Bool.not_eq_true _).mp connected
    obtain ⟨middle,told,cancelled,left,-⟩ := steady_disconnectProxy closing rfl opened
    obtain ⟨steady',told',cancelled',proxy',adapter'⟩ := steady_closeAdapter middle cancelled
    refine ⟨steady',fun before => told' (told before),cancelled',?_,adapter'⟩
    rw [proxy']
    exact left

theorem orderly_close (orderly : tunnel.control.Orderly) : (close tunnel).control.Orderly := by
  cases running : tunnel.cancelled with
  | true =>
    rw [close,running]
    exact orderly
  | false =>
    obtain ⟨steady,told,cancelled,left⟩ := steady_close orderly.toSteady running
    exact ⟨steady,fun _ => left,fun _ => cancelled,told orderly.told⟩

theorem orderly_checkStatus (steady : tunnel.control.Steady) (cancelled : tunnel.cancelled = true)
    (left : tunnel.control.Left) : (checkStatus tunnel).control.Orderly := by
  obtain ⟨steady',told,still,proxy,adapter⟩ := steady_checkStatus steady cancelled
  refine ⟨steady',fun _ => ?_,fun _ => still,told⟩
  rw [Control.Left,proxy,adapter]
  exact left

theorem orderly_didDisconnectWith (steady : tunnel.control.Steady)
    (left : tunnel.control.cancelled = true → tunnel.control.Left) : (didDisconnectWith tunnel).control.Orderly := by
  rw [didDisconnectWith]
  cases running : tunnel.cancelled with
  | true => exact orderly_checkStatus steady running (left running)
  | false =>
    obtain ⟨steady',-,cancelled,left'⟩ := steady_close steady running
    exact orderly_checkStatus steady' cancelled left'

/-- Also where it is told again: then it changes nothing. -/
theorem orderly_proxyDisconnected (orderly : tunnel.control.Orderly) : (proxyDisconnected tunnel).control.Orderly := by
  apply orderly_didDisconnectWith
  · refine ⟨rfl,orderly.adapter,orderly.asked,orderly.once,fun silent => ?_⟩
    obtain ⟨⟨-,adapter⟩,cancelled⟩ := orderly.last silent
    exact ⟨⟨rfl,adapter⟩,cancelled⟩
  · intro cancelled
    exact ⟨Or.inr rfl,(orderly.left cancelled).2⟩

/-- A proxy socket that was asked to leave before does nothing. -/
theorem orderly_disconnectProxy (orderly : tunnel.control.Orderly)
    (opened : tunnel.proxySocket.cancelled = false → tunnel.proxySocket.socket.closed = false) :
    (disconnectProxy didDisconnectWith tunnel).control.Orderly := by
  rw [disconnectProxy]
  split
  · exact orderly
  · next stays =>
    have opened := opened ((Bool.not_eq_true _).mp stays)
    have untold := untold_of_proxy orderly.toSteady opened
    split
    · apply orderly_didDisconnectWith
      · exact ⟨rfl,orderly.adapter,rfl,orderly.once,fun silent => absurd (untold.symm.trans silent) (by decide)⟩
      · intro cancelled
        exact ⟨Or.inl rfl,(orderly.left cancelled).2⟩
    · refine ⟨⟨opened.symm,orderly.adapter,rfl,orderly.once,
        fun silent => absurd (untold.symm.trans silent) (by decide)⟩,fun cancelled => ?_,orderly.noticed,fun gone => ?_⟩
      · exact ⟨Or.inl rfl,(orderly.left cancelled).2⟩
      · exact absurd (opened.symm.trans gone.1) (by decide)

/-- An adapter that cannot connect disconnects, before or after the tunnel noticed it. -/
theorem orderly_disconnectAdapter (orderly : tunnel.control.Orderly) (running : tunnel.cancelled = false)
    {remote : AdapterSocket κ ρ} (opened : remote.socket.closed = false) :
    (disconnectAdapter didDisconnectWith {tunnel with adapterSocket := some remote}).control.Orderly := by
  have open_proxy : tunnel.control.proxy.closed = false := by
    by_contra closed
    exact absurd (running.symm.trans (orderly.noticed (Or.inl ((Bool.not_eq_false _).mp closed)))) (by decide)
  have untold := untold_of_proxy orderly.toSteady open_proxy
  simp only [disconnectAdapter]
  split
  · apply orderly_didDisconnectWith
    · refine ⟨orderly.proxy,?_,orderly.asked,orderly.once,fun silent => absurd (untold.symm.trans silent) (by decide)⟩
      rintro ends ⟨⟩
      rfl
    · intro cancelled
      exact absurd (running.symm.trans cancelled) (by decide)
  · refine ⟨⟨orderly.proxy,?_,orderly.asked,orderly.once,fun silent => absurd (untold.symm.trans silent) (by decide)⟩,
      fun cancelled => absurd (running.symm.trans cancelled) (by decide),?_,fun gone => ?_⟩
    · rintro ends ⟨⟩
      exact opened.symm
    · rintro (closed | ⟨ends,⟨⟩,closed⟩)
      · exact absurd (open_proxy.symm.trans closed) (by decide)
      · exact absurd (opened.symm.trans closed) (by decide)
    · exact absurd (open_proxy.symm.trans gone.1) (by decide)

theorem orderly_adapterDisconnected (orderly : tunnel.control.Orderly) {adapter : AdapterSocket κ ρ} :
    (adapterDisconnected tunnel adapter).control.Orderly := by
  apply orderly_didDisconnectWith
  · refine ⟨orderly.proxy,?_,orderly.asked,orderly.once,fun silent => ?_⟩
    · rintro ends ⟨⟩
      rfl
    · obtain ⟨⟨proxy,-⟩,cancelled⟩ := orderly.last silent
      refine ⟨⟨proxy,?_⟩,cancelled⟩
      rintro ends ⟨⟩
      rfl
  · intro cancelled
    refine ⟨(orderly.left cancelled).1,?_⟩
    rintro ends ⟨⟩
    exact Or.inr rfl

theorem opened_of_running (orderly : tunnel.control.Orderly) (running : tunnel.cancelled = false) :
    tunnel.proxySocket.socket.closed = false := by
  by_contra closed
  have cancelled := orderly.noticed (Or.inl ((Bool.not_eq_false _).mp closed))
  exact absurd (running.symm.trans cancelled) (by decide)

theorem control_adapter {adapter next : AdapterSocket κ ρ} (present : tunnel.adapterSocket = some adapter)
    (same : ends next.status next.socket = ends adapter.status adapter.socket) :
    ({tunnel with adapterSocket := some next} : Tunnel κ ρ).control = tunnel.control := by
  simp [control,present,same]

theorem ends_writeRaw (adapter : AdapterSocket κ ρ) (data : Data) :
    ends (adapter.writeRaw data).status (adapter.writeRaw data).socket = ends adapter.status adapter.socket := by
  rw [AdapterSocket.writeRaw]
  split <;> rfl

theorem ends_write {coder : Coder κ ρ} {adapter next : AdapterSocket κ ρ} {data : Data}
    (written : adapter.write coder data = some next) :
    ends next.status next.socket = ends adapter.status adapter.socket := by
  rw [AdapterSocket.write] at written
  split at written
  · cases written
    exact ends_writeRaw adapter data
  · obtain ⟨coded,-,written⟩ := Option.bind_eq_some_iff.mp written
    cases written
    exact ends_writeRaw _ coded.1

theorem control_didReadProxy {data : Data} {next : Tunnel κ ρ}
    (stepped : didReadProxy surroundings tunnel data = some next) : next.control = tunnel.control := by
  rw [didReadProxy] at stepped
  split at stepped
  · cases stepped
    rfl
  · obtain ⟨adapter,present,stepped⟩ := Option.bind_eq_some_iff.mp stepped
    obtain ⟨written,write,stepped⟩ := Option.bind_eq_some_iff.mp stepped
    cases stepped
    exact control_adapter present (ends_write write)

theorem control_readAdapter (tunnel : Tunnel κ ρ) : (readAdapter tunnel).control = tunnel.control := by
  have same (adapter : AdapterSocket κ ρ) :
      ends adapter.readData.status adapter.readData.socket = ends adapter.status adapter.socket := by
    rw [AdapterSocket.readData]
    split <;> rfl
  simp [control,readAdapter,Function.comp_def,same]

theorem control_writeProxy (tunnel : Tunnel κ ρ) (data : Data) :
    ({tunnel with proxySocket := tunnel.proxySocket.write data} : Tunnel κ ρ).control = tunnel.control := by
  simp only [ProxySocket.write]
  split <;> rfl

theorem orderly_readDataProxy (orderly : tunnel.control.Orderly) (running : tunnel.cancelled = false)
    {next : Tunnel κ ρ} (stepped : readDataProxy surroundings tunnel = some next) : next.control.Orderly := by
  rw [readDataProxy] at stepped
  split at stepped
  · cases stepped
    exact orderly
  · split at stepped
    · cases stepped
      exact orderly
    · next http _ =>
      obtain ⟨⟨asked,http'⟩,-,stepped⟩ := Option.bind_eq_some_iff.mp stepped
      cases asked with
      | deliver data =>
        rw [control_didReadProxy stepped]
        exact orderly
      | read request =>
        cases stepped
        exact orderly
      | disconnect =>
        cases stepped
        exact @orderly_disconnectProxy _ _ (tunnel.withHTTP http') orderly (fun _ => opened_of_running orderly running)

theorem orderly_becomeReady (orderly : tunnel.control.Orderly) {next : Tunnel κ ρ}
    (stepped : becomeReady surroundings tunnel = some next) : next.control.Orderly := by
  rw [becomeReady] at stepped
  split at stepped
  · cases stepped
    exact orderly
  · next running =>
    dsimp only at stepped
    split at stepped
    · obtain ⟨read,reads,rfl⟩ := Option.map_eq_some_iff.mp stepped
      rw [control_readAdapter]
      refine orderly_readDataProxy ?_ ?_ reads
      · exact orderly
      · exact (Bool.not_eq_true _).mp running
    · cases stepped
      exact orderly

theorem orderly_respondTo (orderly : tunnel.control.Orderly) {next : Tunnel κ ρ}
    (stepped : respondTo surroundings tunnel = some next) : next.control.Orderly := by
  rw [respondTo] at stepped
  split at stepped
  · cases stepped
    exact orderly
  · split at stepped
    · exact orderly_becomeReady orderly stepped
    · next http _ =>
      split at stepped
      · cases stepped
        rw [control_writeProxy]
        exact orderly
      · exact @orderly_becomeReady _ _ _ (tunnel.withHTTP {http with writeStatus := .forwarding}) orderly _ stepped

theorem orderly_becomeReadyAdapter (orderly : tunnel.control.Orderly) {next : Tunnel κ ρ}
    (stepped : becomeReadyAdapter surroundings tunnel = some next) : next.control.Orderly := by
  rw [becomeReadyAdapter] at stepped
  split at stepped
  · cases stepped
    exact orderly
  · obtain ⟨ready,readied,stepped⟩ := Option.bind_eq_some_iff.mp stepped
    exact orderly_respondTo (orderly_becomeReady orderly readied) stepped

theorem orderly_openAdapter (orderly : tunnel.control.Orderly) {host ipAddress : Text} {next : Tunnel κ ρ}
    (stepped : openAdapter surroundings tunnel host ipAddress = some next) :
    next.control.Orderly := by
  rw [openAdapter] at stepped
  split at stepped
  · cases stepped
    exact orderly
  · next running =>
    obtain ⟨factory,-,stepped⟩ := Option.bind_eq_some_iff.mp stepped
    have blank (session : ConnectSession) : (adapterFor surroundings session factory).socket = {} ∧
        (adapterFor surroundings session factory).status = .connecting := by
      cases factory <;> exact ⟨rfl,rfl⟩
    have open_proxy : tunnel.control.proxy.closed = false :=
      opened_of_running orderly ((Bool.not_eq_true _).mp running)
    split at stepped
    · cases stepped
      refine orderly_disconnectAdapter orderly ((Bool.not_eq_true _).mp running) ?_
      rw [(blank _).1]
    · next gone _ =>
      cases stepped
      have untold := untold_of_proxy orderly.toSteady open_proxy
      refine ⟨⟨orderly.proxy,?_,orderly.asked,orderly.once,
        fun silent => absurd (untold.symm.trans silent) (by decide)⟩,
        fun cancelled => absurd cancelled running,?_,fun closed => ?_⟩
      · rintro remote ⟨⟩
        simp [ends,blank,SocketStatus.isDisconnected]
      · rintro (closed | ⟨remote,⟨⟩,closed⟩)
        · exact absurd (open_proxy.symm.trans closed) (by decide)
        · simp [ends,blank] at closed
      · exact absurd (open_proxy.symm.trans closed.1) (by decide)

theorem orderly_didReceive (orderly : tunnel.control.Orderly) {host : Text} {next : Tunnel κ ρ}
    (stepped : didReceive surroundings tunnel host = some next) : next.control.Orderly := by
  rw [didReceive] at stepped
  split at stepped
  · cases stepped
    exact orderly
  · dsimp only at stepped
    split at stepped
    · exact @orderly_openAdapter _ _ _ {tunnel with status := .waitingToBeReady} orderly _ _ _ stepped
    · cases stepped
      exact orderly

theorem orderly_openTunnel (orderly : tunnel.control.Orderly) {next : Tunnel κ ρ}
    (stepped : openTunnel surroundings tunnel = some next) : next.control.Orderly := by
  rw [openTunnel] at stepped
  split at stepped
  · cases stepped
    exact orderly
  · next running =>
    obtain ⟨opened,opens,rfl⟩ := Option.map_eq_some_iff.mp stepped
    suffices kept : opened.control.Orderly from kept
    rw [openProxy] at opens
    split at opens
    · cases opens
      exact orderly
    · split at opens
      · cases opens
        exact orderly
      · exact orderly_didReceive orderly opens
      · cases opens
        exact orderly_disconnectProxy orderly (fun _ => opened_of_running orderly ((Bool.not_eq_true _).mp running))

theorem orderly_proxyRead (orderly : tunnel.control.Orderly) (telling : tunnel.proxySocket.socket.telling = true)
    {data : Data} {next : Tunnel κ ρ} (stepped : proxyRead surroundings tunnel data = some next) :
    next.control.Orderly := by
  have read : ({tunnel with proxySocket := {tunnel.proxySocket with
      socket := tunnel.proxySocket.socket.didRead data}} : Tunnel κ ρ).control.Orderly := orderly
  rw [proxyRead] at stepped
  dsimp only at stepped
  split at stepped
  · rw [control_didReadProxy stepped]
    exact read
  · obtain ⟨⟨heard,http⟩,-,stepped⟩ := Option.bind_eq_some_iff.mp stepped
    dsimp only at stepped
    cases heard with
    | request host port =>
      refine orderly_didReceive ?_ stepped
      exact read
    | data bytes =>
      rw [control_didReadProxy stepped]
      exact read
    | failed error =>
      cases stepped
      apply orderly_disconnectProxy
      · exact read
      · intro stays
        by_contra closed
        have leaving := RawSocket.leaving_of_telling telling ((Bool.not_eq_false _).mp closed)
        exact absurd (stays.symm.trans (orderly.asked.trans leaving)) (by decide)
    | nothing =>
      cases stepped
      exact read

theorem control_didWriteProxy (tunnel : Tunnel κ ρ) : (didWriteProxy tunnel).control = tunnel.control := by
  rw [didWriteProxy]
  split <;> rfl

theorem orderly_proxyWrote (orderly : tunnel.control.Orderly) {next : Tunnel κ ρ}
    (stepped : proxyWrote surroundings tunnel = some next) : next.control.Orderly := by
  have wrote : ({tunnel with proxySocket := {tunnel.proxySocket with
      socket := tunnel.proxySocket.socket.didWrite}} : Tunnel κ ρ).control.Orderly := orderly
  rw [proxyWrote] at stepped
  dsimp only at stepped
  split at stepped
  · cases stepped
    rw [control_didWriteProxy]
    exact wrote
  · next http _ =>
    split at stepped
    · refine orderly_becomeReady ?_ stepped
      exact wrote
    · cases stepped
      rw [control_didWriteProxy]
      exact wrote

theorem orderly_didWriteAdapter (orderly : tunnel.control.Orderly) {next : Tunnel κ ρ}
    (stepped : didWriteAdapter surroundings tunnel = some next) : next.control.Orderly := by
  rw [didWriteAdapter] at stepped
  split at stepped
  · cases stepped
    exact orderly
  · next running => exact orderly_readDataProxy orderly ((Bool.not_eq_true _).mp running) stepped

theorem control_didReadAdapter (tunnel : Tunnel κ ρ) (data : Data) :
    (didReadAdapter tunnel data).control = tunnel.control := by
  rw [didReadAdapter]
  split
  · rfl
  · exact control_writeProxy tunnel data

variable {adapter : AdapterSocket κ ρ}

theorem orderly_adapter (orderly : tunnel.control.Orderly) (present : tunnel.adapterSocket = some adapter)
    {next : AdapterSocket κ ρ} (same : ends next.status next.socket = ends adapter.status adapter.socket) :
    ({tunnel with adapterSocket := some next} : Tunnel κ ρ).control.Orderly := by
  rw [control_adapter present same]
  exact orderly

theorem orderly_adapterWrote (orderly : tunnel.control.Orderly) (present : tunnel.adapterSocket = some adapter)
    {next : Tunnel κ ρ} (stepped : adapterWrote surroundings tunnel adapter = some next) : next.control.Orderly := by
  have wrote : ({tunnel with adapterSocket := some {adapter with
      socket := adapter.socket.didWrite}} : Tunnel κ ρ).control.Orderly := orderly_adapter orderly present rfl
  rw [adapterWrote] at stepped
  split at stepped
  · exact orderly_didWriteAdapter wrote stepped
  · split at stepped
    · exact orderly_didWriteAdapter wrote stepped
    · cases stepped
      exact wrote

theorem orderly_adapterRead (orderly : tunnel.control.Orderly) (present : tunnel.adapterSocket = some adapter)
    {data : Data} {next : Tunnel κ ρ} (stepped : adapterRead surroundings tunnel adapter data = some next) :
    next.control.Orderly := by
  rw [adapterRead] at stepped
  split at stepped
  · cases stepped
    rw [control_didReadAdapter]
    exact orderly_adapter orderly present rfl
  · obtain ⟨plain,-,stepped⟩ := Option.bind_eq_some_iff.mp stepped
    cases stepped
    rw [control_didReadAdapter]
    exact orderly_adapter orderly present rfl

theorem orderly_adapterConnected (orderly : tunnel.control.Orderly) (present : tunnel.adapterSocket = some adapter)
    (opened : adapter.socket.closed = false) {next : Tunnel κ ρ}
    (stepped : adapterConnected surroundings tunnel adapter = some next) : next.control.Orderly := by
  have connecting : ends adapter.status adapter.socket ∈ tunnel.control.adapter := by
    rw [control,present]
    rfl
  have status : adapter.status.isDisconnected = false := (orderly.adapter _ connecting).trans opened
  have connected (kind : AdapterKind κ ρ) : ({tunnel with adapterSocket := some {adapter with
      kind
      status := .established
      socket := {adapter.socket with connecting := false}}} : Tunnel κ ρ).control.Orderly := by
    apply orderly_adapter orderly present
    rw [ends,ends,status]
    rfl
  rw [adapterConnected] at stepped
  dsimp only at stepped
  split at stepped
  · exact orderly_becomeReadyAdapter (connected adapter.kind) stepped
  · next up down _ => exact orderly_becomeReadyAdapter (connected (.shadowsocks .forwarding up down)) stepped

theorem orderly_handle (orderly : tunnel.control.Orderly) {event : Event} (enabled : tunnel.Enabled event)
    {next : Tunnel κ ρ} (stepped : handle surroundings tunnel event = some next) : next.control.Orderly := by
  cases event with
  | openTunnel => exact orderly_openTunnel orderly stepped
  | close =>
    cases stepped
    exact orderly_close orderly
  | proxyRead data => exact orderly_proxyRead orderly enabled.1 stepped
  | proxyWrote => exact orderly_proxyWrote orderly stepped
  | proxyDisconnected =>
    cases stepped
    exact orderly_proxyDisconnected orderly
  | proxyLost =>
    cases stepped
    exact orderly
  | adapterConnected =>
    obtain ⟨adapter,present,opened,-⟩ := enabled
    obtain ⟨adapter,present',stepped⟩ := Option.bind_eq_some_iff.mp stepped
    cases present.symm.trans present'
    exact orderly_adapterConnected orderly present opened stepped
  | adapterRead data =>
    obtain ⟨adapter,present,stepped⟩ := Option.bind_eq_some_iff.mp stepped
    exact orderly_adapterRead orderly present stepped
  | adapterWrote =>
    obtain ⟨adapter,present,stepped⟩ := Option.bind_eq_some_iff.mp stepped
    exact orderly_adapterWrote orderly present stepped
  | adapterDisconnected =>
    obtain ⟨adapter,-,rfl⟩ := Option.map_eq_some_iff.mp stepped
    exact orderly_adapterDisconnected orderly
  | adapterLost =>
    obtain ⟨adapter,present,rfl⟩ := Option.map_eq_some_iff.mp stepped
    exact orderly_adapter orderly present rfl
  | resolved ipv4Result =>
    obtain ⟨host,-,stepped⟩ := Option.bind_eq_some_iff.mp stepped
    obtain ⟨ipAddress,-,stepped⟩ := Option.bind_eq_some_iff.mp stepped
    exact @orderly_openAdapter _ _ _ {tunnel with resolving := none} orderly _ _ _ stepped
  | readAgain =>
    cases stepped
    rw [control_readAdapter]
    exact orderly

theorem orderly_fresh (fresh : tunnel.Fresh) : tunnel.control.Orderly := by
  have blank : tunnel.control = ⟨⟨false,false,false⟩,false,none,false,true,0⟩ := by
    rw [control,fresh.whole]
    simp only [ends]
    rw [fresh.socket]
    rfl
  rw [blank]
  refine ⟨⟨rfl,?_,?_,rfl,?_⟩,?_,?_,?_⟩ <;> simp [Control.Told,Control.Gone]

theorem keeps_orderly : (machine surroundings).Keeps (fun tunnel => tunnel.control.Orderly) Enabled :=
  fun _ _ _ orderly enabled stepped => orderly_handle orderly enabled stepped

/-- The sockets of a tunnel: the local one, and the remote one once there is an adapter. -/
def sockets (tunnel : Tunnel κ ρ) : List RawSocket :=
  tunnel.proxySocket.socket :: tunnel.adapterSocket.toList.map AdapterSocket.socket

theorem gone_iff_sockets : tunnel.control.Gone ↔ ∀ socket ∈ tunnel.sockets, socket.closed = true := by
  cases remote : tunnel.adapterSocket <;> simp [Control.Gone,control,ends,sockets,remote]

theorem left_iff_sockets :
    tunnel.control.Left ↔ ∀ socket ∈ tunnel.sockets, socket.leaving = true ∨ socket.closed = true := by
  cases remote : tunnel.adapterSocket <;> simp [Control.Left,Ends.Left,control,ends,sockets,remote]

/-- The state of closing, in every state of a run: the delegate was told once if all sockets are
gone and else not at all; after a socket is gone the tunnel is cancelled, and then each of the
sockets is gone or was asked to leave. -/
structure Closing (tunnel : Tunnel κ ρ) : Prop where
  told : tunnel.tunnelDidClose = if ∀ socket ∈ tunnel.sockets, socket.closed = true then 1 else 0
  noticed : (∃ socket ∈ tunnel.sockets, socket.closed = true) → tunnel.cancelled = true
  left : tunnel.cancelled = true → ∀ socket ∈ tunnel.sockets, socket.leaving = true ∨ socket.closed = true

theorem closing_of_orderly (orderly : tunnel.control.Orderly) : tunnel.Closing := by
  refine ⟨?_,?_,fun cancelled => left_iff_sockets.mp (orderly.left cancelled)⟩
  · have once := orderly.once
    split
    · next gone =>
      rw [orderly.told (gone_iff_sockets.mpr gone)] at once
      exact once
    · next opened =>
      cases delegate : tunnel.control.delegate with
      | true =>
        rw [delegate] at once
        exact once
      | false => exact absurd (gone_iff_sockets.mp (orderly.last delegate).1) opened
  · intro gone
    apply orderly.noticed
    cases remote : tunnel.adapterSocket <;> simpa [sockets,control,ends,remote] using gone

def plainSurroundings : Surroundings Unit Unit where
  foundation := HTTPHeader.plainFoundation
  inet := ⟨fun _ => none,fun _ => none⟩
  country _ := []
  manager := ⟨[Rule.directRule]⟩
  coder := ⟨fun _ data => some (data,()),fun _ data => some (data,())⟩
  start _ := ((),())
  connectTo _ := some false

def accepted : Tunnel Unit Unit := {proxySocket := {kind := .http {}}}

theorem fresh_accepted : accepted.Fresh := by
  refine ⟨rfl,rfl,?_⟩
  rintro _ ⟨⟩
  rfl

def requestEvents : List Event :=
  [.openTunnel,.proxyRead (Data.utf8 HTTPHeader.request),.resolved (some ["10.0.0.1".toList]),.adapterConnected,
    .adapterWrote,.proxyRead [97,98,99],.adapterRead [72,105],.adapterWrote,.proxyWrote,.readAgain,
    .proxyLost,.adapterDisconnected,.proxyDisconnected]

theorem along_requestEvents : (machine plainSurroundings).Along Enabled accepted requestEvents := by decide +kernel

/-- What went over a raw socket, and what it still owes. -/
def traffic (socket : RawSocket) : List ReadRequest × Nat × List Data × List Data :=
  (socket.reads,socket.writes,socket.received,socket.sent)

def Hushed (f : Tunnel κ ρ → Tunnel κ ρ) : Prop :=
  ∀ tunnel, (f tunnel).sockets.map traffic = tunnel.sockets.map traffic ∧ (f tunnel).timers = tunnel.timers ∧
    (tunnel.cancelled = true → (f tunnel).cancelled = true)

theorem hushed_checkStatus : Hushed (@checkStatus κ ρ) := by
  intro tunnel
  rw [checkStatus]
  split <;> exact ⟨rfl,rfl,id⟩

theorem hushed_disconnectProxy {f : Tunnel κ ρ → Tunnel κ ρ} (hushed : Hushed f) : Hushed (disconnectProxy f) := by
  intro tunnel
  rw [disconnectProxy]
  split
  · exact ⟨rfl,rfl,id⟩
  · split
    · exact hushed _
    · exact ⟨rfl,rfl,id⟩

theorem hushed_disconnectAdapter {f : Tunnel κ ρ → Tunnel κ ρ} (hushed : Hushed f) :
    Hushed (disconnectAdapter f) := by
  intro tunnel
  rw [disconnectAdapter]
  split
  · exact ⟨rfl,rfl,id⟩
  · next adapter present =>
    have same (status : SocketStatus) (closed : Bool) : ({tunnel with adapterSocket := some {adapter with
        status
        cancelled := true
        socket := {adapter.socket with leaving := true, closed}}} : Tunnel κ ρ).sockets.map traffic =
          tunnel.sockets.map traffic := by
      simp [sockets,present,traffic]
    split
    · obtain ⟨kept,timers,cancelled⟩ := hushed {tunnel with adapterSocket := some {adapter with
        status := .closed
        cancelled := true
        socket := {adapter.socket with leaving := true, closed := true}}}
      exact ⟨kept.trans (same .closed true),timers,cancelled⟩
    · exact ⟨same .disconnecting adapter.socket.closed,rfl,id⟩

theorem hushed_closeAdapter : Hushed (@closeAdapter κ ρ) := by
  intro tunnel
  rw [closeAdapter]
  split
  · exact ⟨rfl,rfl,id⟩
  · split
    · exact ⟨rfl,rfl,id⟩
    · exact hushed_disconnectAdapter hushed_checkStatus tunnel

theorem hushed_close : Hushed (@close κ ρ) := by
  intro tunnel
  rw [close]
  split
  · exact ⟨rfl,rfl,id⟩
  · dsimp only
    split
    · obtain ⟨kept,timers,cancelled⟩ := hushed_closeAdapter {tunnel with cancelled := true, status := .closing}
      exact ⟨kept,timers,fun _ => cancelled rfl⟩
    · obtain ⟨kept,timers,cancelled⟩ :=
        hushed_disconnectProxy hushed_checkStatus {tunnel with cancelled := true, status := .closing}
      obtain ⟨kept',timers',cancelled'⟩ :=
        hushed_closeAdapter (disconnectProxy checkStatus {tunnel with cancelled := true, status := .closing})
      exact ⟨kept'.trans kept,timers'.trans timers,fun _ => cancelled' (cancelled rfl)⟩

theorem cancelled_close (tunnel : Tunnel κ ρ) : (close tunnel).cancelled = true := by
  rw [close]
  split
  · next cancelled => exact cancelled
  · apply (hushed_closeAdapter _).2.2
    dsimp only
    split
    · rfl
    · exact (hushed_disconnectProxy hushed_checkStatus _).2.2 rfl

theorem hushed_didDisconnectWith : Hushed (@didDisconnectWith κ ρ) := by
  intro tunnel
  rw [didDisconnectWith]
  split
  · exact hushed_checkStatus tunnel
  · obtain ⟨kept,timers,cancelled⟩ := hushed_close tunnel
    obtain ⟨kept',timers',cancelled'⟩ := hushed_checkStatus (close tunnel)
    exact ⟨kept'.trans kept,timers'.trans timers,fun before => cancelled' (cancelled before)⟩

theorem cancelled_didDisconnectWith (tunnel : Tunnel κ ρ) : (didDisconnectWith tunnel).cancelled = true := by
  rw [didDisconnectWith]
  apply (hushed_checkStatus _).2.2
  split
  · next cancelled => exact cancelled
  · exact cancelled_close tunnel

/-- The bytes that each socket was given. -/
def bytesSent (tunnel : Tunnel κ ρ) : List (List Data) := tunnel.sockets.map RawSocket.sent

theorem bytesSent_of_traffic {first second : Tunnel κ ρ}
    (same : first.sockets.map traffic = second.sockets.map traffic) : first.bytesSent = second.bytesSent := by
  have sent := congrArg (List.map (fun traffic => traffic.2.2.2)) same
  simpa [bytesSent,traffic,Function.comp_def] using sent

theorem bytesSent_adapter {adapter next : AdapterSocket κ ρ} (present : tunnel.adapterSocket = some adapter)
    (same : next.socket.sent = adapter.socket.sent) :
    ({tunnel with adapterSocket := some next} : Tunnel κ ρ).bytesSent = tunnel.bytesSent := by
  simp [bytesSent,sockets,present,same]

theorem bytesSent_readAdapter (tunnel : Tunnel κ ρ) : (readAdapter tunnel).bytesSent = tunnel.bytesSent := by
  have same (adapter : AdapterSocket κ ρ) : adapter.readData.socket.sent = adapter.socket.sent := by
    rw [AdapterSocket.readData]
    split <;> rfl
  cases remote : tunnel.adapterSocket <;> simp [bytesSent,sockets,readAdapter,remote,same]

theorem didReadProxy_cancelled (cancelled : tunnel.cancelled = true) (data : Data) :
    didReadProxy surroundings tunnel data = some tunnel := if_pos cancelled

theorem didReadAdapter_cancelled (cancelled : tunnel.cancelled = true) (data : Data) :
    didReadAdapter tunnel data = tunnel := if_pos cancelled

theorem didWriteProxy_cancelled (cancelled : tunnel.cancelled = true) : didWriteProxy tunnel = tunnel :=
  if_pos cancelled

theorem didWriteAdapter_cancelled (cancelled : tunnel.cancelled = true) :
    didWriteAdapter surroundings tunnel = some tunnel := if_pos cancelled

theorem becomeReady_cancelled (cancelled : tunnel.cancelled = true) :
    becomeReady surroundings tunnel = some tunnel := if_pos cancelled

theorem becomeReadyAdapter_cancelled (cancelled : tunnel.cancelled = true) :
    becomeReadyAdapter surroundings tunnel = some tunnel := if_pos cancelled

theorem didReceive_cancelled (cancelled : tunnel.cancelled = true) (host : Text) :
    didReceive surroundings tunnel host = some tunnel := if_pos cancelled

theorem openAdapter_cancelled (cancelled : tunnel.cancelled = true) (host ipAddress : Text) :
    openAdapter surroundings tunnel host ipAddress = some tunnel := if_pos cancelled

def Silent (tunnel next : Tunnel κ ρ) : Prop := next.cancelled = true ∧ next.bytesSent = tunnel.bytesSent

theorem silent_hushed {f : Tunnel κ ρ → Tunnel κ ρ} (hushed : Hushed f) {first : Tunnel κ ρ}
    (silent : Silent tunnel first) : Silent tunnel (f first) := by
  obtain ⟨traffic,-,after⟩ := hushed first
  exact ⟨after silent.1,(bytesSent_of_traffic traffic).trans silent.2⟩

theorem silent_proxyRead (cancelled : tunnel.cancelled = true) {data : Data} {next : Tunnel κ ρ}
    (stepped : proxyRead surroundings tunnel data = some next) : Silent tunnel next := by
  rw [proxyRead] at stepped
  dsimp only at stepped
  split at stepped
  · rw [didReadProxy_cancelled (by exact cancelled)] at stepped
    cases stepped
    exact ⟨cancelled,rfl⟩
  · obtain ⟨⟨heard,http⟩,-,stepped⟩ := Option.bind_eq_some_iff.mp stepped
    dsimp only at stepped
    cases heard with
    | request host port =>
      dsimp only at stepped
      rw [didReceive_cancelled (by exact cancelled)] at stepped
      cases stepped
      exact ⟨cancelled,rfl⟩
    | data bytes =>
      dsimp only at stepped
      rw [didReadProxy_cancelled (by exact cancelled)] at stepped
      cases stepped
      exact ⟨cancelled,rfl⟩
    | failed error =>
      cases stepped
      exact silent_hushed (hushed_disconnectProxy hushed_didDisconnectWith) ⟨cancelled,rfl⟩
    | nothing =>
      cases stepped
      exact ⟨cancelled,rfl⟩

theorem silent_proxyWrote (cancelled : tunnel.cancelled = true) {next : Tunnel κ ρ}
    (stepped : proxyWrote surroundings tunnel = some next) : Silent tunnel next := by
  rw [proxyWrote] at stepped
  dsimp only at stepped
  split at stepped
  · rw [didWriteProxy_cancelled (by exact cancelled)] at stepped
    cases stepped
    exact ⟨cancelled,rfl⟩
  · split at stepped
    · rw [becomeReady_cancelled (by exact cancelled)] at stepped
      cases stepped
      exact ⟨cancelled,rfl⟩
    · rw [didWriteProxy_cancelled (by exact cancelled)] at stepped
      cases stepped
      exact ⟨cancelled,rfl⟩

theorem silent_adapterConnected (cancelled : tunnel.cancelled = true) {adapter : AdapterSocket κ ρ}
    (present : tunnel.adapterSocket = some adapter) {next : Tunnel κ ρ}
    (stepped : adapterConnected surroundings tunnel adapter = some next) : Silent tunnel next := by
  rw [adapterConnected] at stepped
  dsimp only at stepped
  split at stepped
  all_goals
    rw [becomeReadyAdapter_cancelled (by exact cancelled)] at stepped
    cases stepped
    refine ⟨cancelled,bytesSent_adapter present rfl⟩

theorem silent_adapterRead (cancelled : tunnel.cancelled = true) {adapter : AdapterSocket κ ρ}
    (present : tunnel.adapterSocket = some adapter) {data : Data} {next : Tunnel κ ρ}
    (stepped : adapterRead surroundings tunnel adapter data = some next) : Silent tunnel next := by
  rw [adapterRead] at stepped
  split at stepped
  · rw [didReadAdapter_cancelled (by exact cancelled)] at stepped
    cases stepped
    exact ⟨cancelled,bytesSent_adapter present rfl⟩
  · obtain ⟨⟨plain,down⟩,-,stepped⟩ := Option.bind_eq_some_iff.mp stepped
    dsimp only at stepped
    rw [didReadAdapter_cancelled (by exact cancelled)] at stepped
    cases stepped
    exact ⟨cancelled,bytesSent_adapter present rfl⟩

theorem silent_adapterWrote (cancelled : tunnel.cancelled = true) {adapter : AdapterSocket κ ρ}
    (present : tunnel.adapterSocket = some adapter) {next : Tunnel κ ρ}
    (stepped : adapterWrote surroundings tunnel adapter = some next) : Silent tunnel next := by
  rw [adapterWrote] at stepped
  split at stepped
  · rw [didWriteAdapter_cancelled (by exact cancelled)] at stepped
    cases stepped
    exact ⟨cancelled,bytesSent_adapter present rfl⟩
  · split at stepped
    · rw [didWriteAdapter_cancelled (by exact cancelled)] at stepped
      cases stepped
      exact ⟨cancelled,bytesSent_adapter present rfl⟩
    · cases stepped
      exact ⟨cancelled,bytesSent_adapter present rfl⟩

/-- A cancelled tunnel gives nothing to a socket and opens none, whatever happens. -/
theorem silent_handle (cancelled : tunnel.cancelled = true) {event : Event} {next : Tunnel κ ρ}
    (stepped : handle surroundings tunnel event = some next) : Silent tunnel next := by
  cases event with
  | openTunnel =>
    rw [handle,openTunnel,if_pos cancelled] at stepped
    cases stepped
    exact ⟨cancelled,rfl⟩
  | close =>
    cases stepped
    exact silent_hushed hushed_close ⟨cancelled,rfl⟩
  | proxyRead data => exact silent_proxyRead cancelled stepped
  | proxyWrote => exact silent_proxyWrote cancelled stepped
  | proxyDisconnected =>
    cases stepped
    exact silent_hushed hushed_didDisconnectWith ⟨cancelled,rfl⟩
  | proxyLost =>
    cases stepped
    exact ⟨cancelled,rfl⟩
  | adapterConnected =>
    obtain ⟨adapter,present,stepped⟩ := Option.bind_eq_some_iff.mp stepped
    exact silent_adapterConnected cancelled present stepped
  | adapterRead data =>
    obtain ⟨adapter,present,stepped⟩ := Option.bind_eq_some_iff.mp stepped
    exact silent_adapterRead cancelled present stepped
  | adapterWrote =>
    obtain ⟨adapter,present,stepped⟩ := Option.bind_eq_some_iff.mp stepped
    exact silent_adapterWrote cancelled present stepped
  | adapterDisconnected =>
    obtain ⟨adapter,present,rfl⟩ := Option.map_eq_some_iff.mp stepped
    exact silent_hushed hushed_didDisconnectWith ⟨cancelled,bytesSent_adapter present rfl⟩
  | adapterLost =>
    obtain ⟨adapter,present,rfl⟩ := Option.map_eq_some_iff.mp stepped
    exact ⟨cancelled,bytesSent_adapter present rfl⟩
  | resolved ipv4Result =>
    obtain ⟨host,-,stepped⟩ := Option.bind_eq_some_iff.mp stepped
    obtain ⟨ipAddress,-,stepped⟩ := Option.bind_eq_some_iff.mp stepped
    rw [openAdapter_cancelled (by exact cancelled)] at stepped
    cases stepped
    exact ⟨cancelled,rfl⟩
  | readAgain =>
    cases stepped
    exact ⟨cancelled,bytesSent_readAdapter _⟩

/-- After a tunnel is cancelled its sockets get no byte more, in every run and without any
promise of the raw sockets. -/
theorem silent_visits (cancelled : tunnel.cancelled = true) (events : List Event) :
    (machine surroundings).Visits (Silent tunnel) tunnel events := by
  refine Machine.Along.visits ?_ ⟨cancelled,rfl⟩ (Machine.Along.of_forall (fun _ _ => trivial) tunnel events)
  intro first event next silent _ stepped
  obtain ⟨still,same⟩ := silent_handle silent.1 stepped
  exact ⟨still,same.trans silent.2⟩

theorem silent_visits_request :
    (machine plainSurroundings).Visits (Silent (close accepted)) (close accepted) requestEvents :=
  silent_visits (cancelled_close accepted) requestEvents

end TenonVpn.Tunnel
