import TenonVpn.IPPacket
import TenonVpn.Machine
import Mathlib.Data.List.AList

/-! `UDPDirectStack` and the `NWUDPSocket`s it opens: a packet of the system goes to the socket of
its flow, and what a socket receives goes back as a packet of that flow. -/
namespace TenonVpn

/-- `inet_ntop` of an address of four bytes. -/
def IPAddress.presentation (address : UInt32) : Text :=
  List.intercalate ['.'] ((Data.memory 4 address.toNat).map (fun byte => Text.decimal byte.toNat))

structure ConnectInfo where
  sourceAddress : UInt32
  sourcePort : Port
  destinationAddress : UInt32
  destinationPort : Port
deriving DecidableEq

namespace ConnectInfo

def ofPacket (packet : IPPacket) : ConnectInfo where
  sourceAddress := packet.sourceAddress
  sourcePort := packet.protocolParser.sourcePort
  destinationAddress := packet.destinationAddress
  destinationPort := packet.protocolParser.destinationPort

/-- The packet that `didReceive` builds: the flow turned around. -/
def reply (connectInfo : ConnectInfo) (data : Data) : IPPacket where
  sourceAddress := connectInfo.destinationAddress
  destinationAddress := connectInfo.sourceAddress
  protocolParser := {
    sourcePort := connectInfo.destinationPort
    destinationPort := connectInfo.sourcePort
    payload := data}

end ConnectInfo

inductive NWUDPSessionState
  | invalid | waiting | preparing | ready | failed | cancelled
deriving DecidableEq

/-- `written` are the calls of `writeMultipleDatagrams`, `unanswered` those of them whose handler has
not run; `cancels` are the blocks of `observeValue` that have not run. -/
structure NWUDPSocket where
  host : Text
  port : Nat
  state : NWUDPSessionState := .preparing
  pendingWriteData : List Data := []
  writing : Bool := false
  timer : Bool := true
  written : List (List Data) := []
  unanswered : Nat := 0
  cancels : Nat := 0

namespace NWUDPSocket

/-- `init?(host:port:)`, which needs the provider of the tunnel. -/
def init (provider : Bool) (host : Text) (port : Nat) : Option NWUDPSocket :=
  if provider then some {host,port} else none

def checkWrite (socket : NWUDPSocket) : NWUDPSocket :=
  if socket.state ≠ .ready then socket
  else if socket.writing then socket
  else if socket.pendingWriteData = [] then socket
  else {socket with
    writing := true
    written := socket.written ++ [socket.pendingWriteData]
    unanswered := socket.unanswered + 1
    pendingWriteData := []}

def write (socket : NWUDPSocket) (data : Data) : NWUDPSocket :=
  checkWrite {socket with pendingWriteData := socket.pendingWriteData ++ [data]}

def disconnect (socket : NWUDPSocket) : NWUDPSocket := {socket with timer := false}

def observeValue (socket : NWUDPSocket) (state : NWUDPSessionState) : NWUDPSocket :=
  match state with
  | .cancelled => {socket with state, cancels := socket.cancels + 1}
  | .ready => checkWrite {socket with state}
  | _ => {socket with state}

/-- The handler of a write. -/
def didWrite (socket : NWUDPSocket) : NWUDPSocket :=
  checkWrite {socket with unanswered := socket.unanswered - 1, writing := false}

/-- The block of a cancelled session, which tells the stack. -/
def told (socket : NWUDPSocket) : NWUDPSocket := {socket with cancels := socket.cancels - 1}

def checkStatus (socket : NWUDPSocket) (expired : Bool) : NWUDPSocket :=
  if expired then socket.disconnect else socket

end NWUDPSocket

/-- The sockets are named by their places in the list of all that were created. -/
structure UDPDirectStack where
  activeSockets : AList (fun _ : ConnectInfo => Nat) := ∅
  sockets : List NWUDPSocket := []

namespace UDPDirectStack

def modify (stack : UDPDirectStack) (socket : Nat) (change : NWUDPSocket → NWUDPSocket) : UDPDirectStack :=
  {stack with sockets := stack.sockets.modify socket change}

/-- `findSocket(connectInfo: nil, socket:)`. -/
def findSocket (stack : UDPDirectStack) (socket : Nat) : Option ConnectInfo :=
  (stack.activeSockets.entries.find? (fun entry => entry.2 = socket)).map (·.1)

def findOrCreateSocket (stack : UDPDirectStack) (connectInfo : ConnectInfo) (provider : Bool) :
    Option (Nat × UDPDirectStack) :=
  match stack.activeSockets.lookup connectInfo with
  | some socket => some (socket,stack)
  | none => (NWUDPSocket.init provider (IPAddress.presentation connectInfo.destinationAddress)
      connectInfo.destinationPort.value.toNat).map (fun udpSocket => (stack.sockets.length,{
        activeSockets := stack.activeSockets.insert connectInfo stack.sockets.length
        sockets := stack.sockets ++ [udpSocket]}))

def inputPacket (stack : UDPDirectStack) (packetData : Data) (provider : Bool) : Option UDPDirectStack :=
  match IPPacket.init packetData with
  | .error .traps => none
  | .error .returnsNil => some stack
  | .ok packet =>
    match findOrCreateSocket stack (ConnectInfo.ofPacket packet) provider with
    | none => some stack
    | some (socket,found) => some (found.modify socket (·.write packet.protocolParser.payload))

/-- `input(packet:version:)`, with whether it takes the packet; `AF_INET6` is 30. -/
def input (stack : UDPDirectStack) (packet : Data) (version : Option Int) (provider : Bool) :
    Option (Bool × UDPDirectStack) :=
  if version = some 30 then some (false,stack)
  else if IPPacket.peekProtocol packet = some .udp then (stack.inputPacket packet provider).map (true,·)
  else some (false,stack)

/-- The packets of `didReceive` for the datagrams of one read; the flag is false where it traps. -/
def replies (connectInfo : ConnectInfo) : List Data → List Data × Bool
  | [] => ([],true)
  | data :: rest =>
    match (connectInfo.reply data).buildPacket with
    | none => ([],false)
    | some packetData => (packetData :: (replies connectInfo rest).1,(replies connectInfo rest).2)

/-- The read handler of a socket, given an error or datagrams. -/
def received (stack : UDPDirectStack) (socket : Nat) (dataArray : Option (List Data)) :
    List Data × Option UDPDirectStack :=
  match dataArray,stack.findSocket socket with
  | some dataArray,some connectInfo =>
    ((replies connectInfo dataArray).1,if (replies connectInfo dataArray).2 then some stack else none)
  | _,_ => ([],some stack)

def didCancel (stack : UDPDirectStack) (socket : Nat) : UDPDirectStack :=
  match stack.findSocket socket with
  | none => stack
  | some connectInfo => {stack with activeSockets := stack.activeSockets.erase connectInfo}

def stop (stack : UDPDirectStack) : UDPDirectStack where
  activeSockets := ∅
  sockets := (stack.activeSockets.entries.map (·.2)).foldl (fun sockets socket =>
    sockets.modify socket NWUDPSocket.disconnect) stack.sockets

/-- What the stack is told: by the interface, and by the session, the queue and the timer of a socket. -/
inductive Event
  | input (packet : Data) (version : Option Int) (provider : Bool)
  | received (socket : Nat) (dataArray : Option (List Data))
  | observed (socket : Nat) (state : NWUDPSessionState)
  | cancelled (socket : Nat)
  | wrote (socket : Nat)
  | checkStatus (socket : Nat) (expired : Bool)
  | stop

/-- The outputs are the packets that go to the system. -/
def machine : Machine UDPDirectStack Event Data where
  step stack
    | .input packet version provider => ([],(stack.input packet version provider).map (·.2))
    | .received socket dataArray => stack.received socket dataArray
    | .observed socket state => ([],some (stack.modify socket (·.observeValue state)))
    | .cancelled socket => ([],some ((stack.modify socket NWUDPSocket.told).didCancel socket))
    | .wrote socket => ([],some (stack.modify socket NWUDPSocket.didWrite))
    | .checkStatus socket expired => ([],some (stack.modify socket (·.checkStatus expired)))
    | .stop => ([],some stack.stop)

/-- A handler runs once for each call, and a timer until it is cancelled. -/
def Enabled (stack : UDPDirectStack) : Event → Prop
  | .cancelled socket => ∃ udpSocket ∈ stack.sockets[socket]?, 0 < udpSocket.cancels
  | .wrote socket => ∃ udpSocket ∈ stack.sockets[socket]?, 0 < udpSocket.unanswered
  | .checkStatus socket _ => ∃ udpSocket ∈ stack.sockets[socket]?, udpSocket.timer = true
  | _ => True

instance decidableEnabled (stack : UDPDirectStack) (event : Event) : Decidable (Enabled stack event) := by
  cases event <;> unfold Enabled <;> infer_instance

end UDPDirectStack

namespace NWUDPSocket

/-- What a socket was given: sent to the session, or still waiting. -/
def taken (socket : NWUDPSocket) : List Data := socket.written.flatten ++ socket.pendingWriteData

/-- A socket writes one batch at a time, and nothing waits at a session that could take it. -/
structure Prompt (socket : NWUDPSocket) : Prop where
  single : socket.unanswered = socket.writing.toNat
  batches : ∀ batch ∈ socket.written, batch ≠ []
  ready : socket.state = .ready → socket.writing = false → socket.pendingWriteData = []

/-- A change that keeps the endpoint, what was given, and promptness. -/
structure Quiet (socket next : NWUDPSocket) : Prop where
  host : next.host = socket.host
  port : next.port = socket.port
  taken : next.taken = socket.taken
  prompt : socket.Prompt → next.Prompt

theorem taken_checkWrite (socket : NWUDPSocket) : socket.checkWrite.taken = socket.taken := by
  rw [checkWrite]
  split_ifs
  · rfl
  · rfl
  · rfl
  · simp only [taken,List.flatten_append,List.flatten_cons,List.flatten_nil,List.append_nil]

theorem endpoint_checkWrite (socket : NWUDPSocket) :
    socket.checkWrite.host = socket.host ∧ socket.checkWrite.port = socket.port := by
  rw [checkWrite]
  split_ifs <;> exact ⟨rfl,rfl⟩

theorem prompt_checkWrite {socket : NWUDPSocket} (single : socket.unanswered = socket.writing.toNat)
    (batches : ∀ batch ∈ socket.written, batch ≠ []) : socket.checkWrite.Prompt := by
  rw [checkWrite]
  split_ifs with unready writing empty
  · exact ⟨single,batches,fun ready => absurd ready unready⟩
  · exact ⟨single,batches,fun _ idle => absurd writing (by rw [idle]; decide)⟩
  · exact ⟨single,batches,fun _ _ => empty⟩
  · have idle : socket.writing = false := (Bool.not_eq_true _).mp writing
    rw [idle] at single
    refine ⟨by rw [single]; rfl,?_,fun _ idle => nomatch idle⟩
    intro batch member
    rcases List.mem_append.mp member with earlier | last
    · exact batches batch earlier
    · rw [List.mem_singleton.mp last]
      exact empty

theorem quiet_checkWrite {socket before : NWUDPSocket} (host : socket.host = before.host)
    (port : socket.port = before.port) (taken : socket.taken = before.taken)
    (single : before.Prompt → socket.unanswered = socket.writing.toNat)
    (batches : socket.written = before.written) : Quiet before socket.checkWrite where
  host := (endpoint_checkWrite socket).1.trans host
  port := (endpoint_checkWrite socket).2.trans port
  taken := (taken_checkWrite socket).trans taken
  prompt := fun prompt => prompt_checkWrite (single prompt) (by rw [batches]; exact prompt.batches)

theorem quiet_observeValue (socket : NWUDPSocket) (state : NWUDPSessionState) :
    Quiet socket (socket.observeValue state) := by
  have other {state : NWUDPSessionState} (unready : state ≠ .ready) (cancels : Nat) :
      Quiet socket {socket with state,cancels} :=
    ⟨rfl,rfl,rfl,fun prompt => ⟨prompt.single,prompt.batches,fun ready => absurd ready unready⟩⟩
  cases state with
  | ready => exact quiet_checkWrite rfl rfl rfl (fun prompt => prompt.single) rfl
  | cancelled => exact other (by decide) _
  | invalid => exact other (by decide) _
  | waiting => exact other (by decide) _
  | preparing => exact other (by decide) _
  | failed => exact other (by decide) _

theorem quiet_disconnect (socket : NWUDPSocket) : Quiet socket socket.disconnect :=
  ⟨rfl,rfl,rfl,fun prompt => ⟨prompt.single,prompt.batches,prompt.ready⟩⟩

theorem quiet_told (socket : NWUDPSocket) : Quiet socket socket.told :=
  ⟨rfl,rfl,rfl,fun prompt => ⟨prompt.single,prompt.batches,prompt.ready⟩⟩

theorem quiet_checkStatus (socket : NWUDPSocket) (expired : Bool) : Quiet socket (socket.checkStatus expired) := by
  rw [checkStatus]
  split
  · exact quiet_disconnect socket
  · exact ⟨rfl,rfl,rfl,id⟩

theorem quiet_didWrite {socket : NWUDPSocket} (outstanding : 0 < socket.unanswered) :
    Quiet socket socket.didWrite := by
  refine quiet_checkWrite rfl rfl rfl (fun prompt => ?_) rfl
  have single := prompt.single
  have most := Bool.toNat_le socket.writing
  exact (by omega : socket.unanswered - 1 = 0)

theorem taken_write (socket : NWUDPSocket) (data : Data) : (socket.write data).taken = socket.taken ++ [data] := by
  rw [write,taken_checkWrite,taken,taken,List.append_assoc]

theorem prompt_write {socket : NWUDPSocket} (prompt : socket.Prompt) (data : Data) : (socket.write data).Prompt :=
  prompt_checkWrite prompt.single prompt.batches

end NWUDPSocket

namespace UDPDirectStack

/-- What an observer notes: the flow of each socket, and the payloads that were taken in. -/
structure Notes where
  flows : List ConnectInfo := []
  arrived : List (ConnectInfo × Data) := []

def Notes.payloads (notes : Notes) (flow : ConnectInfo) : List Data :=
  (notes.arrived.filter (fun arrival => arrival.1 = flow)).map (·.2)

/-- The packet that the stack takes in: one for a flow with a socket, or for which it can open one. -/
def takes (stack : UDPDirectStack) (packet : Data) (version : Option Int) (provider : Bool) : Option IPPacket :=
  if version ≠ some 30 ∧ IPPacket.peekProtocol packet = some .udp then
    (IPPacket.init packet).toOption.filter (fun packet =>
      provider || (stack.activeSockets.lookup (ConnectInfo.ofPacket packet)).isSome)
  else none

def note (notes : Notes) (stack : UDPDirectStack) : Event → Notes
  | .input packet version provider =>
    match stack.takes packet version provider with
    | none => notes
    | some packet => {
      flows := if (stack.activeSockets.lookup (ConnectInfo.ofPacket packet)).isSome then notes.flows
        else notes.flows ++ [ConnectInfo.ofPacket packet]
      arrived := notes.arrived ++ [(ConnectInfo.ofPacket packet,packet.protocolParser.payload)]}
  | _ => notes

/-- What the sockets of a flow were given, in the order in which they were opened. -/
def carried (flow : ConnectInfo) : List ConnectInfo → List NWUDPSocket → List Data
  | owner :: flows,socket :: sockets => (if owner = flow then socket.taken else []) ++ carried flow flows sockets
  | _,_ => []

theorem carried_modify (flow : ConnectInfo) {change : NWUDPSocket → NWUDPSocket} (flows : List ConnectInfo)
    (sockets : List NWUDPSocket) (place : Nat)
    (keeps : ∀ socket ∈ sockets[place]?, (change socket).taken = socket.taken) :
    carried flow flows (sockets.modify place change) = carried flow flows sockets := by
  induction flows generalizing sockets place with
  | nil => rfl
  | cons owner flows ih =>
    cases sockets with
    | nil => simp
    | cons socket sockets =>
      cases place with
      | zero => simp only [List.modify_zero_cons,carried,keeps socket rfl]
      | succ place =>
        have rest := ih sockets place (fun socket found => keeps socket (by simpa using found))
        simp only [List.modify_succ_cons,carried,rest]

theorem carried_of_not_mem {flow : ConnectInfo} {flows : List ConnectInfo} (unknown : flow ∉ flows)
    (sockets : List NWUDPSocket) : carried flow flows sockets = [] := by
  induction flows generalizing sockets with
  | nil => rfl
  | cons owner flows ih =>
    cases sockets with
    | nil => rfl
    | cons socket sockets =>
      rw [List.mem_cons,not_or] at unknown
      rw [carried,if_neg (fun same => unknown.1 same.symm),ih unknown.2,List.nil_append]

/-- What the last socket of a flow is given comes last in the flow. -/
theorem carried_last (flow : ConnectInfo) {owner : ConnectInfo} {data : Data} {change : NWUDPSocket → NWUDPSocket}
    (adds : ∀ socket, (change socket).taken = socket.taken ++ [data]) (flows : List ConnectInfo)
    (sockets : List NWUDPSocket) {place : Nat} (owned : flows[place]? = some owner)
    (present : place < sockets.length) (last : ∀ later, place < later → flows[later]? ≠ some owner) :
    carried flow flows (sockets.modify place change) =
      carried flow flows sockets ++ if owner = flow then [data] else [] := by
  induction flows generalizing sockets place with
  | nil => simp at owned
  | cons first flows ih =>
    cases sockets with
    | nil => simp at present
    | cons socket sockets =>
      cases place with
      | zero =>
        obtain rfl : first = owner := by simpa using owned
        have unknown : first ∉ flows := by
          intro member
          obtain ⟨place,found⟩ := List.mem_iff_getElem?.mp member
          exact last (place + 1) (by omega) found
        rw [List.modify_zero_cons,carried,carried,adds]
        by_cases same : first = flow
        · subst same
          rw [if_pos rfl,if_pos rfl,if_pos rfl,carried_of_not_mem unknown,List.append_nil,List.append_nil]
        · rw [if_neg same,if_neg same,if_neg same,List.append_nil]
      | succ place =>
        have rest := ih sockets owned (by simpa using present) (fun later behind => by
          simpa using last (later + 1) (by omega))
        rw [List.modify_succ_cons,carried,carried,rest,List.append_assoc]

theorem carried_concat (flow owner : ConnectInfo) (socket : NWUDPSocket) {flows : List ConnectInfo}
    {sockets : List NWUDPSocket} (lengths : flows.length = sockets.length) :
    carried flow (flows ++ [owner]) (sockets ++ [socket]) =
      carried flow flows sockets ++ if owner = flow then socket.taken else [] := by
  induction flows generalizing sockets with
  | nil =>
    cases sockets with
    | nil => simp [carried]
    | cons first sockets => simp at lengths
  | cons first flows ih =>
    cases sockets with
    | nil => simp at lengths
    | cons other sockets =>
      rw [List.cons_append,List.cons_append,carried,carried,ih (by simpa using lengths),List.append_assoc]

/-- The socket of a flow goes to the destination of the flow. -/
structure Serves (info : ConnectInfo) (socket : NWUDPSocket) : Prop where
  host : socket.host = IPAddress.presentation info.destinationAddress
  port : socket.port = info.destinationPort.value.toNat
  prompt : socket.Prompt

/-- What holds between two events. A flow that is active has its last socket. -/
structure Ordered (stack : UDPDirectStack) (notes : Notes) : Prop where
  lengths : notes.flows.length = stack.sockets.length
  serves : ∀ (place : Nat) (info : ConnectInfo) (socket : NWUDPSocket), notes.flows[place]? = some info →
    stack.sockets[place]? = some socket → Serves info socket
  active : ∀ (info : ConnectInfo) (place : Nat), stack.activeSockets.lookup info = some place →
    notes.flows[place]? = some info ∧ ∀ later, place < later → notes.flows[later]? ≠ some info
  carries : ∀ flow, carried flow notes.flows stack.sockets = notes.payloads flow

/-- The stack with a new socket for a flow. -/
def opened (stack : UDPDirectStack) (info : ConnectInfo) : UDPDirectStack where
  activeSockets := stack.activeSockets.insert info stack.sockets.length
  sockets := stack.sockets ++ [{
    host := IPAddress.presentation info.destinationAddress
    port := info.destinationPort.value.toNat}]

variable {stack next : UDPDirectStack} {notes : Notes}

theorem input_cases {packet : Data} {version : Option Int} {provider : Bool}
    (stepped : (stack.input packet version provider).map (·.2) = some next) :
    (stack.takes packet version provider = none ∧ next = stack) ∨
    ∃ taken, stack.takes packet version provider = some taken ∧
      ((∃ place, stack.activeSockets.lookup (ConnectInfo.ofPacket taken) = some place ∧
        next = stack.modify place (·.write taken.protocolParser.payload)) ∨
      (stack.activeSockets.lookup (ConnectInfo.ofPacket taken) = none ∧
        next = (opened stack (ConnectInfo.ofPacket taken)).modify stack.sockets.length
          (·.write taken.protocolParser.payload))) := by
  rw [input] at stepped
  rw [takes]
  by_cases sixth : version = some 30
  · rw [if_pos sixth] at stepped
    cases stepped
    exact Or.inl ⟨if_neg (fun both => both.1 sixth),rfl⟩
  · rw [if_neg sixth] at stepped
    by_cases datagram : IPPacket.peekProtocol packet = some .udp
    · rw [if_pos datagram] at stepped
      rw [if_pos ⟨sixth,datagram⟩]
      obtain ⟨⟨_,after⟩,mapped,rfl⟩ := Option.map_eq_some_iff.mp stepped
      obtain ⟨_,stepped,same⟩ := Option.map_eq_some_iff.mp mapped
      cases same
      rw [inputPacket] at stepped
      split at stepped
      next => cases stepped
      next failed =>
        cases stepped
        exact Or.inl ⟨by rw [failed]; rfl,rfl⟩
      next taken parsed =>
        rw [parsed,findOrCreateSocket] at *
        cases found : stack.activeSockets.lookup (ConnectInfo.ofPacket taken) with
        | some place =>
          rw [found] at stepped
          cases stepped
          refine Or.inr ⟨taken,?_,Or.inl ⟨place,found,rfl⟩⟩
          simp [Except.toOption,found]
        | none =>
          rw [found] at stepped
          cases provider with
          | false =>
            cases stepped
            refine Or.inl ⟨?_,rfl⟩
            simp [Except.toOption,found]
          | true =>
            cases stepped
            refine Or.inr ⟨taken,?_,Or.inr ⟨found,rfl⟩⟩
            simp [Except.toOption]
    · rw [if_neg datagram] at stepped
      cases stepped
      exact Or.inl ⟨if_neg (fun both => datagram both.2),rfl⟩

theorem ordered_modify (inv : Ordered stack notes) {place : Nat} {change : NWUDPSocket → NWUDPSocket}
    (quiet : ∀ socket ∈ stack.sockets[place]?, NWUDPSocket.Quiet socket (change socket)) :
    Ordered (stack.modify place change) notes := by
  obtain ⟨lengths,serves,active,carries⟩ := inv
  refine ⟨by rw [lengths,modify,List.length_modify],?_,active,?_⟩
  · intro other info socket owned found
    rw [modify,List.getElem?_modify] at found
    obtain ⟨before,present,rfl⟩ := Option.map_eq_some_iff.mp found
    have served := serves other info before owned present
    by_cases same : place = other
    · subst same
      obtain ⟨host,port,-,prompt⟩ := quiet before present
      simp only [if_true]
      exact ⟨host.trans served.host,port.trans served.port,prompt served.prompt⟩
    · simp only [if_neg same]
      exact served
  · intro flow
    rw [← carries flow]
    exact carried_modify flow notes.flows stack.sockets place (fun socket found => (quiet socket found).taken)

theorem ordered_forget (inv : Ordered stack notes) {table : AList (fun _ : ConnectInfo => Nat)}
    (fewer : ∀ info place, table.lookup info = some place → stack.activeSockets.lookup info = some place) :
    Ordered {stack with activeSockets := table} notes :=
  ⟨inv.lengths,inv.serves,fun info place found => inv.active info place (fewer info place found),inv.carries⟩

theorem ordered_didCancel (inv : Ordered stack notes) (socket : Nat) : Ordered (stack.didCancel socket) notes := by
  rw [didCancel]
  split
  · exact inv
  next connectInfo _ =>
    refine ordered_forget inv (fun info place found => ?_)
    by_cases same : info = connectInfo
    · subst same
      rw [AList.lookup_erase] at found
      cases found
    · rwa [AList.lookup_erase_ne same] at found

theorem ordered_stop (inv : Ordered stack notes) : Ordered stack.stop notes := by
  have quiet (places : List Nat) (stack : UDPDirectStack) (inv : Ordered stack notes) : Ordered {stack with
      sockets := places.foldl (fun sockets place => sockets.modify place NWUDPSocket.disconnect) stack.sockets}
      notes := by
    induction places generalizing stack with
    | nil => exact inv
    | cons place places ih =>
      exact ih (stack.modify place NWUDPSocket.disconnect)
        (ordered_modify inv (fun socket _ => NWUDPSocket.quiet_disconnect socket))
  exact ordered_forget (quiet _ stack inv) (fun info place found => by simp at found)

theorem ordered_write (inv : Ordered stack notes) {info : ConnectInfo} {place : Nat} {data : Data}
    (found : stack.activeSockets.lookup info = some place) :
    Ordered (stack.modify place (·.write data)) {notes with arrived := notes.arrived ++ [(info,data)]} := by
  obtain ⟨owned,last⟩ := inv.active info place found
  have present : place < stack.sockets.length := by
    rw [← inv.lengths]
    exact (List.getElem?_eq_some_iff.mp owned).1
  refine ⟨by rw [inv.lengths,modify,List.length_modify],?_,inv.active,?_⟩
  · intro other owner socket owned found
    rw [modify,List.getElem?_modify] at found
    obtain ⟨before,present,rfl⟩ := Option.map_eq_some_iff.mp found
    have served := inv.serves other owner before owned present
    by_cases same : place = other
    · subst same
      have endpoint := NWUDPSocket.endpoint_checkWrite
        {before with pendingWriteData := before.pendingWriteData ++ [data]}
      simp only [if_true]
      exact ⟨endpoint.1.trans served.host,endpoint.2.trans served.port,NWUDPSocket.prompt_write served.prompt data⟩
    · simp only [if_neg same]
      exact served
  · intro flow
    have after := carried_last flow (fun socket => NWUDPSocket.taken_write socket data) notes.flows stack.sockets owned
      present last
    rw [modify,after,inv.carries flow,Notes.payloads,Notes.payloads,List.filter_append,List.map_append]
    congr 1
    by_cases same : info = flow
    · rw [if_pos same,List.filter_cons_of_pos (by simpa using same)]
      rfl
    · rw [if_neg same,List.filter_cons_of_neg (by simpa using same)]
      rfl

theorem ordered_opened (inv : Ordered stack notes) {info : ConnectInfo}
    (unknown : stack.activeSockets.lookup info = none) :
    Ordered (opened stack info) {notes with flows := notes.flows ++ [info]} := by
  have lengths := inv.lengths
  refine ⟨?_,?_,?_,?_⟩
  · simp only [opened,List.length_append,lengths,List.length_singleton]
  · intro place owner socket owned found
    rcases Nat.lt_trichotomy place stack.sockets.length with before | rfl | after
    · rw [opened,List.getElem?_append_left before] at found
      rw [List.getElem?_append_left (by omega)] at owned
      exact inv.serves place owner socket owned found
    · rw [opened,List.getElem?_concat_length] at found
      rw [← lengths,List.getElem?_concat_length] at owned
      cases owned
      cases found
      exact ⟨rfl,rfl,rfl,fun batch member => (nomatch member),fun _ _ => rfl⟩
    · have outside := (List.getElem?_eq_some_iff.mp found).1
      simp only [opened,List.length_append,List.length_singleton] at outside
      omega
  · intro other place found
    by_cases same : other = info
    · subst same
      rw [opened,AList.lookup_insert] at found
      cases found
      refine ⟨by rw [← lengths,List.getElem?_concat_length],fun later behind => ?_⟩
      rw [List.getElem?_eq_none (by simp only [List.length_append,List.length_singleton]; omega)]
      exact fun impossible => nomatch impossible
    · rw [opened,AList.lookup_insert_ne same] at found
      obtain ⟨owned,last⟩ := inv.active other place found
      have before := (List.getElem?_eq_some_iff.mp owned).1
      refine ⟨by rw [List.getElem?_append_left before,owned],fun later behind => ?_⟩
      rcases Nat.lt_or_ge later notes.flows.length with inside | outside
      · rw [List.getElem?_append_left inside]
        exact last later behind
      · rw [List.getElem?_append_right outside]
        intro impossible
        exact same (List.mem_singleton.mp (List.mem_of_getElem? impossible))
  · intro flow
    have empty : (if info = flow then NWUDPSocket.taken {
        host := IPAddress.presentation info.destinationAddress
        port := info.destinationPort.value.toNat} else []) = [] := by
      split <;> rfl
    rw [opened,carried_concat flow info _ lengths,inv.carries flow,empty,List.append_nil]
    rfl

theorem ordered_input (inv : Ordered stack notes) {packet : Data} {version : Option Int} {provider : Bool}
    (stepped : (stack.input packet version provider).map (·.2) = some next) :
    Ordered next (note notes stack (.input packet version provider)) := by
  rw [note]
  rcases input_cases stepped with ⟨nothing,rfl⟩ | ⟨taken,takes,⟨place,found,rfl⟩ | ⟨unknown,rfl⟩⟩
  · rw [nothing]
    exact inv
  · simp only [takes,found,Option.isSome_some,if_true]
    exact ordered_write inv found
  · simp only [takes,unknown,Option.isSome_none,Bool.false_eq_true,if_false]
    have found : (opened stack (ConnectInfo.ofPacket taken)).activeSockets.lookup (ConnectInfo.ofPacket taken) =
        some stack.sockets.length := AList.lookup_insert _
    exact ordered_write (ordered_opened inv unknown) found

/-- Every flow that has a socket has sent something. -/
def Known (notes : Notes) : Prop := ∀ info ∈ notes.flows, ∃ data, (info,data) ∈ notes.arrived

theorem known_note (known : Known notes) (stack : UDPDirectStack) (event : Event) : Known (note notes stack event) := by
  cases event with
  | input packet version provider =>
    rw [note]
    split
    · exact known
    next taken _ =>
      intro info member
      dsimp only at member ⊢
      have found : info ∈ notes.flows ∨ info = ConnectInfo.ofPacket taken := by
        split at member
        · exact Or.inl member
        · rcases List.mem_append.mp member with earlier | last
          · exact Or.inl earlier
          · exact Or.inr (List.mem_singleton.mp last)
      rcases found with earlier | rfl
      · obtain ⟨data,arrived⟩ := known info earlier
        exact ⟨data,List.mem_append_left _ arrived⟩
      · exact ⟨_,List.mem_append_right _ (List.mem_singleton.mpr rfl)⟩
  | _ => exact known

theorem received_same {socket : Nat} {dataArray : Option (List Data)}
    (stepped : (stack.received socket dataArray).2 = some next) : next = stack := by
  unfold received at stepped
  split at stepped
  next =>
    dsimp only at stepped
    split at stepped
    · cases stepped
      rfl
    · cases stepped
  next =>
    cases stepped
    rfl

theorem keeps_ordered : (machine.attend note).Keeps (fun (stack,notes) => Ordered stack notes ∧ Known notes)
    (fun (stack,_) event => Enabled stack event) := by
  rintro ⟨stack,notes⟩ event next ⟨inv,known⟩ enabled stepped
  obtain ⟨after,taken,rfl⟩ := Machine.attend_step stepped
  refine ⟨?_,known_note known stack event⟩
  cases event with
  | input packet version provider => exact ordered_input inv taken
  | received socket dataArray =>
    have same := received_same taken
    subst same
    exact inv
  | observed socket state =>
    cases taken
    exact ordered_modify inv (fun udpSocket _ => NWUDPSocket.quiet_observeValue udpSocket state)
  | cancelled socket =>
    cases taken
    exact ordered_didCancel (ordered_modify inv (fun udpSocket _ => NWUDPSocket.quiet_told udpSocket)) socket
  | wrote socket =>
    cases taken
    refine ordered_modify inv (fun udpSocket found => NWUDPSocket.quiet_didWrite ?_)
    obtain ⟨same,found',outstanding⟩ := enabled
    cases Option.mem_unique found found'
    exact outstanding
  | checkStatus socket expired =>
    cases taken
    exact ordered_modify inv (fun udpSocket _ => NWUDPSocket.quiet_checkStatus udpSocket expired)
  | stop =>
    cases taken
    exact ordered_stop inv

/-- The packets of a read are the replies to its datagrams, in order, up to one that does not fit. -/
theorem replies_sent (info : ConnectInfo) (dataArray : List Data) : ∃ sent, sent <+: dataArray ∧
    List.Forall₂ (fun data packetData => IPPacket.init packetData = .ok (info.reply data)) sent
      (replies info dataArray).1 ∧
    ((replies info dataArray).2 = true ↔ sent = dataArray) ∧
    ((replies info dataArray).2 = true ↔ ∀ data ∈ dataArray, (info.reply data).Fits) := by
  induction dataArray with
  | nil => exact ⟨[],List.nil_prefix,.nil,by simp [replies],by simp [replies]⟩
  | cons data rest ih =>
    have builds := IPPacket.buildPacket_eq (IPPacket.headed_of_default (rfl : (info.reply data).headerLength = 20))
    rw [replies]
    by_cases fits : (info.reply data).Fits
    · rw [if_pos fits] at builds
      obtain ⟨sent,front,related,all,whole⟩ := ih
      rw [builds]
      refine ⟨data :: sent,List.cons_prefix_cons.mpr ⟨rfl,front⟩,.cons ?_ related,?_,?_⟩
      · exact IPPacket.init_of_buildPacket (IPPacket.headed_of_default rfl) rfl rfl builds
      · simp only [all,List.cons.injEq,true_and]
      · simp only [whole,List.forall_mem_cons,fits,true_and]
    · rw [if_neg fits] at builds
      rw [builds]
      refine ⟨[],List.nil_prefix,.nil,?_,?_⟩
      · simp only [Bool.false_eq_true,reduceCtorEq]
      · simp only [List.forall_mem_cons,fits,false_and,Bool.false_eq_true]

theorem lookup_of_findSocket {socket : Nat} {info : ConnectInfo} (found : stack.findSocket socket = some info) :
    stack.activeSockets.lookup info = some socket := by
  obtain ⟨entry,first,rfl⟩ := Option.map_eq_some_iff.mp found
  have member := List.mem_of_find?_eq_some first
  have same := List.find?_some first
  rw [decide_eq_true_eq] at same
  rw [← same]
  exact AList.mem_lookup_iff.mpr member

/-- What a step sends to the system: nothing, or for one read of a socket, packets of the flow of the socket, which
has sent something before. They are the replies to all datagrams of the read, unless one does not fit; there
the process ends. It ends nowhere else, but at a packet longer than there are. -/
def Answers (stack : UDPDirectStack) (notes : Notes) (event : Event) : Prop :=
  ((machine.step stack event).1 = [] ∧ ((machine.step stack event).2 = none →
    ∃ packet version provider, event = .input packet version provider ∧ 65536 ≤ packet.length)) ∨
  ∃ place dataArray info data sent, event = .received place (some dataArray) ∧
    notes.flows[place]? = some info ∧ (info,data) ∈ notes.arrived ∧ sent <+: dataArray ∧
    List.Forall₂ (fun data packetData => IPPacket.init packetData = .ok (info.reply data)) sent
      (machine.step stack event).1 ∧
    ((machine.step stack event).2.isSome ↔ sent = dataArray) ∧
    ((machine.step stack event).2.isSome ↔ ∀ data ∈ dataArray, (info.reply data).Fits)

theorem answers_input (packet : Data) (version : Option Int) (provider : Bool) :
    Answers stack notes (.input packet version provider) := by
  refine Or.inl ⟨rfl,fun ended => ⟨packet,version,provider,rfl,?_⟩⟩
  have ended := Option.map_eq_none_iff.mp ended
  rw [input] at ended
  split at ended
  · cases ended
  · split at ended
    next datagram =>
      have ended := Option.map_eq_none_iff.mp ended
      rw [inputPacket] at ended
      split at ended
      next trapped =>
        by_contra shorter
        refine IPPacket.init_untrapped ?_ (by omega) trapped
        by_contra short
        rw [IPPacket.peekProtocol,if_pos (by omega)] at datagram
        cases datagram
      next => cases ended
      next => split at ended <;> cases ended
    next => cases ended

theorem answers_received (inv : Ordered stack notes) (known : Known notes) (place : Nat)
    (dataArray : Option (List Data)) : Answers stack notes (.received place dataArray) := by
  cases found : stack.findSocket place with
  | none =>
    left
    simp only [machine,received,found]
    exact ⟨trivial,fun ended => nomatch ended⟩
  | some info =>
    cases dataArray with
    | none =>
      left
      simp only [machine,received]
      exact ⟨trivial,fun ended => nomatch ended⟩
    | some dataArray =>
      obtain ⟨owned,-⟩ := inv.active info place (lookup_of_findSocket found)
      obtain ⟨data,arrived⟩ := known info (List.mem_of_getElem? owned)
      obtain ⟨sent,front,related,all,whole⟩ := replies_sent info dataArray
      have survives : (machine.step stack (.received place (some dataArray))).2.isSome ↔
          (replies info dataArray).2 = true := by
        simp only [machine,received,found]
        split <;> simp_all
      have same : (machine.step stack (.received place (some dataArray))).1 = (replies info dataArray).1 := by
        simp only [machine,received,found]
      right
      refine ⟨place,dataArray,info,data,sent,rfl,owned,arrived,front,?_,survives.trans all,survives.trans whole⟩
      rw [same]
      exact related

theorem answers (inv : Ordered stack notes) (known : Known notes) (event : Event) : Answers stack notes event := by
  cases event with
  | input packet version provider => exact answers_input packet version provider
  | received place dataArray => exact answers_received inv known place dataArray
  | _ => exact Or.inl ⟨rfl,fun ended => nomatch ended⟩

theorem ordered_empty : Ordered {} {} where
  lengths := rfl
  serves := fun place info socket owned => by simp at owned
  active := fun info place found => by simp at found
  carries := fun flow => rfl

/-- A flow of two packets, with a reply between them, until the session is cancelled. -/
def flowEvents : List Event := [
  .input IPPacket.incoming (some 2) true,
  .observed 0 .ready,
  .wrote 0,
  .received 0 (some [[7],[8,9]]),
  .input IPPacket.incoming (some 2) true,
  .checkStatus 0 false,
  .observed 0 .cancelled,
  .cancelled 0,
  .stop]

theorem along_flowEvents : machine.Along Enabled {} flowEvents := by decide +kernel

/-- In every run, the sockets of a flow have been given the payloads of the flow, all of them, in order and nothing
else: they are sent to the destination of the flow, but for those that wait for the session. -/
theorem ordered_visits {events : List Event} (enabled : machine.Along Enabled {} events) :
    (machine.attend note).Visits (fun (stack,notes) => Ordered stack notes ∧ Known notes) ({},{}) events :=
  Machine.Along.visits keeps_ordered ⟨ordered_empty,fun _ member => nomatch member⟩
    (Machine.along_attend.mpr enabled)

theorem ordered_visits_flowEvents :
    (machine.attend note).Visits (fun (stack,notes) => Ordered stack notes ∧ Known notes) ({},{}) flowEvents :=
  ordered_visits along_flowEvents

theorem answers_along {events : List Event} (enabled : machine.Along Enabled {} events) :
    (machine.attend note).Along (fun (stack,notes) event => Answers stack notes event) ({},{}) events :=
  Machine.Along.imp keeps_ordered (fun (_,_) event inv _ => answers inv.1 inv.2 event)
    ⟨ordered_empty,fun _ member => nomatch member⟩ (Machine.along_attend.mpr enabled)

theorem answers_along_flowEvents :
    (machine.attend note).Along (fun (stack,notes) event => Answers stack notes event) ({},{}) flowEvents :=
  answers_along along_flowEvents

example : (machine.outputs {} flowEvents).map (fun packetData => (IPPacket.init packetData).toOption.map
    (fun packet => (packet.destinationAddress,packet.protocolParser.payload))) =
      [some (16777226,[7]),some (16777226,[8,9])] := by decide +kernel

end UDPDirectStack
end TenonVpn
