import TenonVpn.StreamScanner
import TenonVpn.Tunnel
import TenonVpn.Dialogue

/-! `TUNTCPSocket`, the raw socket of a connection that the IP stack has accepted, with the `TSTCPSocket`
under it. What the stack tells goes through a queue, and a delegate may call the socket while it is told. A
socket that is used as `RawTCPSocketProtocol` warns keeps what the protocol promises, apart from a search
that misses its pattern, from a read that is asked for within the answer to another, which is forgotten,
and from the writes that the stack drops. A block that comes too late answers a read with no data. -/
namespace TenonVpn

/-- `valid` is that the connection is held, `closed` that the stack has set its state to closed. -/
structure TSTCPSocket where
  valid : Bool := true
  closed : Bool := false
deriving DecidableEq

def TSTCPSocket.isConnected (socket : TSTCPSocket) : Bool := socket.valid && !socket.closed

namespace TUNTCPSocket

inductive Block
  | didReadData (data : Data)
  | checkReadData
  | didWriteData (length : Nat)
  | socketDidClose
deriving DecidableEq

/-- A call of the owner. The stack accepts what is written or answers with an error. -/
inductive Call
  | readData
  | readDataToLength (length : Nat)
  | readDataToData (data : Data) (maxLength : Int)
  | write (data : Data) (accepted : Bool)
  | disconnect
  | forceDisconnect
deriving DecidableEq

/-- What is said: the calls of the owner, what the delegate is told, and what the connection is asked. The delegate
hears of the end at once from a socket that is not connected and stays its delegate. -/
inductive Output
  | call (call : Call)
  | didRead (data : Data)
  | didWrite
  | didDisconnect (stays : Bool)
  | tcpWrite (data : Data)
  | tcpClose
deriving DecidableEq

end TUNTCPSocket

structure TUNTCPSocket where
  tsSocket : TSTCPSocket := {}
  reading : Bool := false
  pendingReadData : Data := []
  remainWriteLength : Int := 0
  closeAfterWriting : Bool := false
  scanner : Option StreamScanner := none
  readLength : Option Nat := none
  delegate : Bool := true
  queue : List TUNTCPSocket.Block := []

namespace TUNTCPSocket

def isConnected (socket : TUNTCPSocket) : Bool := socket.tsSocket.isConnected

def queueCall (socket : TUNTCPSocket) (block : Block) : TUNTCPSocket := {socket with queue := socket.queue ++ [block]}

def tell (socket : TUNTCPSocket) (output : Output) : List Output := if socket.delegate then [output] else []

/-- `TSTCPSocket.close`. Its `tcp_close` stands in an assertion, which only a debug build evaluates. -/
def close (socket : TUNTCPSocket) : List Output × TUNTCPSocket :=
  if socket.tsSocket.valid then
    ([.tcpClose],queueCall {socket with tsSocket := {socket.tsSocket with valid := false}} .socketDidClose)
  else ([],socket)

def forceDisconnect (socket : TUNTCPSocket) : List Output × TUNTCPSocket :=
  if !socket.isConnected then (socket.tell (.didDisconnect true),socket) else socket.close

def checkStatus (socket : TUNTCPSocket) : List Output × TUNTCPSocket :=
  if socket.closeAfterWriting && decide (socket.remainWriteLength = 0) then socket.forceDisconnect else ([],socket)

def disconnect (socket : TUNTCPSocket) : List Output × TUNTCPSocket :=
  if !socket.isConnected then (socket.tell (.didDisconnect true),socket)
  else checkStatus {socket with closeAfterWriting := true}

/-- `TSTCPSocket.writeData`, which drops what `tcp_write` has no length for. -/
def writeData (socket : TUNTCPSocket) (data : Data) (accepted : Bool) : List Output × TUNTCPSocket :=
  if !socket.tsSocket.valid then ([],socket)
  else if 65535 ≤ data.length then ([],socket)
  else if accepted then ([.tcpWrite data],socket)
  else socket.close

def write (socket : TUNTCPSocket) (data : Data) (accepted : Bool) : List Output × TUNTCPSocket :=
  writeData {socket with remainWriteLength := data.length} data accepted

def checkReadData (socket : TUNTCPSocket) : TUNTCPSocket :=
  if 0 < socket.pendingReadData.length then socket.queueCall .checkReadData else socket

def readData (socket : TUNTCPSocket) : TUNTCPSocket := checkReadData {socket with reading := true}

def readDataToLength (socket : TUNTCPSocket) (length : Nat) : TUNTCPSocket :=
  checkReadData {socket with readLength := some length, reading := true}

def readDataToData (socket : TUNTCPSocket) (data : Data) (maxLength : Int) : TUNTCPSocket :=
  checkReadData {socket with reading := true, scanner := some {pattern := data, maximumLength := maxLength}}

def respond (socket : TUNTCPSocket) : Call → List Output × TUNTCPSocket
  | .readData => ([],socket.readData)
  | .readDataToLength length => ([],socket.readDataToLength length)
  | .readDataToData data maxLength => ([],socket.readDataToData data maxLength)
  | .write data accepted => socket.write data accepted
  | .disconnect => socket.disconnect
  | .forceDisconnect => socket.forceDisconnect

def perform (socket : TUNTCPSocket) (call : Call) : List Output × TUNTCPSocket :=
  (.call call :: (socket.respond call).1,(socket.respond call).2)

/-- The delegate is told, and makes its calls before the socket goes on. -/
def callBack (socket : TUNTCPSocket) (output : Output) (calls : List Call) : List Output × TUNTCPSocket :=
  if socket.delegate then
    (output :: (Dialogue.performAll perform socket calls).1,(Dialogue.performAll perform socket calls).2)
  else ([],socket)

/-- What follows the call of the delegate that has read, where all that was pending went to it or a part. -/
def settle (all : Bool) (socket : TUNTCPSocket) : TUNTCPSocket :=
  {socket with pendingReadData := if all then [] else socket.pendingReadData, reading := false}

/-- The block of `checkReadData`. -/
def runCheckReadData (socket : TUNTCPSocket) (calls : List Call) : List Output × TUNTCPSocket :=
  if !socket.reading then ([],socket)
  else
    match socket.readLength,socket.scanner with
    | some readLength,_ =>
      if readLength ≤ socket.pendingReadData.length then
        ({socket with pendingReadData := socket.pendingReadData.drop readLength, readLength := none}.callBack
          (.didRead (socket.pendingReadData.take readLength)) calls).map id (settle false)
      else ([],socket)
    | none,some scanner =>
      match scanner.addAndScan socket.pendingReadData with
      | (none,scanner) => ([],{socket with scanner := some scanner})
      | (some (none,_),_) => ([],{socket with scanner := none})
      | (some (some matchData,rest),_) =>
        ({socket with scanner := none, pendingReadData := rest}.callBack (.didRead matchData) calls).map id
          (settle false)
    | none,none => (socket.callBack (.didRead socket.pendingReadData) calls).map id (settle true)

def runDidWriteData (socket : TUNTCPSocket) (length : Nat) (calls : List Call) : List Output × TUNTCPSocket :=
  let socket := {socket with remainWriteLength := socket.remainWriteLength - length}
  if socket.remainWriteLength ≤ 0 then
    let (told,socket) := socket.callBack .didWrite calls
    (told ++ socket.checkStatus.1,socket.checkStatus.2)
  else ([],socket)

def runBlock (socket : TUNTCPSocket) (calls : List Call) : Block → List Output × TUNTCPSocket
  | .didReadData data => ([],checkReadData {socket with pendingReadData := socket.pendingReadData ++ data})
  | .checkReadData => socket.runCheckReadData calls
  | .didWriteData length => socket.runDidWriteData length calls
  | .socketDidClose => (socket.callBack (.didDisconnect false) calls).map id ({· with delegate := false})

/-- `calls` are what the delegate does where a block tells it something. The connection has none to read where the
local side has closed, and an error is told where it is a reset or an abort. -/
inductive Event
  | call (call : Call)
  | recved (data : Option Data)
  | sent (length : Nat)
  | errored (told : Bool)
  | closed
  | run (calls : List Call)

def handle (socket : TUNTCPSocket) : Event → List Output × TUNTCPSocket
  | .call call => socket.perform call
  | .recved none => socket.disconnect
  | .recved (some data) => ([],socket.queueCall (.didReadData data))
  | .sent length => ([],socket.queueCall (.didWriteData length))
  | .errored told =>
    let socket := {socket with tsSocket := {socket.tsSocket with valid := false}}
    ([],if told then socket.queueCall .socketDidClose else socket)
  | .closed => ([],{socket with tsSocket := {socket.tsSocket with closed := true}})
  | .run calls =>
    match socket.queue with
    | [] => ([],socket)
    | block :: rest => runBlock {socket with queue := rest} calls block

def machine : Machine TUNTCPSocket Event Output where
  step socket event := ((socket.handle event).1,some (socket.handle event).2)

/-- What an observer notes: the socket as `RawTCPSocketProtocol` has it, the chunks that came, and the bytes that the
local side has not acknowledged. It also notes that nothing of the last write is under way, that the delegate heard
of the end from a socket that stays, that an error was not told, that a search missed its pattern, and that a read was
asked for within the answer to one. -/
structure Notes where
  raw : RawSocket := {}
  arrived : List Data := []
  inFlight : Nat := 0
  stalled : Bool := false
  early : Bool := false
  silent : Bool := false
  missed : Bool := false
  lost : Bool := false
  answering : Bool := false

def Notes.read (notes : Notes) (request : ReadRequest) : Notes :=
  {notes with raw := notes.raw.read request, lost := notes.lost || notes.answering}

def Notes.heard (notes : Notes) : Output → Notes
  | .call .readData => notes.read .data
  | .call (.readDataToLength length) => notes.read (.length length)
  | .call (.readDataToData data _) => notes.read (.pattern data)
  | .call (.write data _) => {notes with raw := notes.raw.write data, stalled := true}
  | .call .disconnect | .call .forceDisconnect | .tcpClose => notes
  | .didRead data => {notes with raw := notes.raw.didRead data, answering := true}
  | .didWrite => {notes with raw := notes.raw.didWrite}
  | .didDisconnect stays => {notes with raw := {notes.raw with closed := true}, early := notes.early || stays}
  | .tcpWrite data => {notes with inFlight := notes.inFlight + data.length, stalled := decide (data = [])}

/-- The next block scans what is pending and does not find the pattern in it, or gives the search up. -/
def misses (socket : TUNTCPSocket) : Bool :=
  match socket.queue.head?,socket.readLength,socket.scanner with
  | some .checkReadData,none,some scanner =>
    socket.reading &&
      match (scanner.addAndScan socket.pendingReadData).1 with
      | some (some _,_) => false
      | some (none,_) => true
      | none => decide (socket.pendingReadData ≠ [])
  | _,_,_ => false

def Notes.came (notes : Notes) (socket : TUNTCPSocket) : Event → Notes
  | .recved (some data) => {notes with arrived := notes.arrived ++ [data]}
  | .sent length => {notes with inFlight := notes.inFlight - length}
  | .errored told => {notes with silent := notes.silent || !told}
  | .run _ => {notes with missed := notes.missed || socket.misses}
  | _ => notes

def note (notes : Notes) (socket : TUNTCPSocket) (event : Event) : Notes :=
  {(machine.step socket event).1.foldl Notes.heard (notes.came socket event) with answering := false}

/-- What `RawTCPSocketProtocol` promises of a call of the delegate: a write is told when the local side has all of
it. -/
def Promised (notes : Notes) : Output → Prop
  | .didRead data => (notes.early = false → notes.raw.closed = false) ∧
      (notes.missed = false → ∃ request ∈ notes.raw.reads.head?, request.Serves data)
  | .didWrite => (notes.early = false → notes.raw.closed = false) ∧ 0 < notes.raw.writes ∧ notes.inFlight = 0 ∧
      notes.stalled = false
  | .didDisconnect _ => notes.early = false → notes.raw.closed = false
  | _ => True

/-- The owner reads and writes when the last read and write are finished, and ends a socket of whose end it has not
heard. -/
def Relied (notes : Notes) : Output → Prop
  | .call .readData | .call (.readDataToLength _) => notes.raw.reads = []
  | .call (.readDataToData data _) => notes.raw.reads = [] ∧ data ≠ []
  | .call (.write _ _) => notes.raw.writes = 0
  | .call .disconnect | .call .forceDisconnect => notes.raw.closed = false
  | _ => True

/-- The stack tells of a connection that is held, and acknowledges what was written. -/
def Happens (socket : TUNTCPSocket) (notes : Notes) : Event → Prop
  | .recved _ | .errored _ => socket.tsSocket.valid = true
  | .sent length => socket.tsSocket.valid = true ∧ 0 < length ∧ length ≤ notes.inFlight
  | .run _ => socket.queue ≠ []
  | _ => True

def Proper (socket : TUNTCPSocket) (notes : Notes) (event : Event) : Prop :=
  Happens socket notes event ∧ Dialogue.Meets Notes.heard Relied (notes.came socket event) (machine.step socket event).1

instance decidableRelied (notes : Notes) (output : Output) : Decidable (Relied notes output) := by
  rcases output with (_ | _) | _ | _ | _ | _ | _ <;> unfold Relied <;> infer_instance

instance decidableHappens (socket : TUNTCPSocket) (notes : Notes) (event : Event) :
    Decidable (Happens socket notes event) := by
  cases event <;> unfold Happens <;> infer_instance

instance decidableProper (socket : TUNTCPSocket) (notes : Notes) (event : Event) :
    Decidable (Proper socket notes event) := by
  unfold Proper
  infer_instance

def Block.data : Block → Data
  | .didReadData data => data
  | _ => []

def Block.length : Block → Nat
  | .didWriteData length => length
  | _ => 0

/-- What was acknowledged and waits in the queue. -/
def acknowledged : List Block → Nat
  | [] => 0
  | block :: rest => block.length + acknowledged rest

theorem acknowledged_append (blocks more : List Block) :
    acknowledged (blocks ++ more) = acknowledged blocks + acknowledged more := by
  induction blocks with
  | nil => rw [List.nil_append,acknowledged,Nat.zero_add]
  | cons first rest ih => rw [List.cons_append,acknowledged,acknowledged,ih,Nat.add_assoc]

theorem acknowledged_cons {block : Block} (none : block.length = 0) (rest : List Block) :
    acknowledged (block :: rest) = acknowledged rest := by
  rw [acknowledged,none,Nat.zero_add]

theorem data_cons {block : Block} (none : block.data = []) (rest : List Block) :
    (block :: rest).flatMap Block.data = rest.flatMap Block.data := by
  rw [List.flatMap_cons,none,List.nil_append]

/-- Blocks that answer reads bring nothing. -/
theorem quiet_blocks {blocks : List Block} (quiet : ∀ block ∈ blocks, block = .checkReadData) :
    blocks.flatMap Block.data = [] ∧ acknowledged blocks = 0 := by
  induction blocks with
  | nil => exact ⟨rfl,rfl⟩
  | cons first rest ih =>
    obtain ⟨here,later⟩ := List.forall_mem_cons.mp quiet
    obtain ⟨data,length⟩ := ih later
    rw [List.flatMap_cons,acknowledged,data,length,here]
    exact ⟨rfl,rfl⟩

/-- Where a read stands, and whether it is lost: it is where it was asked for within the answer to one. -/
inductive Stands : Bool → Bool → Option Nat → Option StreamScanner → List ReadRequest → Prop
  | idle : Stands false false none none []
  | lost (request : ReadRequest) (readLength : Option Nat) (scanner : Option StreamScanner) :
      Stands true false readLength scanner [request]
  | data : Stands false true none none [.data]
  | length (length : Nat) : Stands false true (some length) none [.length length]
  | pattern (scanner : StreamScanner) (searching : scanner.Searching) (fresh : scanner.receivedData = []) :
      Stands false true none (some scanner) [.pattern scanner.pattern]

theorem Stands.nothing {lost reading : Bool} {readLength : Option Nat} {scanner : Option StreamScanner}
    (stands : Stands lost reading readLength scanner []) : lost = false ∧ readLength = none ∧ scanner = none := by
  cases stands
  exact ⟨rfl,rfl,rfl⟩

theorem Stands.of_length {lost : Bool} {length : Nat} {scanner : Option StreamScanner} {reads : List ReadRequest}
    (stands : Stands lost true (some length) scanner reads) :
    lost = false ∧ reads = [.length length] ∧ scanner = none := by
  cases stands
  exact ⟨rfl,rfl,rfl⟩

theorem Stands.of_data {lost : Bool} {reads : List ReadRequest} (stands : Stands lost true none none reads) :
    lost = false ∧ reads = [.data] := by
  cases stands
  exact ⟨rfl,rfl⟩

theorem Stands.of_pattern {lost : Bool} {scanner : StreamScanner} {reads : List ReadRequest}
    (stands : Stands lost true none (some scanner) reads) :
    lost = false ∧ reads = [.pattern scanner.pattern] ∧ scanner.Searching ∧ scanner.receivedData = [] := by
  cases stands
  next searching fresh => exact ⟨rfl,rfl,searching,fresh⟩

/-- What the pending data can answer. -/
def Answerable (pendingReadData : Data) : ReadRequest → Prop
  | .length length => pendingReadData ≠ [] ∧ length ≤ pendingReadData.length
  | _ => pendingReadData ≠ []

theorem Stands.ready {reading : Bool} {readLength : Option Nat} {scanner : Option StreamScanner}
    {reads : List ReadRequest} (stands : Stands false reading readLength scanner reads) {request : ReadRequest}
    (asked : request ∈ reads.head?) {pendingReadData : Data} (enough : Answerable pendingReadData request) :
    reading = true ∧ pendingReadData ≠ [] ∧ ∀ length ∈ readLength, length ≤ pendingReadData.length := by
  cases stands with
  | idle => cases asked
  | data =>
    cases asked
    exact ⟨rfl,enough,fun _ none => nomatch none⟩
  | length length =>
    cases asked
    refine ⟨rfl,enough.1,fun other same => ?_⟩
    cases same
    exact Int.ofNat_le.mp enough.2
  | pattern scanner _ _ =>
    cases asked
    exact ⟨rfl,enough,fun _ none => nomatch none⟩

theorem Stands.forgotten {reading : Bool} {readLength : Option Nat} {scanner : Option StreamScanner}
    {reads : List ReadRequest} (stands : Stands true reading readLength scanner reads) :
    reading = false ∧ reads ≠ [] := by
  cases stands
  exact ⟨rfl,List.cons_ne_nil _ _⟩

/-- Where a write stands, by what remains of it, what waits in the queue and what is in flight. It is stalled where
the connection took nothing of it: all of what was written last remains. -/
inductive Writing (stalled : Bool) (last : Option Data) : Int → Nat → Nat → Nat → Prop
  | idle : Writing stalled last 0 0 0 0
  | stalled (data : Data) (dropped : stalled = true) (written : last = some data) :
      Writing stalled last data.length 0 0 1
  | waiting (remain : Int) (acknowledged inFlight : Nat) (taken : stalled = false) (positive : 0 < remain)
      (sum : remain = inFlight + acknowledged) : Writing stalled last remain acknowledged inFlight 1

theorem Writing.nothing {stalled : Bool} {last : Option Data} {remain : Int} {acknowledged inFlight : Nat}
    (writing : Writing stalled last remain acknowledged inFlight 0) : remain = 0 ∧ acknowledged = 0 ∧ inFlight = 0 := by
  cases writing
  exact ⟨rfl,rfl,rfl⟩

theorem Writing.of_busy {stalled : Bool} {last : Option Data} {remain : Int} {acknowledged inFlight writes : Nat}
    (writing : Writing stalled last remain acknowledged inFlight writes) (busy : 0 < acknowledged + inFlight) :
    stalled = false ∧ remain = inFlight + acknowledged ∧ writes = 1 := by
  cases writing with
  | idle => omega
  | stalled => omega
  | waiting remain acknowledged inFlight taken positive sum => exact ⟨taken,sum,rfl⟩

/-- Until a search misses its pattern, and while the delegate is there, what came is read, pending or in the queue, and
a block is there for a read that goes on and can be answered. -/
structure Kept (socket : TUNTCPSocket) (notes : Notes) : Prop where
  front : notes.missed = false → notes.raw.received.flatten <+: notes.arrived.flatten
  stands : socket.delegate = true → notes.missed = false →
    Stands notes.lost socket.reading socket.readLength socket.scanner notes.raw.reads
  whole : socket.delegate = true → notes.missed = false →
    notes.raw.received.flatten ++ socket.pendingReadData ++ socket.queue.flatMap Block.data = notes.arrived.flatten
  prompt : notes.missed = false → socket.reading = true → socket.pendingReadData ≠ [] →
    (∀ length ∈ socket.readLength, length ≤ socket.pendingReadData.length) → .checkReadData ∈ socket.queue
  writing : socket.delegate = true →
    Writing notes.stalled notes.raw.sent.getLast? socket.remainWriteLength (acknowledged socket.queue) notes.inFlight
      notes.raw.writes
  positive : ∀ length, .didWriteData length ∈ socket.queue → 0 < length
  running : socket.delegate = true → notes.early = false → notes.raw.closed = false
  told : socket.tsSocket.valid = false → socket.delegate = true → notes.silent = false →
    .socketDidClose ∈ socket.queue
  ended : socket.delegate = false ∨ .socketDidClose ∈ socket.queue → socket.tsSocket.valid = false

/-- A socket that closes after writing has something to write as long as it is connected. -/
def Draining (socket : TUNTCPSocket) : Prop :=
  socket.closeAfterWriting = true → socket.isConnected = true → socket.remainWriteLength ≠ 0

def Settled (socket : TUNTCPSocket) (notes : Notes) : Prop := Kept socket notes ∧ Draining socket

/-- A block waits for a read that can be answered. But one that was asked for within the answer to another is
forgotten: nothing answers it. -/
structure Serving (socket : TUNTCPSocket) (notes : Notes) : Prop where
  answered : notes.lost = false → ∀ request ∈ notes.raw.reads.head?, Answerable socket.pendingReadData request →
    .checkReadData ∈ socket.queue
  forgotten : notes.lost = true → socket.reading = false ∧ notes.raw.reads ≠ []

abbrev Keeps (I : TUNTCPSocket → Notes → Prop) (notes : Notes) (outcome : List Output × TUNTCPSocket) : Prop :=
  Dialogue.Keeps Notes.heard I Promised notes outcome

variable {socket next : TUNTCPSocket} {notes : Notes}

theorem Kept.serving (kept : Kept socket notes) (present : socket.delegate = true) (found : notes.missed = false) :
    Serving socket notes := by
  have stands := kept.stands present found
  constructor
  · intro within request asked enough
    rw [within] at stands
    obtain ⟨reading,pending,length⟩ := stands.ready asked enough
    exact kept.prompt found reading pending length
  · intro within
    rw [within] at stands
    exact stands.forgotten

theorem Keeps.silent {I : TUNTCPSocket → Notes → Prop} (kept : I socket notes) : Keeps I notes ([],socket) :=
  ⟨kept,trivial⟩

/-- The connection is let go, and the delegate is to hear of it. -/
theorem kept_ended (kept : Kept socket notes) :
    Kept (queueCall {socket with tsSocket := {socket.tsSocket with valid := false}} .socketDidClose) notes where
  front := kept.front
  stands := kept.stands
  whole := by
    rw [queueCall,List.flatMap_append,List.flatMap_singleton,← List.append_assoc,
      show Block.socketDidClose.data = [] from rfl,List.append_nil]
    exact kept.whole
  prompt := fun found asked pending enough => List.mem_append_left _ (kept.prompt found asked pending enough)
  writing := by
    rw [queueCall,acknowledged_append]
    exact kept.writing
  positive := by
    intro length member
    rcases List.mem_append.mp member with member | member
    · exact kept.positive length member
    · cases List.mem_singleton.mp member
  running := kept.running
  told := fun _ _ _ => List.mem_append_right _ (List.mem_singleton_self _)
  ended := fun _ => rfl

theorem keeps_close (kept : Kept socket notes) : Keeps Kept notes socket.close := by
  rw [close]
  split
  · exact ⟨kept_ended kept,trivial,trivial⟩
  · exact .silent kept

theorem keeps_tell (kept : Kept socket notes) : Keeps Kept notes (socket.tell (.didDisconnect true),socket) := by
  rw [tell]
  split
  next present =>
    refine ⟨⟨kept.front,kept.stands,kept.whole,kept.prompt,kept.writing,kept.positive,fun _ early => ?_,kept.told,
      kept.ended⟩,kept.running present,trivial⟩
    rw [List.foldl_cons,List.foldl_nil,Notes.heard,Bool.or_true] at early
    cases early
  next => exact .silent kept

theorem keeps_forceDisconnect (kept : Kept socket notes) : Keeps Kept notes socket.forceDisconnect := by
  rw [forceDisconnect]
  split
  · exact keeps_tell kept
  · exact keeps_close kept

theorem forceDisconnect_isConnected (socket : TUNTCPSocket) : socket.forceDisconnect.2.isConnected = false := by
  rw [forceDisconnect]
  split
  next gone =>
    rw [Bool.not_eq_true'] at gone
    exact gone
  next up =>
    rw [close]
    split
    · rfl
    next gone =>
      rw [isConnected,TSTCPSocket.isConnected,Bool.eq_false_iff.mpr gone]
      rfl

theorem draining_forceDisconnect (socket : TUNTCPSocket) : Draining socket.forceDisconnect.2 := by
  intro _ connected
  rw [forceDisconnect_isConnected] at connected
  cases connected

theorem keeps_checkStatus (kept : Kept socket notes) : Keeps Kept notes socket.checkStatus := by
  rw [checkStatus]
  split
  · exact keeps_forceDisconnect kept
  · exact .silent kept

theorem draining_checkStatus (socket : TUNTCPSocket) : Draining socket.checkStatus.2 := by
  rw [checkStatus]
  split
  · exact draining_forceDisconnect socket
  next open' =>
    intro closing _ finished
    rw [closing,finished] at open'
    exact open' rfl

theorem keeps_disconnect (kept : Kept socket notes) : Keeps Kept notes socket.disconnect := by
  rw [disconnect]
  split
  · exact keeps_tell kept
  · exact keeps_checkStatus ⟨kept.front,kept.stands,kept.whole,kept.prompt,kept.writing,kept.positive,kept.running,
      kept.told,kept.ended⟩

theorem draining_disconnect (socket : TUNTCPSocket) : Draining socket.disconnect.2 := by
  rw [disconnect]
  split
  next gone =>
    intro _ connected
    rw [Bool.not_eq_true'] at gone
    rw [gone] at connected
    cases connected
  · exact draining_checkStatus _

/-- A request to read may put a block into the queue. -/
theorem kept_asking (kept : Kept socket notes) {request : ReadRequest} {reading : Bool} {readLength : Option Nat}
    {scanner : Option StreamScanner} {blocks : List Block} (grown : ∀ block ∈ blocks, block = .checkReadData)
    (stands : socket.delegate = true → notes.missed = false →
      Stands (notes.read request).lost reading readLength scanner (notes.read request).raw.reads)
    (prompt : reading = true → socket.pendingReadData ≠ [] → .checkReadData ∈ blocks) :
    Kept {socket with reading, readLength, scanner, queue := socket.queue ++ blocks} (notes.read request) where
  front := kept.front
  stands := stands
  whole := by
    dsimp only
    rw [List.flatMap_append,(quiet_blocks grown).1,List.append_nil]
    exact kept.whole
  prompt := fun _ asked pending _ => List.mem_append_right _ (prompt asked pending)
  writing := by
    dsimp only
    rw [acknowledged_append,(quiet_blocks grown).2]
    exact kept.writing
  positive := by
    intro length member
    rcases List.mem_append.mp member with member | member
    · exact kept.positive length member
    · cases grown _ member
  running := kept.running
  told := fun gone present spoken => List.mem_append_left _ (kept.told gone present spoken)
  ended := by
    rintro (gone | member)
    · exact kept.ended (Or.inl gone)
    rcases List.mem_append.mp member with member | member
    · exact kept.ended (Or.inr member)
    · cases grown _ member

theorem checkReadData_eq (socket : TUNTCPSocket) :
    ∃ blocks : List Block, socket.checkReadData = {socket with queue := socket.queue ++ blocks} ∧
      (∀ block ∈ blocks, block = .checkReadData) ∧ (socket.pendingReadData ≠ [] → .checkReadData ∈ blocks) := by
  rw [checkReadData]
  split
  next => exact ⟨[.checkReadData],rfl,fun block => List.mem_singleton.mp,fun _ => List.mem_singleton_self _⟩
  next nothing =>
    refine ⟨[],?_,List.forall_mem_nil _,fun filled => ?_⟩
    · rw [List.append_nil]
    · exact absurd (List.length_pos_iff.mpr filled) nothing

theorem keeps_call {I : TUNTCPSocket → Notes → Prop} {call : Call}
    (answer : Keeps I (notes.heard (.call call)) (socket.respond call)) : Keeps I notes (socket.perform call) :=
  ⟨answer.kept,trivial,answer.meets⟩

/-- A request of the owner, where the last read is finished. -/
theorem kept_requesting (kept : Kept socket notes) (finished : notes.raw.reads = [])
    (outside : notes.answering = false) {request : ReadRequest} {readLength : Option Nat}
    {scanner : Option StreamScanner}
    (stands : socket.delegate = true → notes.missed = false → socket.readLength = none → socket.scanner = none →
      Stands false true readLength scanner [request]) :
    Kept (checkReadData {socket with reading := true, readLength, scanner}) (notes.read request) := by
  obtain ⟨blocks,same,grown,prompt⟩ := checkReadData_eq {socket with reading := true, readLength, scanner}
  rw [same]
  refine kept_asking kept grown (fun present found => ?_) (fun _ => prompt)
  have before := kept.stands present found
  rw [finished] at before
  obtain ⟨within,bare,unset⟩ := before.nothing
  rw [Notes.read,RawSocket.read,finished,within,outside]
  exact stands present found bare unset

/-- What remains of a write that the connection did not take is never acknowledged. -/
theorem keeps_write (kept : Kept socket notes) (finished : notes.raw.writes = 0) (data : Data) (accepted : Bool) :
    Keeps Kept (notes.heard (.call (.write data accepted))) (socket.write data accepted) := by
  have single : socket.delegate = true → (notes.raw.write data).writes = 1 ∧ acknowledged socket.queue = 0 ∧
      notes.inFlight = 0 := by
    intro present
    have writing := kept.writing present
    rw [finished] at writing
    exact ⟨by rw [RawSocket.write,finished],writing.nothing.2⟩
  have begun : Kept {socket with remainWriteLength := data.length} (notes.heard (.call (.write data accepted))) := by
    refine ⟨kept.front,kept.stands,kept.whole,kept.prompt,fun present => ?_,kept.positive,kept.running,kept.told,
      kept.ended⟩
    obtain ⟨one,waits,idle⟩ := single present
    rw [Notes.heard]
    dsimp only
    rw [one,waits,idle]
    exact .stalled data rfl List.getLast?_concat
  rw [write,writeData]
  split_ifs
  · exact .silent begun
  · exact .silent begun
  · refine ⟨⟨kept.front,kept.stands,kept.whole,kept.prompt,fun present => ?_,kept.positive,kept.running,kept.told,
      kept.ended⟩,trivial,trivial⟩
    obtain ⟨one,waits,idle⟩ := single present
    rw [List.foldl_cons,List.foldl_nil,Notes.heard,Notes.heard]
    dsimp only
    rw [one,waits,idle,Nat.zero_add]
    by_cases empty : data = []
    · subst empty
      exact .stalled [] (decide_eq_true rfl) List.getLast?_concat
    · have filled := List.length_pos_iff.mpr empty
      exact .waiting _ _ _ (decide_eq_false empty) (by omega) (by omega)
  · exact keeps_close begun

def Call.reads : Call → Bool
  | .readData | .readDataToLength _ | .readDataToData _ _ => true
  | _ => false

theorem keeps_perform (kept : Kept socket notes) {call : Call} (relied : Relied notes (.call call))
    (outside : call.reads = true → notes.answering = false) : Keeps Kept notes (socket.perform call) := by
  refine keeps_call ?_
  cases call with
  | readData =>
    refine .silent (kept_requesting kept relied (outside rfl) (fun _ _ bare unset => ?_))
    rw [bare,unset]
    exact .data
  | readDataToLength length =>
    refine .silent (kept_requesting kept relied (outside rfl) (fun _ _ _ unset => ?_))
    rw [unset]
    exact .length length
  | readDataToData data maxLength =>
    refine .silent (kept_requesting kept relied.1 (outside rfl) (fun _ _ bare _ => ?_))
    rw [bare]
    exact .pattern _ (StreamScanner.searching_fresh relied.2 maxLength) rfl
  | write data accepted => exact keeps_write kept relied data accepted
  | disconnect => exact keeps_disconnect kept
  | forceDisconnect => exact keeps_forceDisconnect kept

theorem draining_close (draining : Draining socket) : Draining socket.close.2 := by
  rw [close]
  split
  · intro _ connected
    cases connected
  · exact draining

/-- Where the last write is finished, a socket that closes after writing is no longer connected. -/
theorem draining_write (kept : Kept socket notes) (draining : Draining socket) (finished : notes.raw.writes = 0)
    (data : Data) (accepted : Bool) : Draining (socket.write data accepted).2 := by
  have begun : Draining {socket with remainWriteLength := data.length} := by
    intro closing connected
    have held : socket.delegate = true := by
      by_contra none
      have gone := kept.ended (Or.inl (Bool.eq_false_iff.mpr none))
      have up : (socket.tsSocket.valid && !socket.tsSocket.closed) = true := connected
      rw [gone] at up
      cases up
    have writing := kept.writing held
    rw [finished] at writing
    exact absurd writing.nothing.1 (draining closing connected)
  rw [write,writeData]
  split_ifs
  · exact begun
  · exact begun
  · exact begun
  · exact draining_close begun

theorem draining_checkReadData (draining : Draining socket) : Draining socket.checkReadData := by
  rw [checkReadData]
  split
  · exact draining
  · exact draining

theorem draining_perform (kept : Kept socket notes) (draining : Draining socket) {call : Call}
    (relied : Relied notes (.call call)) : Draining (socket.perform call).2 := by
  cases call with
  | readData => exact @draining_checkReadData {socket with reading := true} draining
  | readDataToLength length => exact @draining_checkReadData {socket with
      readLength := some length, reading := true} draining
  | readDataToData data maxLength => exact @draining_checkReadData {socket with
      reading := true, scanner := some {pattern := data, maximumLength := maxLength}} draining
  | write data accepted => exact draining_write kept draining relied data accepted
  | disconnect => exact draining_disconnect socket
  | forceDisconnect => exact draining_forceDisconnect socket

theorem settled_perform (settled : Settled socket notes) {call : Call} (relied : Relied notes (.call call))
    (outside : call.reads = true → notes.answering = false) : Keeps Settled notes (socket.perform call) := by
  have keeps := keeps_perform settled.1 relied outside
  exact ⟨⟨keeps.kept,draining_perform settled.1 settled.2 relied⟩,keeps.meets⟩

/-- No call is answered before it is over. -/
theorem answering_performed (call : Call) :
    ((socket.perform call).1.foldl Notes.heard notes).answering = notes.answering := by
  unfold perform
  cases call with
  | readData | readDataToLength | readDataToData => rfl
  | write data accepted =>
    simp only [respond,write,writeData,close]
    split_ifs <;> rfl
  | disconnect =>
    simp only [respond,disconnect,checkStatus,forceDisconnect,close,tell]
    split_ifs <;> rfl
  | forceDisconnect =>
    simp only [respond,forceDisconnect,close,tell]
    split_ifs <;> rfl

def Call.ends : Call → Bool
  | .disconnect | .forceDisconnect => true
  | _ => false

/-- A call that asks for no read does the same before and after the delegate's read is over. -/
theorem perform_settle {call : Call} (other : call.reads = false) (all : Bool) :
    (socket.settle all).perform call = ((socket.perform call).1,(socket.perform call).2.settle all) := by
  have tsSocket : (socket.settle all).tsSocket = socket.tsSocket := rfl
  have delegate : (socket.settle all).delegate = socket.delegate := rfl
  have remain : (socket.settle all).remainWriteLength = socket.remainWriteLength := rfl
  unfold perform
  cases call with
  | readData | readDataToLength | readDataToData => cases other
  | write data accepted =>
    simp only [respond,write,writeData,close,tsSocket]
    split_ifs <;> rfl
  | disconnect =>
    simp only [respond,disconnect,checkStatus,forceDisconnect,close,isConnected,tell,tsSocket,delegate,remain]
    split_ifs <;> rfl
  | forceDisconnect =>
    simp only [respond,forceDisconnect,close,isConnected,tell,tsSocket,delegate]
    split_ifs <;> rfl

/-- A call that does not end the socket does the same whether the delegate is still there. -/
theorem perform_left {call : Call} (other : call.ends = false) :
    perform {socket with delegate := false} call =
      ((socket.perform call).1,{(socket.perform call).2 with delegate := false}) := by
  unfold perform
  cases call with
  | readData | readDataToLength | readDataToData =>
    simp only [respond,readData,readDataToLength,readDataToData,checkReadData]
    split_ifs <;> rfl
  | write data accepted =>
    simp only [respond,write,writeData,close]
    split_ifs <;> rfl
  | disconnect | forceDisconnect => cases other

/-- While the delegate has its answer, and the socket has not gone on. -/
structure Answering (all : Bool) (socket : TUNTCPSocket) (notes : Notes) : Prop where
  kept : Kept (socket.settle all) notes
  draining : Draining socket
  answering : notes.answering = true

/-- While the delegate is told of a write. -/
def Telling (socket : TUNTCPSocket) (notes : Notes) : Prop := Kept socket notes ∧ notes.answering = false

/-- While the delegate hears of the end. -/
structure Leaving (socket : TUNTCPSocket) (notes : Notes) : Prop where
  kept : Kept {socket with delegate := false} notes
  draining : Draining socket
  closed : notes.raw.closed = true
  outside : notes.answering = false

theorem answering_foldl {outputs : List Output} (answering : notes.answering = true) :
    (outputs.foldl Notes.heard notes).answering = true := by
  induction outputs generalizing notes with
  | nil => exact answering
  | cons output rest ih =>
    refine ih ?_
    rcases output with (_ | _) | _ | _ | _ | _ | _ <;> first | rfl | exact answering

theorem closed_foldl {outputs : List Output} (closed : notes.raw.closed = true) :
    (outputs.foldl Notes.heard notes).raw.closed = true := by
  induction outputs generalizing notes with
  | nil => exact closed
  | cons output rest ih =>
    refine ih ?_
    rcases output with (_ | _) | _ | _ | _ | _ | _ <;> first | rfl | exact closed

/-- A read that is asked for here is lost: when the delegate is done, the socket forgets it. -/
theorem answering_asking {all : Bool} (answering : Answering all socket notes) (finished : notes.raw.reads = [])
    {request : ReadRequest} {reading : Bool} {readLength : Option Nat} {scanner : Option StreamScanner} :
    Answering all (checkReadData {socket with reading, readLength, scanner}) (notes.read request) := by
  refine ⟨?_,@draining_checkReadData {socket with reading, readLength, scanner} answering.draining,
    answering.answering⟩
  obtain ⟨blocks,same,grown,-⟩ := checkReadData_eq {socket with reading, readLength, scanner}
  rw [same]
  refine kept_asking answering.kept grown (fun _ _ => ?_) (fun asked => nomatch asked)
  rw [Notes.read,RawSocket.read,finished,answering.answering,Bool.or_true]
  exact .lost request readLength scanner

theorem answering_perform {all : Bool} (answering : Answering all socket notes) {call : Call}
    (relied : Relied notes (.call call)) : Keeps (Answering all) notes (socket.perform call) := by
  cases asks : call.reads with
  | true =>
    cases call with
    | readData => exact keeps_call (.silent (answering_asking answering relied))
    | readDataToLength length => exact keeps_call (.silent (answering_asking answering relied))
    | readDataToData data maxLength => exact keeps_call (.silent (answering_asking answering relied.1))
    | write | disconnect | forceDisconnect => cases asks
  | false =>
    have keeps := settled_perform ⟨answering.kept,answering.draining⟩ relied
      (fun reads => absurd (asks.symm.trans reads) Bool.false_ne_true)
    rw [perform_settle asks] at keeps
    exact ⟨⟨keeps.kept.1,keeps.kept.2,answering_foldl answering.answering⟩,keeps.meets⟩

theorem telling_perform (telling : Telling socket notes) {call : Call} (relied : Relied notes (.call call)) :
    Keeps Telling notes (socket.perform call) := by
  obtain ⟨kept,outside⟩ := telling
  have keeps := keeps_perform kept relied (fun _ => outside)
  exact ⟨⟨keeps.kept,(answering_performed call).trans outside⟩,keeps.meets⟩

theorem leaving_perform (leaving : Leaving socket notes) {call : Call} (relied : Relied notes (.call call)) :
    Keeps Leaving notes (socket.perform call) := by
  have stays : call.ends = false := by
    cases call with
    | disconnect | forceDisconnect => exact absurd (leaving.closed.symm.trans relied) Bool.true_eq_false.mp
    | _ => rfl
  have keeps := settled_perform ⟨leaving.kept,leaving.draining⟩ relied (fun _ => leaving.outside)
  rw [perform_left stays] at keeps
  exact ⟨⟨keeps.kept.1,keeps.kept.2,closed_foldl leaving.closed,(answering_performed call).trans leaving.outside⟩,
    keeps.meets⟩

theorem keeps_callBack {I : TUNTCPSocket → Notes → Prop} {output : Output} {calls : List Call}
    (step : ∀ (socket : TUNTCPSocket) (notes : Notes) (call : Call), I socket notes → Relied notes (.call call) →
      Keeps I notes (socket.perform call))
    (present : socket.delegate = true) (promised : Promised notes output) (told : I socket (notes.heard output))
    (relied : Dialogue.Meets Notes.heard Relied notes (socket.callBack output calls).1) :
    Keeps I notes (socket.callBack output calls) := by
  rw [callBack,if_pos present] at relied ⊢
  have keeps := Dialogue.keeps_performAll (fun socket notes call kept relied => step socket notes call kept relied.1)
    told relied.2
  exact ⟨keeps.kept,promised,keeps.meets⟩

theorem callBack_untold (absent : socket.delegate = false) (output : Output) (calls : List Call) :
    socket.callBack output calls = ([],socket) := by
  rw [callBack,if_neg (Bool.eq_false_iff.mp absent)]

theorem mem_rest {block other : Block} {rest : List Block} (queue : socket.queue = block :: rest)
    (member : other ∈ socket.queue) (different : other ≠ block) : other ∈ rest := by
  rw [queue] at member
  exact (List.mem_cons.mp member).resolve_left different

/-- The first block has run, and has put at most a block for a read into the queue. -/
theorem kept_ran (kept : Kept socket notes) {block : Block} {rest waiting : List Block}
    (queue : socket.queue = block :: rest) (other : block ≠ .socketDidClose) (grown : ∀ block ∈ rest, block ∈ waiting)
    (new : ∀ block ∈ waiting, block ∈ rest ∨ block = .checkReadData) {pendingReadData : Data} {reading : Bool}
    {readLength : Option Nat} {scanner : Option StreamScanner} {remainWriteLength : Int} {after : Notes}
    (front : after.missed = false → after.raw.received.flatten <+: after.arrived.flatten)
    (stands : socket.delegate = true → after.missed = false →
      Stands after.lost reading readLength scanner after.raw.reads)
    (whole : socket.delegate = true → after.missed = false →
      after.raw.received.flatten ++ pendingReadData ++ waiting.flatMap Block.data = after.arrived.flatten)
    (prompt : after.missed = false → reading = true → pendingReadData ≠ [] →
      (∀ length ∈ readLength, length ≤ pendingReadData.length) → .checkReadData ∈ waiting)
    (writing : socket.delegate = true →
      Writing after.stalled after.raw.sent.getLast? remainWriteLength (acknowledged waiting) after.inFlight
        after.raw.writes)
    (early : after.early = notes.early) (silent : after.silent = notes.silent)
    (closed : after.raw.closed = notes.raw.closed) :
    Kept {socket with queue := waiting, pendingReadData, reading, readLength, scanner, remainWriteLength} after := by
  have waited (other : Block) (member : other ∈ rest) : other ∈ socket.queue := by
    rw [queue]
    exact List.mem_cons_of_mem _ member
  refine ⟨front,stands,whole,prompt,writing,fun length member => ?_,?_,fun gone present spoken => ?_,?_⟩
  · rcases new _ member with member | check
    · exact kept.positive length (waited _ member)
    · cases check
  · rw [early,closed]
    exact kept.running
  · have member := kept.told gone present (silent.symm.trans spoken)
    exact grown _ (mem_rest queue member (fun same => other same.symm))
  · rintro (gone | member)
    · exact kept.ended (Or.inl gone)
    rcases new _ member with member | check
    · exact kept.ended (Or.inr (waited _ member))
    · cases check

theorem settled_didReadData (settled : Settled socket notes) {data : Data} {rest : List Block}
    (queue : socket.queue = .didReadData data :: rest) :
    Settled (checkReadData {socket with queue := rest, pendingReadData := socket.pendingReadData ++ data}) notes := by
  obtain ⟨kept,draining⟩ := settled
  refine ⟨?_,@draining_checkReadData
    {socket with queue := rest, pendingReadData := socket.pendingReadData ++ data} draining⟩
  obtain ⟨blocks,same,grown,prompt⟩ :=
    checkReadData_eq {socket with queue := rest, pendingReadData := socket.pendingReadData ++ data}
  rw [same]
  obtain ⟨nothing,length⟩ := quiet_blocks grown
  refine kept_ran kept queue (fun same => nomatch same) (fun _ => List.mem_append_left _)
    (fun block member => (List.mem_append.mp member).imp_right (grown block)) kept.front kept.stands ?_
    (fun _ _ pending _ => List.mem_append_right _ (prompt pending)) ?_ rfl rfl rfl
  · have whole := kept.whole
    rw [queue,List.flatMap_cons,Block.data] at whole
    rw [List.flatMap_append,nothing,List.append_nil,← List.append_assoc,List.append_assoc _ data]
    exact whole
  · have writing := kept.writing
    rw [queue,acknowledged_cons rfl] at writing
    rw [acknowledged_append,length]
    exact writing

/-- The block answers a read with what is first of the pending data. -/
theorem settled_answer (settled : Settled socket notes) {rest : List Block}
    (queue : socket.queue = .checkReadData :: rest) {told pendingReadData left : Data} {readLength : Option Nat}
    {scanner : Option StreamScanner} {all : Bool} (leaves : (if all then [] else pendingReadData) = left)
    (serves : socket.delegate = true → notes.missed = false →
      notes.lost = false ∧ ∃ request, notes.raw.reads = [request] ∧ request.Serves told ∧ readLength = none ∧
        scanner = none ∧ socket.pendingReadData = told ++ left)
    {calls : List Call} (relied : Dialogue.Meets Notes.heard Relied notes
      (callBack {socket with queue := rest, pendingReadData, readLength, scanner} (.didRead told) calls).1) :
    Keeps Settled notes ((callBack {socket with queue := rest, pendingReadData, readLength, scanner} (.didRead told)
      calls).map id (settle all)) := by
  obtain ⟨kept,draining⟩ := settled
  have writing := kept.writing
  rw [queue,acknowledged_cons rfl] at writing
  rcases Bool.eq_false_or_eq_true socket.delegate with delegate | delegate
  · have promised : Promised notes (.didRead told) := by
      refine ⟨kept.running delegate,fun found => ?_⟩
      obtain ⟨-,request,asked,fits,-⟩ := serves delegate found
      rw [asked]
      exact ⟨request,rfl,fits⟩
    have begun : Answering all {socket with queue := rest, pendingReadData, readLength, scanner}
        (notes.heard (.didRead told)) := by
      have whole (found : notes.missed = false) :
          (notes.raw.didRead told).received.flatten ++ left ++ rest.flatMap Block.data = notes.arrived.flatten := by
        obtain ⟨-,-,-,-,-,-,split⟩ := serves delegate found
        rw [← kept.whole delegate found,queue,split,RawSocket.didRead,List.flatten_append,List.flatten_singleton,
          data_cons rfl,← List.append_assoc]
      refine ⟨kept_ran kept queue (fun same => nomatch same) (fun _ member => member) (fun _ => Or.inl)
        (fun found => ?_) (fun _ found => ?_) (fun _ found => ?_) (fun _ asked => nomatch asked) writing rfl rfl rfl,
        draining,rfl⟩
      · exact ⟨left ++ rest.flatMap Block.data,by rw [← List.append_assoc]; exact whole found⟩
      · obtain ⟨within,request,asked,-,bare,unset,-⟩ := serves delegate found
        rw [Notes.heard,RawSocket.didRead,asked,bare,unset,within]
        exact .idle
      · rw [leaves]
        exact whole found
    have keeps := @keeps_callBack {socket with queue := rest, pendingReadData, readLength, scanner} _
      (Answering all) _ _ (fun _ _ _ answering relied => answering_perform answering relied) delegate promised begun
      relied
    exact ⟨⟨keeps.kept.kept,keeps.kept.draining⟩,keeps.meets⟩
  · have absent {P : Prop} (present : socket.delegate = true) : P := by
      rw [delegate] at present
      cases present
    rw [@callBack_untold {socket with queue := rest, pendingReadData, readLength, scanner} delegate]
    exact .silent ⟨kept_ran kept queue (fun same => nomatch same) (fun _ member => member) (fun _ => Or.inl) kept.front
      absent absent (fun _ asked => nomatch asked) absent rfl rfl rfl,draining⟩

theorem pending_of_misses {rest : List Block} (queue : socket.queue = .checkReadData :: rest)
    (asked : socket.reading = true) (length : socket.readLength = none) {scanner : StreamScanner}
    (scan : socket.scanner = some scanner) (calm : socket.misses = false)
    (unfound : ∀ matchData rest, (scanner.addAndScan socket.pendingReadData).1 ≠ some (some matchData,rest)) :
    (scanner.addAndScan socket.pendingReadData).1 = none ∧ socket.pendingReadData = [] := by
  rw [misses,queue,length,scan,asked] at calm
  dsimp only [List.head?_cons] at calm
  rw [Bool.true_and] at calm
  split at calm
  next matchData rest found => exact absurd found (unfound matchData rest)
  next => cases calm
  next nothing =>
    rw [decide_eq_false_iff_not,not_not] at calm
    exact ⟨nothing,calm⟩

/-- The block answers nothing, which a read that goes on cannot be answered by what is pending then. -/
theorem settled_quiet (settled : Settled socket notes) {rest : List Block}
    (queue : socket.queue = .checkReadData :: rest) {readLength : Option Nat} {scanner : Option StreamScanner}
    (stands : socket.delegate = true → notes.missed = false →
      Stands notes.lost socket.reading readLength scanner notes.raw.reads)
    (still : notes.missed = false → socket.reading = true → socket.pendingReadData ≠ [] →
      ¬∀ length ∈ readLength, length ≤ socket.pendingReadData.length) :
    Keeps Settled notes ([],{socket with queue := rest, readLength, scanner}) := by
  obtain ⟨kept,draining⟩ := settled
  have writing := kept.writing
  rw [queue,acknowledged_cons rfl] at writing
  have whole := kept.whole
  rw [queue,data_cons rfl] at whole
  exact .silent ⟨kept_ran kept queue (fun same => nomatch same) (fun _ member => member) (fun _ => Or.inl) kept.front
    stands whole (fun found asked pending enough => absurd enough (still found asked pending)) writing rfl rfl rfl,
    draining⟩

/-- A search that is not noted as missed has found the pattern, or had nothing to scan. -/
theorem settled_search (settled : Settled socket notes) {rest : List Block}
    (queue : socket.queue = .checkReadData :: rest) (noted : notes.missed = false → socket.misses = false)
    (asked : socket.reading = true) (length : socket.readLength = none) {scanner : StreamScanner}
    (scan : socket.scanner = some scanner) {calls : List Call} (relied : Dialogue.Meets Notes.heard Relied notes
      (runCheckReadData {socket with queue := rest} calls).1) :
    Keeps Settled notes (runCheckReadData {socket with queue := rest} calls) := by
  have searching (present : socket.delegate = true) (found : notes.missed = false) :
      notes.lost = false ∧ notes.raw.reads = [.pattern scanner.pattern] ∧ scanner.Searching ∧
        scanner.receivedData = [] := by
    have stands := settled.1.stands present found
    rw [asked,length,scan] at stands
    exact stands.of_pattern
  revert relied
  unfold runCheckReadData
  dsimp only
  rw [if_neg (by rw [asked]; decide)]
  simp only [length,scan]
  cases outcome : scanner.addAndScan socket.pendingReadData with
  | mk result next =>
  have emptied (found : notes.missed = false) (unfound : ∀ matchData rest, result ≠ some (some matchData,rest)) :
      result = none ∧ socket.pendingReadData = [] := by
    have calm := pending_of_misses queue asked length scan (noted found)
    rw [outcome] at calm
    exact calm unfound
  have scanned (present : socket.delegate = true) (found : notes.missed = false) :
      StreamScanner.Scanned scanner.pattern scanner.maximumLength socket.pendingReadData result := by
    obtain ⟨-,-,looks,fresh⟩ := searching present found
    have scanned := StreamScanner.addAndScan_scanned looks socket.pendingReadData
    rw [outcome,fresh] at scanned
    exact scanned
  rcases result with _ | ⟨_ | matchData,left⟩
  · have nothing (found : notes.missed = false) := (emptied found (fun _ _ same => nomatch same)).2
    refine fun _ => settled_quiet settled queue (fun present found => ?_)
      (fun found _ pending _ => pending (nothing found))
    obtain ⟨within,requested,looks,fresh⟩ := searching present found
    obtain ⟨same,still⟩ := StreamScanner.addAndScan_searching looks (by rw [outcome])
    rw [outcome] at same still
    dsimp only at same still
    have pattern : next.pattern = scanner.pattern := by rw [same]
    have received : next.receivedData = [] := by rw [same,fresh,nothing found]; rfl
    rw [asked,requested,← pattern,within]
    exact .pattern next still received
  · have given (found : notes.missed = false) : False :=
      nomatch (emptied found (fun _ _ same => nomatch same)).1
    exact fun _ => settled_quiet settled queue (fun _ found => (given found).elim) (fun found _ _ _ => given found)
  · intro relied
    refine settled_answer settled queue rfl (fun present found => ?_) relied
    have scanned := scanned present found
    obtain ⟨within,requested,-⟩ := searching present found
    refine ⟨within,_,requested,?_,rfl,rfl,?_⟩
    · cases scanned with
      | found before rest split last => exact ⟨before,rfl⟩
    · cases scanned with
      | found before rest split last => exact split

theorem settled_checkReadData (settled : Settled socket notes) {rest : List Block}
    (queue : socket.queue = .checkReadData :: rest) (noted : notes.missed = false → socket.misses = false)
    {calls : List Call} (relied : Dialogue.Meets Notes.heard Relied notes
      (runCheckReadData {socket with queue := rest} calls).1) :
    Keeps Settled notes (runCheckReadData {socket with queue := rest} calls) := by
  have kept := settled.1
  by_cases search : socket.reading = true ∧ socket.readLength = none ∧ ∃ scanner, socket.scanner = some scanner
  · obtain ⟨asked,length,scanner,scan⟩ := search
    exact settled_search settled queue noted asked length scan relied
  revert relied
  unfold runCheckReadData
  dsimp only
  split
  next idle =>
    rw [Bool.not_eq_true'] at idle
    exact fun _ => settled_quiet settled queue kept.stands
      (fun _ asked => absurd (asked.symm.trans idle) Bool.true_eq_false.mp)
  next asked =>
    rw [Bool.not_eq_true',Bool.not_eq_false] at asked
    cases length : socket.readLength with
    | some readLength =>
      dsimp only
      split
      next enough =>
        intro relied
        refine settled_answer settled queue rfl (fun present found => ?_) relied
        have stands := kept.stands present found
        rw [asked,length] at stands
        obtain ⟨within,requested,unset⟩ := stands.of_length
        refine ⟨within,_,requested,?_,rfl,unset,(List.take_append_drop readLength _).symm⟩
        rw [ReadRequest.Serves,List.length_take,min_eq_left enough]
      next short =>
        refine fun _ => settled_quiet settled queue (fun present found => ?_)
          (fun _ _ _ enough => short (enough readLength rfl))
        have stands := kept.stands present found
        rw [length] at stands
        exact stands
    | none =>
      cases scan : socket.scanner with
      | none =>
        intro relied
        refine settled_answer settled queue rfl (fun present found => ?_) relied
        have stands := kept.stands present found
        rw [asked,length,scan] at stands
        obtain ⟨within,requested⟩ := stands.of_data
        exact ⟨within,_,requested,trivial,rfl,rfl,(List.append_nil _).symm⟩
      | some scanner => exact absurd ⟨asked,length,scanner,scan⟩ search

/-- The delegate is told of a write when the local side has acknowledged all of it, and a socket that closes after
writing is then closed. -/
theorem settled_didWriteData (settled : Settled socket notes) (outside : notes.answering = false) {length : Nat}
    {rest : List Block} (queue : socket.queue = .didWriteData length :: rest) {calls : List Call}
    (relied : Dialogue.Meets Notes.heard Relied notes (runDidWriteData {socket with queue := rest} length calls).1) :
    Keeps Settled notes (runDidWriteData {socket with queue := rest} length calls) := by
  obtain ⟨kept,draining⟩ := settled
  have positive := kept.positive length (by rw [queue]; exact List.mem_cons_self)
  have whole := kept.whole
  rw [queue,data_cons rfl] at whole
  have prompt (found : notes.missed = false) (asked : socket.reading = true) (pending : socket.pendingReadData ≠ [])
      (enough : ∀ length ∈ socket.readLength, length ≤ socket.pendingReadData.length) : .checkReadData ∈ rest :=
    mem_rest queue (kept.prompt found asked pending enough) (fun same => nomatch same)
  have busy (present : socket.delegate = true) : notes.stalled = false ∧
      socket.remainWriteLength = notes.inFlight + (length + acknowledged rest : Nat) ∧ notes.raw.writes = 1 := by
    have writing := kept.writing present
    rw [queue] at writing
    exact writing.of_busy (Nat.add_pos_left (Nat.add_pos_left positive _) _)
  have ran {remainWriteLength : Int} {raw : RawSocket} (reads : raw.reads = notes.raw.reads)
      (received : raw.received = notes.raw.received) (closed : raw.closed = notes.raw.closed)
      (writing : socket.delegate = true →
        Writing notes.stalled raw.sent.getLast? remainWriteLength (acknowledged rest) notes.inFlight raw.writes) :
      Kept {socket with queue := rest, remainWriteLength} {notes with raw} := by
    refine kept_ran kept queue (fun same => nomatch same) (fun _ member => member) (fun _ => Or.inl) ?_ ?_ ?_ prompt
      writing rfl rfl closed
    · rw [received]
      exact kept.front
    · rw [reads]
      exact kept.stands
    · rw [received]
      exact whole
  revert relied
  unfold runDidWriteData
  dsimp only
  split
  next done =>
    rcases Bool.eq_false_or_eq_true socket.delegate with delegate | delegate
    · obtain ⟨taken,sum,single⟩ := busy delegate
      have idle : notes.inFlight = 0 := by omega
      have none : acknowledged rest = 0 := by omega
      have promised : Promised notes .didWrite := by
        refine ⟨kept.running delegate,?_,idle,taken⟩
        rw [single]
        exact Nat.one_pos
      have told : Kept {socket with queue := rest, remainWriteLength := socket.remainWriteLength - length}
          (notes.heard .didWrite) := by
        refine ran rfl rfl rfl (fun _ => ?_)
        rw [RawSocket.didWrite,single,idle,none,show socket.remainWriteLength - length = 0 by omega]
        exact .idle
      have keeps := @keeps_callBack {socket with
        queue := rest, remainWriteLength := socket.remainWriteLength - length} _ Telling _ calls
        (fun _ _ _ telling relied => telling_perform telling relied) delegate promised ⟨told,outside⟩
      generalize callBack _ .didWrite calls = outcome at keeps ⊢
      obtain ⟨outputs,next⟩ := outcome
      intro relied
      refine (keeps (Dialogue.meets_append.mp relied).1).append (fun telling => ?_)
      obtain ⟨kept,-⟩ := telling
      have checked := keeps_checkStatus kept
      exact ⟨⟨checked.kept,draining_checkStatus next⟩,checked.meets⟩
    · rw [@callBack_untold {socket with
        queue := rest, remainWriteLength := socket.remainWriteLength - length} delegate]
      have untold : Kept {socket with queue := rest, remainWriteLength := socket.remainWriteLength - length} notes :=
        ran rfl rfl rfl (fun present => absurd (present.symm.trans delegate) Bool.true_eq_false.mp)
      have checked := keeps_checkStatus untold
      exact fun _ => ⟨⟨checked.kept,draining_checkStatus _⟩,checked.meets⟩
  next more =>
    refine fun _ => .silent ⟨ran rfl rfl rfl (fun present => ?_),fun _ _ => ?_⟩
    · obtain ⟨taken,sum,single⟩ := busy present
      rw [single]
      exact .waiting _ _ _ taken (by omega) (by omega)
    · exact fun none => more (Int.le_of_eq none)

theorem settled_socketDidClose (settled : Settled socket notes) (outside : notes.answering = false) {rest : List Block}
    (queue : socket.queue = .socketDidClose :: rest) {calls : List Call}
    (relied : Dialogue.Meets Notes.heard Relied notes
      (callBack {socket with queue := rest} (.didDisconnect false) calls).1) :
    Keeps Settled notes ((callBack {socket with queue := rest} (.didDisconnect false) calls).map id
      ({· with delegate := false})) := by
  obtain ⟨kept,draining⟩ := settled
  have absent {P : Prop} (present : false = true) : P := absurd present Bool.false_ne_true
  have left {closed early : Bool} : Kept {socket with queue := rest, delegate := false}
      {notes with raw := {notes.raw with closed}, early} := by
    refine ⟨kept.front,absent,absent,fun found asked pending enough => ?_,absent,fun length member => ?_,absent,
      fun _ => absent,fun _ => ?_⟩
    · exact mem_rest queue (kept.prompt found asked pending enough) (fun same => nomatch same)
    · exact kept.positive length (by rw [queue]; exact List.mem_cons_of_mem _ member)
    · exact kept.ended (Or.inr (by rw [queue]; exact List.mem_cons_self))
  rcases Bool.eq_false_or_eq_true socket.delegate with delegate | delegate
  · have keeps := @keeps_callBack {socket with queue := rest} _ Leaving (.didDisconnect false) _
      (fun _ _ _ leaving relied => leaving_perform leaving relied) delegate (kept.running delegate)
      ⟨left,draining,rfl,outside⟩ relied
    exact ⟨⟨keeps.kept.kept,keeps.kept.draining⟩,keeps.meets⟩
  · rw [@callBack_untold {socket with queue := rest} delegate]
    exact .silent ⟨left,draining⟩

theorem settled_recved (settled : Settled socket notes) (data : Data) :
    Settled (socket.queueCall (.didReadData data)) {notes with arrived := notes.arrived ++ [data]} := by
  obtain ⟨kept,draining⟩ := settled
  have old (block : Block) (member : block ∈ socket.queue ++ [.didReadData data])
      (other : block ≠ .didReadData data) : block ∈ socket.queue :=
    (List.mem_append.mp member).resolve_right (fun last => other (List.mem_singleton.mp last))
  refine ⟨⟨fun found => ?_,kept.stands,fun present found => ?_,fun found asked pending enough => ?_,?_,
    fun length member => ?_,kept.running,fun gone present spoken => ?_,?_⟩,draining⟩
  · rw [List.flatten_append]
    exact (kept.front found).trans (List.prefix_append _ _)
  · rw [queueCall,List.flatMap_append,List.flatMap_singleton,← List.append_assoc,kept.whole present found,
      List.flatten_append,List.flatten_singleton,Block.data]
  · exact List.mem_append_left _ (kept.prompt found asked pending enough)
  · rw [queueCall,acknowledged_append]
    exact kept.writing
  · exact kept.positive length (old _ member (fun same => nomatch same))
  · exact List.mem_append_left _ (kept.told gone present spoken)
  · exact fun ended => kept.ended (ended.imp_right (fun member => old _ member (fun same => nomatch same)))

theorem settled_sent (settled : Settled socket notes) {length : Nat} (positive : 0 < length)
    (flown : length ≤ notes.inFlight) :
    Settled (socket.queueCall (.didWriteData length)) {notes with inFlight := notes.inFlight - length} := by
  obtain ⟨kept,draining⟩ := settled
  have old (block : Block) (member : block ∈ socket.queue ++ [.didWriteData length])
      (other : block ≠ .didWriteData length) : block ∈ socket.queue :=
    (List.mem_append.mp member).resolve_right (fun last => other (List.mem_singleton.mp last))
  refine ⟨⟨kept.front,kept.stands,fun present found => ?_,fun found asked pending enough => ?_,fun present => ?_,
    fun other member => ?_,kept.running,fun gone present spoken => ?_,?_⟩,draining⟩
  · rw [queueCall,List.flatMap_append,List.flatMap_singleton,← List.append_assoc]
    exact (List.append_nil _).trans (kept.whole present found)
  · exact List.mem_append_left _ (kept.prompt found asked pending enough)
  · obtain ⟨taken,sum,single⟩ := (kept.writing present).of_busy (by omega)
    have remain : 0 < socket.remainWriteLength := by omega
    rw [queueCall,acknowledged_append,show acknowledged [.didWriteData length] = length from rfl]
    dsimp only
    rw [single]
    exact .waiting _ _ _ taken remain (by omega)
  · rcases List.mem_append.mp member with member | last
    · exact kept.positive other member
    · cases List.mem_singleton.mp last
      exact positive
  · exact List.mem_append_left _ (kept.told gone present spoken)
  · exact fun ended => kept.ended (ended.imp_right (fun member => old _ member (fun same => nomatch same)))

theorem settled_errored (settled : Settled socket notes) (told : Bool) :
    Keeps Settled {notes with silent := notes.silent || !told} (socket.handle (.errored told)) := by
  obtain ⟨kept,-⟩ := settled
  have drained {socket : TUNTCPSocket} (gone : socket.tsSocket.valid = false) : Draining socket := by
    intro _ connected
    rw [isConnected,TSTCPSocket.isConnected,gone] at connected
    cases connected
  rw [handle]
  cases told with
  | true =>
    rw [Bool.not_true,Bool.or_false]
    exact .silent ⟨kept_ended kept,drained rfl⟩
  | false =>
    rw [Bool.not_false,Bool.or_true]
    exact .silent ⟨⟨kept.front,kept.stands,kept.whole,kept.prompt,kept.writing,kept.positive,kept.running,
      fun _ _ spoken => absurd spoken.symm Bool.false_ne_true,fun _ => rfl⟩,drained rfl⟩

theorem settled_run (settled : Settled socket notes) (outside : notes.answering = false) {calls : List Call}
    (noted : notes.missed = false → socket.misses = false)
    (relied : Dialogue.Meets Notes.heard Relied notes (socket.handle (.run calls)).1) :
    Keeps Settled notes (socket.handle (.run calls)) := by
  rw [handle] at relied ⊢
  cases queue : socket.queue with
  | nil => exact .silent settled
  | cons block rest =>
    rw [queue] at relied
    cases block with
    | didReadData data => exact .silent (settled_didReadData settled queue)
    | checkReadData => exact settled_checkReadData settled queue noted relied
    | didWriteData length => exact settled_didWriteData settled outside queue relied
    | socketDidClose => exact settled_socketDidClose settled outside queue relied

/-- Each event keeps the invariant, and what the delegate is told is promised where it is told. -/
theorem settled_handle (settled : Settled socket notes) (outside : notes.answering = false) {event : Event}
    (proper : Proper socket notes event) :
    Keeps Settled (notes.came socket event) (socket.handle event) := by
  obtain ⟨happens,relied⟩ := proper
  cases event with
  | call call => exact settled_perform settled relied.1 (fun _ => outside)
  | recved data =>
    cases data with
    | none => exact ⟨⟨(keeps_disconnect settled.1).kept,draining_disconnect socket⟩,(keeps_disconnect settled.1).meets⟩
    | some data => exact .silent (settled_recved settled data)
  | sent length => exact .silent (settled_sent settled happens.2.1 happens.2.2)
  | errored told => exact settled_errored settled told
  | closed =>
    obtain ⟨kept,-⟩ := settled
    refine .silent ⟨⟨kept.front,kept.stands,kept.whole,kept.prompt,kept.writing,kept.positive,kept.running,kept.told,
      kept.ended⟩,fun _ connected => ?_⟩
    rw [isConnected,TSTCPSocket.isConnected,Bool.not_true,Bool.and_false] at connected
    cases connected
  | run calls =>
    obtain ⟨kept,draining⟩ := settled
    have earlier {missed : Bool} (found : (notes.missed || missed) = false) : notes.missed = false :=
      (Bool.or_eq_false_iff.mp found).1
    refine @settled_run socket {notes with missed := notes.missed || socket.misses} ⟨?_,draining⟩ outside calls
      (fun found => (Bool.or_eq_false_iff.mp found).2) relied
    exact ⟨fun found => kept.front (earlier found),fun present found => kept.stands present (earlier found),
      fun present found => kept.whole present (earlier found),fun found => kept.prompt (earlier found),kept.writing,
      kept.positive,kept.running,kept.told,kept.ended⟩

theorem settled_fresh : Settled {} {} := by
  refine ⟨⟨fun _ => List.nil_prefix,fun _ _ => .idle,fun _ _ => rfl,fun _ asked => ?_,fun _ => .idle,
    fun _ member => ?_,fun _ _ => rfl,fun gone => ?_,fun ended => ?_⟩,fun closing => ?_⟩
  · exact absurd asked Bool.false_ne_true
  · exact absurd member List.not_mem_nil
  · exact absurd gone.symm Bool.false_ne_true
  · exact ended.elim (fun gone => absurd gone.symm Bool.false_ne_true) (fun member => absurd member List.not_mem_nil)
  · exact absurd closing Bool.false_ne_true

/-- Between two events no answer is being given. -/
def Between (socket : TUNTCPSocket) (notes : Notes) : Prop := Settled socket notes ∧ notes.answering = false

theorem keeps_between : (machine.attend note).Keeps (fun noted => Between noted.1 noted.2)
    (fun noted event => Proper noted.1 noted.2 event) := by
  rintro ⟨socket,notes⟩ event next ⟨settled,outside⟩ proper stepped
  obtain ⟨after,taken,rfl⟩ := Machine.attend_step stepped
  cases taken
  obtain ⟨kept,draining⟩ := (settled_handle settled outside proper).kept
  exact ⟨⟨⟨kept.front,kept.stands,kept.whole,kept.prompt,kept.writing,kept.positive,kept.running,kept.told,
    kept.ended⟩,draining⟩,rfl⟩

/-- A request is read in two chunks and answered, and the local side leaves before it has acknowledged all: the last
part is written within the answer to the first. -/
def servedEvents : List Event := [
  .call .readData,
  .recved (some [1,2]),
  .recved (some [3]),
  .run [],
  .run [],
  .run [.write [7,8] true],
  .sent 1,
  .recved none,
  .sent 1,
  .run [],
  .run [],
  .run [.write [9] true],
  .sent 1,
  .run [],
  .run []]

theorem along_servedEvents :
    (machine.attend note).Along (fun noted event => Proper noted.1 noted.2 event) ({},{}) servedEvents := by
  decide +kernel

/-- In every run of a socket that is used as the protocol warns: as long as the delegate is there, and until a search
misses its pattern, what came from the local side has been read, is pending or waits in the queue, and a block waits
for each read that can be answered, but for one that was asked for within the answer to another, which is forgotten;
what remains of a write is what the local side has not acknowledged, or all of it where the connection took nothing; a
socket that closes after writing is connected only as long as something remains; and a delegate whose connection is
gone, but by an error that is not told, is going to hear of it. -/
theorem settled_visits {events : List Event}
    (proper : (machine.attend note).Along (fun noted event => Proper noted.1 noted.2 event) ({},{}) events) :
    (machine.attend note).Visits (fun noted => Settled noted.1 noted.2 ∧
      (noted.1.delegate = true → noted.2.missed = false → Serving noted.1 noted.2)) ({},{}) events :=
  (Machine.Along.visits keeps_between ⟨settled_fresh,rfl⟩ proper).imp
    (fun _ between => ⟨between.1,between.1.1.serving⟩)

theorem settled_visits_served :
    (machine.attend note).Visits (fun noted => Settled noted.1 noted.2 ∧
      (noted.1.delegate = true → noted.2.missed = false → Serving noted.1 noted.2)) ({},{}) servedEvents :=
  settled_visits along_servedEvents

/-- What the socket tells, also between the calls of its delegate, is promised there: a read is answered with what
was asked, a write when the local side has all of it, and the end is told once, or for a second time after a socket
that was gone has told it at once. A write of which the connection takes nothing is never answered. -/
theorem told_along {events : List Event}
    (proper : (machine.attend note).Along (fun noted event => Proper noted.1 noted.2 event) ({},{}) events) :
    (machine.attend note).Along (fun noted event =>
      Dialogue.Meets Notes.heard Promised (noted.2.came noted.1 event) (machine.step noted.1 event).1) ({},{}) events :=
  Machine.Along.imp keeps_between (fun _ _ between proper => (settled_handle between.1 between.2 proper).meets)
    ⟨settled_fresh,rfl⟩ proper

theorem told_along_served : (machine.attend note).Along (fun noted event =>
    Dialogue.Meets Notes.heard Promised (noted.2.came noted.1 event) (machine.step noted.1 event).1) ({},{})
    servedEvents :=
  told_along along_servedEvents

/-- A block for data that has been read in the meantime answers the next read with no data, and a read that is asked
for within the answer to one has no answer. -/
example : machine.outputs {} [.call .readData,.recved (some [1]),.recved (some [2]),.run [],.run [],.run [],
      .call .readData,.run [.readData],.recved (some [3]),.run [],.run []] =
    [.call .readData,.didRead [1,2],.call .readData,.didRead [],.call .readData] := by decide

/-- It is what a tunnel relies on at its local side. -/
theorem enabled_of_promised {κ ρ : Type} {tunnel : Tunnel κ ρ} (seen : notes.raw = tunnel.proxySocket.socket)
    (early : notes.early = false) (found : notes.missed = false) :
    (∀ data, Promised notes (.didRead data) → tunnel.Enabled (.proxyRead data)) ∧
    (Promised notes .didWrite → tunnel.Enabled .proxyWrote) ∧
    (∀ stays, Promised notes (.didDisconnect stays) → tunnel.Enabled .proxyDisconnected) := by
  rw [Tunnel.Enabled,Tunnel.Enabled,← seen]
  refine ⟨fun data promised => ?_,
    fun promised => ⟨RawSocket.telling_of_open (promised.1 early),promised.2.1⟩,
    fun _ promised => RawSocket.telling_of_open (promised early)⟩
  rw [Tunnel.Enabled,← seen]
  exact ⟨RawSocket.telling_of_open (promised.1 early),promised.2 found⟩

end TUNTCPSocket
end TenonVpn
