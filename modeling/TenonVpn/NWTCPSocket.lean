import TenonVpn.StreamScanner
import TenonVpn.Tunnel

/-! `NWTCPSocket`, the raw socket over a connection of the system: the calls of its owner, the answers
of the connection and the blocks of the queue come in any order. It keeps what
`RawTCPSocketProtocol` promises until it is disconnected over a connection that is gone, but that what a
search left over comes before the length that is asked next. -/
namespace TenonVpn

inductive NWTCPConnectionState
  | invalid | connecting | waiting | connected | disconnected | cancelled
deriving DecidableEq

namespace NWTCPSocket

/-- What waits in the queue: the answer to an empty write, the end after a failed read, the news of the
connection, and what it read and wrote. -/
inductive Block
  | didWrite (data : Data)
  | disconnect
  | didConnect
  | didDisconnect
  | read (data : Option Data)
  | wrote (data : Data) (failed : Bool)
deriving DecidableEq

/-- What goes to the delegate, and what the connection is asked. -/
inductive Output
  | didConnect
  | didRead (data : Data)
  | didWrite (data : Data)
  | didDisconnect
  | readMinimumLength
  | readLength (length : Nat)
  | write (data : Data)
  | cancel
deriving DecidableEq

end NWTCPSocket

/-- `reading` are the reads that the connection has not answered, with a length where one was asked, and
`writing` its writes. -/
structure NWTCPSocket where
  connection : Option NWTCPConnectionState := none
  writePending : Bool := false
  closeAfterWriting : Bool := false
  cancelled : Bool := false
  scanner : Option StreamScanner := none
  scanning : Bool := false
  readDataPrefix : Option Data := none
  delegate : Bool := true
  reading : List (Option Nat) := []
  writing : List Data := []
  queue : List NWTCPSocket.Block := []

namespace NWTCPSocket

def maxScanLength : Int := 8912

def queueCall (socket : NWTCPSocket) (block : Block) : NWTCPSocket := {socket with queue := socket.queue ++ [block]}

def tell (socket : NWTCPSocket) (output : Output) : List Output := if socket.delegate then [output] else []

def cancel (socket : NWTCPSocket) : List Output := if socket.connection.isSome then [.cancel] else []

def checkStatus (socket : NWTCPSocket) : List Output :=
  if socket.closeAfterWriting && !socket.writePending then socket.cancel else []

/-- No connection is there to cancel. -/
def gone (socket : NWTCPSocket) : Bool := socket.connection = none || socket.connection = some .cancelled

def disconnect (socket : NWTCPSocket) : List Output × NWTCPSocket :=
  let socket := {socket with cancelled := true}
  if socket.gone then (socket.tell .didDisconnect,socket)
  else
    let socket := {socket with closeAfterWriting := true}
    (socket.checkStatus,socket)

def forceDisconnect (socket : NWTCPSocket) : List Output × NWTCPSocket :=
  let socket := {socket with cancelled := true}
  if socket.gone then (socket.tell .didDisconnect,socket) else (socket.cancel,socket)

/-- `connectTo`, which finds no provider in an extension that has stopped. -/
def connectTo (socket : NWTCPSocket) (provider : Bool) : NWTCPSocket :=
  if provider then {socket with connection := some .connecting} else socket

/-- None where it traps for want of a connection, as the reads below. -/
def write (socket : NWTCPSocket) (data : Data) : Option (List Output × NWTCPSocket) :=
  if socket.cancelled then some ([],socket)
  else if data = [] then some ([],socket.queueCall (.didWrite data))
  else if socket.connection.isSome then
    some ([.write data],{socket with writePending := true, writing := socket.writing ++ [data]})
  else none

def readData (socket : NWTCPSocket) : Option (List Output × NWTCPSocket) :=
  if socket.cancelled then some ([],socket)
  else if socket.connection.isSome then
    some ([.readMinimumLength],{socket with reading := socket.reading ++ [none]})
  else none

def readDataToLength (socket : NWTCPSocket) (length : Nat) : Option (List Output × NWTCPSocket) :=
  if socket.cancelled then some ([],socket)
  else if socket.connection.isSome then
    some ([.readLength length],{socket with reading := socket.reading ++ [some length]})
  else none

def readDataToData (socket : NWTCPSocket) (data : Data) (maxLength : Int) : Option (List Output × NWTCPSocket) :=
  if socket.cancelled then some ([],socket)
  else readData {socket with
    scanner := some {pattern := data, maximumLength := if maxLength = 0 then maxScanLength else maxLength}
    scanning := true}

def observeValue (socket : NWTCPSocket) (state : NWTCPConnectionState) : List Output × NWTCPSocket :=
  let socket := {socket with connection := some state}
  match state with
  | .connected => ([],socket.queueCall .didConnect)
  | .disconnected => (cancel {socket with cancelled := true},{socket with cancelled := true})
  | .cancelled => ([],queueCall {socket with cancelled := true} .didDisconnect)
  | _ => ([],socket)

def readCallback (socket : NWTCPSocket) (data : Option Data) : NWTCPSocket :=
  if socket.cancelled then socket else socket.queueCall (.read data)

/-- The handler of a read, given none for an error; data is none where the remote side has ended. -/
def handleRead (socket : NWTCPSocket) (result : Option (Option Data)) : NWTCPSocket :=
  let socket := {socket with reading := socket.reading.tail}
  match result with
  | none => socket.queueCall .disconnect
  | some data => socket.readCallback data

def handleWrite (socket : NWTCPSocket) (failed : Bool) : NWTCPSocket :=
  match socket.writing with
  | [] => socket
  | data :: rest => queueCall {socket with writing := rest} (.wrote data failed)

def consumeReadData (socket : NWTCPSocket) (data : Option Data) : Option Data × NWTCPSocket :=
  let consumed := {socket with readDataPrefix := none}
  match socket.readDataPrefix,data with
  | none,data => (data,consumed)
  | some held,none => (some held,consumed)
  | some held,some data => (some (held ++ data),consumed)

/-- The block of a read that was answered. -/
def didRead (socket : NWTCPSocket) (data : Option Data) : Option (List Output × NWTCPSocket) :=
  let (whole,socket) := socket.consumeReadData data
  match whole with
  | none => some ([],socket)
  | some data =>
    if socket.scanning then do
      let scanner ← socket.scanner
      match scanner.addAndScan data with
      | (none,scanner) => readData {socket with scanner := some scanner}
      | (some (none,_),_) => some ([],{socket with scanner := none, scanning := false})
      | (some (some matchData,rest),_) =>
        let socket := {socket with scanner := none, scanning := false, readDataPrefix := some rest}
        some (socket.tell (.didRead matchData),socket)
    else some (socket.tell (.didRead data),socket)

/-- The block of a write. Its delegate may call the socket before the status is checked, which comes to the
same. -/
def didWrite (socket : NWTCPSocket) (data : Data) (failed : Bool) : List Output × NWTCPSocket :=
  let socket := {socket with writePending := false}
  if failed then socket.disconnect else (socket.tell (.didWrite data) ++ socket.checkStatus,socket)

def runBlock (socket : NWTCPSocket) : Block → Option (List Output × NWTCPSocket)
  | .didWrite data => some (socket.tell (.didWrite data),socket)
  | .disconnect => some socket.disconnect
  | .didConnect => some (socket.tell .didConnect,socket)
  | .didDisconnect => some (socket.tell .didDisconnect,{socket with delegate := false})
  | .read data => socket.didRead data
  | .wrote data failed => some (socket.didWrite data failed)

inductive Event
  | connectTo (provider : Bool)
  | readData
  | readDataToLength (length : Nat)
  | readDataToData (data : Data) (maxLength : Int)
  | write (data : Data)
  | disconnect
  | forceDisconnect
  | observed (state : NWTCPConnectionState)
  | handleRead (result : Option (Option Data))
  | handleWrite (failed : Bool)
  | run

def respond (socket : NWTCPSocket) : Event → Option (List Output × NWTCPSocket)
  | .connectTo provider => some ([],socket.connectTo provider)
  | .readData => socket.readData
  | .readDataToLength length => socket.readDataToLength length
  | .readDataToData data maxLength => socket.readDataToData data maxLength
  | .write data => socket.write data
  | .disconnect => some socket.disconnect
  | .forceDisconnect => some socket.forceDisconnect
  | .observed state => some (socket.observeValue state)
  | .handleRead result => some ([],socket.handleRead result)
  | .handleWrite failed => some ([],socket.handleWrite failed)
  | .run =>
    match socket.queue with
    | [] => some ([],socket)
    | block :: rest => runBlock {socket with queue := rest} block

def machine : Machine NWTCPSocket Event Output where
  step socket event := ((socket.respond event).elim [] (·.1),(socket.respond event).map (·.2))

/-- What the connection has given: the chunks, whether it has ended, and what the last answer left over, where it
was the answer to a search. -/
structure Incoming where
  arrived : List Data := []
  ended : Bool := false
  left : Option Data := none

def Incoming.took (incoming : Incoming) : Option Data → Incoming
  | some data => {incoming with arrived := incoming.arrived ++ [data]}
  | none => {incoming with ended := true}

/-- What an observer notes: the socket as `RawTCPSocketProtocol` has it, whether it was disconnected over a
connection that is gone, and what was taken in. -/
structure Notes where
  raw : RawSocket := {}
  early : Bool := false
  incoming : Incoming := {}

/-- What an answer leaves over, of what has come. -/
def Notes.leftOver (notes : Notes) (data : Data) : Option Data :=
  match notes.raw.reads.head? with
  | some (.pattern _) => some (notes.incoming.arrived.flatten.drop (notes.raw.received.flatten ++ data).length)
  | _ => none

def Notes.heard (notes : Notes) : Output → Notes
  | .didConnect => {notes with raw := {notes.raw with connecting := false}}
  | .didRead data => {notes with
      raw := notes.raw.didRead data
      incoming := {notes.incoming with left := notes.leftOver data}}
  | .didWrite _ => {notes with raw := notes.raw.didWrite}
  | .didDisconnect => {notes with raw := {notes.raw with closed := true}}
  | _ => notes

def Notes.asked (notes : Notes) (socket : NWTCPSocket) : Event → Notes
  | .connectTo _ => {notes with raw := {notes.raw with connecting := true}}
  | .readData => {notes with raw := notes.raw.read .data}
  | .readDataToLength length => {notes with raw := notes.raw.read (.length length)}
  | .readDataToData data _ => {notes with raw := notes.raw.read (.pattern data)}
  | .write data => {notes with raw := notes.raw.write data}
  | .handleRead (some data) =>
    if socket.cancelled then notes else {notes with incoming := notes.incoming.took data}
  | _ => notes

/-- Whether an event disconnects the socket, by its owner or after a failure. -/
def disconnects (socket : NWTCPSocket) : Event → Bool
  | .disconnect | .forceDisconnect => true
  | .run =>
    match socket.queue with
    | .disconnect :: _ | .wrote _ true :: _ => true
    | _ => false
  | _ => false

def noted (notes : Notes) (socket : NWTCPSocket) (event : Event) (outputs : List Output) : Notes :=
  {outputs.foldl Notes.heard (notes.asked socket event) with
    early := notes.early || (socket.disconnects event && socket.gone)}

def note (notes : Notes) (socket : NWTCPSocket) (event : Event) : Notes :=
  noted notes socket event (machine.step socket event).1

/-- What answers a read: what was asked for. But what a search left over comes before the length that was asked
after it, and is the whole answer where the stream has ended. -/
def Incoming.Answers (incoming : Incoming) : ReadRequest → Data → Prop
  | .length length,data => ∃ more, data = incoming.left.getD [] ++ more ∧
      ((more.length : Int) = length ∨ (incoming.left.isSome ∧ incoming.ended = true ∧ more = []))
  | request,data => request.Serves data

/-- What `RawTCPSocketProtocol` promises of a call of the delegate. -/
def Promised (raw : RawSocket) (incoming : Incoming) : Output → Prop
  | .didConnect => raw.closed = false ∧ raw.connecting = true
  | .didRead data => raw.closed = false ∧ ∃ request ∈ raw.reads.head?, incoming.Answers request data
  | .didWrite _ => raw.closed = false ∧ 0 < raw.writes
  | .didDisconnect => raw.closed = false
  | _ => True

/-- Where no search has left anything over, a read is answered with what was asked for. -/
theorem Incoming.answers_iff_serves {incoming : Incoming} (bare : incoming.left = none) (request : ReadRequest)
    (data : Data) : incoming.Answers request data ↔ request.Serves data := by
  cases request with
  | data => rfl
  | pattern ending => rfl
  | length length =>
    simp only [Answers,bare,Option.getD_none,List.nil_append,Option.isSome_none,Bool.false_eq_true,false_and,or_false,
      exists_eq_left',ReadRequest.Serves]

/-- How a connection goes on: it is connected once, and nothing follows the end. -/
def Follows (before : Option NWTCPConnectionState) : NWTCPConnectionState → Prop
  | .connecting | .waiting | .connected => before = some .connecting ∨ before = some .waiting
  | _ => before.isSome ∧ before ≠ some .cancelled

/-- The answer of a connection: an error, the end of the stream, or data as long as was asked. -/
def Answers : Option Nat → Option (Option Data) → Prop
  | some length,some (some data) => data.length = length
  | _,_ => True

/-- The owner connects once, and reads and writes when the last read and write are finished, as the protocol warns.
The connection answers what it was asked. -/
def Proper (socket : NWTCPSocket) (raw : RawSocket) : Event → Prop
  | .connectTo _ => socket.connection = none ∧ raw.connecting = false
  | .readData => raw.reads = []
  | .readDataToLength _ => raw.reads = []
  | .readDataToData data _ => raw.reads = [] ∧ data ≠ []
  | .write _ => raw.writes = 0
  | .disconnect | .forceDisconnect => True
  | .observed state => Follows socket.connection state
  | .handleRead result => ∃ asked ∈ socket.reading.head?, Answers asked result
  | .handleWrite _ => socket.writing ≠ []
  | .run => socket.queue ≠ []

instance decidableFollows (before : Option NWTCPConnectionState) (state : NWTCPConnectionState) :
    Decidable (Follows before state) := by
  cases state <;> unfold Follows <;> infer_instance

instance decidableAnswers (asked : Option Nat) (result : Option (Option Data)) : Decidable (Answers asked result) := by
  unfold Answers
  split <;> infer_instance

instance decidableProper (socket : NWTCPSocket) (raw : RawSocket) (event : Event) :
    Decidable (Proper socket raw event) := by
  cases event <;> unfold Proper <;> infer_instance

def Block.answer : Block → Option (Option Data)
  | .read data => some data
  | _ => none

def Block.isWrote : Block → Bool
  | .wrote _ _ => true
  | _ => false

def Block.isDidWrite : Block → Bool
  | .didWrite _ => true
  | _ => false

def Block.isDidConnect : Block → Bool
  | .didConnect => true
  | _ => false

/-- What a socket knows of its reads; `answered` are those whose blocks have not run. -/
structure Reads where
  reading : List (Option Nat)
  answered : List (Option Data)
  scanning : Bool
  scanner : Option StreamScanner
  readDataPrefix : Option Data

def reads (socket : NWTCPSocket) : Reads where
  reading := socket.reading
  answered := socket.queue.filterMap Block.answer
  scanning := socket.scanning
  scanner := socket.scanner
  readDataPrefix := socket.readDataPrefix

namespace Reads

def underWay (reads : Reads) : Nat := reads.reading.length + reads.answered.length

/-- What was taken in and has not gone to the delegate. -/
def held (reads : Reads) : Data :=
  (if reads.scanning then (reads.scanner.map (·.receivedData)).getD [] else []) ++
    reads.readDataPrefix.getD [] ++ reads.answered.flatMap (·.getD [])

/-- Where a read stands. It is stuck after the end of the stream, after an error, and where too much came
without the pattern. -/
inductive Stands (reads : Reads) : List ReadRequest → Prop
  | idle (none : reads.underWay = 0) (scanning : reads.scanning = false) : Stands reads []
  | stuck (request : ReadRequest) (none : reads.underWay = 0) : Stands reads [request]
  | data (one : reads.underWay = 1) (scanning : reads.scanning = false) : Stands reads [.data]
  | length (length : Nat) (one : reads.underWay = 1) (scanning : reads.scanning = false)
      (reading : ∀ asked ∈ reads.reading, asked = some length)
      (answered : ∀ data, some data ∈ reads.answered → data.length = length) : Stands reads [.length length]
  | pattern (scanner : StreamScanner) (one : reads.underWay = 1) (scanning : reads.scanning = true)
      (present : reads.scanner = some scanner) (searching : scanner.Searching) : Stands reads [.pattern scanner.pattern]

end Reads

structure Writing (socket : NWTCPSocket) (raw : RawSocket) : Prop where
  pending : socket.writing.length + socket.queue.countP Block.isWrote = socket.writePending.toNat
  asked : socket.writePending.toNat + socket.queue.countP Block.isDidWrite ≤ raw.writes
  single : raw.writes ≤ 1

/-- At most one connection is awaited or about to be told. -/
def Connecting (socket : NWTCPSocket) (raw : RawSocket) : Prop :=
  socket.queue.countP Block.isDidConnect +
    (if socket.connection = some .connecting ∨ socket.connection = some .waiting then 1 else 0) ≤ raw.connecting.toNat

/-- The delegate has read the stream from its start; what it has not read is held, while a read can go on, and what
a search left over comes before the next answer. -/
structure Streams (socket : NWTCPSocket) (notes : Notes) : Prop where
  front : notes.raw.received.flatten <+: notes.incoming.arrived.flatten
  whole : socket.delegate = true → notes.raw.reads = [] ∨ 0 < socket.reads.underWay →
    notes.raw.received.flatten ++ socket.reads.held = notes.incoming.arrived.flatten
  left : socket.delegate = true → notes.raw.reads = [] ∨ 0 < socket.reads.underWay → socket.reads.scanning = false →
    socket.reads.readDataPrefix = notes.incoming.left
  ended : none ∈ socket.reads.answered → notes.incoming.ended = true

structure Kept (socket : NWTCPSocket) (notes : Notes) : Prop where
  running : socket.delegate = true → notes.early = false → notes.raw.closed = false
  connecting : Connecting socket notes.raw
  writing : Writing socket notes.raw
  stands : socket.reads.Stands notes.raw.reads
  streams : Streams socket notes

variable {socket next : NWTCPSocket} {notes : Notes}

theorem heard_cancel (socket : NWTCPSocket) (notes : Notes) : socket.cancel.foldl Notes.heard notes = notes := by
  rw [cancel]
  split <;> rfl

theorem heard_checkStatus (socket : NWTCPSocket) (notes : Notes) :
    socket.checkStatus.foldl Notes.heard notes = notes := by
  rw [checkStatus]
  split
  · exact heard_cancel socket notes
  · rfl

theorem promised_cancel (raw : RawSocket) (incoming : Incoming) :
    ∀ output ∈ socket.cancel, Promised raw incoming output := by
  intro output member
  rw [cancel] at member
  split at member
  · rw [List.mem_singleton.mp member]
    trivial
  · cases member

theorem promised_checkStatus (raw : RawSocket) (incoming : Incoming) :
    ∀ output ∈ socket.checkStatus, Promised raw incoming output := by
  intro output member
  rw [checkStatus] at member
  split at member
  · exact promised_cancel raw incoming output member
  · cases member

/-- A step keeps the invariant, and its outputs are promised until it was disconnected early. -/
structure Sound (notes : Notes) (outputs : List Output) (next : NWTCPSocket) (after : Notes) : Prop where
  kept : Kept next after
  promised : notes.early = false → ∀ output ∈ outputs, Promised notes.raw notes.incoming output

/-- What goes on at the delegate and in the connection's state touches neither reads nor writes. -/
theorem Kept.of_same (kept : Kept socket notes) {after : Notes}
    (running : next.delegate = true → after.early = false → after.raw.closed = false)
    (connecting : Connecting next after.raw) (delegate : next.delegate = true → socket.delegate = true)
    (reads : next.reads = socket.reads) (stream : after.raw.received = notes.raw.received)
    (asked : after.raw.reads = notes.raw.reads) (incoming : after.incoming = notes.incoming)
    (writing : Writing next after.raw) : Kept next after where
  running := running
  connecting := connecting
  writing := writing
  stands := by
    rw [reads,asked]
    exact kept.stands
  streams := by
    obtain ⟨front,whole,left,ended⟩ := kept.streams
    constructor
    · rw [stream,incoming]
      exact front
    · intro present open'
      rw [reads,asked] at open'
      rw [stream,incoming,reads]
      exact whole (delegate present) open'
    · intro present open'
      rw [reads,asked] at open'
      rw [reads,incoming]
      exact left (delegate present) open'
    · rw [reads,incoming]
      exact ended

/-- A socket that is disconnected tells its delegate at once where the connection is gone. -/
theorem sound_ending (kept : Kept socket notes) {calls : List Output}
    (silent : calls.foldl Notes.heard notes = notes)
    (promised : ∀ output ∈ calls, Promised notes.raw notes.incoming output) (closeAfterWriting : Bool)
    {outcome : List Output × NWTCPSocket}
    (ends : outcome = if socket.gone then (socket.tell .didDisconnect,{socket with cancelled := true})
      else (calls,{socket with cancelled := true, closeAfterWriting})) :
    Sound notes outcome.1 outcome.2
      {outcome.1.foldl Notes.heard notes with early := notes.early || socket.gone} := by
  have writing := kept.writing
  subst ends
  cases gone : socket.gone with
  | true =>
    rw [if_pos rfl,Bool.or_true,tell]
    cases delegate : socket.delegate with
    | true =>
      rw [if_pos rfl]
      refine ⟨kept.of_same (fun _ early => nomatch early) kept.connecting (fun _ => delegate) rfl rfl rfl rfl
        ⟨writing.pending,writing.asked,writing.single⟩,fun early output member => ?_⟩
      rw [List.mem_singleton.mp member]
      exact kept.running delegate early
    | false =>
      rw [if_neg Bool.false_ne_true]
      exact ⟨kept.of_same (fun _ early => nomatch early) kept.connecting (fun present => nomatch present) rfl rfl rfl
        rfl ⟨writing.pending,writing.asked,writing.single⟩,fun _ output member => nomatch member⟩
  | false =>
    rw [if_neg Bool.false_ne_true,Bool.or_false,silent]
    exact ⟨kept.of_same kept.running kept.connecting (fun present => present) rfl rfl rfl rfl
      ⟨writing.pending,writing.asked,writing.single⟩,fun _ => promised⟩

theorem sound_disconnect (kept : Kept socket notes) :
    Sound notes socket.disconnect.1 socket.disconnect.2
      {socket.disconnect.1.foldl Notes.heard notes with early := notes.early || socket.gone} :=
  sound_ending kept (heard_checkStatus {socket with cancelled := true, closeAfterWriting := true} notes)
    (promised_checkStatus notes.raw notes.incoming) true rfl

theorem sound_forceDisconnect (kept : Kept socket notes) :
    Sound notes socket.forceDisconnect.1 socket.forceDisconnect.2
      {socket.forceDisconnect.1.foldl Notes.heard notes with early := notes.early || socket.gone} :=
  sound_ending kept (heard_cancel {socket with cancelled := true} notes) (promised_cancel notes.raw notes.incoming)
    socket.closeAfterWriting rfl

/-- A request to read, where the last read is finished. -/
theorem kept_asking (kept : Kept socket notes) (empty : notes.raw.reads = []) {request : ReadRequest}
    {reading : List (Option Nat)} {scanner : Option StreamScanner} {scanning : Bool}
    (stands : (reads {socket with reading, scanner, scanning}).Stands [request])
    (held : (reads {socket with reading, scanner, scanning}).held = socket.reads.held)
    (idle : socket.reads.scanning = false) :
    Kept {socket with reading, scanner, scanning} {notes with raw := notes.raw.read request} where
  running := kept.running
  connecting := kept.connecting
  writing := ⟨kept.writing.pending,kept.writing.asked,kept.writing.single⟩
  stands := by
    rw [RawSocket.read,empty]
    exact stands
  streams := by
    refine ⟨kept.streams.front,fun present _ => ?_,fun present _ _ => ?_,kept.streams.ended⟩
    · rw [held]
      exact kept.streams.whole present (Or.inl empty)
    · exact kept.streams.left present (Or.inl empty) idle

theorem early_foldl (outputs : List Output) (notes : Notes) :
    (outputs.foldl Notes.heard notes).early = notes.early := by
  induction outputs generalizing notes with
  | nil => rfl
  | cons output rest ih =>
    rw [List.foldl_cons,ih]
    cases output <;> rfl

theorem early_asked (notes : Notes) (socket : NWTCPSocket) (event : Event) :
    (notes.asked socket event).early = notes.early := by
  cases event with
  | handleRead result =>
    rcases result with _ | data
    · rfl
    · rw [Notes.asked]
      split <;> rfl
  | _ => rfl

theorem noted_of_stays {event : Event} (stays : (socket.disconnects event && socket.gone) = false)
    (outputs : List Output) :
    noted notes socket event outputs = outputs.foldl Notes.heard (notes.asked socket event) := by
  rw [noted,stays,Bool.or_false,← early_asked notes socket event,← early_foldl outputs]

theorem noted_run (stays : socket.disconnects .run = false) (outputs : List Output) :
    noted notes socket .run outputs = outputs.foldl Notes.heard notes :=
  noted_of_stays (by rw [stays,Bool.false_and]) outputs

theorem readData_cases {outputs : List Output} (stepped : socket.readData = some (outputs,next)) :
    (outputs = [] ∧ next = socket) ∨
      (outputs = [.readMinimumLength] ∧ next = {socket with reading := socket.reading ++ [none]}) := by
  rw [readData] at stepped
  split_ifs at stepped
  · cases stepped
    exact Or.inl ⟨rfl,rfl⟩
  · cases stepped
    exact Or.inr ⟨rfl,rfl⟩

theorem underWay_asked {asked : Option Nat} {scanner : Option StreamScanner} {scanning : Bool}
    (none : socket.reads.underWay = 0) :
    (reads {socket with reading := socket.reading ++ [asked], scanner, scanning}).underWay = 1 := by
  simp only [Reads.underWay,reads,List.length_append,List.length_singleton] at none ⊢
  omega

theorem sound_readData (kept : Kept socket notes) (empty : notes.raw.reads = []) {outputs : List Output}
    (stepped : socket.readData = some (outputs,next)) :
    Sound notes outputs next (noted notes socket .readData outputs) := by
  have stands := kept.stands
  rw [empty] at stands
  obtain ⟨none,scanning⟩ := stands
  rw [noted_of_stays rfl]
  rcases readData_cases stepped with ⟨rfl,rfl⟩ | ⟨rfl,rfl⟩
  · exact ⟨kept_asking kept empty (.stuck _ none) rfl scanning,fun _ output member => nomatch member⟩
  · refine ⟨kept_asking kept empty (.data (underWay_asked none) scanning) rfl scanning,fun _ output member => ?_⟩
    rw [List.mem_singleton.mp member]
    trivial

theorem sound_readDataToLength (kept : Kept socket notes) (empty : notes.raw.reads = []) {length : Nat}
    {outputs : List Output} (stepped : socket.readDataToLength length = some (outputs,next)) :
    Sound notes outputs next (noted notes socket (.readDataToLength length) outputs) := by
  have stands := kept.stands
  rw [empty] at stands
  obtain ⟨none,scanning⟩ := stands
  have none' := none
  rw [Reads.underWay,Nat.add_eq_zero_iff,List.length_eq_zero_iff,List.length_eq_zero_iff] at none'
  rw [noted_of_stays rfl]
  rw [readDataToLength] at stepped
  split_ifs at stepped
  · cases stepped
    exact ⟨kept_asking kept empty (.stuck _ none) rfl scanning,fun _ output member => nomatch member⟩
  · cases stepped
    refine ⟨kept_asking kept empty (.length length (underWay_asked none) scanning ?_ ?_) rfl scanning,
      fun _ output member => ?_⟩
    · intro asked member
      have here : asked ∈ socket.reading ++ [some length] := member
      rw [show socket.reading = [] from none'.1,List.nil_append] at here
      exact List.mem_singleton.mp here
    · intro data member
      have here : some data ∈ socket.reads.answered := member
      rw [none'.2] at here
      cases here
    · rw [List.mem_singleton.mp member]
      trivial

theorem sound_readDataToData (kept : Kept socket notes) (empty : notes.raw.reads = []) {data : Data}
    (filled : data ≠ []) {maxLength : Int} {outputs : List Output}
    (stepped : socket.readDataToData data maxLength = some (outputs,next)) :
    Sound notes outputs next (noted notes socket (.readDataToData data maxLength) outputs) := by
  have stands := kept.stands
  rw [empty] at stands
  obtain ⟨none,scanning⟩ := stands
  rw [noted_of_stays rfl]
  rw [readDataToData] at stepped
  split at stepped
  · cases stepped
    exact ⟨kept_asking kept empty (.stuck _ none) rfl scanning,fun _ output member => nomatch member⟩
  · have held (reading : List (Option Nat)) (scanner : StreamScanner) (fresh : scanner.receivedData = []) :
        (reads {socket with reading, scanner := some scanner, scanning := true}).held = socket.reads.held := by
      have idle : socket.scanning = false := scanning
      simp only [Reads.held,reads,idle,if_true,Option.map_some,Option.getD_some,fresh,Bool.false_eq_true,if_false]
    rcases readData_cases stepped with ⟨rfl,rfl⟩ | ⟨rfl,rfl⟩
    · exact ⟨kept_asking kept empty (.stuck _ none) (held _ _ rfl) scanning,fun _ output member => nomatch member⟩
    · refine ⟨kept_asking kept empty (.pattern _ (underWay_asked none) rfl rfl
        (StreamScanner.searching_fresh filled _)) (held _ _ rfl) scanning,fun _ output member => ?_⟩
      rw [List.mem_singleton.mp member]
      trivial

theorem reads_queueCall {block : Block} (quiet : block.answer = none) :
    (socket.queueCall block).reads = socket.reads := by
  simp only [reads,queueCall,List.filterMap_append,List.filterMap_cons,quiet,List.filterMap_nil,List.append_nil]

theorem connecting_queueCall {raw : RawSocket} (connecting : Connecting socket raw) {block : Block}
    (other : block.isDidConnect = false) : Connecting (socket.queueCall block) raw := by
  simp only [Connecting,queueCall,List.countP_append,List.countP_cons,List.countP_nil,other,Bool.false_eq_true,if_false,
    Nat.add_zero]
  exact connecting

theorem writing_queueCall {raw : RawSocket} (writing : Writing socket raw) {block : Block}
    (other : block.isWrote = false) (other' : block.isDidWrite = false) : Writing (socket.queueCall block) raw := by
  obtain ⟨pending,asked,single⟩ := writing
  refine ⟨?_,?_,single⟩
  · simp only [queueCall,List.countP_append,List.countP_cons,List.countP_nil,other,Bool.false_eq_true,if_false,
      Nat.add_zero]
    exact pending
  · simp only [queueCall,List.countP_append,List.countP_cons,List.countP_nil,other',Bool.false_eq_true,if_false,
      Nat.add_zero]
    exact asked

/-- A block that ends the socket or tells that it ended. -/
theorem kept_queueCall (kept : Kept socket notes) {block : Block} (answer : block.answer = none)
    (wrote : block.isWrote = false) (didWrite : block.isDidWrite = false) (didConnect : block.isDidConnect = false) :
    Kept (socket.queueCall block) notes :=
  kept.of_same kept.running (connecting_queueCall kept.connecting didConnect) (fun present => present)
    (reads_queueCall answer) rfl rfl rfl (writing_queueCall kept.writing wrote didWrite)

theorem sound_connectTo (kept : Kept socket notes) {provider : Bool} (fresh : socket.connection = none)
    (idle : notes.raw.connecting = false) :
    Sound notes [] (socket.connectTo provider) (noted notes socket (.connectTo provider) []) := by
  have writing := kept.writing
  have connecting := kept.connecting
  rw [Connecting,fresh,idle,if_neg (by decide)] at connecting
  rw [noted_of_stays rfl]
  refine ⟨?_,fun _ output member => nomatch member⟩
  rw [connectTo]
  split
  · refine kept.of_same kept.running ?_ (fun present => present) rfl rfl rfl rfl
      ⟨writing.pending,writing.asked,writing.single⟩
    have none : socket.queue.countP Block.isDidConnect = 0 := by
      simpa using connecting
    exact le_of_eq (by simp [none,Notes.asked])
  · refine kept.of_same kept.running ?_ (fun present => present) rfl rfl rfl rfl
      ⟨writing.pending,writing.asked,writing.single⟩
    rw [Connecting,fresh,if_neg (by decide)]
    exact connecting.trans (Nat.zero_le _)

theorem sound_write (kept : Kept socket notes) {data : Data} (finished : notes.raw.writes = 0) {outputs : List Output}
    (stepped : socket.write data = some (outputs,next)) :
    Sound notes outputs next (noted notes socket (.write data) outputs) := by
  obtain ⟨pending,asked,-⟩ := kept.writing
  rw [finished] at asked
  have writes : (notes.raw.write data).writes = 1 := by rw [RawSocket.write,finished]
  rw [noted_of_stays rfl]
  rw [write] at stepped
  split_ifs at stepped
  · cases stepped
    refine ⟨kept.of_same kept.running kept.connecting (fun present => present) rfl rfl rfl rfl ⟨pending,?_,?_⟩,
      fun _ output member => nomatch member⟩
    · exact (by omega : socket.writePending.toNat + socket.queue.countP Block.isDidWrite ≤ 0).trans (Nat.zero_le _)
    · exact le_of_eq writes
  · cases stepped
    refine ⟨kept.of_same kept.running (connecting_queueCall kept.connecting rfl) (fun present => present)
      (reads_queueCall rfl) rfl rfl rfl ⟨?_,?_,?_⟩,fun _ output member => nomatch member⟩
    · simp only [queueCall,List.countP_append,List.countP_cons,List.countP_nil,Block.isWrote]
      exact pending
    · simp only [queueCall,List.countP_append,List.countP_cons,List.countP_nil,Block.isDidWrite,Notes.asked,
        List.foldl_nil,writes]
      simp only [if_true]
      omega
    · exact le_of_eq writes
  · cases stepped
    refine ⟨kept.of_same kept.running kept.connecting (fun present => present) rfl rfl rfl rfl ⟨?_,?_,?_⟩,
      fun _ output member => ?_⟩
    · have idle : socket.writePending.toNat = 0 := by omega
      simp only [List.length_append,List.length_singleton,Bool.toNat_true]
      omega
    · simp only [List.foldl_cons,List.foldl_nil,Notes.heard,Notes.asked,writes,Bool.toNat_true]
      omega
    · exact le_of_eq writes
    · rw [List.mem_singleton.mp member]
      trivial

theorem sound_observed (kept : Kept socket notes) {state : NWTCPConnectionState}
    (follows : Follows socket.connection state) :
    Sound notes (socket.observeValue state).1 (socket.observeValue state).2
      (noted notes socket (.observed state) (socket.observeValue state).1) := by
  have writing := kept.writing
  have connecting := kept.connecting
  have moved (cancelled : Bool) {state : NWTCPConnectionState}
      (fewer : (if state = .connecting ∨ state = .waiting then 1 else 0) ≤
        if socket.connection = some .connecting ∨ socket.connection = some .waiting then 1 else 0) :
      Kept {socket with connection := some state, cancelled} notes := by
    refine kept.of_same kept.running ?_ (fun present => present) rfl rfl rfl rfl
      ⟨writing.pending,writing.asked,writing.single⟩
    refine le_trans ?_ connecting
    simp only [Option.some.injEq]
    exact Nat.add_le_add_left fewer _
  have waits (awaited : socket.connection = some .connecting ∨ socket.connection = some .waiting)
      (state : NWTCPConnectionState) : Kept {socket with connection := some state} notes := by
    refine moved socket.cancelled ?_
    rw [if_pos awaited]
    split <;> decide
  rw [noted_of_stays rfl]
  cases state with
  | connected =>
    have same : Writing {socket with connection := some .connected} notes.raw :=
      ⟨writing.pending,writing.asked,writing.single⟩
    refine ⟨kept.of_same kept.running ?_ (fun present => present) (reads_queueCall rfl) rfl rfl rfl
      (writing_queueCall same rfl rfl),
      fun _ output member => nomatch member⟩
    have awaited : socket.connection = some .connecting ∨ socket.connection = some .waiting := follows
    rw [Connecting,if_pos awaited] at connecting
    simp only [observeValue,Connecting,queueCall,List.countP_append,List.countP_cons,List.countP_nil,
      Block.isDidConnect,Option.some.injEq,reduceCtorEq,or_self,if_false,if_true]
    exact connecting
  | disconnected =>
    have quiet := heard_cancel {socket with connection := some .disconnected, cancelled := true} notes
    rw [observeValue]
    simp only [Notes.asked,quiet]
    exact ⟨moved true (Nat.zero_le _),fun _ => promised_cancel notes.raw notes.incoming⟩
  | cancelled =>
    exact ⟨kept_queueCall (moved true (Nat.zero_le _)) rfl rfl rfl rfl,fun _ output member => nomatch member⟩
  | connecting => exact ⟨waits follows .connecting,fun _ output member => nomatch member⟩
  | waiting => exact ⟨waits follows .waiting,fun _ output member => nomatch member⟩
  | invalid => exact ⟨moved socket.cancelled (Nat.zero_le _),fun _ output member => nomatch member⟩

/-- One read is under way at the connection, and none in the queue. -/
theorem reading_one (kept : Kept socket notes) {asked : Option Nat} (under : asked ∈ socket.reading.head?) :
    socket.reading = [asked] ∧ socket.reads.answered = [] ∧ socket.reads.underWay = 1 ∧
      ∃ request, notes.raw.reads = [request] := by
  obtain ⟨rest,reading⟩ := List.head?_eq_some_iff.mp under
  have some_under : socket.reads.underWay = (rest.length + 1) + socket.reads.answered.length := by
    rw [Reads.underWay]
    simp only [reads,reading,List.length_cons]
  have one : socket.reads.underWay = 1 ∧ ∃ request, notes.raw.reads = [request] := by
    cases read : notes.raw.reads with
    | nil =>
      have stands := kept.stands
      rw [read] at stands
      obtain ⟨none,-⟩ := stands
      omega
    | cons request others =>
      have stands := kept.stands
      rw [read] at stands
      cases stands with
      | stuck _ none => omega
      | data one _ => exact ⟨one,_,rfl⟩
      | length _ one _ _ _ => exact ⟨one,_,rfl⟩
      | pattern _ one _ _ _ => exact ⟨one,_,rfl⟩
  obtain ⟨one,asked⟩ := one
  have last : rest = [] := List.length_eq_zero_iff.mp (by omega)
  have empty : socket.reads.answered = [] := List.length_eq_zero_iff.mp (by omega)
  exact ⟨by rw [reading,last],empty,one,asked⟩

theorem underWay_stopped (answered : socket.reads.answered = []) :
    (reads {socket with reading := []}).underWay = 0 := by
  have none : (reads {socket with reading := []}).answered = [] := answered
  rw [Reads.underWay,none]
  rfl

/-- A read that is not answered leaves its request open. -/
theorem kept_stuck (kept : Kept socket notes) (answered : socket.reads.answered = []) {request : ReadRequest}
    (requested : notes.raw.reads = [request]) : Kept {socket with reading := []} notes where
  running := kept.running
  connecting := kept.connecting
  writing := ⟨kept.writing.pending,kept.writing.asked,kept.writing.single⟩
  stands := by
    rw [requested]
    exact .stuck request (underWay_stopped answered)
  streams := by
    have shut : ¬(notes.raw.reads = [] ∨ 0 < (reads {socket with reading := []}).underWay) := by
      rw [requested,underWay_stopped answered]
      rintro (impossible | impossible)
      · cases impossible
      · exact Nat.lt_irrefl 0 impossible
    exact ⟨kept.streams.front,fun _ open' => absurd open' shut,fun _ open' => absurd open' shut,kept.streams.ended⟩

theorem Incoming.arrived_took (incoming : Incoming) (data : Option Data) :
    (incoming.took data).arrived.flatten = incoming.arrived.flatten ++ data.getD [] := by
  cases data with
  | none => exact (List.append_nil _).symm
  | some data => rw [took,List.flatten_append,List.flatten_singleton,Option.getD_some]

theorem Incoming.left_took (incoming : Incoming) (data : Option Data) : (incoming.took data).left = incoming.left := by
  cases data <;> rfl

theorem kept_answered (kept : Kept socket notes) {asked : Option Nat} (under : asked ∈ socket.reading.head?)
    {data : Option Data} (fits : Answers asked (some data)) :
    Kept (queueCall {socket with reading := []} (.read data)) {notes with incoming := notes.incoming.took data} := by
  obtain ⟨reading,answered,one,request,requested⟩ := reading_one kept under
  have after : reads (queueCall {socket with reading := []} (.read data)) =
      {socket.reads with reading := [], answered := [data]} := by
    have none : socket.queue.filterMap Block.answer = [] := answered
    simp only [reads,queueCall,List.filterMap_append,none,List.nil_append]
    rfl
  have stands := kept.stands
  have same : Writing {socket with reading := []} notes.raw :=
    ⟨kept.writing.pending,kept.writing.asked,kept.writing.single⟩
  refine ⟨kept.running,connecting_queueCall kept.connecting rfl,writing_queueCall same rfl rfl,?_,?_,?_,?_,?_⟩
  · rw [after]
    dsimp only
    rw [requested] at stands ⊢
    cases stands with
    | stuck _ none => omega
    | data _ scanning => exact .data rfl scanning
    | length length _ scanning all _ =>
      refine .length length rfl scanning (fun _ member => nomatch member) (fun bytes member => ?_)
      have here : asked ∈ socket.reading := by
        rw [reading]
        exact List.mem_singleton.mpr rfl
      rw [all asked here,← List.mem_singleton.mp member] at fits
      exact fits
    | pattern scanner _ scanning present searching => exact .pattern scanner rfl scanning present searching
  · rw [notes.incoming.arrived_took]
    exact kept.streams.front.trans (List.prefix_append _ _)
  · intro delegate _
    have whole := kept.streams.whole delegate (Or.inr (by omega))
    rw [after,notes.incoming.arrived_took,← whole,Reads.held,Reads.held,answered]
    simp only [List.flatMap_cons,List.flatMap_nil,List.append_nil,List.append_assoc]
  · intro delegate _
    rw [after,notes.incoming.left_took]
    exact kept.streams.left delegate (Or.inr (by omega))
  · intro member
    rw [after] at member
    rw [← List.mem_singleton.mp member]
    rfl

theorem sound_handleRead (kept : Kept socket notes) {result : Option (Option Data)} {asked : Option Nat}
    (under : asked ∈ socket.reading.head?) (fits : Answers asked result) :
    Sound notes [] (socket.handleRead result) (noted notes socket (.handleRead result) []) := by
  obtain ⟨reading,answered,-,request,requested⟩ := reading_one kept under
  have stuck := kept_stuck kept answered requested
  have rest : socket.reading.tail = [] := by rw [reading,List.tail_cons]
  rw [noted_of_stays rfl]
  refine ⟨?_,fun _ output member => nomatch member⟩
  unfold handleRead
  rw [rest]
  cases result with
  | none => exact kept_queueCall stuck rfl rfl rfl rfl
  | some data =>
    dsimp only
    rw [readCallback]
    dsimp only
    cases cancelled : socket.cancelled with
    | true =>
      rw [if_pos rfl]
      rw [List.foldl_nil,Notes.asked,cancelled,if_pos rfl,← cancelled]
      exact stuck
    | false =>
      rw [if_neg Bool.false_ne_true,List.foldl_nil,Notes.asked,cancelled,if_neg Bool.false_ne_true,← cancelled]
      exact kept_answered kept under fits

theorem sound_handleWrite (kept : Kept socket notes) {failed : Bool} (under : socket.writing ≠ []) :
    Sound notes [] (socket.handleWrite failed) (noted notes socket (.handleWrite failed) []) := by
  obtain ⟨pending,asked,single⟩ := kept.writing
  rw [noted_of_stays rfl]
  refine ⟨?_,fun _ output member => nomatch member⟩
  unfold handleWrite
  split
  next none => exact absurd none under
  next data rest found =>
    refine kept.of_same kept.running (connecting_queueCall kept.connecting rfl) (fun present => present)
      (reads_queueCall rfl) rfl rfl rfl ⟨?_,?_,single⟩
    · rw [found] at pending
      simp only [queueCall,List.countP_append,List.countP_cons,List.countP_nil,Block.isWrote,if_true]
      simp only [List.length_cons] at pending
      omega
    · simp only [queueCall,List.countP_append,List.countP_cons,List.countP_nil,Block.isDidWrite,Bool.false_eq_true,
        if_false,Nat.add_zero]
      exact asked

theorem sound_tell {output : Output}
    (told : socket.delegate = true →
      Kept next (notes.heard output) ∧ (notes.early = false → Promised notes.raw notes.incoming output))
    (silent : socket.delegate = false → Kept next notes) :
    Sound notes (socket.tell output) next ((socket.tell output).foldl Notes.heard notes) := by
  rw [tell]
  cases delegate : socket.delegate with
  | true =>
    rw [if_pos rfl]
    refine ⟨(told delegate).1,fun early other member => ?_⟩
    rw [List.mem_singleton.mp member]
    exact (told delegate).2 early
  | false =>
    rw [if_neg Bool.false_ne_true]
    exact ⟨silent delegate,fun _ output member => nomatch member⟩

theorem reads_pop {block : Block} {rest : List Block} (queue : socket.queue = block :: rest)
    (quiet : block.answer = none) : reads {socket with queue := rest} = socket.reads := by
  simp only [reads,queue,List.filterMap_cons,quiet]

theorem sound_disconnect_block (kept : Kept socket notes) {rest : List Block}
    (queue : socket.queue = .disconnect :: rest) :
    Sound notes (disconnect {socket with queue := rest}).1 (disconnect {socket with queue := rest}).2
      (noted notes socket .run (disconnect {socket with queue := rest}).1) := by
  have popped : Kept {socket with queue := rest} notes := by
    obtain ⟨pending,asked,single⟩ := kept.writing
    have connecting := kept.connecting
    rw [Connecting,queue] at connecting
    rw [queue] at pending asked
    exact kept.of_same kept.running connecting (fun present => present) (reads_pop queue rfl) rfl rfl rfl
      ⟨pending,asked,single⟩
  have sound := sound_disconnect popped
  have disconnects : socket.disconnects .run = true := by
    simp only [disconnects,queue]
  rw [noted,disconnects,Bool.true_and]
  exact sound

theorem sound_didConnect_block (kept : Kept socket notes) {rest : List Block}
    (queue : socket.queue = .didConnect :: rest) :
    Sound notes (tell {socket with queue := rest} .didConnect) {socket with queue := rest}
      (noted notes socket .run (tell {socket with queue := rest} .didConnect)) := by
  obtain ⟨pending,asked,single⟩ := kept.writing
  have connecting := kept.connecting
  have one : Block.isDidConnect .didConnect = true := rfl
  have most := Bool.toNat_le notes.raw.connecting
  rw [Connecting,queue,List.countP_cons,if_pos one] at connecting
  rw [queue] at pending asked
  have stays : socket.disconnects .run = false := by
    simp only [disconnects,queue]
  rw [noted_run stays]
  refine sound_tell (fun delegate => ⟨?_,fun early => ⟨kept.running delegate early,?_⟩⟩) (fun _ => ?_)
  · refine kept.of_same kept.running ?_ (fun present => present) (reads_pop queue rfl) rfl rfl rfl
      ⟨pending,asked,single⟩
    rw [Nat.add_right_comm] at connecting
    exact Nat.le_of_succ_le_succ (connecting.trans most)
  · cases awaited : notes.raw.connecting with
    | true => rfl
    | false =>
      rw [awaited,Bool.toNat_false] at connecting
      omega
  · refine kept.of_same kept.running ?_ (fun present => present) (reads_pop queue rfl) rfl rfl rfl
      ⟨pending,asked,single⟩
    refine le_trans ?_ connecting
    exact Nat.add_le_add_right (Nat.le_succ _) _

theorem sound_didDisconnect_block (kept : Kept socket notes) {rest : List Block}
    (queue : socket.queue = .didDisconnect :: rest) :
    Sound notes (tell {socket with queue := rest} .didDisconnect) {socket with queue := rest, delegate := false}
      (noted notes socket .run (tell {socket with queue := rest} .didDisconnect)) := by
  obtain ⟨pending,asked,single⟩ := kept.writing
  have connecting := kept.connecting
  rw [Connecting,queue] at connecting
  rw [queue] at pending asked
  have stays : socket.disconnects .run = false := by
    simp only [disconnects,queue]
  rw [noted_run stays]
  refine sound_tell (fun delegate => ⟨?_,fun early => kept.running delegate early⟩) (fun _ => ?_)
  · exact kept.of_same (fun absent => nomatch absent) connecting (fun absent => nomatch absent)
      (reads_pop queue rfl) rfl rfl rfl ⟨pending,asked,single⟩
  · exact kept.of_same (fun absent => nomatch absent) connecting (fun absent => nomatch absent)
      (reads_pop queue rfl) rfl rfl rfl ⟨pending,asked,single⟩

theorem sound_didWrite_block (kept : Kept socket notes) {data : Data} {rest : List Block}
    (queue : socket.queue = .didWrite data :: rest) :
    Sound notes (tell {socket with queue := rest} (.didWrite data)) {socket with queue := rest}
      (noted notes socket .run (tell {socket with queue := rest} (.didWrite data))) := by
  obtain ⟨pending,asked,single⟩ := kept.writing
  have connecting := kept.connecting
  have one : Block.isDidWrite (.didWrite data) = true := rfl
  rw [Connecting,queue] at connecting
  rw [queue] at pending asked
  rw [List.countP_cons,if_pos one] at asked
  have stays : socket.disconnects .run = false := by
    simp only [disconnects,queue]
  rw [noted_run stays]
  refine sound_tell (fun delegate => ⟨?_,fun early => ⟨kept.running delegate early,by omega⟩⟩) (fun _ => ?_)
  · refine kept.of_same kept.running connecting (fun present => present) (reads_pop queue rfl) rfl rfl rfl
      ⟨pending,?_,(Nat.sub_le _ 1).trans single⟩
    exact Nat.le_sub_of_add_le asked
  · refine kept.of_same kept.running connecting (fun present => present) (reads_pop queue rfl) rfl rfl rfl
      ⟨pending,?_,single⟩
    exact le_trans (Nat.add_le_add_left (Nat.le_succ _) _) asked

theorem sound_wrote_block (kept : Kept socket notes) {data : Data} {failed : Bool} {rest : List Block}
    (queue : socket.queue = .wrote data failed :: rest) :
    Sound notes (didWrite {socket with queue := rest} data failed).1
      (didWrite {socket with queue := rest} data failed).2
      (noted notes socket .run (didWrite {socket with queue := rest} data failed).1) := by
  obtain ⟨pending,asked,single⟩ := kept.writing
  have connecting := kept.connecting
  have one : Block.isWrote (.wrote data failed) = true := rfl
  have other : Block.isDidWrite (.wrote data failed) = false := rfl
  have most := Bool.toNat_le socket.writePending
  rw [Connecting,queue] at connecting
  rw [queue] at pending asked
  rw [List.countP_cons,if_pos one] at pending
  rw [List.countP_cons,other,if_neg Bool.false_ne_true] at asked
  have finished : Kept {socket with queue := rest, writePending := false} notes := by
    refine kept.of_same kept.running connecting (fun present => present) (reads_pop queue rfl) rfl rfl rfl
      ⟨?_,?_,single⟩
    · exact (by omega : socket.writing.length + rest.countP Block.isWrote = 0)
    · exact (by omega : 0 + rest.countP Block.isDidWrite ≤ notes.raw.writes)
  cases failed with
  | true =>
    have sound := sound_disconnect finished
    have disconnects : socket.disconnects .run = true := by
      simp only [disconnects,queue]
    rw [noted,disconnects,Bool.true_and]
    exact sound
  | false =>
    have stays : socket.disconnects .run = false := by
      simp only [disconnects,queue]
    rw [noted_run stays,didWrite,if_neg Bool.false_ne_true]
    dsimp only
    rw [List.foldl_append,heard_checkStatus]
    have told : Sound notes (tell {socket with queue := rest, writePending := false} (.didWrite data))
        {socket with queue := rest, writePending := false}
        ((tell {socket with queue := rest, writePending := false} (.didWrite data)).foldl Notes.heard notes) := by
      refine sound_tell (fun delegate => ⟨?_,fun early => ⟨kept.running delegate early,by omega⟩⟩) (fun _ => finished)
      refine finished.of_same finished.running finished.connecting (fun present => present) rfl rfl rfl rfl
        ⟨finished.writing.pending,?_,(Nat.sub_le _ 1).trans single⟩
      exact (by omega : 0 + rest.countP Block.isDidWrite ≤ notes.raw.writes - 1)
    refine ⟨told.kept,fun early output member => ?_⟩
    rcases List.mem_append.mp member with first | second
    · exact told.promised early output first
    · exact promised_checkStatus notes.raw notes.incoming output second

/-- The one read is in the queue, where its block runs. -/
theorem answered_one (kept : Kept socket notes) {data : Option Data} {rest : List Block}
    (queue : socket.queue = .read data :: rest) :
    socket.reading = [] ∧ rest.filterMap Block.answer = [] ∧ socket.reads.underWay = 1 := by
  have under : socket.reads.underWay = socket.reading.length + ((rest.filterMap Block.answer).length + 1) := by
    simp only [Reads.underWay,reads,queue,List.filterMap_cons,Block.answer,List.length_cons]
  have one : socket.reads.underWay = 1 := by
    have stands := kept.stands
    generalize notes.raw.reads = asked at stands
    cases stands with
    | idle none _ => omega
    | stuck _ none => omega
    | data one _ => exact one
    | length _ one _ _ _ => exact one
    | pattern _ one _ _ _ => exact one
  exact ⟨List.length_eq_zero_iff.mp (by omega),List.length_eq_zero_iff.mp (by omega),one⟩

theorem consumeReadData_eq (data : Option Data) :
    (socket.consumeReadData data).2 = {socket with readDataPrefix := none} ∧
      (socket.consumeReadData data).1.getD [] = socket.readDataPrefix.getD [] ++ data.getD [] := by
  unfold consumeReadData
  cases filled : socket.readDataPrefix with
  | none => exact ⟨rfl,rfl⟩
  | some held =>
    cases data with
    | none => exact ⟨rfl,(List.append_nil _).symm⟩
    | some data => exact ⟨rfl,rfl⟩

theorem requested_one (kept : Kept socket notes) (one : socket.reads.underWay = 1) :
    ∃ request, notes.raw.reads = [request] := by
  have stands := kept.stands
  generalize notes.raw.reads = asked at stands
  cases stands with
  | idle none _ => omega
  | stuck request _ => exact ⟨_,rfl⟩
  | data _ _ => exact ⟨_,rfl⟩
  | length _ _ _ _ _ => exact ⟨_,rfl⟩
  | pattern _ _ _ _ _ => exact ⟨_,rfl⟩

theorem underWay_popped {rest : List Block} {scanner : Option StreamScanner} {scanning : Bool} {held : Option Data}
    (reading : socket.reading = []) (last : rest.filterMap Block.answer = []) :
    (reads {socket with queue := rest, scanner, scanning, readDataPrefix := held}).underWay = 0 := by
  simp only [Reads.underWay,reads,reading,last,List.length_nil]

theorem popped {data : Option Data} {rest : List Block} {raw : RawSocket} (queue : socket.queue = .read data :: rest)
    (connecting : Connecting socket raw) (writing : Writing socket raw) {scanner : Option StreamScanner}
    {scanning : Bool} {held : Option Data} :
    Connecting {socket with queue := rest, scanner, scanning, readDataPrefix := held} raw ∧
      Writing {socket with queue := rest, scanner, scanning, readDataPrefix := held} raw := by
  obtain ⟨pending,asked,single⟩ := writing
  rw [Connecting,queue] at connecting
  rw [queue] at pending asked
  exact ⟨connecting,pending,asked,single⟩

theorem unanswered {rest : List Block} {scanner : Option StreamScanner} {scanning : Bool} {held : Option Data}
    {reading : List (Option Nat)} (last : rest.filterMap Block.answer = []) {ended : Bool}
    (member : none ∈ (reads {socket with
      queue := rest
      scanner
      scanning
      readDataPrefix := held
      reading}).answered) : ended = true := by
  simp only [reads,last] at member
  cases member

/-- A request that is left open, after its block has run. -/
theorem kept_left (kept : Kept socket notes) {data : Option Data} {rest : List Block}
    (queue : socket.queue = .read data :: rest) {scanner : Option StreamScanner} {scanning : Bool}
    {held : Option Data} : Kept {socket with queue := rest, scanner, scanning, readDataPrefix := held} notes := by
  obtain ⟨reading,last,one⟩ := answered_one kept queue
  obtain ⟨request,requested⟩ := requested_one kept one
  obtain ⟨connecting,writing⟩ := popped queue kept.connecting kept.writing
  have shut : ¬(notes.raw.reads = [] ∨
      0 < (reads {socket with queue := rest, scanner, scanning, readDataPrefix := held}).underWay) := by
    rw [requested,underWay_popped reading last]
    rintro (impossible | impossible)
    · cases impossible
    · exact Nat.lt_irrefl 0 impossible
  refine ⟨kept.running,connecting,writing,?_,kept.streams.front,fun _ open' => absurd open' shut,
    fun _ open' => absurd open' shut,unanswered last⟩
  rw [requested]
  exact .stuck request (underWay_popped reading last)

/-- A request that is answered. -/
theorem kept_served (kept : Kept socket notes) {data : Option Data} {rest : List Block}
    (queue : socket.queue = .read data :: rest) {scanner : Option StreamScanner} {held : Option Data} {bytes : Data}
    (delegate : socket.delegate = true) (whole : bytes ++ held.getD [] = socket.reads.held)
    (left : held = notes.leftOver bytes) :
    Kept {socket with queue := rest, scanner, scanning := false, readDataPrefix := held}
      (notes.heard (.didRead bytes)) := by
  obtain ⟨reading,last,one⟩ := answered_one kept queue
  obtain ⟨request,requested⟩ := requested_one kept one
  obtain ⟨connecting,writing⟩ := popped queue kept.connecting kept.writing
  have stream := kept.streams.whole delegate (Or.inr (by omega))
  have received : (notes.heard (.didRead bytes)).raw.received.flatten ++ held.getD [] =
      notes.incoming.arrived.flatten := by
    rw [← stream,← whole,Notes.heard,RawSocket.didRead,List.flatten_append,List.flatten_singleton,List.append_assoc]
  refine ⟨kept.running,connecting,⟨writing.pending,writing.asked,writing.single⟩,?_,?_,fun _ _ => ?_,
    fun _ _ _ => left,unanswered last⟩
  · rw [Notes.heard,RawSocket.didRead,requested,List.tail_cons]
    exact .idle (underWay_popped reading last) rfl
  · exact ⟨held.getD [],received⟩
  · have rest_held : (reads {socket with queue := rest, scanner, scanning := false, readDataPrefix := held}).held =
        held.getD [] := by
      simp only [Reads.held,reads,last,Bool.false_eq_true,if_false,List.flatMap_nil,List.nil_append,List.append_nil]
    rw [rest_held]
    exact received

/-- What is held where a block of a read is the first. -/
theorem held_first (kept : Kept socket notes) {data : Option Data} {rest : List Block}
    (queue : socket.queue = .read data :: rest) {bytes : Data}
    (whole : bytes = socket.readDataPrefix.getD [] ++ data.getD []) :
    socket.reads.held = (if socket.scanning then (socket.scanner.map (·.receivedData)).getD [] else []) ++ bytes := by
  obtain ⟨-,last,-⟩ := answered_one kept queue
  simp only [Reads.held,reads,queue,List.filterMap_cons,Block.answer,last,List.flatMap_cons,List.flatMap_nil,
    List.append_nil,whole,List.append_assoc]

/-- A read that does not search: its data, behind what was left over, or that alone at the end of the stream. -/
theorem consumeReadData_cases {data : Option Data} {bytes : Data}
    (consumed : (socket.consumeReadData data).1 = some bytes) :
    ∃ more, bytes = socket.readDataPrefix.getD [] ++ more ∧
      (data = some more ∨ (socket.readDataPrefix.isSome ∧ data = none ∧ more = [])) := by
  unfold consumeReadData at consumed
  cases filled : socket.readDataPrefix with
  | none =>
    rw [filled] at consumed
    exact ⟨bytes,rfl,Or.inl consumed⟩
  | some held =>
    rw [filled] at consumed
    cases data with
    | none =>
      cases consumed
      exact ⟨[],(List.append_nil _).symm,Or.inr ⟨rfl,rfl,rfl⟩⟩
    | some data =>
      cases consumed
      exact ⟨data,rfl,Or.inl rfl⟩

theorem requested_plain (kept : Kept socket notes) {data : Option Data} {rest : List Block}
    (queue : socket.queue = .read data :: rest) (plain : socket.scanning = false) :
    notes.raw.reads = [.data] ∨ ∃ length : Nat, notes.raw.reads = [.length length] ∧
      ∀ bytes, some bytes ∈ socket.reads.answered → bytes.length = length := by
  obtain ⟨-,-,one⟩ := answered_one kept queue
  have stands := kept.stands
  generalize notes.raw.reads = asked at stands ⊢
  cases stands with
  | idle none _ => omega
  | stuck _ none => omega
  | data _ _ => exact Or.inl rfl
  | pattern _ _ scanning _ _ => exact absurd (scanning.symm.trans plain) Bool.noConfusion
  | length length _ _ _ answered => exact Or.inr ⟨length,rfl,answered⟩

/-- The request is open and this is what it asked for. -/
theorem promised_plain (kept : Kept socket notes) {data : Option Data} {rest : List Block}
    (queue : socket.queue = .read data :: rest) (plain : socket.scanning = false) (delegate : socket.delegate = true)
    {bytes : Data} (consumed : (consumeReadData {socket with queue := rest} data).1 = some bytes) :
    ∃ request ∈ notes.raw.reads.head?, notes.incoming.Answers request bytes := by
  obtain ⟨-,-,one⟩ := answered_one kept queue
  have first : data ∈ socket.reads.answered := by
    simp only [reads,queue,List.filterMap_cons,Block.answer]
    exact List.mem_cons_self
  rcases requested_plain kept queue plain with asked | ⟨length,asked,answered⟩
  · exact ⟨.data,by rw [asked]; rfl,trivial⟩
  · have left : socket.readDataPrefix = notes.incoming.left := kept.streams.left delegate (Or.inr (by omega)) plain
    obtain ⟨more,whole,given⟩ := consumeReadData_cases consumed
    refine ⟨.length length,by rw [asked]; rfl,more,?_,?_⟩
    · rw [← left]
      exact whole
    · rcases given with given | ⟨present,given,empty⟩
      · exact Or.inl (congrArg Int.ofNat (answered more (given ▸ first)))
      · rw [given] at first
        rw [← left]
        exact Or.inr ⟨present,kept.streams.ended first,empty⟩

theorem leftOver_plain (kept : Kept socket notes) {data : Option Data} {rest : List Block}
    (queue : socket.queue = .read data :: rest) (plain : socket.scanning = false) (bytes : Data) :
    notes.leftOver bytes = none := by
  rw [Notes.leftOver]
  rcases requested_plain kept queue plain with asked | ⟨length,asked,-⟩
  · rw [asked]
    rfl
  · rw [asked]
    rfl

/-- A chunk without the pattern: the scanner holds it, and asks for more. -/
theorem sound_more (kept : Kept socket notes) {data : Option Data} {rest : List Block}
    (queue : socket.queue = .read data :: rest) {scanner : StreamScanner} (present : socket.scanner = some scanner)
    (scanning : socket.scanning = true) (searching : scanner.Searching)
    (asked : notes.raw.reads = [.pattern scanner.pattern]) {bytes : Data}
    (whole : bytes = socket.readDataPrefix.getD [] ++ data.getD []) (nothing : (scanner.addAndScan bytes).1 = none)
    {outputs : List Output}
    (stepped : readData {socket with
      queue := rest
      scanner := some (scanner.addAndScan bytes).2
      readDataPrefix := none} = some (outputs,next)) :
    Sound notes outputs next (outputs.foldl Notes.heard notes) := by
  obtain ⟨reading,last,one⟩ := answered_one kept queue
  obtain ⟨connecting,writing⟩ := @popped socket data rest notes.raw queue kept.connecting kept.writing
    (some (scanner.addAndScan bytes).2) socket.scanning none
  obtain ⟨same,searching'⟩ := StreamScanner.addAndScan_searching searching nothing
  have before := held_first kept queue whole
  rw [scanning,if_pos rfl,present,Option.map_some,Option.getD_some] at before
  rcases readData_cases stepped with ⟨rfl,rfl⟩ | ⟨rfl,rfl⟩
  · exact ⟨kept_left kept queue,fun _ output member => nomatch member⟩
  · have under : (reads {socket with
        queue := rest
        scanner := some (scanner.addAndScan bytes).2
        readDataPrefix := none
        reading := socket.reading ++ [none]}).underWay = 1 := by
      simp only [Reads.underWay,reads,reading,last]
      rfl
    refine ⟨⟨kept.running,connecting,⟨writing.pending,writing.asked,writing.single⟩,?_,kept.streams.front,
      fun delegate _ => ?_,fun _ _ idle => absurd (scanning.symm.trans idle) Bool.noConfusion,unanswered last⟩,
      fun _ output member => ?_⟩
    · have pattern : (scanner.addAndScan bytes).2.pattern = scanner.pattern := by rw [same]
      have stands : Reads.Stands (reads {socket with
          queue := rest
          scanner := some (scanner.addAndScan bytes).2
          readDataPrefix := none
          reading := socket.reading ++ [none]}) [.pattern (scanner.addAndScan bytes).2.pattern] :=
        .pattern _ under scanning rfl searching'
      rw [pattern] at stands
      simp only [List.foldl_cons,List.foldl_nil,Notes.heard,asked]
      exact stands
    · have stream := kept.streams.whole delegate (Or.inr (by omega))
      rw [before] at stream
      simp only [List.foldl_cons,List.foldl_nil,Notes.heard]
      rw [← stream,same]
      simp only [Reads.held,reads,scanning,if_true,last,Option.map_some,Option.getD_some,Option.getD_none,
        List.flatMap_nil,List.append_nil]
    · rw [List.mem_singleton.mp member]
      trivial

/-- A chunk with the pattern, or with too much. -/
theorem sound_found (kept : Kept socket notes) {data : Option Data} {rest : List Block}
    (queue : socket.queue = .read data :: rest) {scanner : StreamScanner} (present : socket.scanner = some scanner)
    (scanning : socket.scanning = true) (asked : notes.raw.reads = [.pattern scanner.pattern]) {bytes : Data}
    (whole : bytes = socket.readDataPrefix.getD [] ++ data.getD []) {before after : Data}
    (split : scanner.receivedData ++ bytes = before ++ scanner.pattern ++ after) :
    let found := {socket with
      queue := rest
      scanner := none
      scanning := false
      readDataPrefix := some after}
    Sound notes (found.tell (.didRead (before ++ scanner.pattern))) found
      ((found.tell (.didRead (before ++ scanner.pattern))).foldl Notes.heard notes) := by
  have held := held_first kept queue whole
  rw [scanning,if_pos rfl,present,Option.map_some,Option.getD_some,split] at held
  have request : notes.raw.reads.head? = some (.pattern scanner.pattern) := by
    rw [asked]
    rfl
  refine sound_tell (fun delegate => ⟨kept_served kept queue delegate held.symm ?_,fun early => ?_⟩)
    (fun _ => kept_left kept queue)
  · obtain ⟨-,-,one⟩ := answered_one kept queue
    have stream := kept.streams.whole delegate (Or.inr (by omega))
    rw [held,← List.append_assoc] at stream
    rw [Notes.leftOver,request,← stream]
    exact congrArg some (List.drop_left ..).symm
  · exact ⟨kept.running delegate early,_,request,List.suffix_append before scanner.pattern⟩

theorem sound_plain (kept : Kept socket notes) {data : Option Data} {rest : List Block}
    (queue : socket.queue = .read data :: rest) (plain : socket.scanning = false) {bytes : Data}
    (consumed : (consumeReadData {socket with queue := rest} data).1 = some bytes)
    (whole : bytes = socket.readDataPrefix.getD [] ++ data.getD []) :
    let read := {socket with
      queue := rest
      readDataPrefix := none}
    Sound notes (read.tell (.didRead bytes)) read ((read.tell (.didRead bytes)).foldl Notes.heard notes) := by
  have held := held_first kept queue whole
  rw [plain,if_neg Bool.false_ne_true,List.nil_append] at held
  refine sound_tell (fun delegate => ⟨?_,fun early => ?_⟩) (fun _ => kept_left kept queue)
  · have served := @kept_served socket notes kept data rest queue socket.scanner none bytes delegate
      (by rw [held,Option.getD_none,List.append_nil]) (leftOver_plain kept queue plain bytes).symm
    rw [← plain] at served
    exact served
  · exact ⟨kept.running delegate early,promised_plain kept queue plain delegate consumed⟩

theorem scanning_of (kept : Kept socket notes) {data : Option Data} {rest : List Block}
    (queue : socket.queue = .read data :: rest) (scanning : socket.scanning = true) {scanner : StreamScanner}
    (present : socket.scanner = some scanner) : notes.raw.reads = [.pattern scanner.pattern] ∧ scanner.Searching := by
  obtain ⟨-,-,one⟩ := answered_one kept queue
  have stands := kept.stands
  generalize notes.raw.reads = asked at stands ⊢
  cases stands with
  | idle none _ => omega
  | stuck _ none => omega
  | data _ plain => exact absurd (scanning.symm.trans plain) Bool.noConfusion
  | length _ _ plain _ _ => exact absurd (scanning.symm.trans plain) Bool.noConfusion
  | pattern scanner _ _ present' searching =>
    cases Option.some_inj.mp (present.symm.trans present')
    exact ⟨rfl,searching⟩

theorem sound_read_block (kept : Kept socket notes) {data : Option Data} {rest : List Block}
    (queue : socket.queue = .read data :: rest) {outputs : List Output}
    (stepped : didRead {socket with queue := rest} data = some (outputs,next)) :
    Sound notes outputs next (noted notes socket .run outputs) := by
  have stays : socket.disconnects .run = false := by
    simp only [disconnects,queue]
  rw [noted_run stays]
  obtain ⟨left,bytes⟩ := @consumeReadData_eq {socket with queue := rest} data
  unfold didRead at stepped
  dsimp only at stepped
  rw [left] at stepped
  cases consumed : (consumeReadData {socket with queue := rest} data).1 with
  | none =>
    rw [consumed] at stepped
    cases stepped
    exact ⟨kept_left kept queue,fun _ output member => nomatch member⟩
  | some whole =>
    rw [consumed] at stepped bytes
    dsimp only at stepped
    split at stepped
    next scanning =>
      obtain ⟨scanner,present,stepped⟩ := Option.bind_eq_some_iff.mp stepped
      obtain ⟨asked,searching⟩ := scanning_of kept queue scanning present
      have scanned := StreamScanner.addAndScan_scanned searching whole
      split at stepped
      next more scanned' =>
        have nothing : (scanner.addAndScan whole).1 = none := by rw [scanned']
        have held : more = (scanner.addAndScan whole).2 := by rw [scanned']
        rw [held] at stepped
        exact sound_more kept queue present scanning searching asked bytes nothing stepped
      next scanned' =>
        cases stepped
        exact ⟨kept_left kept queue,fun _ output member => nomatch member⟩
      next matchData after _ scanned' =>
        cases stepped
        rw [scanned'] at scanned
        cases scanned with
        | found before _ split _ => exact sound_found kept queue present scanning asked bytes split
    next plain =>
      cases stepped
      exact sound_plain kept queue ((Bool.not_eq_true _).mp plain) consumed bytes

theorem sound_of_eq {event : Event} {outcome : List Output × NWTCPSocket} {outputs : List Output}
    (sound : Sound notes outcome.1 outcome.2 (noted notes socket event outcome.1))
    (stepped : some outcome = some (outputs,next)) : Sound notes outputs next (noted notes socket event outputs) := by
  cases stepped
  exact sound

theorem sound_run (kept : Kept socket notes) {outputs : List Output}
    (stepped : socket.respond .run = some (outputs,next)) :
    Sound notes outputs next (noted notes socket .run outputs) := by
  rw [respond] at stepped
  cases queue : socket.queue with
  | nil =>
    rw [queue] at stepped
    have stays : socket.disconnects .run = false := by
      simp only [disconnects,queue]
    refine sound_of_eq ?_ stepped
    rw [noted_run stays]
    exact ⟨kept,fun _ output member => nomatch member⟩
  | cons block rest =>
    rw [queue] at stepped
    cases block with
    | didWrite data => exact sound_of_eq (sound_didWrite_block kept queue) stepped
    | disconnect => exact sound_of_eq (sound_disconnect_block kept queue) stepped
    | didConnect => exact sound_of_eq (sound_didConnect_block kept queue) stepped
    | didDisconnect => exact sound_of_eq (sound_didDisconnect_block kept queue) stepped
    | read data => exact sound_read_block kept queue stepped
    | wrote data failed => exact sound_of_eq (sound_wrote_block kept queue) stepped

/-- Each event keeps the invariant, and what it tells is what the protocol promises. -/
theorem sound_respond (kept : Kept socket notes) {event : Event} (proper : Proper socket notes.raw event)
    {outputs : List Output} (stepped : socket.respond event = some (outputs,next)) :
    Sound notes outputs next (noted notes socket event outputs) := by
  cases event with
  | connectTo provider => exact sound_of_eq (sound_connectTo kept proper.1 proper.2) stepped
  | readData => exact sound_readData kept proper stepped
  | readDataToLength length => exact sound_readDataToLength kept proper stepped
  | readDataToData data maxLength => exact sound_readDataToData kept proper.1 proper.2 stepped
  | write data => exact sound_write kept proper stepped
  | disconnect => exact sound_of_eq (sound_disconnect kept) stepped
  | forceDisconnect => exact sound_of_eq (sound_forceDisconnect kept) stepped
  | observed state => exact sound_of_eq (sound_observed kept proper) stepped
  | handleRead result =>
    obtain ⟨asked,under,fits⟩ := proper
    exact sound_of_eq (sound_handleRead kept under fits) stepped
  | handleWrite failed => exact sound_of_eq (sound_handleWrite kept proper) stepped
  | run => exact sound_run kept stepped

theorem kept_fresh : Kept {} {} where
  running := fun _ _ => rfl
  connecting := Nat.le_refl 0
  writing := ⟨rfl,Nat.le_refl 0,Nat.zero_le 1⟩
  stands := .idle rfl rfl
  streams := ⟨List.nil_prefix,fun _ _ => rfl,fun _ _ _ => rfl,fun member => nomatch member⟩

theorem keeps_kept : (machine.attend note).Keeps (fun noted => Kept noted.1 noted.2)
    (fun noted event => Proper noted.1 noted.2.raw event) := by
  rintro ⟨socket,notes⟩ event next kept proper stepped
  obtain ⟨after,taken,rfl⟩ := Machine.attend_step stepped
  obtain ⟨⟨outputs,_⟩,responded,rfl⟩ := Option.map_eq_some_iff.mp taken
  have told : (machine.step socket event).1 = outputs := by
    rw [machine]
    dsimp only
    rw [responded]
    rfl
  have sound := sound_respond kept proper responded
  rw [note,told]
  exact sound.kept

/-- A download whose end is cut short: the connection is forced to end while it is read, and the failed read finds it
gone, before the block that tells of the end has run. -/
def forcedEvents : List Event := [
  .connectTo true,
  .observed .connected,
  .run,
  .readDataToData [13,10] 0,
  .handleRead (some (some [1,13])),
  .run,
  .handleRead (some (some [10,2])),
  .run,
  .readDataToLength 2,
  .handleRead (some (some [3,4])),
  .run,
  .readData,
  .forceDisconnect,
  .handleRead none,
  .observed .cancelled,
  .run,
  .run]

theorem along_forcedEvents :
    (machine.attend note).Along (fun noted event => Proper noted.1 noted.2.raw event) ({},{}) forcedEvents := by
  decide +kernel

/-- There a read of two bytes is answered with three, of which a search left the first over; and the end is told
twice. -/
example : machine.outputs {} forcedEvents = [.didConnect,.readMinimumLength,.readMinimumLength,
    .didRead [1,13,10],.readLength 2,.didRead [2,3,4],.readMinimumLength,.cancel,.didDisconnect,.didDisconnect] := by
  decide +kernel

/-- It is what a tunnel relies on at its remote side, where nothing searches. -/
theorem enabled_of_promised {κ ρ : Type} {tunnel : Tunnel κ ρ} {adapter : AdapterSocket κ ρ}
    (present : tunnel.adapterSocket = some adapter) {incoming : Incoming} (bare : incoming.left = none) :
    (Promised adapter.socket incoming .didConnect → tunnel.Enabled .adapterConnected) ∧
    (∀ data, Promised adapter.socket incoming (.didRead data) → tunnel.Enabled (.adapterRead data)) ∧
    (∀ data, Promised adapter.socket incoming (.didWrite data) → tunnel.Enabled .adapterWrote) ∧
    (Promised adapter.socket incoming .didDisconnect → tunnel.Enabled .adapterDisconnected) := by
  refine ⟨fun promised => ⟨adapter,present,promised⟩,fun data promised => ?_,fun data promised => ?_,
    fun promised => ⟨adapter,present,RawSocket.telling_of_open promised⟩⟩
  · obtain ⟨opened,request,asked,answers⟩ := promised
    exact ⟨adapter,present,RawSocket.telling_of_open opened,request,asked,
      (Incoming.answers_iff_serves bare request data).mp answers⟩
  · exact ⟨adapter,present,RawSocket.telling_of_open promised.1,promised.2⟩

end NWTCPSocket
end TenonVpn
