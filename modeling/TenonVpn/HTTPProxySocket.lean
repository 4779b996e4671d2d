import TenonVpn.HTTPHeader

/-! The local side of an HTTP proxy connection: the scanner that cuts the stream into headers
and blocks of content, and the socket that rewrites the headers. What it hands on is, request
by request, what it read. -/
namespace TenonVpn

namespace Data

/-- `String(data:encoding: .utf8)`. -/
def fromUTF8 (data : Data) : Option Text := (ByteArray.utf8Decode? ⟨data.toArray⟩).map Array.toList

end Data

inductive ReadAction
  | readHeader
  | readContent (length : Int)
  | stop
deriving DecidableEq

inductive HTTPStreamScannerError
  | contentIsTooLong | scannerIsStopped | unsupportedStreamType
  | header (error : HTTPHeaderError)
deriving DecidableEq

inductive Scanned
  | header (header : HTTPHeader)
  | content (data : Data)
deriving DecidableEq

structure HTTPStreamScanner where
  nextAction : ReadAction := .readHeader
  remainContentLength : Int := 0
  currentHeader : Option HTTPHeader := none
  isConnect : Bool := false
deriving DecidableEq

def MAXHTTPContentBlockLength : Int := 10240

/-- `HTTPHeader(headerData:)`. -/
def HTTPHeader.initData (foundation : Foundation) (headerData : Data) : Except HTTPHeaderError HTTPHeader :=
  match Data.fromUTF8 headerData with
  | none => .error .illegalEncoding
  | some headerString => init foundation headerString

namespace HTTPStreamScanner

def actionFor (remainContentLength : Int) : ReadAction :=
  if remainContentLength = 0 then .readHeader
  else if remainContentLength < 0 then .readContent (-1)
  else .readContent (min remainContentLength MAXHTTPContentBlockLength)

def setNextAction (scanner : HTTPStreamScanner) : HTTPStreamScanner :=
  {scanner with nextAction := actionFor scanner.remainContentLength}

def inputHeader (foundation : Foundation) (scanner : HTTPStreamScanner) (data : Data) :
    Except HTTPStreamScannerError HTTPHeader :=
  match HTTPHeader.initData foundation data with
  | .error error => .error (.header error)
  | .ok header => match scanner.currentHeader with
    | none => .ok header
    | some current => if header.host ≠ current.host then .error .unsupportedStreamType else .ok header

/-- None where it traps, for want of a number below the least one. -/
def input (foundation : Foundation) (scanner : HTTPStreamScanner) (data : Data) :
    Option (Except HTTPStreamScannerError Scanned × HTTPStreamScanner) :=
  match scanner.nextAction with
  | .readHeader => match inputHeader foundation scanner data with
    | .error error => some (.error error,{scanner with nextAction := .stop})
    | .ok header =>
      let started : HTTPStreamScanner := match scanner.currentHeader with
        | none => {scanner with
            isConnect := header.isConnect
            remainContentLength := if header.isConnect then -1 else header.contentLength}
        | some _ => {scanner with remainContentLength := header.contentLength}
      some (.ok (.header header),setNextAction {started with currentHeader := some header})
  | .readContent _ =>
    let counted := {scanner with remainContentLength := scanner.remainContentLength - data.length}
    if counted.remainContentLength < -2^63 then none
    else if !counted.isConnect ∧ counted.remainContentLength < 0 then
      some (.error .contentIsTooLong,{counted with nextAction := .stop})
    else some (.ok (.content data),setNextAction counted)
  | .stop => some (.error .scannerIsStopped,scanner)

end HTTPStreamScanner

inductive HTTPProxyReadStatus
  | invalid | readingFirstHeader | pendingFirstHeader | readingHeader | readingContent | stopped
deriving DecidableEq

inductive HTTPProxyWriteStatus
  | invalid | sendingConnectResponse | forwarding | stopped
deriving DecidableEq

/-- What a raw socket is asked to read: anything, a number of bytes, or up to a pattern. -/
inductive ReadRequest
  | data
  | length (length : Int)
  | pattern (data : Data)
deriving DecidableEq

/-- A socket answers a request to read with what was asked for. -/
def ReadRequest.Serves : ReadRequest → Data → Prop
  | .data,_ => True
  | .length count,bytes => (bytes.length : Int) = count
  | .pattern ending,bytes => ending <:+ bytes

instance ReadRequest.decidableServes : (request : ReadRequest) → (data : Data) → Decidable (request.Serves data)
  | .data,_ => isTrue trivial
  | .length count,bytes => inferInstanceAs (Decidable ((bytes.length : Int) = count))
  | .pattern ending,bytes => inferInstanceAs (Decidable (ending <:+ bytes))

structure HTTPProxySocket where
  currentHeader : Option HTTPHeader := none
  scanner : HTTPStreamScanner := {}
  readStatus : HTTPProxyReadStatus := .invalid
  writeStatus : HTTPProxyWriteStatus := .invalid
  isConnectCommand : Bool := false
deriving DecidableEq

namespace HTTPProxySocket

def doubleCRLF : Data := [13,10,13,10]

def connectSuccessResponse : Data := Data.utf8 "HTTP/1.1 200 Connection Established\r\n\r\n".toList

/-- What the socket does with bytes that it read: it tells the tunnel, or it disconnects. -/
inductive Heard
  | request (host : Text) (port : Int)
  | data (data : Data)
  | failed (error : HTTPStreamScannerError)
  | nothing
deriving DecidableEq

inductive Asked
  | deliver (data : Data)
  | read (request : ReadRequest)
  | disconnect
deriving DecidableEq

def rewrite (foundation : Foundation) (header : HTTPHeader) : Option HTTPHeader :=
  HTTPHeader.rewriteToRelativePath foundation (HTTPHeader.removeProxyHeader foundation header)

def toData (header : HTTPHeader) : Data := Data.utf8 header.toString

def openSocket (socket : HTTPProxySocket) : ReadRequest × HTTPProxySocket :=
  (.pattern doubleCRLF,{socket with readStatus := .readingFirstHeader})

/-- `didRead(data:from:)`; none where it traps. -/
def didRead (foundation : Foundation) (socket : HTTPProxySocket) (data : Data) :
    Option (Heard × HTTPProxySocket) := do
  let (result,scanner) ← socket.scanner.input foundation data
  let socket := {socket with scanner}
  match result with
  | .error error => some (.failed error,socket)
  | .ok result => match socket.readStatus,result with
    | .readingFirstHeader,.header header => do
      let header ← rewrite foundation header
      some (.request header.host header.port,{socket with
        currentHeader := some header
        isConnectCommand := header.isConnect
        readStatus := if header.isConnect then .readingContent else .pendingFirstHeader})
    | .readingHeader,.header header => do
      let header ← rewrite foundation header
      some (.data (toData header),{socket with currentHeader := some header})
    | .readingContent,.content content => some (.data content,socket)
    | _,_ => some (.nothing,socket)

def readData (socket : HTTPProxySocket) : Option (Asked × HTTPProxySocket) :=
  if socket.readStatus = .pendingFirstHeader then
    socket.currentHeader.map (fun header => (.deliver (toData header),{socket with readStatus := .readingContent}))
  else match socket.scanner.nextAction with
    | .readContent length =>
      some (.read (if length > 0 then .length length else .data),{socket with readStatus := .readingContent})
    | .readHeader => some (.read (.pattern doubleCRLF),{socket with readStatus := .readingHeader})
    | .stop => some (.disconnect,{socket with readStatus := .stopped})

/-- A request as it was read and as it is sent on; its body may still be incomplete. -/
structure Request where
  head : Data
  header : HTTPHeader
  sent : HTTPHeader
  body : Data

def Request.received (request : Request) : Data := request.head ++ request.body

def Request.forwarded (request : Request) : Data := toData request.sent ++ request.body

/-- The requests of a connection: each head was accepted, all name one host, and each body
but the last one is as long as its header says. -/
structure Requests (foundation : Foundation) (done : List Request) (current : Request) : Prop where
  parsed : ∀ request ∈ current :: done, HTTPHeader.initData foundation request.head = .ok request.header
  rewritten : ∀ request ∈ current :: done, rewrite foundation request.header = some request.sent
  host : ∀ request ∈ done, request.header.host = current.header.host
  complete : ∀ request ∈ done, (request.body.length : Int) = request.header.contentLength

structure Scanning (scanner : HTTPStreamScanner) (current : Request) : Prop where
  plain : scanner.isConnect = false
  header : scanner.currentHeader = some current.header
  remain : scanner.remainContentLength = current.header.contentLength - current.body.length
  next : scanner.nextAction = HTTPStreamScanner.actionFor scanner.remainContentLength
  within : current.body ≠ [] → 0 ≤ scanner.remainContentLength

def Awaits (socket : HTTPProxySocket) : ReadRequest → Prop
  | .pattern pattern => pattern = doubleCRLF ∧ socket.scanner.nextAction = .readHeader ∧
      socket.readStatus = .readingHeader
  | .length length => 0 < length ∧ socket.scanner.nextAction = .readContent length ∧
      socket.readStatus = .readingContent
  | .data => ∃ length ≤ 0, socket.scanner.nextAction = .readContent length ∧ socket.readStatus = .readingContent

/-- How the bytes that were read relate to the bytes that were handed on, once the first header
is read; and what the socket is still asked to read. -/
inductive Framed (foundation : Foundation) (socket : HTTPProxySocket) (asked : Option ReadRequest) :
    Data → Data → Prop
  | pending (current : Request) (requests : Requests foundation [] current) (bodyless : current.body = [])
      (scanning : Scanning socket.scanner current) (status : socket.readStatus = .pendingFirstHeader)
      (header : socket.currentHeader = some current.sent) (idle : asked = none) : Framed foundation socket asked
        current.received []
  | connect (head body : Data) (header : HTTPHeader) (parsed : HTTPHeader.initData foundation head = .ok header)
      (connect : header.isConnect = true) (tunnels : socket.scanner.isConnect = true)
      (next : socket.scanner.nextAction = .readContent (-1)) (remain : socket.scanner.remainContentLength < 0)
      (status : socket.readStatus = .readingContent) (awaits : ∀ request ∈ asked, request = .data) :
      Framed foundation socket asked (head ++ body) body
  | requests (done : List Request) (current : Request) (requests : Requests foundation done current)
      (scanning : Scanning socket.scanner current) (status : socket.readStatus ≠ .pendingFirstHeader)
      (awaits : ∀ request ∈ asked, socket.Awaits request) : Framed foundation socket asked
        ((done ++ [current]).flatMap Request.received) ((done ++ [current]).flatMap Request.forwarded)

theorem actionFor_ne_stop (remain : Int) : HTTPStreamScanner.actionFor remain ≠ .stop := by
  rw [HTTPStreamScanner.actionFor]
  split
  · exact ReadAction.noConfusion
  · split <;> exact ReadAction.noConfusion

theorem actionFor_readHeader {remain : Int} (next : HTTPStreamScanner.actionFor remain = .readHeader) :
    remain = 0 := by
  by_contra nonzero
  rw [HTTPStreamScanner.actionFor,if_neg nonzero] at next
  split at next <;> cases next

theorem actionFor_readContent {remain length : Int}
    (next : HTTPStreamScanner.actionFor remain = .readContent length) :
    remain ≠ 0 ∧ (0 < length → length ≤ remain) ∧ (length ≤ 0 → remain < 0) := by
  rw [HTTPStreamScanner.actionFor] at next
  split at next
  · cases next
  · next nonzero =>
    refine ⟨nonzero,?_⟩
    split at next
    · next negative =>
      cases next
      exact ⟨fun positive => by omega,fun _ => negative⟩
    · next positive =>
      cases next
      have block : MAXHTTPContentBlockLength = 10240 := rfl
      exact ⟨fun _ => by omega,fun small => by omega⟩

variable {foundation : Foundation} {socket : HTTPProxySocket}

theorem framed_writeStatus {asked : Option ReadRequest} {received forwarded : Data}
    (framed : Framed foundation socket asked received forwarded) (writeStatus : HTTPProxyWriteStatus) :
    Framed foundation {socket with writeStatus} asked received forwarded := by
  cases framed with
  | pending current requests bodyless scanning status header idle =>
    exact Framed.pending current requests bodyless scanning status header idle
  | connect head _ header parsed connect tunnels next remain status awaits =>
    exact Framed.connect head _ header parsed connect tunnels next remain status awaits
  | requests done current requests scanning status awaits =>
    exact Framed.requests done current requests scanning status awaits

theorem framed_status {request : ReadRequest} {received forwarded : Data}
    (framed : Framed foundation socket (some request) received forwarded) :
    socket.readStatus ≠ .readingFirstHeader := by
  intro first
  cases framed with
  | pending current requests bodyless scanning status header idle => cases idle
  | connect head _ header parsed connect tunnels next remain status awaits => cases first.symm.trans status
  | requests done current requests scanning status awaits =>
    have awaited := awaits request rfl
    cases request with
    | pattern pattern => cases first.symm.trans awaited.2.2
    | length length => cases first.symm.trans awaited.2.2
    | data =>
      obtain ⟨length,-,-,content⟩ := awaited
      cases first.symm.trans content

theorem readData_kept {asked : Asked} {next : HTTPProxySocket} (read : socket.readData = some (asked,next)) :
    next.isConnectCommand = socket.isConnectCommand ∧ next.writeStatus = socket.writeStatus := by
  rw [readData] at read
  split at read
  · obtain ⟨header,-,same⟩ := Option.map_eq_some_iff.mp read
    cases same
    exact ⟨rfl,rfl⟩
  · split at read <;>
    · cases read
      exact ⟨rfl,rfl⟩

/-- Only the first header decides whether the socket tunnels. -/
theorem didRead_kept {data : Data} {heard : Heard} {next : HTTPProxySocket}
    (read : socket.didRead foundation data = some (heard,next)) :
    next.writeStatus = socket.writeStatus ∧
      (socket.readStatus ≠ .readingFirstHeader → next.isConnectCommand = socket.isConnectCommand) := by
  rw [didRead] at read
  obtain ⟨⟨result,scanner⟩,-,read⟩ := Option.bind_eq_some_iff.mp read
  cases result with
  | error error =>
    cases read
    exact ⟨rfl,fun _ => rfl⟩
  | ok result =>
    dsimp only at read
    split at read
    · next first =>
      obtain ⟨sent,-,same⟩ := Option.bind_eq_some_iff.mp read
      cases same
      exact ⟨rfl,fun other => absurd first other⟩
    · obtain ⟨sent,-,same⟩ := Option.bind_eq_some_iff.mp read
      cases same
      exact ⟨rfl,fun _ => rfl⟩
    · cases read
      exact ⟨rfl,fun _ => rfl⟩
    · cases read
      exact ⟨rfl,fun _ => rfl⟩

theorem framed_readData {received forwarded : Data} (framed : Framed foundation socket none received forwarded) :
    ∃ asked next, socket.readData = some (asked,next) ∧
      ((∃ data, asked = .deliver data ∧ Framed foundation next none received (forwarded ++ data)) ∨
        ∃ request, asked = .read request ∧ Framed foundation next (some request) received forwarded) := by
  cases framed with
  | pending current requests bodyless scanning status header idle =>
    refine ⟨.deliver (toData current.sent),{socket with readStatus := .readingContent},?_,
      Or.inl ⟨_,rfl,?_⟩⟩
    · rw [readData,if_pos status,header]
      rfl
    · have whole : Framed foundation {socket with readStatus := .readingContent} none _ _ :=
        Framed.requests [] current requests scanning HTTPProxyReadStatus.noConfusion (fun _ member => by cases member)
      have sent : [current].flatMap Request.forwarded = [] ++ toData current.sent := by
        simp [Request.forwarded,bodyless]
      have read : [current].flatMap Request.received = current.received := by simp
      rw [← sent,← read]
      exact whole
  | connect head _ header parsed connect tunnels next remain status awaits =>
    refine ⟨.read .data,{socket with readStatus := .readingContent},?_,Or.inr ⟨_,rfl,?_⟩⟩
    · simp [readData,status,next]
    · refine Framed.connect head _ header parsed connect tunnels next remain rfl ?_
      rintro request ⟨⟩
      rfl
  | requests done current requests scanning status awaits =>
    cases next : socket.scanner.nextAction with
    | readHeader =>
      refine ⟨.read (.pattern doubleCRLF),{socket with readStatus := .readingHeader},?_,Or.inr ⟨_,rfl,?_⟩⟩
      · simp [readData,status,next]
      · refine Framed.requests done current requests scanning HTTPProxyReadStatus.noConfusion ?_
        rintro request ⟨⟩
        exact ⟨rfl,next,rfl⟩
    | readContent length =>
      refine ⟨.read (if length > 0 then .length length else .data),{socket with readStatus := .readingContent},
        ?_,Or.inr ⟨_,rfl,?_⟩⟩
      · simp [readData,status,next]
      · refine Framed.requests done current requests scanning HTTPProxyReadStatus.noConfusion ?_
        rintro request ⟨⟩
        split
        · next positive => exact ⟨positive,next,rfl⟩
        · next small => exact ⟨length,Int.not_lt.mp small,next,rfl⟩
    | stop => exact absurd (scanning.next.symm.trans next) (actionFor_ne_stop _)

theorem inputHeader_ok {scanner : HTTPStreamScanner} {data : Data} {header : HTTPHeader}
    (accepted : HTTPStreamScanner.inputHeader foundation scanner data = .ok header) :
    HTTPHeader.initData foundation data = .ok header ∧
      ∀ current, scanner.currentHeader = some current → header.host = current.host := by
  rw [HTTPStreamScanner.inputHeader] at accepted
  split at accepted
  · cases accepted
  · next parsed =>
    split at accepted
    · next none_current =>
      cases accepted
      exact ⟨parsed,fun current some_current => by rw [none_current] at some_current; cases some_current⟩
    · next current some_current =>
      split at accepted
      · cases accepted
      · next same =>
        cases accepted
        refine ⟨parsed,fun other some_other => ?_⟩
        rw [some_current] at some_other
        cases some_other
        exact not_not.mp same

theorem input_header {scanner : HTTPStreamScanner} {data : Data} {header current : HTTPHeader}
    (action : scanner.nextAction = .readHeader) (started : scanner.currentHeader = some current)
    (accepted : HTTPStreamScanner.inputHeader foundation scanner data = .ok header) :
    scanner.input foundation data = some (.ok (.header header),HTTPStreamScanner.setNextAction {scanner with
      remainContentLength := header.contentLength
      currentHeader := some header}) := by
  simp [HTTPStreamScanner.input,action,accepted,started]

theorem input_content {scanner : HTTPStreamScanner} {data : Data} {length : Int}
    (action : scanner.nextAction = .readContent length)
    (held : ¬scanner.remainContentLength - (data.length : Int) < -2^63)
    (within : scanner.isConnect = true ∨ 0 ≤ scanner.remainContentLength - data.length) :
    scanner.input foundation data = some (.ok (.content data),HTTPStreamScanner.setNextAction {scanner with
      remainContentLength := scanner.remainContentLength - data.length}) := by
  have kept : ¬((!scanner.isConnect) = true ∧ scanner.remainContentLength - (data.length : Int) < 0) := by
    rintro ⟨plain,negative⟩
    rcases within with connect | positive
    · simp [connect] at plain
    · omega
  rw [HTTPStreamScanner.input,action]
  simp only [held,kept,if_false]

theorem didRead_held {data : Data} {length : Int} (action : socket.scanner.nextAction = .readContent length)
    {heard : Heard} {next : HTTPProxySocket} (read : socket.didRead foundation data = some (heard,next)) :
    ¬socket.scanner.remainContentLength - (data.length : Int) < -2^63 := by
  intro low
  obtain ⟨given,counted,-⟩ := Option.bind_eq_some_iff.mp read
  rw [HTTPStreamScanner.input,action] at counted
  simp only [low,if_true] at counted
  cases counted

theorem didRead_failed {data : Data} {error : HTTPStreamScannerError} {scanner : HTTPStreamScanner}
    (result : socket.scanner.input foundation data = some (.error error,scanner)) :
    socket.didRead foundation data = some (.failed error,{socket with scanner}) := by
  rw [didRead,result]
  rfl

theorem didRead_header {data : Data} {header : HTTPHeader} {scanner : HTTPStreamScanner}
    (result : socket.scanner.input foundation data = some (.ok (.header header),scanner))
    (status : socket.readStatus = .readingHeader) :
    socket.didRead foundation data = (rewrite foundation header).map
      (fun header => (.data (toData header),{socket with scanner, currentHeader := some header})) := by
  rw [didRead,result]
  simp only [Option.bind_eq_bind,Option.bind_some,status]
  cases rewrite foundation header <;> rfl

theorem didRead_content {data content : Data} {scanner : HTTPStreamScanner}
    (result : socket.scanner.input foundation data = some (.ok (.content content),scanner))
    (status : socket.readStatus = .readingContent) :
    socket.didRead foundation data = some (.data content,{socket with scanner}) := by
  rw [didRead,result]
  simp only [Option.bind_eq_bind,Option.bind_some,status]

theorem Requests.next {done : List Request} {current : Request} (requests : Requests foundation done current)
    (complete : (current.body.length : Int) = current.header.contentLength) {head : Data} {header sent : HTTPHeader}
    (parsed : HTTPHeader.initData foundation head = .ok header) (rewritten : rewrite foundation header = some sent)
    (host : header.host = current.header.host) : Requests foundation (done ++ [current]) ⟨head,header,sent,[]⟩ := by
  constructor
  · intro request member
    rcases List.mem_cons.mp member with rfl | earlier
    · exact parsed
    · exact requests.parsed request (List.mem_cons.mpr (Or.symm (by simpa using earlier)))
  · intro request member
    rcases List.mem_cons.mp member with rfl | earlier
    · exact rewritten
    · exact requests.rewritten request (List.mem_cons.mpr (Or.symm (by simpa using earlier)))
  · intro request member
    rcases List.mem_append.mp member with earlier | last
    · exact (requests.host request earlier).trans host.symm
    · cases List.mem_singleton.mp last
      exact host.symm
  · intro request member
    rcases List.mem_append.mp member with earlier | last
    · exact requests.complete request earlier
    · cases List.mem_singleton.mp last
      exact complete

theorem Requests.grow {done : List Request} {current : Request} (requests : Requests foundation done current)
    (data : Data) : Requests foundation done {current with body := current.body ++ data} := by
  obtain ⟨parsed,rewritten,host,complete⟩ := requests
  rw [List.forall_mem_cons] at parsed rewritten
  exact ⟨List.forall_mem_cons.mpr parsed,List.forall_mem_cons.mpr rewritten,host,complete⟩

/-- The header that is being served promises a negative number of bytes. -/
def Overdrawn (socket : HTTPProxySocket) : Prop :=
  ∃ header, socket.scanner.currentHeader = some header ∧ header.contentLength < 0

theorem inputHeader_error {scanner : HTTPStreamScanner} {data : Data} {error : HTTPStreamScannerError}
    (refused : HTTPStreamScanner.inputHeader foundation scanner data = .error error) : error ≠ .contentIsTooLong := by
  rintro rfl
  rw [HTTPStreamScanner.inputHeader] at refused
  split at refused
  · cases refused
  · split at refused
    · cases refused
    · split at refused <;> cases refused

theorem framed_header {done : List Request} {current : Request} (requests : Requests foundation done current)
    (scanning : Scanning socket.scanner current) (awaits : socket.Awaits (.pattern doubleCRLF)) {data : Data}
    {heard : Heard} {next : HTTPProxySocket} (read : socket.didRead foundation data = some (heard,next)) :
    (∃ error, heard = .failed error ∧ (error = .contentIsTooLong → socket.Overdrawn)) ∨
      ∃ bytes, heard = .data bytes ∧
        Framed foundation next none ((done ++ [current]).flatMap Request.received ++ data)
          ((done ++ [current]).flatMap Request.forwarded ++ bytes) := by
  obtain ⟨-,action,status⟩ := awaits
  cases accepted : HTTPStreamScanner.inputHeader foundation socket.scanner data with
  | error error =>
    have result : socket.scanner.input foundation data =
        some (.error error,{socket.scanner with nextAction := .stop}) := by
      simp [HTTPStreamScanner.input,action,accepted]
    rw [didRead_failed result] at read
    cases read
    exact Or.inl ⟨error,rfl,fun long => absurd long (inputHeader_error accepted)⟩
  | ok header =>
    obtain ⟨parsed,same⟩ := inputHeader_ok accepted
    rw [didRead_header (input_header action scanning.header accepted) status] at read
    obtain ⟨sent,rewritten,told⟩ := Option.map_eq_some_iff.mp read
    cases told
    have complete : (current.body.length : Int) = current.header.contentLength := by
      have owed := actionFor_readHeader (scanning.next.symm.trans action)
      rw [scanning.remain] at owed
      omega
    refine Or.inr ⟨_,rfl,?_⟩
    have other : socket.readStatus ≠ .pendingFirstHeader := by
      rw [status]
      exact HTTPProxyReadStatus.noConfusion
    have whole : Framed foundation {socket with
        scanner := HTTPStreamScanner.setNextAction {socket.scanner with
          remainContentLength := header.contentLength
          currentHeader := some header}
        currentHeader := some sent} none _ _ := Framed.requests (done ++ [current]) ⟨data,header,sent,[]⟩
      (requests.next complete parsed rewritten (same _ scanning.header))
      ⟨scanning.plain,rfl,(Int.sub_zero _).symm,rfl,fun impossible => absurd rfl impossible⟩
      other (fun _ member => by cases member)
    have received : ((done ++ [current]) ++ [Request.mk data header sent []]).flatMap Request.received =
        (done ++ [current]).flatMap Request.received ++ data := by simp [Request.received]
    have forwarded : ((done ++ [current]) ++ [Request.mk data header sent []]).flatMap Request.forwarded =
        (done ++ [current]).flatMap Request.forwarded ++ toData sent := by simp [Request.forwarded]
    rwa [received,forwarded] at whole

theorem framed_content {done : List Request} {current : Request} (requests : Requests foundation done current)
    (scanning : Scanning socket.scanner current) {length : Int}
    (action : socket.scanner.nextAction = .readContent length) (status : socket.readStatus = .readingContent)
    {data : Data} (serves : 0 < length → (data.length : Int) = length) {heard : Heard} {next : HTTPProxySocket}
    (read : socket.didRead foundation data = some (heard,next)) :
    (∃ error, heard = .failed error ∧ (error = .contentIsTooLong → socket.Overdrawn)) ∨
      ∃ bytes, heard = .data bytes ∧
        Framed foundation next none ((done ++ [current]).flatMap Request.received ++ data)
          ((done ++ [current]).flatMap Request.forwarded ++ bytes) := by
  obtain ⟨-,exact_read,any_read⟩ := actionFor_readContent (scanning.next.symm.trans action)
  have held := didRead_held action read
  by_cases long : socket.scanner.remainContentLength - data.length < 0
  · have result : socket.scanner.input foundation data = some (.error .contentIsTooLong,{socket.scanner with
        remainContentLength := socket.scanner.remainContentLength - data.length
        nextAction := .stop}) := by
      simp only [HTTPStreamScanner.input,action,held,scanning.plain,long,Bool.not_false,and_self,if_true,if_false]
    rw [didRead_failed result] at read
    cases read
    refine Or.inl ⟨_,rfl,fun _ => ⟨current.header,scanning.header,?_⟩⟩
    have small : length ≤ 0 := by
      by_contra positive
      have served := serves (by omega)
      have enough := exact_read (by omega)
      omega
    have negative := any_read small
    have bodyless : current.body = [] := by
      by_contra filled
      exact absurd (scanning.within filled) (by omega)
    have owed := scanning.remain
    rw [bodyless,List.length_nil] at owed
    omega
  · rw [didRead_content (input_content action held (Or.inr (Int.not_lt.mp long))) status] at read
    cases read
    refine Or.inr ⟨_,rfl,?_⟩
    have remain : socket.scanner.remainContentLength - (data.length : Int) =
        current.header.contentLength - ((current.body ++ data).length : Nat) := by
      have counted := scanning.remain
      rw [List.length_append]
      omega
    have other : socket.readStatus ≠ .pendingFirstHeader := by
      rw [status]
      exact HTTPProxyReadStatus.noConfusion
    have whole : Framed foundation {socket with
        scanner := HTTPStreamScanner.setNextAction {socket.scanner with
          remainContentLength := socket.scanner.remainContentLength - data.length}} none _ _ :=
      Framed.requests done {current with body := current.body ++ data} (requests.grow data)
      ⟨scanning.plain,scanning.header,remain,rfl,fun _ => Int.not_lt.mp long⟩
      other (fun _ member => by cases member)
    simpa only [List.flatMap_append,List.flatMap_singleton,Request.received,Request.forwarded,List.append_assoc]
      using whole

/-- Bytes that serve what the socket asked for are handed on, with a header rewritten, or end it. -/
theorem framed_didRead {request : ReadRequest} {received forwarded data : Data}
    (framed : Framed foundation socket (some request) received forwarded) (serves : request.Serves data)
    {heard : Heard} {next : HTTPProxySocket} (read : socket.didRead foundation data = some (heard,next)) :
    (∃ error, heard = .failed error ∧ (error = .contentIsTooLong → socket.Overdrawn)) ∨
      ∃ bytes, heard = .data bytes ∧
        Framed foundation next none (received ++ data) (forwarded ++ bytes) := by
  cases framed with
  | pending current requests bodyless scanning status header idle => cases idle
  | connect head _ header parsed connect tunnels action remain status awaits =>
    rw [didRead_content (input_content action (didRead_held action read) (Or.inl tunnels)) status] at read
    cases read
    refine Or.inr ⟨_,rfl,?_⟩
    rw [List.append_assoc]
    have negative : socket.scanner.remainContentLength - (data.length : Int) < 0 := by omega
    refine Framed.connect head _ header parsed connect tunnels ?_ negative status (fun _ member => by cases member)
    rw [HTTPStreamScanner.setNextAction,HTTPStreamScanner.actionFor,if_neg (by simp only; omega),if_pos negative]
  | requests done current requests scanning status awaits =>
    have awaited := awaits request rfl
    cases request with
    | pattern pattern =>
      have same := awaited.1
      subst same
      exact framed_header requests scanning awaited read
    | length length =>
      obtain ⟨positive,action,reading⟩ := awaited
      exact framed_content requests scanning action reading (fun _ => serves) read
    | data =>
      obtain ⟨length,small,action,reading⟩ := awaited
      exact framed_content requests scanning action reading (fun positive => by omega) read

theorem didRead_first {data : Data} {header : HTTPHeader} {scanner : HTTPStreamScanner}
    (result : socket.scanner.input foundation data = some (.ok (.header header),scanner))
    (status : socket.readStatus = .readingFirstHeader) :
    socket.didRead foundation data = (rewrite foundation header).map
      (fun header => (.request header.host header.port,{socket with
        scanner
        currentHeader := some header
        isConnectCommand := header.isConnect
        readStatus := if header.isConnect then .readingContent else .pendingFirstHeader})) := by
  rw [didRead,result]
  simp only [Option.bind_eq_bind,Option.bind_some,status]
  cases rewrite foundation header <;> rfl

theorem rewrite_isConnect {header sent : HTTPHeader} (rewritten : rewrite foundation header = some sent) :
    sent.isConnect = header.isConnect ∧ sent.host = header.host := by
  rw [rewrite,HTTPHeader.removeProxyHeader_eq,HTTPHeader.rewriteToRelativePath] at rewritten
  split at rewritten
  · cases rewritten
  · cases rewritten
    split <;> exact ⟨rfl,rfl⟩

/-- The first header makes a request of the tunnel, or the socket disconnects. -/
theorem framed_first (fresh : socket.scanner = {}) (status : socket.readStatus = .readingFirstHeader) {data : Data}
    {heard : Heard} {next : HTTPProxySocket} (read : socket.didRead foundation data = some (heard,next)) :
    (∃ error, heard = .failed error) ∨ ∃ host port, heard = .request host port ∧
      Framed foundation next none data [] := by
  have action : socket.scanner.nextAction = .readHeader := by rw [fresh]
  have begins : socket.scanner.currentHeader = none := by rw [fresh]
  cases accepted : HTTPStreamScanner.inputHeader foundation socket.scanner data with
  | error error =>
    have result : socket.scanner.input foundation data =
        some (.error error,{socket.scanner with nextAction := .stop}) := by
      simp [HTTPStreamScanner.input,action,accepted]
    rw [didRead_failed result] at read
    cases read
    exact Or.inl ⟨error,rfl⟩
  | ok header =>
    obtain ⟨parsed,-⟩ := inputHeader_ok accepted
    have result : socket.scanner.input foundation data = some (.ok (.header header),HTTPStreamScanner.setNextAction
        {socket.scanner with
          isConnect := header.isConnect
          remainContentLength := if header.isConnect then -1 else header.contentLength
          currentHeader := some header}) := by
      simp [HTTPStreamScanner.input,action,accepted,begins]
    rw [didRead_first result status] at read
    obtain ⟨sent,rewritten,told⟩ := Option.map_eq_some_iff.mp read
    cases told
    refine Or.inr ⟨_,_,rfl,?_⟩
    cases connect : header.isConnect with
    | true =>
      have negative : (-1 : Int) < 0 := by decide
      have whole : Framed foundation {socket with
          scanner := HTTPStreamScanner.setNextAction {socket.scanner with
            isConnect := true
            remainContentLength := -1
            currentHeader := some header}
          currentHeader := some sent
          isConnectCommand := true
          readStatus := .readingContent} none _ _ :=
        Framed.connect data [] header parsed connect rfl rfl negative rfl (fun _ member => by cases member)
      rw [List.append_nil] at whole
      simpa only [(rewrite_isConnect rewritten).1,connect,if_true] using whole
    | false =>
      have requests : Requests foundation [] ⟨data,header,sent,[]⟩ :=
        ⟨by simpa using parsed,by simpa using rewritten,by simp,by simp⟩
      have whole : Framed foundation {socket with
          scanner := HTTPStreamScanner.setNextAction {socket.scanner with
            isConnect := false
            remainContentLength := header.contentLength
            currentHeader := some header}
          currentHeader := some sent
          isConnectCommand := false
          readStatus := .pendingFirstHeader} none _ _ :=
        Framed.pending ⟨data,header,sent,[]⟩ requests rfl
          ⟨rfl,rfl,(Int.sub_zero _).symm,rfl,fun impossible => absurd rfl impossible⟩ rfl rfl rfl
      rw [Request.received,List.append_nil] at whole
      simpa only [(rewrite_isConnect rewritten).1,connect,Bool.false_eq_true,if_false] using whole

end HTTPProxySocket
end TenonVpn
