import TenonVpn.Data
import TenonVpn.HTTPURL

/-! The header of an HTTP request as `HTTPHeader` reads it, rewrites it for the origin
server and writes it. A character stands for one Unicode scalar here. Foundation's reader
of URLs, its comparison of names and the Characters that scalars make up are parameters. -/
namespace TenonVpn

namespace Text

def crlf : Text := ['\r','\n']

/-- `components(separatedBy: "\r\n")`. -/
def lines : Text → List Text
  | [] => [[]]
  | '\r' :: '\n' :: rest => [] :: lines rest
  | c :: rest => (lines rest).modifyHead (c :: ·)

/-- The members of `CharacterSet.whitespaces`. -/
def isBlank (c : Char) : Bool :=
  c = '\t' || c = ' ' || c = '\u00a0' || c = '\u1680' || ('\u2000' ≤ c && c ≤ '\u200a') ||
    c = '\u202f' || c = '\u205f' || c = '\u3000'

def trimmingWhitespaces (text : Text) : Text := (text.dropWhile isBlank).rdropWhile isBlank

/-- Below the combining characters. -/
def Plain (text : Text) : Prop := ∀ c ∈ text, c.toNat < 0x300

instance decidablePlain (text : Text) : Decidable (Plain text) :=
  decidable_of_iff (text.all (fun c => c.toNat < 0x300) = true) (by simp [Plain])

/-- The Characters of a text without combining characters. -/
def characters : Text → List Text
  | [] => []
  | '\r' :: '\n' :: rest => crlf :: characters rest
  | c :: rest => [c] :: characters rest

/-- The UTF-16 units of a scalar. -/
def units (c : Char) : Nat := if c.toNat < 0x10000 then 1 else 2

/-- What lies within the first UTF-16 units. -/
def takeUnits : Nat → Text → Text
  | _,[] => []
  | count,c :: rest => if units c ≤ count then c :: takeUnits (count - units c) rest else []

theorem takeUnits_prefix (count : Nat) (text : Text) : takeUnits count text <+: text := by
  fun_induction takeUnits count text with
  | case1 => exact List.prefix_rfl
  | case2 count c rest fits ih => exact List.cons_prefix_cons.mpr ⟨rfl,ih⟩
  | case3 => exact List.nil_prefix

theorem Plain.of_infix {text part : Text} (plain : Plain text) (inside : part <:+: text) : Plain part :=
  fun c member => plain c (inside.subset member)

theorem Plain.join {first second : Text} {c : Char} (before : Plain first) (small : c.toNat < 0x300)
    (after : Plain second) : Plain (first ++ c :: second) := by
  intro d member
  rcases List.mem_append.mp member with member | member
  · exact before d member
  · rcases List.mem_cons.mp member with rfl | member
    · exact small
    · exact after d member

theorem infix_intercalate {separator piece : Text} {pieces : List Text} (member : piece ∈ pieces) :
    piece <:+: separator.intercalate pieces := by
  induction pieces with
  | nil => cases member
  | cons first rest ih =>
    cases rest with
    | nil =>
      cases List.mem_singleton.mp member
      rw [List.intercalate_singleton]
    | cons second rest =>
      rw [List.intercalate_cons_cons,List.append_assoc]
      rcases List.mem_cons.mp member with rfl | later
      · exact (List.prefix_append _ _).isInfix
      · exact (ih later).trans ((List.suffix_append separator _).trans (List.suffix_append first _)).isInfix

theorem infix_of_mem_components {separator : Char} {text piece : Text}
    (member : piece ∈ components separator text) : piece <:+: text := by
  have inside : piece <:+: [separator].intercalate (text.splitOn separator) := infix_intercalate member
  rwa [List.intercalate_splitOn] at inside

theorem lines_eq_cons (text : Text) : ∃ first rest, lines text = first :: rest ∧ first <+: text := by
  fun_induction lines text with
  | case1 => exact ⟨_,_,rfl,List.prefix_rfl⟩
  | case2 rest ih => exact ⟨_,_,rfl,List.nil_prefix⟩
  | case3 c rest other ih =>
    obtain ⟨first,later,cut,begins⟩ := ih
    exact ⟨c :: first,later,by rw [cut]; rfl,List.cons_prefix_cons.mpr ⟨rfl,begins⟩⟩

theorem crlf_infix_cons {c : Char} {text : Text} :
    crlf <:+: c :: text ↔ (c = '\r' ∧ text.head? = some '\n') ∨ crlf <:+: text := by
  rw [List.infix_cons_iff]
  refine or_congr ?_ Iff.rfl
  cases text with
  | nil => simp [crlf]
  | cons d text => simp [crlf,eq_comm]

theorem characters_eq {text : Text} (free : ¬crlf <:+: text) : characters text = text.map ([·]) := by
  fun_induction characters text with
  | case1 => rfl
  | case2 rest ih => exact absurd (crlf_infix_cons.mpr (Or.inl ⟨rfl,rfl⟩)) free
  | case3 c rest other ih =>
    rw [ih (fun inside => free (crlf_infix_cons.mpr (Or.inr inside))),List.map_cons]

theorem eq_nil_of_characters {text : Text} (empty : characters text = []) : text = [] := by
  unfold characters at empty
  split at empty
  · rfl
  · cases empty
  · cases empty

theorem infix_of_mem_lines {text piece : Text} (member : piece ∈ lines text) : piece <:+: text := by
  fun_induction lines text generalizing piece with
  | case1 =>
    cases List.mem_singleton.mp member
    exact List.infix_rfl
  | case2 rest ih =>
    rcases List.mem_cons.mp member with rfl | later
    · exact List.nil_infix
    · exact (ih later).trans (List.suffix_append ['\r','\n'] rest).isInfix
  | case3 c rest other ih =>
    obtain ⟨first,later,cut,begins⟩ := lines_eq_cons rest
    rw [cut] at member ih
    rcases List.mem_cons.mp member with rfl | after
    · exact (List.cons_prefix_cons.mpr ⟨rfl,begins⟩).isInfix
    · exact (ih (List.mem_cons_of_mem first after)).trans (List.suffix_cons c rest).isInfix

theorem not_crlf_of_mem_lines {text piece : Text} (member : piece ∈ lines text) : ¬crlf <:+: piece := by
  fun_induction lines text generalizing piece with
  | case1 =>
    cases List.mem_singleton.mp member
    simp [crlf]
  | case2 rest ih =>
    rcases List.mem_cons.mp member with rfl | later
    · simp [crlf]
    · exact ih later
  | case3 c rest other ih =>
    obtain ⟨first,later,cut,begins⟩ := lines_eq_cons rest
    rw [cut] at member ih
    rcases List.mem_cons.mp member with rfl | after
    · rw [crlf_infix_cons]
      rintro (⟨rfl,next⟩ | inside)
      · -- the piece goes on with the newline that follows in the text
        obtain ⟨tail,rfl⟩ := begins
        cases first with
        | nil => cases next
        | cons d first =>
          cases next
          exact other _ rfl rfl
      · exact ih List.mem_cons_self inside
    · exact ih (List.mem_cons_of_mem first after)

theorem lines_append {line : Text} (rest : Text) (free : ¬crlf <:+: line) :
    lines (line ++ (crlf ++ rest)) = line :: lines rest := by
  induction line with
  | nil => rfl
  | cons c line ih =>
    rw [crlf_infix_cons,not_or] at free
    obtain ⟨begins,inside⟩ := free
    have other : ∀ later, c = '\r' → line ++ (crlf ++ rest) = '\n' :: later → False := by
      intro later carriage follows
      cases line with
      | nil => cases follows
      | cons d line =>
        cases follows
        exact begins ⟨carriage,rfl⟩
    rw [List.cons_append,lines,ih inside]
    · rfl
    · exact other

theorem not_crlf_join {first second : Text} {c : Char} (outside : c ∉ crlf) (before : ¬crlf <:+: first)
    (after : ¬crlf <:+: second) : ¬crlf <:+: first ++ c :: second := by
  induction first with
  | nil =>
    rw [List.nil_append,crlf_infix_cons]
    rintro (⟨rfl,-⟩ | inside)
    · exact outside (by decide)
    · exact after inside
  | cons d first ih =>
    rw [crlf_infix_cons,not_or] at before
    rw [List.cons_append,crlf_infix_cons]
    rintro (⟨rfl,next⟩ | inside)
    · cases first with
      | nil =>
        cases next
        exact outside (by decide)
      | cons e first => exact before.1 ⟨rfl,next⟩
    · exact ih before.2 inside

theorem trimmingWhitespaces_infix (text : Text) : trimmingWhitespaces text <:+: text :=
  (List.rdropWhile_prefix _ _).isInfix.trans (List.dropWhile_suffix _).isInfix

theorem trimmingWhitespaces_idem (text : Text) :
    trimmingWhitespaces (trimmingWhitespaces text) = trimmingWhitespaces text := by
  have begins := List.rdropWhile_prefix isBlank (text.dropWhile isBlank)
  have front : (trimmingWhitespaces text).dropWhile isBlank = trimmingWhitespaces text := by
    rw [List.dropWhile_eq_self_iff]
    intro filled
    have filled' : 0 < (text.dropWhile isBlank).length := Nat.lt_of_lt_of_le filled begins.length_le
    have same : (trimmingWhitespaces text)[0] = (text.dropWhile isBlank)[0] := begins.getElem filled
    rw [same]
    exact List.dropWhile_get_zero_not isBlank text filled'
  rw [trimmingWhitespaces,front]
  exact List.rdropWhile_idempotent isBlank (text.dropWhile isBlank)

theorem trimmingWhitespaces_space (text : Text) : trimmingWhitespaces (' ' :: text) = trimmingWhitespaces text := by
  have blank : isBlank ' ' = true := by decide
  rw [trimmingWhitespaces,List.dropWhile_cons_of_pos blank]
  rfl

end Text

inductive HTTPHeaderError
  | malformedHeader | invalidRequestLine | invalidHeaderField | invalidConnectURL | invalidConnectPort
  | invalidURL | missingHostField | invalidHostField | invalidHostPort | invalidContentLength | illegalEncoding
deriving DecidableEq

structure HTTPHeader where
  HTTPVersion : Text
  method : Text
  isConnect : Bool
  path : Text
  host : Text
  port : Int
  contentLength : Int
  headers : List (Text × Text)
deriving DecidableEq

/-- What the header takes from the libraries: `caseInsensitiveCompare(_:) == .orderedSame`, the host and the port
of `Foundation.URL(string:)`, the Characters of a `String`, and what `\w` and `\d` stand for. -/
structure Foundation where
  orderedSame : Text → Text → Bool
  url : Text → Option (Option Text × Option Int)
  characters : Text → List Text
  characters_plain : ∀ text, Text.Plain text → characters text = Text.characters text
  wordCharacter : Char → Bool
  decimalDigit : Char → Bool

namespace HTTPHeader
variable (foundation : Foundation)

/-- A header line, cut at the first of its Characters that is a colon, and trimmed by scalars. -/
def headerField (line : Text) : Except HTTPHeaderError (Text × Text) :=
  match (foundation.characters line).span (· ≠ [':']) with
  | (key,_ :: value) => .ok (Text.trimmingWhitespaces key.flatten,Text.trimmingWhitespaces value.flatten)
  | (_,[]) => .error .invalidHeaderField

structure Lines where
  method : Text
  path : Text
  HTTPVersion : Text
  headers : List (Text × Text)
deriving DecidableEq

def Lines.read (headerString : Text) : Except HTTPHeaderError Lines :=
  let lines := Text.lines headerString
  if lines.length < 3 then .error .malformedHeader
  else match Text.components ' ' (lines.headD []) with
    | [method,path,HTTPVersion] =>
      (((lines.drop 1).take (lines.length - 3)).mapM (headerField foundation)).map
        (fun headers => {method,path,HTTPVersion,headers})
    | _ => .error .invalidRequestLine

def value (headers : List (Text × Text)) (key : Text) : Option Text :=
  (headers.find? (fun field => foundation.orderedSame key field.1)).map Prod.snd

def hostField (headers : List (Text × Text)) : Except HTTPHeaderError (Text × Int) :=
  let url := (value foundation headers "Host".toList).getD []
  if url = [] then .error .missingHostField
  else match Text.components ':' url with
    | [host] => .ok (host,80)
    | [host,port] => match Text.int64 port with
      | none => .error .invalidHostPort
      | some port => .ok (host,port)
    | _ => .error .invalidHostField

def destination (path : Text) (headers : List (Text × Text)) : Except HTTPHeaderError (Text × Int) :=
  match foundation.url path with
  | some (some host,port) => .ok (host,port.getD 80)
  | some (none,_) => hostField foundation headers
  | none => match HTTPURL.init foundation.wordCharacter foundation.decimalDigit path with
    | none => .error .invalidURL
    | some url => match url.host with
      | some host => .ok (host,url.port.getD 80)
      | none => hostField foundation headers

def contentLengthField (headers : List (Text × Text)) : Except HTTPHeaderError Int :=
  match value foundation headers "Content-Length".toList with
  | none => .ok 0
  | some length => match Text.int64 length with
    | none => .error .invalidContentLength
    | some length => .ok length

def connectTarget (path : Text) : Except HTTPHeaderError (Text × Int) :=
  match Text.components ':' path with
  | [host,port] => match Text.int64 port with
    | none => .error .invalidConnectPort
    | some port => .ok (host,port)
  | _ => .error .invalidConnectURL

def Lines.resolve (lines : Lines) : Except HTTPHeaderError HTTPHeader :=
  let {method,path,HTTPVersion,headers} := lines
  if method.map Char.toUpper = "CONNECT".toList then do
    let (host,port) ← connectTarget path
    pure {HTTPVersion,method,isConnect := true,path,host,port,contentLength := 0,headers}
  else do
    let (host,port) ← destination foundation path headers
    let contentLength ← contentLengthField foundation headers
    pure {HTTPVersion,method,isConnect := false,path,host,port,contentLength,headers}

def init (headerString : Text) : Except HTTPHeaderError HTTPHeader := do
  let lines ← Lines.read foundation headerString
  lines.resolve foundation

def lines (header : HTTPHeader) : Lines := ⟨header.method,header.path,header.HTTPVersion,header.headers⟩

def Lines.toString (lines : Lines) : Text :=
  lines.method ++ ' ' :: (lines.path ++ ' ' :: lines.HTTPVersion) ++ Text.crlf ++
    (lines.headers.flatMap (fun field => field.1 ++ ':' :: ' ' :: field.2 ++ Text.crlf) ++ Text.crlf)

def toString (header : HTTPHeader) : Text := header.lines.toString

def removeHeader (header : HTTPHeader) (key : Text) : HTTPHeader :=
  {header with headers := header.headers.eraseP (fun field => foundation.orderedSame field.1 key)}

def proxyHeaders : List Text := ["Proxy-Authenticate","Proxy-Authorization","Proxy-Connection"].map String.toList

def removeProxyHeader (header : HTTPHeader) : HTTPHeader :=
  proxyHeaders.foldl (removeHeader foundation) header

/-- `http.?:\/\/.*?(\/.*)`. -/
def URL.relativePathRegex : Pattern Char :=
  .sequence (Text.word "http".toList) (.sequence (.optional (.one Text.inline)) (.sequence (Text.word "://".toList)
    (.sequence (.few Text.inline) (.group 1 (.sequence (Text.word "/".toList) (.many Text.inline))))))

/-- It searches as many UTF-16 units of the URL as it has Characters. -/
def URL.matchRelativePath (url : Text) : Option Text :=
  (URL.relativePathRegex.find (Text.takeUnits (foundation.characters url).length url)).bind (·.range 1)

/-- Reading the first Character of the path traps where the path is empty. -/
def rewriteToRelativePath (header : HTTPHeader) : Option HTTPHeader :=
  match foundation.characters header.path with
  | [] => none
  | first :: _ => some (if first = ['/'] then header else
      {header with path := (URL.matchRelativePath foundation header.path).getD header.path})

theorem matchRelativePath_infix {url rest : Text} (matched : URL.matchRelativePath foundation url = some rest) :
    rest <:+: url := by
  obtain ⟨found,first,captured⟩ := Option.bind_eq_some_iff.mp matched
  exact (Pattern.infix_of_find first captured).trans (Text.takeUnits_prefix _ _).isInfix

/-- In a line without combining characters a colon is a Character of its own. -/
theorem span_characters {line : Text} (plain : Text.Plain line) (free : ¬Text.crlf <:+: line) :
    (foundation.characters line).span (· ≠ [':']) =
      ((line.takeWhile (· ≠ ':')).map ([·]),(line.dropWhile (· ≠ ':')).map ([·])) := by
  have same : ((fun character : Text => decide (character ≠ [':'])) ∘ fun c => [c]) = fun c => decide (c ≠ ':') := by
    funext c
    simp only [Function.comp_apply,ne_eq,List.cons.injEq,and_true]
  rw [foundation.characters_plain line plain,Text.characters_eq free,List.span_eq_takeWhile_dropWhile,
    List.takeWhile_map,List.dropWhile_map,same]

theorem flatten_singletons (text : Text) : (text.map ([·])).flatten = text := by
  rw [← List.flatMap_def,List.flatMap_singleton']

theorem headerField_ok {line : Text} (plain : Text.Plain line) (free : ¬Text.crlf <:+: line) {field : Text × Text}
    (read : headerField foundation line = .ok field) :
    ∃ key value, line = key ++ ':' :: value ∧ ':' ∉ key ∧
      field = (Text.trimmingWhitespaces key,Text.trimmingWhitespaces value) := by
  rw [headerField,span_characters foundation plain free] at read
  cases after : line.dropWhile (· ≠ ':') with
  | nil =>
    rw [after] at read
    cases read
  | cons c value =>
    rw [after] at read
    cases read
    have colon : c = ':' := by
      have first := @List.head?_dropWhile_not _ (· ≠ ':') line
      rw [after] at first
      simpa using first
    subst colon
    refine ⟨line.takeWhile (· ≠ ':'),value,?_,fun member => ?_,?_⟩
    · rw [← after,List.takeWhile_append_dropWhile]
    · simpa using List.mem_takeWhile_imp member
    · rw [flatten_singletons,flatten_singletons]

theorem headerField_join {key value : Text} (free : ':' ∉ key)
    (plain : Text.Plain (key ++ ':' :: ' ' :: value)) (whole : ¬Text.crlf <:+: key ++ ':' :: ' ' :: value) :
    headerField foundation (key ++ ':' :: ' ' :: value) =
      .ok (Text.trimmingWhitespaces key,Text.trimmingWhitespaces value) := by
  have all : ∀ c ∈ key, decide (c ≠ ':') = true := by
    intro c member
    exact decide_eq_true (fun same => free (same ▸ member))
  have taken : (key ++ ':' :: ' ' :: value).takeWhile (· ≠ ':') = key := by
    rw [List.takeWhile_append_of_pos all]
    simp
  have dropped : (key ++ ':' :: ' ' :: value).dropWhile (· ≠ ':') = ':' :: ' ' :: value := by
    rw [List.dropWhile_append_of_pos all]
    simp
  rw [headerField,span_characters foundation plain whole,taken,dropped]
  simp only [List.map_cons]
  rw [List.flatten_cons,flatten_singletons,flatten_singletons]
  exact congrArg (fun value => Except.ok (Text.trimmingWhitespaces key,value)) (Text.trimmingWhitespaces_space value)

theorem mem_mapM {α β ε : Type} {f : α → Except ε β} {items : List α} {results : List β}
    (read : items.mapM f = .ok results) {result : β} (member : result ∈ results) :
    ∃ item ∈ items, f item = .ok result := by
  induction items generalizing results with
  | nil =>
    cases read
    cases member
  | cons item items ih =>
    rw [List.mapM_cons] at read
    cases first : f item with
    | error e => simp [first,bind,Except.bind] at read
    | ok one =>
      cases later : items.mapM f with
      | error e => simp [first,later,bind,Except.bind] at read
      | ok others =>
        simp only [first,later,bind,Except.bind,pure,Except.pure,Except.ok.injEq] at read
        subst read
        rcases List.mem_cons.mp member with rfl | rest
        · exact ⟨item,List.mem_cons_self,first⟩
        · obtain ⟨origin,inside,same⟩ := ih later rest
          exact ⟨origin,List.mem_cons_of_mem item inside,same⟩

/-- What reading a header text promises of its parts. -/
structure Lines.WellFormed (lines : Lines) : Prop where
  words : ∀ word ∈ [lines.method,lines.path,lines.HTTPVersion], ' ' ∉ word ∧ ¬Text.crlf <:+: word ∧ Text.Plain word
  fields : ∀ field ∈ lines.headers, ':' ∉ field.1 ∧ ∀ part ∈ [field.1,field.2],
    ¬Text.crlf <:+: part ∧ Text.Plain part ∧ Text.trimmingWhitespaces part = part

theorem read_ok_iff {headerString : Text} {lines : Lines} :
    Lines.read foundation headerString = .ok lines ↔ 3 ≤ (Text.lines headerString).length ∧
      Text.components ' ' ((Text.lines headerString).headD []) = [lines.method,lines.path,lines.HTTPVersion] ∧
      (((Text.lines headerString).drop 1).take ((Text.lines headerString).length - 3)).mapM (headerField foundation) =
        .ok lines.headers := by
  obtain ⟨method,path,HTTPVersion,headers⟩ := lines
  rw [Lines.read]
  split
  · next short =>
    refine iff_of_false (by simp) (fun ⟨long,_⟩ => ?_)
    omega
  · next long =>
    split
    · next words =>
      rw [words]
      cases (((Text.lines headerString).drop 1).take ((Text.lines headerString).length - 3)).mapM
        (headerField foundation) with
      | error e => simp [Except.map]
      | ok fields => simp [Except.map,Nat.not_lt.mp long,and_assoc]
    · next other =>
      refine iff_of_false (by simp) (fun ⟨_,words,_⟩ => ?_)
      exact other _ _ _ words

theorem read_wellFormed {headerString : Text} (plain : Text.Plain headerString) {lines : Lines}
    (read : Lines.read foundation headerString = .ok lines) : lines.WellFormed := by
  obtain ⟨long,words,fields⟩ := (read_ok_iff foundation).mp read
  obtain ⟨first,rest,cut,-⟩ := Text.lines_eq_cons headerString
  constructor
  · intro word member
    have piece : word ∈ Text.components ' ' ((Text.lines headerString).headD []) := by rwa [words]
    have line : (Text.lines headerString).headD [] ∈ Text.lines headerString := by simp [cut]
    have within := Text.infix_of_mem_components piece
    exact ⟨Text.not_mem_of_mem_components piece,fun inside => Text.not_crlf_of_mem_lines line (inside.trans within),
      plain.of_infix (within.trans (Text.infix_of_mem_lines line))⟩
  · intro field member
    obtain ⟨line,among,same⟩ := mem_mapM fields member
    have piece := List.mem_of_mem_drop (List.mem_of_mem_take among)
    have free := Text.not_crlf_of_mem_lines piece
    have whole := plain.of_infix (Text.infix_of_mem_lines piece)
    obtain ⟨key,value,rfl,colon,rfl⟩ := headerField_ok foundation whole free same
    refine ⟨fun inside => colon ((Text.trimmingWhitespaces_infix key).subset inside),?_⟩
    have first := (Text.trimmingWhitespaces_infix key).trans (List.prefix_append key (':' :: value)).isInfix
    have second := (Text.trimmingWhitespaces_infix value).trans
      ((List.suffix_cons ':' value).trans (List.suffix_append key _)).isInfix
    simp only [List.forall_mem_cons,List.not_mem_nil,false_imp_iff,implies_true,and_true]
    exact ⟨⟨fun inside => free (inside.trans first),whole.of_infix first,Text.trimmingWhitespaces_idem key⟩,
      fun inside => free (inside.trans second),whole.of_infix second,Text.trimmingWhitespaces_idem value⟩

theorem line_free {field : Text × Text} (parts : ∀ part ∈ [field.1,field.2], ¬Text.crlf <:+: part) :
    ¬Text.crlf <:+: field.1 ++ ':' :: ' ' :: field.2 := by
  have value : ¬Text.crlf <:+: [] ++ ' ' :: field.2 :=
    Text.not_crlf_join (by decide) (by simp [Text.crlf]) (parts _ (by simp))
  exact Text.not_crlf_join (by decide) (parts _ (by simp)) value

theorem lines_fields {fields : List (Text × Text)}
    (plain : ∀ field ∈ fields, ∀ part ∈ [field.1,field.2], ¬Text.crlf <:+: part) :
    Text.lines (fields.flatMap (fun field => field.1 ++ ':' :: ' ' :: field.2 ++ Text.crlf) ++ Text.crlf) =
      fields.map (fun field => field.1 ++ ':' :: ' ' :: field.2) ++ [[],[]] := by
  induction fields with
  | nil => rfl
  | cons field fields ih =>
    have line := line_free (plain field List.mem_cons_self)
    have later := ih (fun other member => plain other (List.mem_cons_of_mem field member))
    rw [List.flatMap_cons,List.append_assoc,List.append_assoc,Text.lines_append _ line,later,List.map_cons,
      List.cons_append]

theorem mapM_ok {α β ε : Type} {f : α → Except ε β} {items : List α} {result : α → β}
    (each : ∀ item ∈ items, f item = .ok (result item)) : items.mapM f = .ok (items.map result) := by
  induction items with
  | nil => rfl
  | cons item items ih =>
    rw [List.mapM_cons,each item List.mem_cons_self,
      ih (fun other member => each other (List.mem_cons_of_mem item member))]
    rfl

/-- A header that is written reads back. -/
theorem read_toString {lines : Lines} (wellFormed : lines.WellFormed) :
    Lines.read foundation lines.toString = .ok lines := by
  obtain ⟨words,fields⟩ := wellFormed
  obtain ⟨method,path,HTTPVersion,headers⟩ := lines
  simp only [List.forall_mem_cons,List.not_mem_nil,false_imp_iff,implies_true,and_true] at words
  obtain ⟨method_plain,path_plain,version_plain⟩ := words
  have target : ¬Text.crlf <:+: path ++ ' ' :: HTTPVersion :=
    Text.not_crlf_join (by decide) path_plain.2.1 version_plain.2.1
  have request : ¬Text.crlf <:+: method ++ ' ' :: (path ++ ' ' :: HTTPVersion) :=
    Text.not_crlf_join (by decide) method_plain.2.1 target
  have cut : Text.lines (Lines.toString ⟨method,path,HTTPVersion,headers⟩) =
      (method ++ ' ' :: (path ++ ' ' :: HTTPVersion)) ::
        (headers.map (fun field => field.1 ++ ':' :: ' ' :: field.2) ++ [[],[]]) := by
    rw [Lines.toString,List.append_assoc,Text.lines_append _ request,
      lines_fields (fun field member part among => ((fields field member).2 part among).1)]
  rw [read_ok_iff foundation,cut]
  refine ⟨by simp,?_,?_⟩
  · rw [List.headD_cons,Text.components_field _ method_plain.1,Text.components_field _ path_plain.1,
      Text.components_last version_plain.1]
  · have taken : ((method ++ ' ' :: (path ++ ' ' :: HTTPVersion)) ::
        (headers.map (fun field => field.1 ++ ':' :: ' ' :: field.2) ++ [[],[]])).drop 1 =
          headers.map (fun field => field.1 ++ ':' :: ' ' :: field.2) ++ [[],[]] := rfl
    have count : ((method ++ ' ' :: (path ++ ' ' :: HTTPVersion)) ::
        (headers.map (fun field => field.1 ++ ':' :: ' ' :: field.2) ++ [[],[]])).length - 3 =
          (headers.map (fun field => field.1 ++ ':' :: ' ' :: field.2)).length := by simp
    rw [taken,count,List.take_left,List.mapM_map]
    have each : ∀ field ∈ headers, headerField foundation (field.1 ++ ':' :: ' ' :: field.2) = .ok (id field) := by
      intro field member
      obtain ⟨colon,parts⟩ := fields field member
      obtain ⟨free,plain,trimmed⟩ := parts field.1 (by simp)
      obtain ⟨-,plain',trimmed'⟩ := parts field.2 (by simp)
      have value : Text.Plain (' ' :: field.2) := List.forall_mem_cons.mpr ⟨by decide,plain'⟩
      rw [headerField_join foundation colon (plain.join (by decide) value) (line_free (parts · · |>.1)),trimmed,
        trimmed']
      rfl
    exact (mapM_ok each).trans (congrArg Except.ok (List.map_id headers))

theorem resolve_lines {lines : Lines} {header : HTTPHeader} (resolved : lines.resolve foundation = .ok header) :
    header.lines = lines := by
  rw [Lines.resolve] at resolved
  split at resolved
  · cases target : connectTarget lines.path with
    | error e => simp [target,bind,Except.bind] at resolved
    | ok address =>
      simp only [target,bind,Except.bind,pure,Except.pure,Except.ok.injEq] at resolved
      subst resolved
      rfl
  · cases target : destination foundation lines.path lines.headers with
    | error e => simp [target,bind,Except.bind] at resolved
    | ok address =>
      cases length : contentLengthField foundation lines.headers with
      | error e => simp [target,length,bind,Except.bind] at resolved
      | ok contentLength =>
        simp only [target,length,bind,Except.bind,pure,Except.pure,Except.ok.injEq] at resolved
        subst resolved
        rfl

theorem init_ok_iff {headerString : Text} {header : HTTPHeader} :
    init foundation headerString = .ok header ↔
      Lines.read foundation headerString = .ok header.lines ∧ header.lines.resolve foundation = .ok header := by
  rw [init]
  cases read : Lines.read foundation headerString with
  | error e => simp [bind,Except.bind]
  | ok lines =>
    constructor
    · intro resolved
      have same := resolve_lines foundation resolved
      exact ⟨congrArg Except.ok same.symm,same ▸ resolved⟩
    · rintro ⟨same,resolved⟩
      cases same
      exact resolved

/-- The text of a header that was accepted is accepted as the same header, where no combining character makes up
another Character with a colon. -/
theorem init_toString {headerString : Text} (plain : Text.Plain headerString) {header : HTTPHeader}
    (accepted : init foundation headerString = .ok header) : init foundation header.toString = .ok header := by
  obtain ⟨read,resolved⟩ := (init_ok_iff foundation).mp accepted
  exact (init_ok_iff foundation).mpr ⟨read_toString foundation (read_wellFormed foundation plain read),resolved⟩

def relativePath (path : Text) : Text :=
  if (foundation.characters path).head? = some ['/'] then path
  else (URL.matchRelativePath foundation path).getD path

theorem relativePath_infix (path : Text) : relativePath foundation path <:+: path := by
  rw [relativePath]
  split
  · exact List.infix_rfl
  · cases matched : URL.matchRelativePath foundation path with
    | none => exact List.infix_rfl
    | some rest => exact matchRelativePath_infix foundation matched

def named (key : Text) (field : Text × Text) : Bool := foundation.orderedSame field.1 key

def withoutProxyFields (headers : List (Text × Text)) : List (Text × Text) :=
  proxyHeaders.foldl (fun fields key => fields.eraseP (named foundation key)) headers

theorem removeProxyHeader_eq (header : HTTPHeader) :
    removeProxyHeader foundation header = {header with headers := withoutProxyFields foundation header.headers} := by
  have each (keys : List Text) (header : HTTPHeader) : keys.foldl (removeHeader foundation) header =
      {header with headers := keys.foldl (fun fields key => fields.eraseP (named foundation key)) header.headers} := by
    induction keys generalizing header with
    | nil => rfl
    | cons key keys ih =>
      rw [List.foldl_cons,ih]
      rfl
  exact each proxyHeaders header

theorem rewriteToRelativePath_eq {header : HTTPHeader} (plain : Text.Plain header.path) :
    rewriteToRelativePath foundation header =
      if header.path = [] then none else some {header with path := relativePath foundation header.path} := by
  rw [rewriteToRelativePath,relativePath]
  cases cut : foundation.characters header.path with
  | nil =>
    rw [if_pos]
    rw [foundation.characters_plain _ plain] at cut
    exact Text.eq_nil_of_characters cut
  | cons first rest =>
    have filled : header.path ≠ [] := by
      intro empty
      rw [foundation.characters_plain _ plain,empty,Text.characters] at cut
      cases cut
    rw [if_neg filled,List.head?_cons]
    simp only [Option.some.injEq]
    split <;> rfl

theorem foldl_eraseP_sublist (keys : List Text) (fields : List (Text × Text)) :
    (keys.foldl (fun fields key => fields.eraseP (named foundation key)) fields).Sublist fields := by
  induction keys generalizing fields with
  | nil => exact List.Sublist.refl fields
  | cons key keys ih => exact (ih _).trans List.eraseP_sublist

theorem countP_eraseP {α : Type} (p : α → Bool) (items : List α) : (items.eraseP p).countP p = items.countP p - 1 := by
  induction items with
  | nil => rfl
  | cons item items ih =>
    cases found : p item with
    | true => simp [found]
    | false => simp [found,ih]

theorem countP_foldl_eraseP {keys : List Text} {key : Text} (member : key ∈ keys) (fields : List (Text × Text)) :
    (keys.foldl (fun fields key => fields.eraseP (named foundation key)) fields).countP (named foundation key) ≤
      fields.countP (named foundation key) - 1 := by
  induction keys generalizing fields with
  | nil => cases member
  | cons first keys ih =>
    rw [List.foldl_cons]
    rcases List.mem_cons.mp member with rfl | later
    · rw [← countP_eraseP]
      exact (foldl_eraseP_sublist foundation keys _).countP_le
    · have fewer : (fields.eraseP (named foundation first)).countP (named foundation key) ≤
          fields.countP (named foundation key) := List.eraseP_sublist.countP_le
      have rest := ih later (fields.eraseP (named foundation first))
      omega

/-- What the proxy sends on for an accepted header reads back as the same request with a relative
path and without the first field of each proxy name; only an empty path traps. -/
theorem forwarded_reads {headerString : Text} (plain : Text.Plain headerString) {header : HTTPHeader}
    (accepted : init foundation headerString = .ok header) :
    (rewriteToRelativePath foundation (removeProxyHeader foundation header) = none ↔ header.path = []) ∧
      ∀ sent, rewriteToRelativePath foundation (removeProxyHeader foundation header) = some sent →
        Lines.read foundation sent.toString = .ok {header.lines with
          path := relativePath foundation header.path
          headers := withoutProxyFields foundation header.headers} ∧
        ∀ key ∈ proxyHeaders, sent.headers.countP (named foundation key) ≤
          header.headers.countP (named foundation key) - 1 := by
  obtain ⟨read,-⟩ := (init_ok_iff foundation).mp accepted
  obtain ⟨words,fields⟩ := read_wellFormed foundation plain read
  obtain ⟨free,bare,small⟩ := words header.path (by simp [lines])
  rw [removeProxyHeader_eq,rewriteToRelativePath_eq foundation (by exact small)]
  by_cases empty : header.path = []
  · rw [if_pos empty]
    exact ⟨⟨fun _ => empty,fun _ => rfl⟩,fun _ impossible => by cases impossible⟩
  · rw [if_neg empty]
    refine ⟨⟨fun impossible => (by cases impossible),fun path => absurd path empty⟩,?_⟩
    rintro sent ⟨⟩
    refine ⟨read_toString foundation ⟨?_,?_⟩,
      fun key member => countP_foldl_eraseP foundation member header.headers⟩
    · have shorter := relativePath_infix foundation header.path
      intro word member
      rcases List.mem_cons.mp member with rfl | member
      · exact words header.method (by simp [lines])
      rcases List.mem_cons.mp member with rfl | member
      · exact ⟨fun inside => free (shorter.subset inside),fun inside => bare (inside.trans shorter),
          small.of_infix shorter⟩
      · cases List.mem_singleton.mp member
        exact words header.HTTPVersion (by simp [lines])
    · intro field member
      exact fields field ((foldl_eraseP_sublist foundation proxyHeaders header.headers).subset member)

def plainFoundation : Foundation where
  orderedSame first second := first.map Char.toLower = second.map Char.toLower
  url path := some (if "http://".toList <+: path then some ((path.drop 7).takeWhile (· ≠ '/')) else none,none)
  characters := Text.characters
  characters_plain _ _ := rfl
  wordCharacter c := c.isAlphanum || c = '_'
  decimalDigit := Char.isDigit

def request : Text :=
  "POST http://tenon.com/a HTTP/1.1\r\nhost:tenon.com\r\ncontent-length: 3 \r\nproxy-connection:close\r\n\r\n".toList

def requested : HTTPHeader where
  HTTPVersion := "HTTP/1.1".toList
  method := "POST".toList
  isConnect := false
  path := "http://tenon.com/a".toList
  host := "tenon.com".toList
  port := 80
  contentLength := 3
  headers := [("host".toList,"tenon.com".toList),("content-length".toList,"3".toList),
    ("proxy-connection".toList,"close".toList)]

theorem init_request : init plainFoundation request = .ok requested := by decide +kernel

theorem init_toString_requested : init plainFoundation requested.toString = .ok requested :=
  init_toString plainFoundation (by decide +kernel) init_request

theorem forwarded_reads_requested :
    (rewriteToRelativePath plainFoundation (removeProxyHeader plainFoundation requested) = none ↔
      requested.path = []) ∧
      ∀ sent, rewriteToRelativePath plainFoundation (removeProxyHeader plainFoundation requested) = some sent →
        Lines.read plainFoundation sent.toString = .ok {requested.lines with
          path := relativePath plainFoundation requested.path
          headers := withoutProxyFields plainFoundation requested.headers} ∧
        ∀ key ∈ proxyHeaders, sent.headers.countP (named plainFoundation key) ≤
          requested.headers.countP (named plainFoundation key) - 1 :=
  forwarded_reads plainFoundation (by decide +kernel) init_request

end HTTPHeader
end TenonVpn
