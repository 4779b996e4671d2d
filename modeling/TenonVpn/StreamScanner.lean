import TenonVpn.Occurrence
import TenonVpn.Data

/-! `StreamScanner`: chunks are collected until a pattern has come, or too much without it. What it
finds is the last place of the pattern in what has come so far, and it looks at the end only. -/
namespace TenonVpn

structure StreamScanner where
  receivedData : Data := []
  pattern : Data
  maximumLength : Int
  finished : Bool := false

namespace StreamScanner

/-- What a scan returns: the data up to the end of the pattern, none where there was too much, and the rest. -/
abbrev Found := Option Data × Data

def addAndScan (scanner : StreamScanner) (data : Data) : Option Found × StreamScanner :=
  if scanner.finished then (none,scanner)
  else
    let receivedData := scanner.receivedData ++ data
    let startind := receivedData.length - scanner.pattern.length - data.length
    match Occurrence.last scanner.pattern receivedData startind with
    | none =>
      if scanner.maximumLength < receivedData.length then
        (some (none,receivedData),{scanner with receivedData, finished := true})
      else (none,{scanner with receivedData})
    | some location =>
      let foundEndIndex := location + scanner.pattern.length
      (some (some (receivedData.take foundEndIndex),receivedData.drop foundEndIndex),
        {scanner with receivedData, finished := true})

/-- A scanner that still looks for its pattern. -/
structure Searching (scanner : StreamScanner) : Prop where
  filled : scanner.pattern ≠ []
  running : scanner.finished = false
  absent : ¬scanner.pattern <:+: scanner.receivedData

variable {scanner next : StreamScanner} {data : Data}

/-- Nothing of what is new is left out of the window. -/
theorem window (searching : scanner.Searching) {place : Nat}
    (found : Occurrence.At scanner.pattern (scanner.receivedData ++ data) place) :
    (scanner.receivedData ++ data).length - scanner.pattern.length - data.length ≤ place := by
  rw [List.length_append]
  by_contra before
  exact searching.absent (Occurrence.at_infix (found.of_append (by omega)))

/-- What a scan says of all data that came so far. -/
inductive Scanned (pattern : Data) (maximumLength : Int) (whole : Data) : Option Found → Prop
  | nothing (absent : ¬pattern <:+: whole) (short : whole.length ≤ maximumLength) :
      Scanned pattern maximumLength whole none
  | tooMuch (absent : ¬pattern <:+: whole) (long : maximumLength < whole.length) :
      Scanned pattern maximumLength whole (some (none,whole))
  | found (before rest : Data) (split : whole = before ++ pattern ++ rest)
      (last : ∀ later, before.length < later → ¬Occurrence.At pattern whole later) :
      Scanned pattern maximumLength whole (some (some (before ++ pattern),rest))

theorem addAndScan_scanned (searching : scanner.Searching) (data : Data) :
    Scanned scanner.pattern scanner.maximumLength (scanner.receivedData ++ data) (scanner.addAndScan data).1 := by
  rw [addAndScan,searching.running]
  dsimp only
  rw [if_neg Bool.false_ne_true]
  split
  next missing =>
    have absent : ¬scanner.pattern <:+: scanner.receivedData ++ data := by
      intro inside
      obtain ⟨place,found⟩ := Occurrence.exists_at inside
      exact (Occurrence.last_eq_none searching.filled).mp missing place (window searching found) found
    split
    next long => exact .tooMuch absent long
    next short => exact .nothing absent (by omega)
  next location found =>
    obtain ⟨-,here,last⟩ := Occurrence.last_eq_some found
    have within := here.within searching.filled
    have split := here.split
    rw [here.take]
    refine .found _ _ split ?_
    rw [List.length_take,min_eq_left (by omega)]
    exact last

theorem addAndScan_searching (searching : scanner.Searching) (nothing : (scanner.addAndScan data).1 = none) :
    (scanner.addAndScan data).2 = {scanner with receivedData := scanner.receivedData ++ data} ∧
      (scanner.addAndScan data).2.Searching := by
  have same : (scanner.addAndScan data).2 = {scanner with receivedData := scanner.receivedData ++ data} := by
    rw [addAndScan,searching.running] at nothing ⊢
    dsimp only at nothing ⊢
    rw [if_neg Bool.false_ne_true] at nothing ⊢
    split at nothing
    next =>
      split at nothing
      next => cases nothing
      next short =>
        rw [if_neg short]
    next => cases nothing
  have scanned := addAndScan_scanned searching data
  rw [nothing] at scanned
  rw [same]
  refine ⟨rfl,searching.filled,searching.running,?_⟩
  cases scanned with
  | nothing absent short => exact absent

/-- Scans one chunk after the other until something is found. -/
def feed (scanner : StreamScanner) : List Data → Option Found
  | [] => none
  | data :: rest => (scanner.addAndScan data).1.elim (feed (scanner.addAndScan data).2 rest) some

/-- The outcome is the one for the chunks up to it at once; it was not there one chunk before. -/
theorem feed_scanned (searching : scanner.Searching) (short : scanner.receivedData.length ≤ scanner.maximumLength)
    (chunks : List Data) :
    (scanner.feed chunks = none ∧ Scanned scanner.pattern scanner.maximumLength
      (scanner.receivedData ++ chunks.flatten) none) ∨
    ∃ earlier last found, earlier ++ [last] <+: chunks ∧ scanner.feed chunks = some found ∧
      Scanned scanner.pattern scanner.maximumLength (scanner.receivedData ++ earlier.flatten) none ∧
      Scanned scanner.pattern scanner.maximumLength (scanner.receivedData ++ (earlier ++ [last]).flatten)
        (some found) := by
  induction chunks generalizing scanner with
  | nil =>
    refine Or.inl ⟨rfl,?_⟩
    rw [List.flatten_nil,List.append_nil]
    exact .nothing searching.absent short
  | cons data rest ih =>
    have scanned := addAndScan_scanned searching data
    rw [feed]
    cases outcome : (scanner.addAndScan data).1 with
    | some found =>
      rw [outcome] at scanned
      refine Or.inr ⟨[],data,found,List.cons_prefix_cons.mpr ⟨rfl,List.nil_prefix⟩,rfl,?_,?_⟩
      · rw [List.flatten_nil,List.append_nil]
        exact .nothing searching.absent short
      · rw [List.nil_append,List.flatten_singleton]
        exact scanned
    | none =>
      rw [outcome] at scanned
      obtain ⟨same,searching'⟩ := addAndScan_searching searching outcome
      rw [same] at searching' ⊢
      have short' : (scanner.receivedData ++ data).length ≤ scanner.maximumLength := by
        cases scanned with
        | nothing absent short => exact short
      rcases ih searching' short' with ⟨nothing,scanned⟩ | ⟨earlier,last,found,front,fed,before,after⟩
      · refine Or.inl ⟨nothing,?_⟩
        rw [List.flatten_cons,← List.append_assoc]
        exact scanned
      · refine Or.inr ⟨data :: earlier,last,found,List.cons_prefix_cons.mpr ⟨rfl,front⟩,fed,?_,?_⟩
        · rw [List.flatten_cons,← List.append_assoc]
          exact before
        · rw [List.cons_append,List.flatten_cons,← List.append_assoc]
          exact after

theorem searching_fresh {pattern : Data} (filled : pattern ≠ []) (maximumLength : Int) :
    Searching {pattern, maximumLength} :=
  ⟨filled,rfl,fun inside => filled (List.infix_nil.mp inside)⟩

/-- These chunks leave the scan open. Before the first chunk it is, also with a negative maximum. -/
def Unended (pattern : Data) (maximumLength : Int) (chunks : List Data) : Prop :=
  Scanned pattern maximumLength chunks.flatten none ∨ chunks = [] ∧ maximumLength < 0

/-- A stream in any chunks: the scan ends at the first chunk with which the pattern is there, or too much without
it, and what it returns is all that has come, cut behind the last place of the pattern. -/
theorem feed_chunks {pattern : Data} (filled : pattern ≠ []) (maximumLength : Int) (chunks : List Data) :
    (feed {pattern, maximumLength} chunks = none ∧ Unended pattern maximumLength chunks) ∨
    ∃ earlier last found, earlier ++ [last] <+: chunks ∧ feed {pattern, maximumLength} chunks = some found ∧
      Unended pattern maximumLength earlier ∧
      Scanned pattern maximumLength (earlier ++ [last]).flatten (some found) := by
  have searching := searching_fresh filled maximumLength
  by_cases positive : 0 ≤ maximumLength
  · rcases feed_scanned searching positive chunks with
      ⟨nothing,scanned⟩ | ⟨earlier,last,found,front,fed,before,after⟩
    · exact Or.inl ⟨nothing,Or.inl scanned⟩
    · exact Or.inr ⟨earlier,last,found,front,fed,Or.inl before,after⟩
  · cases chunks with
    | nil => exact Or.inl ⟨rfl,Or.inr ⟨rfl,by omega⟩⟩
    | cons data rest =>
      have scanned := addAndScan_scanned searching data
      simp only [List.nil_append] at scanned
      rw [feed]
      cases outcome : (addAndScan {pattern, maximumLength} data).1 with
      | none =>
        rw [outcome] at scanned
        cases scanned with
        | nothing _ short => omega
      | some found =>
        rw [outcome] at scanned
        refine Or.inr ⟨[],data,found,List.cons_prefix_cons.mpr ⟨rfl,List.nil_prefix⟩,rfl,Or.inr ⟨rfl,by omega⟩,?_⟩
        rw [List.nil_append,List.flatten_singleton]
        exact scanned

theorem feed_chunks_header : (feed {pattern := [13,10], maximumLength := 8} [[1,13],[10,2]] = none ∧
      Unended [13,10] 8 [[1,13],[10,2]]) ∨
    ∃ earlier last found, earlier ++ [last] <+: [[1,13],[10,2]] ∧
      feed {pattern := [13,10], maximumLength := 8} [[1,13],[10,2]] = some found ∧
      Unended [13,10] 8 earlier ∧ Scanned [13,10] 8 (earlier ++ [last]).flatten (some found) :=
  feed_chunks (by decide) 8 [[1,13],[10,2]]

/-- Where the pattern comes twice, the chunks decide which of them ends the scan. -/
example : feed {pattern := [13,10], maximumLength := 8} [[1,13,10],[2,13,10]] = some (some [1,13,10],[]) ∧
    feed {pattern := [13,10], maximumLength := 8} [[1,13,10,2,13,10]] = some (some [1,13,10,2,13,10],[]) := by
  decide

end StreamScanner
end TenonVpn
