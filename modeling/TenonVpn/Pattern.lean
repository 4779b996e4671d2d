import Mathlib.Data.List.Infix

/-! Regular expressions with numbered groups, as a matcher with backtracking reads them. What they match
from one place stands in the order in which such a matcher tries it, and it takes the first. A match
takes a part of the text, and a group holds a part of what was matched. -/
namespace TenonVpn

/-- `many` takes as much as it can and `few` as little, `ending` looks at what is left. -/
inductive Pattern (α : Type*)
  | one (among : α → Bool)
  | sequence (first second : Pattern α)
  | optional (body : Pattern α)
  | many (among : α → Bool)
  | few (among : α → Bool)
  | group (number : Nat) (body : Pattern α)
  | ending (last : List α → Bool)

namespace Pattern
variable {α : Type*}

structure Match (α : Type*) where
  text : List α
  rest : List α
  groups : List (Nat × List α) := []

namespace Match

def append (first second : Match α) : Match α :=
  ⟨first.text ++ second.text,second.rest,first.groups ++ second.groups⟩

def enclose (number : Nat) (found : Match α) : Match α :=
  {found with groups := (number,found.text) :: found.groups}

/-- What a group has matched, if it took part. -/
def range (found : Match α) (number : Nat) : Option (List α) :=
  (found.groups.find? (fun group => group.1 = number)).map Prod.snd

end Match

/-- The places up to which all is among the given ones, from the first on. -/
def cuts (among : α → Bool) : List α → List (Match α)
  | [] => [{text := [], rest := []}]
  | c :: rest => {text := [], rest := c :: rest} ::
      if among c then (cuts among rest).map (Match.append {text := [c], rest}) else []

def tries : Pattern α → List α → List (Match α)
  | .one _,[] => []
  | .one among,c :: rest => if among c then [{text := [c], rest}] else []
  | .sequence first second,text =>
    (first.tries text).flatMap (fun before => (second.tries before.rest).map before.append)
  | .optional body,text => body.tries text ++ [{text := [], rest := text}]
  | .many among,text => (cuts among text).reverse
  | .few among,text => cuts among text
  | .group number body,text => (body.tries text).map (Match.enclose number)
  | .ending last,text => if last text then [{text := [], rest := text}] else []

/-- The first match from the first place that has one. -/
def find (pattern : Pattern α) : List α → Option (Match α)
  | [] => (pattern.tries []).head?
  | c :: rest => (pattern.tries (c :: rest)).head?.or (pattern.find rest)

/-- One or more, as many as it can. -/
def several (among : α → Bool) : Pattern α := .sequence (.one among) (.many among)

/-- One after the other. -/
def word : List (α → Bool) → Pattern α
  | [] => .ending (fun _ => true)
  | among :: rest => .sequence (.one among) (word rest)

variable {pattern : Pattern α} {text : List α} {found : Match α} {group : Nat × List α}

/-- A match cuts the text in two, and its groups are parts of what was matched. -/
structure Match.Within (found : Match α) (text : List α) : Prop where
  split : found.text ++ found.rest = text
  parts : ∀ group ∈ found.groups, group.2 <:+: found.text

theorem Match.Within.bare {first rest : List α} : Match.Within {text := first, rest} (first ++ rest) :=
  ⟨rfl,List.forall_mem_nil _⟩

theorem Match.Within.append {first second : Match α} (before : first.Within text) (after : second.Within first.rest) :
    (first.append second).Within text := by
  refine ⟨?_,fun group member => ?_⟩
  · rw [Match.append,List.append_assoc,after.split,before.split]
  · rcases List.mem_append.mp member with member | member
    · exact (before.parts group member).trans (List.prefix_append _ _).isInfix
    · exact (after.parts group member).trans (List.suffix_append _ _).isInfix

theorem within_of_mem_cuts {among : α → Bool} (member : found ∈ cuts among text) : found.Within text := by
  induction text generalizing found with
  | nil =>
    cases List.mem_singleton.mp member
    exact .bare
  | cons c rest ih =>
    rcases List.mem_cons.mp member with rfl | member
    · exact .bare
    split at member
    · obtain ⟨later,cut,rfl⟩ := List.mem_map.mp member
      exact .append (@Match.Within.bare _ [c] rest) (ih cut)
    · cases member

theorem within_of_mem_tries (member : found ∈ pattern.tries text) : found.Within text := by
  induction pattern generalizing text found with
  | one among =>
    cases text with
    | nil => cases member
    | cons c rest =>
      rw [tries] at member
      split at member
      · cases List.mem_singleton.mp member
        exact .bare
      · cases member
  | sequence first second before after =>
    obtain ⟨begun,tried,member⟩ := List.mem_flatMap.mp member
    obtain ⟨later,ended,rfl⟩ := List.mem_map.mp member
    exact (before tried).append (after ended)
  | optional body ih =>
    rcases List.mem_append.mp member with member | member
    · exact ih member
    · cases List.mem_singleton.mp member
      exact .bare
  | many among => exact within_of_mem_cuts (List.mem_reverse.mp member)
  | few among => exact within_of_mem_cuts member
  | group number body ih =>
    obtain ⟨inner,tried,rfl⟩ := List.mem_map.mp member
    obtain ⟨split,parts⟩ := ih tried
    exact ⟨split,List.forall_mem_cons.mpr ⟨List.infix_rfl,parts⟩⟩
  | ending last =>
    rw [tries] at member
    split at member
    · cases List.mem_singleton.mp member
      exact .bare
    · cases member

theorem within_of_find (first : pattern.find text = some found) :
    ∃ later, later <:+ text ∧ found ∈ pattern.tries later := by
  induction text with
  | nil => exact ⟨[],List.suffix_rfl,List.mem_of_mem_head? first⟩
  | cons c rest ih =>
    rw [find] at first
    rcases Option.or_eq_some_iff.mp first with here | ⟨-,there⟩
    · exact ⟨c :: rest,List.suffix_rfl,List.mem_of_mem_head? here⟩
    · obtain ⟨later,behind,member⟩ := ih there
      exact ⟨later,behind.trans (List.suffix_cons c rest),member⟩

/-- A group of a match that was found is a part of the text. -/
theorem infix_of_find (first : pattern.find text = some found) {number : Nat} {part : List α}
    (captured : found.range number = some part) : part <:+: text := by
  obtain ⟨later,behind,member⟩ := within_of_find first
  obtain ⟨split,parts⟩ := within_of_mem_tries member
  obtain ⟨group,within,rfl⟩ := Option.map_eq_some_iff.mp captured
  have inside := parts group (List.mem_of_find?_eq_some within)
  rw [← split] at behind
  exact (inside.trans (List.prefix_append _ _).isInfix).trans behind.isInfix

end Pattern
end TenonVpn
