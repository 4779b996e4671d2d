import Mathlib.Data.List.Infix

/-! The places of a list where a pattern stands, and the last of them in a window. What is new in
a list that grows at its end stands at its end, so a window of the length of the pattern and of
what was added finds it. -/
namespace TenonVpn.Occurrence
variable {α : Type*}

def At (pattern list : List α) (place : Nat) : Prop := pattern <+: list.drop place

instance decidableAt [DecidableEq α] (pattern list : List α) (place : Nat) : Decidable (At pattern list place) :=
  inferInstanceAs (Decidable (pattern <+: list.drop place))

/-- The last place at or behind the start; an empty pattern is found nowhere. -/
def last [DecidableEq α] (pattern list : List α) (start : Nat) : Option Nat :=
  if pattern = [] then none
  else (List.range list.length).reverse.find? (fun place => start ≤ place ∧ At pattern list place)

variable {pattern list front back : List α} {place start : Nat}

theorem At.split (found : At pattern list place) :
    list = list.take place ++ pattern ++ list.drop (place + pattern.length) := by
  obtain ⟨rest,whole⟩ := found
  have behind : list.drop (place + pattern.length) = rest := by
    rw [← List.drop_drop,← whole,List.drop_left]
  rw [behind,List.append_assoc,whole,List.take_append_drop]

theorem At.take (found : At pattern list place) :
    list.take (place + pattern.length) = list.take place ++ pattern := by
  rw [List.take_add,← List.prefix_iff_eq_take.mp found]

theorem At.within (found : At pattern list place) (filled : pattern ≠ []) :
    place + pattern.length ≤ list.length := by
  have lengths := found.length_le
  have positive := List.length_pos_iff.mpr filled
  rw [List.length_drop] at lengths
  omega

theorem at_infix (found : At pattern list place) : pattern <:+: list :=
  found.isInfix.trans (List.drop_suffix place list).isInfix

theorem exists_at (inside : pattern <:+: list) : ∃ place, At pattern list place := by
  obtain ⟨before,after,whole⟩ := inside
  refine ⟨before.length,after,?_⟩
  rw [← whole,List.append_assoc,List.drop_left]

/-- A place that ends in the front of a list is one of the front. -/
theorem At.of_append (found : At pattern (front ++ back) place) (ends : place + pattern.length ≤ front.length) :
    At pattern front place := by
  rw [At,List.drop_append_of_le_length (by omega)] at found
  refine List.prefix_of_prefix_length_le found (List.prefix_append _ _) ?_
  rw [List.length_drop]
  omega

variable [DecidableEq α]

theorem last_eq_some (found : last pattern list start = some place) :
    start ≤ place ∧ At pattern list place ∧ ∀ later, place < later → ¬At pattern list later := by
  rw [last] at found
  split at found
  next => cases found
  next filled =>
    obtain ⟨holds,before,after,whole,none_before⟩ := List.find?_eq_some_iff_append.mp found
    rw [decide_eq_true_eq] at holds
    refine ⟨holds.1,holds.2,fun later behind at_later => ?_⟩
    have within := at_later.within filled
    have positive := List.length_pos_iff.mpr filled
    have member : later ∈ (List.range list.length).reverse := by
      simp only [List.mem_reverse,List.mem_range]
      omega
    have falling : (List.range list.length).reverse.Pairwise (· > ·) :=
      List.pairwise_reverse.mpr List.pairwise_lt_range
    rw [whole] at member falling
    rcases List.mem_append.mp member with earlier | rest
    · have passed := none_before later earlier
      simp only [Bool.not_eq_true',decide_eq_false_iff_not] at passed
      exact passed ⟨by omega,at_later⟩
    · rcases List.mem_cons.mp rest with rfl | smaller
      · omega
      · have less := (List.pairwise_cons.mp (List.pairwise_append.mp falling).2.1).1 later smaller
        omega

theorem last_eq_none (filled : pattern ≠ []) :
    last pattern list start = none ↔ ∀ place, start ≤ place → ¬At pattern list place := by
  rw [last,if_neg filled,List.find?_eq_none]
  constructor
  · intro nowhere place behind found
    have within := found.within filled
    have positive := List.length_pos_iff.mpr filled
    exact nowhere place (by simp only [List.mem_reverse,List.mem_range]; omega) (by simp [behind,found])
  · intro nowhere place member found
    rw [decide_eq_true_eq] at found
    exact nowhere place found.1 found.2

end TenonVpn.Occurrence
