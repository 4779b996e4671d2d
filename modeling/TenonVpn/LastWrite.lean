import Mathlib.Data.List.Basic
import Mathlib.Data.List.Lattice
import Mathlib.Logic.Function.Basic

/-! A map into which a list of pairs is written in order: what it holds of a key is the
last value that was written to the key. -/
namespace TenonVpn

namespace LastWrite
variable {κ ν : Type} [DecidableEq κ]

def write (map : κ → Option ν) (pair : κ × ν) : κ → Option ν := Function.update map pair.1 (some pair.2)

def writeAll (map : κ → Option ν) (pairs : List (κ × ν)) : κ → Option ν := pairs.foldl write map

/-- The value that is written last to the key. -/
def lastOf (pairs : List (κ × ν)) (key : κ) : Option ν := pairs.reverse.lookup key

theorem lastOf_cons (pair : κ × ν) (pairs : List (κ × ν)) (key : κ) :
    lastOf (pair :: pairs) key = (lastOf pairs key).or (if key = pair.1 then some pair.2 else none) := by
  rw [lastOf,List.reverse_cons,List.lookup_append,List.lookup_cons]
  by_cases same : key = pair.1
  · rw [if_pos same,beq_iff_eq.mpr same]
    rfl
  · rw [if_neg same,beq_eq_false_iff_ne.mpr same]
    rfl

theorem writeAll_apply (map : κ → Option ν) (pairs : List (κ × ν)) (key : κ) :
    writeAll map pairs key = (lastOf pairs key).or (map key) := by
  induction pairs generalizing map with
  | nil => rfl
  | cons pair pairs ih =>
    have later : writeAll map (pair :: pairs) key = writeAll (write map pair) pairs key := rfl
    rw [later,ih,lastOf_cons,Option.or_assoc,write,Function.update_apply]
    split <;> rfl

theorem lastOf_eq_none_iff {pairs : List (κ × ν)} {key : κ} :
    lastOf pairs key = none ↔ key ∉ pairs.map Prod.fst := by
  rw [lastOf,List.lookup_eq_none_iff,List.mem_map]
  constructor
  · rintro apart ⟨pair,member,same⟩
    exact absurd same.symm (by simpa using apart pair (List.mem_reverse.mpr member))
  · intro apart pair member
    exact bne_iff_ne.mpr (fun same => apart ⟨pair,List.mem_reverse.mp member,same.symm⟩)

theorem lastOf_split {earlier later : List (κ × ν)} {key : κ} (value : ν) (last : key ∉ later.map Prod.fst) :
    lastOf (earlier ++ (key,value) :: later) key = some value := by
  have none' := lastOf_eq_none_iff.mpr last
  rw [lastOf] at none' ⊢
  rw [List.reverse_append,List.reverse_cons,List.append_assoc,List.lookup_append,none',List.singleton_append,
    List.lookup_cons_self]
  rfl

theorem exists_last {pairs : List (κ × ν)} {key : κ} (member : key ∈ pairs.map Prod.fst) :
    ∃ earlier value later, pairs = earlier ++ (key,value) :: later ∧ key ∉ later.map Prod.fst := by
  induction pairs with
  | nil => exact absurd member List.not_mem_nil
  | cons pair pairs ih =>
    by_cases again : key ∈ pairs.map Prod.fst
    · obtain ⟨earlier,value,later,same,last⟩ := ih again
      exact ⟨pair :: earlier,value,later,congrArg (pair :: ·) same,last⟩
    · rcases List.mem_cons.mp member with rfl | later
      · exact ⟨[],pair.2,pairs,rfl,again⟩
      · exact absurd later again

/-- Writing the same pairs again changes nothing. -/
theorem writeAll_twice (map : κ → Option ν) (pairs : List (κ × ν)) :
    writeAll (writeAll map pairs) pairs = writeAll map pairs := by
  ext1 key
  rw [writeAll_apply,writeAll_apply,← Option.or_assoc,Option.or_self]

/-- Lists of pairs without a common key may be written in either order. -/
theorem writeAll_comm (map : κ → Option ν) {first second : List (κ × ν)}
    (disjoint : (first.map Prod.fst).Disjoint (second.map Prod.fst)) :
    writeAll (writeAll map first) second = writeAll (writeAll map second) first := by
  ext1 key
  rw [writeAll_apply,writeAll_apply,writeAll_apply,writeAll_apply]
  by_cases member : key ∈ first.map Prod.fst
  · rw [lastOf_eq_none_iff.mpr (disjoint member),Option.none_or,Option.none_or]
  · rw [lastOf_eq_none_iff.mpr member,Option.none_or,Option.none_or]

end LastWrite
end TenonVpn
