import TenonVpn.LastWrite
import Mathlib.Data.List.Range

/-! Writes into a buffer as a list of indices with their values, and what the buffer then
holds. Values that are written one after the other land at consecutive indices. -/
namespace TenonVpn

namespace Writes
variable {ν : Type}

def indexed : Nat → List ν → List (Nat × ν)
  | _, [] => []
  | start, value :: rest => (start,value) :: indexed (start+1) rest

/-- The first values of the buffer: what was written last at each index, or what the memory held. -/
def content (memory : Nat → ν) (writes : List (Nat × ν)) (length : Nat) : List ν :=
  (List.range length).map fun index => (LastWrite.lastOf writes index).getD (memory index)

theorem indexed_append (start : Nat) (first second : List ν) :
    indexed start (first ++ second) = indexed start first ++ indexed (start + first.length) second := by
  induction first generalizing start with
  | nil => rfl
  | cons value rest ih =>
    rw [List.cons_append,indexed,ih,indexed,List.length_cons,Nat.add_assoc,Nat.add_comm 1]
    rfl

theorem lastOf_indexed (start : Nat) (values : List ν) (index : Nat) :
    LastWrite.lastOf (indexed start values) index = if start ≤ index then values[index - start]? else none := by
  induction values generalizing start with
  | nil => simp [indexed,LastWrite.lastOf]
  | cons value rest ih =>
    rw [indexed,LastWrite.lastOf_cons,ih]
    rcases Nat.lt_trichotomy index start with before | here | after
    · rw [if_neg (by omega),if_neg (by omega),if_neg (by omega)]
      rfl
    · subst here
      rw [if_neg (by omega),if_pos rfl,if_pos (Nat.le_refl index),Nat.sub_self]
      rfl
    · have shifted : index - start = (index - (start+1)) + 1 := by omega
      rw [if_pos (by omega),if_neg (by omega),if_pos (by omega),shifted,List.getElem?_cons_succ]
      exact Option.or_none

/-- Consecutive writes stay below a size exactly if they end there. -/
theorem indexed_lt_iff {start size : Nat} {values : List ν} :
    (∀ write ∈ indexed start values, write.1 < size) ↔ values = [] ∨ start + values.length ≤ size := by
  induction values generalizing start with
  | nil => simp [indexed]
  | cons value rest ih =>
    simp only [indexed,List.forall_mem_cons,ih,List.length_cons,reduceCtorEq,false_or]
    constructor
    · rintro ⟨first,rfl | later⟩
      · exact first
      · omega
    · exact fun fits => ⟨by omega,Or.inr (by omega)⟩

theorem take_content (memory : Nat → ν) (writes : List (Nat × ν)) (first length : Nat) :
    (content memory writes length).take first = content memory writes (min first length) := by
  rw [content,← List.map_take,List.take_range]
  rfl

theorem content_indexed (memory : Nat → ν) {values : List ν} {length : Nat} (bound : length ≤ values.length) :
    content memory (indexed 0 values) length = values.take length := by
  apply List.ext_getElem?
  intro index
  rw [content,List.getElem?_map,List.getElem?_take]
  by_cases inside : index < length
  · rw [if_pos inside,List.getElem?_range inside,Option.map_some,lastOf_indexed,if_pos (Nat.zero_le index),
      Nat.sub_zero,List.getElem?_eq_getElem (Nat.lt_of_lt_of_le inside bound)]
    rfl
  · rw [if_neg inside,List.getElem?_eq_none (by simpa using Nat.not_lt.mp inside)]
    rfl

end Writes
end TenonVpn
