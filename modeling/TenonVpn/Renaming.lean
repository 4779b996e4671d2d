import Mathlib.Data.List.Basic
import Mathlib.Data.List.Perm.Basic
import Mathlib.Data.List.Nodup

/-! A value that a list of pairs renames in one pass, in which each pair looks at what the
pairs before it have made of the value, against the single lookup of the value. -/
namespace TenonVpn

namespace Renaming
variable {α : Type}

/-- The value's image has another image of its own. -/
def Chained (entries : List (α × α)) (start : α) : Prop :=
  ∃ middle last, (start,middle) ∈ entries ∧ (middle,last) ∈ entries ∧ last ≠ middle

/-- Pairs lead from one value to another, each of them later in the list than the one before it. -/
inductive Leads : List (α × α) → α → α → Prop
  | last {key value : α} {later : List (α × α)} : Leads ((key,value) :: later) key value
  | onward {key value final : α} {later : List (α × α)} (leads : Leads later value final) :
      Leads ((key,value) :: later) key final
  | later {entry : α × α} {start final : α} {later : List (α × α)} (leads : Leads later start final) :
      Leads (entry :: later) start final

/-- In this order of the pairs: after the value's own pair none has its image for a key, or
the pairs that lead away from the image lead back to it. -/
def Settled (entries : List (α × α)) (start : α) : Prop :=
  ∀ earlier middle later, entries = earlier ++ (start,middle) :: later →
    middle ∉ later.map Prod.fst ∨ Leads later middle middle

theorem Leads.key {entries : List (α × α)} {start final : α} (leads : Leads entries start final) :
    start ∈ entries.map Prod.fst := by
  induction leads with
  | last => exact List.mem_cons_self
  | onward _ _ => exact List.mem_cons_self
  | later _ ih => exact List.mem_cons_of_mem _ ih

theorem Leads.of_mem {entries : List (α × α)} {key value : α} (member : (key,value) ∈ entries) :
    Leads entries key value := by
  obtain ⟨earlier,later,rfl⟩ := List.append_of_mem member
  induction earlier with
  | nil => exact .last
  | cons _ _ ih => exact .later (ih (by simp))

theorem exists_pair {entries : List (α × α)} {key : α} (member : key ∈ entries.map Prod.fst) :
    ∃ value, (key,value) ∈ entries := by
  obtain ⟨entry,listed,rfl⟩ := List.mem_map.mp member
  exact ⟨entry.2,listed⟩

theorem value_unique {entries : List (α × α)} (distinct : (entries.map Prod.fst).Nodup) {key first second : α}
    (left : (key,first) ∈ entries) (right : (key,second) ∈ entries) : first = second :=
  congrArg Prod.snd (List.inj_on_of_nodup_map distinct left right rfl)

variable [DecidableEq α]

instance (entries : List (α × α)) (start : α) : Decidable (Chained entries start) :=
  decidable_of_iff (∃ entry ∈ entries, ∃ next ∈ entries, entry.1 = start ∧ next.1 = entry.2 ∧ next.2 ≠ entry.2) (by
    constructor
    · rintro ⟨⟨_,middle⟩,first,⟨_,last⟩,second,rfl,rfl,apart⟩
      exact ⟨_,last,first,second,apart⟩
    · rintro ⟨middle,last,first,second,apart⟩
      exact ⟨_,first,_,second,rfl,rfl,apart⟩)

def rename (current : α) (entry : α × α) : α := if entry.1 = current then entry.2 else current

def chase (entries : List (α × α)) (start : α) : α := entries.foldl rename start

def image (entries : List (α × α)) (start : α) : α := (entries.lookup start).getD start

variable {entries : List (α × α)} {start : α}

theorem rename_key (key value : α) : rename key (key,value) = value := if_pos rfl

theorem chase_append (earlier later : List (α × α)) (start : α) :
    chase (earlier ++ later) start = chase later (chase earlier start) := List.foldl_append

theorem chase_cons (entry : α × α) (entries : List (α × α)) (start : α) :
    chase (entry :: entries) start = chase entries (rename start entry) := rfl

theorem chase_not_key (absent : start ∉ entries.map Prod.fst) : chase entries start = start := by
  induction entries with
  | nil => rfl
  | cons entry entries ih =>
    rw [List.map_cons,List.mem_cons,not_or] at absent
    rw [chase_cons,rename,if_neg (Ne.symm absent.1)]
    exact ih absent.2

theorem image_of_not_key (absent : start ∉ entries.map Prod.fst) : image entries start = start := by
  have none' : entries.lookup start = none := by
    rw [List.lookup_eq_none_iff]
    intro entry member
    exact bne_iff_ne.mpr (fun same => absent (same ▸ List.mem_map_of_mem member))
  rw [image,none']
  rfl

theorem image_of_mem (distinct : (entries.map Prod.fst).Nodup) {middle : α} (member : (start,middle) ∈ entries) :
    image entries start = middle := by
  cases found : entries.lookup start with
  | none =>
    have apart := List.lookup_eq_none_iff.mp found _ member
    exact absurd rfl (bne_iff_ne.mp apart)
  | some other =>
    obtain ⟨earlier,later,same,-⟩ := List.lookup_eq_some_iff.mp found
    have listed : (start,other) ∈ entries := same ▸ List.mem_append_right _ List.mem_cons_self
    rw [image,found]
    exact value_unique distinct listed member

theorem leads_of_chase {final : α} (chased : chase entries start = final) (moved : final ≠ start) :
    Leads entries start final := by
  induction entries generalizing start with
  | nil => exact absurd chased.symm moved
  | cons entry entries ih =>
    obtain ⟨key,value⟩ := entry
    rw [chase_cons] at chased
    by_cases same : key = start
    · subst same
      rw [rename_key] at chased
      by_cases reached : final = value
      · exact reached ▸ .last
      · exact .onward (ih chased reached)
    · rw [rename,if_neg same] at chased
      exact .later (ih chased moved)

/-- With one pair for each key, a value that is no key is where the pairs that lead to it end. -/
theorem chase_of_leads {final : α} (leads : Leads entries start final) (distinct : (entries.map Prod.fst).Nodup)
    (absent : final ∉ entries.map Prod.fst) : chase entries start = final := by
  induction leads with
  | last =>
    rw [chase_cons,rename_key]
    exact chase_not_key fun inside => absent (List.mem_cons_of_mem _ inside)
  | onward _ ih =>
    rw [chase_cons,rename_key]
    exact ih (List.nodup_cons.mp distinct).2 fun inside => absent (List.mem_cons_of_mem _ inside)
  | later leads ih =>
    obtain ⟨other,distinct⟩ := List.nodup_cons.mp distinct
    rw [chase_cons,rename,if_neg fun same => other (by rw [same]; exact leads.key)]
    exact ih distinct fun inside => absent (List.mem_cons_of_mem _ inside)

theorem chase_self_iff (distinct : (entries.map Prod.fst).Nodup) :
    chase entries start = start ↔ start ∉ entries.map Prod.fst ∨ Leads entries start start := by
  induction entries with
  | nil => simp [chase]
  | cons entry entries ih =>
    obtain ⟨key,value⟩ := entry
    obtain ⟨other,distinct⟩ := List.nodup_cons.mp distinct
    rw [chase_cons]
    by_cases same : key = start
    · subst same
      rw [rename_key]
      constructor
      · intro chased
        by_cases reached : key = value
        · exact Or.inr (reached ▸ .last)
        · exact Or.inr (.onward (leads_of_chase chased reached))
      · rintro (absent | leads)
        · exact absurd List.mem_cons_self absent
        · cases leads with
          | last => exact chase_not_key other
          | onward leads => exact chase_of_leads leads distinct other
          | later leads => exact absurd leads.key other
    · rw [rename,if_neg same,ih distinct]
      refine or_congr (not_congr ?_) ⟨.later,fun leads => ?_⟩
      · simp [Ne.symm same]
      · cases leads with
        | last => exact absurd rfl same
        | onward _ => exact absurd rfl same
        | later leads => exact leads

/-- The pass goes on from the value's image through the pairs after the value's own. -/
theorem chase_split (distinct : (entries.map Prod.fst).Nodup) {earlier later : List (α × α)} {middle : α}
    (same : entries = earlier ++ (start,middle) :: later) :
    image entries start = middle ∧ chase entries start = chase later middle ∧ (later.map Prod.fst).Nodup := by
  have member : (start,middle) ∈ entries := same ▸ List.mem_append_right _ List.mem_cons_self
  refine ⟨image_of_mem distinct member,?_⟩
  rw [same,List.map_append,List.nodup_append,List.map_cons,List.nodup_cons] at distinct
  obtain ⟨-,⟨-,rest⟩,apart⟩ := distinct
  have absent : start ∉ earlier.map Prod.fst := fun inside => apart _ inside _ List.mem_cons_self rfl
  rw [same,chase_append,chase_not_key absent,chase_cons,rename_key]
  exact ⟨rfl,rest⟩

/-- The pass is the single lookup, for the pairs in their order, exactly if it leaves the
image where it is. -/
theorem chase_eq_image_iff (distinct : (entries.map Prod.fst).Nodup) :
    chase entries start = image entries start ↔ Settled entries start := by
  constructor
  · intro once earlier middle later same
    obtain ⟨image,chased,rest⟩ := chase_split distinct same
    rw [image,chased] at once
    exact (chase_self_iff rest).mp once
  · intro settled
    by_cases key : start ∈ entries.map Prod.fst
    · obtain ⟨middle,member⟩ := exists_pair key
      obtain ⟨earlier,later,same⟩ := List.append_of_mem member
      obtain ⟨image,chased,rest⟩ := chase_split distinct same
      rw [image,chased]
      exact (chase_self_iff rest).mpr (settled earlier middle later same)
    · rw [image_of_not_key key,chase_not_key key]

/-- Without a chain the pass is the single lookup in every order. -/
theorem settled_of_not_chained (single : ¬Chained entries start) : Settled entries start := by
  rintro earlier middle later rfl
  refine or_iff_not_imp_left.mpr fun key => ?_
  obtain ⟨last,member⟩ := exists_pair (not_not.mp key)
  have returns : last = middle := by
    by_contra apart
    exact single ⟨middle,last,by simp,by simp [member],apart⟩
  subst returns
  exact Leads.of_mem member

/-- A chain has an order of the pairs in which the pass goes past the image. -/
theorem exists_chased (distinct : (entries.map Prod.fst).Nodup) (chained : Chained entries start) :
    ∃ other, other.Perm entries ∧ chase other start ≠ image entries start := by
  obtain ⟨middle,last,first,second,apart⟩ := chained
  rw [image_of_mem distinct first]
  have different : (middle,last) ≠ (start,middle) := by
    intro same
    cases same
    exact apart rfl
  have kept : (middle,last) ∈ entries.erase (start,middle) := (List.mem_erase_of_ne different).mpr second
  let others := (entries.erase (start,middle)).erase (middle,last)
  have perm : ((start,middle) :: (middle,last) :: others).Perm entries :=
    ((List.perm_cons_erase kept).symm.cons (start,middle)).trans (List.perm_cons_erase first).symm
  have moved : (others ++ [(start,middle),(middle,last)]).Perm entries :=
    List.perm_append_comm.trans perm
  refine ⟨_,moved,?_⟩
  have keys : (((start,middle) :: (middle,last) :: others).map Prod.fst).Nodup :=
    (perm.map Prod.fst).nodup_iff.mpr distinct
  have absent : start ∉ others.map Prod.fst :=
    fun member => (List.nodup_cons.mp keys).1 (List.mem_cons_of_mem _ member)
  rw [chase_append,chase_not_key absent,chase_cons,chase_cons,rename_key,rename_key]
  exact apart

/-- The pass is the single lookup for every order of the pairs exactly without a chain. -/
theorem chase_perm_iff (distinct : (entries.map Prod.fst).Nodup) :
    (∀ other : List (α × α), other.Perm entries → chase other start = image entries start) ↔
      ¬Chained entries start := by
  constructor
  · intro every chained
    obtain ⟨other,perm,apart⟩ := exists_chased distinct chained
    exact apart (every other perm)
  · intro single other perm
    have keys : (other.map Prod.fst).Nodup := (perm.map Prod.fst).nodup_iff.mpr distinct
    have unchained : ¬Chained other start := by
      rintro ⟨middle,last,first,second,apart⟩
      exact single ⟨middle,last,perm.mem_iff.mp first,perm.mem_iff.mp second,apart⟩
    rw [(chase_eq_image_iff keys).mpr (settled_of_not_chained unchained)]
    by_cases key : start ∈ entries.map Prod.fst
    · obtain ⟨middle,member⟩ := exists_pair key
      rw [image_of_mem distinct member,image_of_mem keys (perm.mem_iff.mpr member)]
    · have absent : start ∉ other.map Prod.fst := fun member => key ((perm.map Prod.fst).mem_iff.mp member)
      rw [image_of_not_key key,image_of_not_key absent]

end Renaming
end TenonVpn
