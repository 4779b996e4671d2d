import Mathlib.Data.List.Basic

/-! Sequential programs that take and release locks by hand. A program blocks where it takes
a lock that is held, by itself or because an earlier program has left it taken; other
stops end the process. `Ensures` is what a program leaves if it returns, together with
the stops that it may come to instead. -/
namespace TenonVpn

structure Locked (κ σ : Type) where
  held : List κ
  store : σ

inductive Stop (κ : Type)
  | blocked (lock : κ)
  | trapped
  | outOfRange
deriving DecidableEq

abbrev Program (κ σ α : Type) := StateT (Locked κ σ) (Except (Stop κ)) α

namespace Program
variable {κ σ α β : Type}

def lock [DecidableEq κ] (key : κ) : Program κ σ Unit := fun s =>
  if key ∈ s.held then .error (.blocked key) else .ok ((),{s with held := key :: s.held})

def unlock [DecidableEq κ] (key : κ) : Program κ σ Unit := fun s =>
  .ok ((),{s with held := s.held.erase key})

def load : Program κ σ σ := fun s => .ok (s.store,s)

def modifyStore (f : σ → σ) : Program κ σ Unit := fun s => .ok ((),{s with store := f s.store})

/-- The value of a checked operation, which traps where it has none. -/
def checked : Option α → Program κ σ α
  | some value => pure value
  | none => fun _ => .error .trapped

def element (list : List α) (index : Nat) : Program κ σ α :=
  match list[index]? with
  | some value => pure value
  | none => fun _ => .error .outOfRange

def Ensures (E : Stop κ → Prop) (program : Program κ σ α) (Q : α → Locked κ σ → Prop) (s : Locked κ σ) : Prop :=
  match program s with
  | .ok (value,t) => Q value t
  | .error stop => E stop

variable {E : Stop κ → Prop} {s : Locked κ σ} {Q R : α → Locked κ σ → Prop}

theorem ensures_pure {value : α} : Ensures E (pure value) Q s ↔ Q value s := Iff.rfl

theorem ensures_bind {program : Program κ σ α} {next : α → Program κ σ β} {Q : β → Locked κ σ → Prop} :
    Ensures E (program >>= next) Q s ↔ Ensures E program (fun value => Ensures E (next value) Q) s := by
  change (match (program s).bind (fun result => next result.1 result.2) with
    | .ok (value,t) => Q value t
    | .error stop => E stop) ↔ _
  unfold Ensures
  cases program s with
  | error stop => rfl
  | ok result => rfl

theorem ensures_map {program : Program κ σ α} {f : α → β} {Q : β → Locked κ σ → Prop} :
    Ensures E (f <$> program) Q s ↔ Ensures E program (fun value => Q (f value)) s := by
  rw [map_eq_pure_bind]
  exact ensures_bind

theorem Ensures.imp {program : Program κ σ α} (ensures : Ensures E program Q s)
    (imp : ∀ value t, Q value t → R value t) : Ensures E program R s := by
  unfold Ensures at ensures ⊢
  split at ensures
  · exact imp _ _ ensures
  · exact ensures

theorem Ensures.and {F : Stop κ → Prop} {program : Program κ σ α} (left : Ensures E program Q s)
    (right : Ensures F program R s) : Ensures E program (fun value t => Q value t ∧ R value t) s := by
  unfold Ensures at left right ⊢
  split at left
  · next returned =>
    rw [returned] at right
    exact ⟨left,right⟩
  · exact left

theorem ensures_iff {program : Program κ σ α} : Ensures E program Q s ↔
    (∀ value t, program s = .ok (value,t) → Q value t) ∧ ∀ stop, program s = .error stop → E stop := by
  unfold Ensures
  cases program s with
  | error stop => simp
  | ok result =>
    obtain ⟨value,t⟩ := result
    simp

theorem ensures_returned {program : Program κ σ α} :
    Ensures (fun _ => False) program Q s ↔ ∃ value t, program s = .ok (value,t) ∧ Q value t := by
  unfold Ensures
  cases program s with
  | error stop => simp
  | ok result =>
    obtain ⟨value,t⟩ := result
    simp

theorem ensures_load {Q : σ → Locked κ σ → Prop} : Ensures E load Q s ↔ Q s.store s := Iff.rfl

theorem ensures_modifyStore {f : σ → σ} {Q : Unit → Locked κ σ → Prop} :
    Ensures E (modifyStore f) Q s ↔ Q () {s with store := f s.store} := Iff.rfl

theorem ensures_none : Ensures E (checked none) Q s ↔ E .trapped := Iff.rfl

theorem ensures_some {value : α} : Ensures E (checked (some value)) Q s ↔ Q value s := Iff.rfl

theorem ensures_element {list : List α} {index : Nat} {value : α} (found : list[index]? = some value) :
    Ensures E (element list index) Q s ↔ Q value s := by
  rw [element,found]
  exact Iff.rfl

variable [DecidableEq κ]

theorem ensures_lock {key : κ} {Q : Unit → Locked κ σ → Prop} (busy : key ∈ s.held → E (.blocked key))
    (free : key ∉ s.held → Q () {s with held := key :: s.held}) : Ensures E (lock key) Q s := by
  unfold Ensures lock
  by_cases taken : key ∈ s.held
  · rw [if_pos taken]
    exact busy taken
  · rw [if_neg taken]
    exact free taken

theorem ensures_unlock {key : κ} {Q : Unit → Locked κ σ → Prop} :
    Ensures E (unlock key) Q s ↔ Q () {s with held := s.held.erase key} := Iff.rfl

/-- A critical section: its body starts with the lock and keeps it, and the lock is free again after it. -/
theorem ensures_section {key : κ} {body : Program κ σ α} {next : α → Program κ σ β} {Q : β → Locked κ σ → Prop}
    (busy : key ∈ s.held → E (.blocked key))
    (inner : key ∉ s.held → Ensures E body
      (fun value t => t.held = key :: s.held ∧ Ensures E (next value) Q ⟨s.held,t.store⟩) ⟨key :: s.held,s.store⟩) :
    Ensures E (lock key >>= fun _ => body >>= fun value => unlock key >>= fun _ => next value) Q s := by
  refine ensures_bind.mpr (ensures_lock busy fun free => ensures_bind.mpr ?_)
  apply (inner free).imp
  rintro value t ⟨kept,after⟩
  rw [ensures_bind,ensures_unlock,kept,List.erase_cons_head]
  exact after

theorem ensures_last_section {key : κ} {body : Program κ σ α} {Q : Unit → Locked κ σ → Prop}
    (busy : key ∈ s.held → E (.blocked key))
    (inner : key ∉ s.held → Ensures E body
      (fun _ t => t.held = key :: s.held ∧ Q () ⟨s.held,t.store⟩) ⟨key :: s.held,s.store⟩) :
    Ensures E (lock key >>= fun _ => body >>= fun _ => unlock key) Q s := by
  have guarded : Ensures E (lock key >>= fun _ => body >>= fun _ => unlock key >>= fun _ => pure ()) Q s :=
    ensures_section busy inner
  exact guarded

theorem ensures_update {key : κ} {f : σ → σ} {Q : Unit → Locked κ σ → Prop} (busy : key ∈ s.held → E (.blocked key))
    (updated : Q () ⟨s.held,f s.store⟩) :
    Ensures E (lock key >>= fun _ => modifyStore f >>= fun _ => unlock key) Q s :=
  ensures_last_section busy (fun _ => ensures_modifyStore.mpr ⟨rfl,updated⟩)

-- from here on by the rules alone
attribute [irreducible] Ensures

end Program
end TenonVpn
