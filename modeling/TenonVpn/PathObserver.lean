import TenonVpn.Machine
import Mathlib.Data.List.DropRight

/-! `observeValue` of the packet tunnel: which `defaultPath` notifications schedule a restart.
The handler keeps the path it remembers when it restarts, so what it remembers is settled by
the last notification without a satisfied path. -/
namespace TenonVpn.PathObserver
variable {π : Type*} {satisfied : π → Bool}

/-- The next remembered path, and whether a restart is scheduled. -/
def observeValue [DecidableEq π] (satisfied : π → Bool) (lastPath defaultPath : Option π) : Bool × Option π :=
  if defaultPath.any satisfied = true ∧ defaultPath ≠ lastPath then
    if lastPath = none then (false,defaultPath) else (true,lastPath)
  else (false,defaultPath)

/-- Each notification is reported with its path. -/
def observer [DecidableEq π] (satisfied : π → Bool) : Machine (Option π) (Option π) (Option π × Bool) where
  step lastPath defaultPath :=
    ([(defaultPath,(observeValue satisfied lastPath defaultPath).1)],
      some (observeValue satisfied lastPath defaultPath).2)

/-- A restart is due for a satisfied path other than the one on which the tunnel runs, which is
the first satisfied path or that of the last restart. -/
def onRunningPath [DecidableEq π] (satisfied : π → Bool) : Monitor (Option π) (Option π × Bool) where
  next := fun running (defaultPath,restarts) =>
    if restarts = true then defaultPath
    else if running = none ∧ defaultPath.any satisfied = true then defaultPath else running
  ok := fun running (defaultPath,restarts) =>
    restarts = true ↔ defaultPath.any satisfied = true ∧ running ≠ none ∧ defaultPath ≠ running

/-- The last notification without a satisfied path; where that had no path or there is none,
the first satisfied path after it. -/
def remembered (satisfied : π → Bool) (before : List (Option π)) : Option π :=
  (before.rdropWhile (Option.any satisfied)).getLast?.join.or (before.rtakeWhile (Option.any satisfied)).head?.join

def latest (satisfied : π → Bool) (before : List (Option π)) : Option π :=
  (before.filter (Option.any satisfied)).getLast?.join

theorem head_rtakeWhile_or (before : List (Option π)) (path : Option π) :
    (before.rtakeWhile (Option.any satisfied) ++ [path]).head?.join =
      (before.rtakeWhile (Option.any satisfied)).head?.join.or path := by
  cases taken : before.rtakeWhile (Option.any satisfied) with
  | nil => rfl
  | cons first rest =>
    have met : first.any satisfied = true := List.mem_rtakeWhile_imp (taken ▸ List.mem_cons_self)
    cases first with
    | none => simp at met
    | some kept => rfl

theorem latest_snoc (before : List (Option π)) (path : Option π) :
    latest satisfied (before ++ [path]) =
      if path.any satisfied = true then path else latest satisfied before := by
  unfold latest
  by_cases met : path.any satisfied = true
  · simp [List.filter_append,met]
  · simp [List.filter_append,met]

variable [DecidableEq π]

/-- The path is new to both or to neither of what is remembered and the latest satisfied path. -/
def Agrees (satisfied : π → Bool) (before : List (Option π)) (path : Option π) : Prop :=
  path.any satisfied = true →
    (remembered satisfied before ≠ none ∧ path ≠ remembered satisfied before ↔
      latest satisfied before ≠ none ∧ path ≠ latest satisfied before)

theorem observeValue_restarts {lastPath path : Option π} :
    (observeValue satisfied lastPath path).1 = true ↔
      path.any satisfied = true ∧ lastPath ≠ none ∧ path ≠ lastPath := by
  unfold observeValue
  by_cases changed : path.any satisfied = true ∧ path ≠ lastPath
  · rw [if_pos changed]
    by_cases unset : lastPath = none
    · simp [unset]
    · simp [unset,changed]
  · rw [if_neg changed]
    simp only [Bool.false_eq_true,false_iff]
    rintro ⟨met,-,other⟩
    exact changed ⟨met,other⟩

theorem observeValue_satisfied {lastPath path : Option π} (met : path.any satisfied = true) :
    (observeValue satisfied lastPath path).2 = lastPath.or path := by
  unfold observeValue
  cases lastPath with
  | none => simp
  | some kept => by_cases same : path = some kept <;> simp [met,same]

theorem observeValue_unsatisfied {lastPath path : Option π} (unmet : path.any satisfied ≠ true) :
    (observeValue satisfied lastPath path).2 = path := by
  rw [observeValue,if_neg (fun changed => unmet changed.1)]

theorem remembered_snoc (before : List (Option π)) (path : Option π) :
    remembered satisfied (before ++ [path]) = (observeValue satisfied (remembered satisfied before) path).2 := by
  by_cases met : path.any satisfied = true
  · rw [observeValue_satisfied met,remembered,List.rdropWhile_concat_pos _ _ _ met,
      List.rtakeWhile_concat_pos _ _ _ met,head_rtakeWhile_or,← Option.or_assoc]
    rfl
  · rw [observeValue_unsatisfied met,remembered,List.rdropWhile_concat_neg _ _ _ met,
      List.rtakeWhile_concat_neg _ _ _ met]
    simp

theorem ok_iff (before : List (Option π)) (path : Option π) :
    (onRunningPath satisfied).ok (latest satisfied before)
      (path,(observeValue satisfied (remembered satisfied before) path).1) ↔ Agrees satisfied before path := by
  simp only [onRunningPath,observeValue_restarts,Agrees]
  by_cases met : path.any satisfied = true
  · simp [met]
  · simp [met]

theorem next_latest {before : List (Option π)} {path : Option π} {restarts : Bool}
    (right : (onRunningPath satisfied).ok (latest satisfied before) (path,restarts)) :
    (onRunningPath satisfied).next (latest satisfied before) (path,restarts) = latest satisfied (before ++ [path]) := by
  simp only [onRunningPath] at right ⊢
  rw [latest_snoc]
  by_cases met : path.any satisfied = true
  · rw [if_pos met]
    split
    · rfl
    · next stays =>
      split
      · rfl
      · next known =>
        have present : latest satisfied before ≠ none := fun absent => known ⟨absent,met⟩
        by_contra other
        exact stays (right.mpr ⟨met,present,Ne.symm other⟩)
  · rw [if_neg met,if_neg (fun restarted => met (right.mp restarted).1),if_neg (fun started => met started.2)]

/-- The induction is on what is still to come, with the history before it. -/
theorem accepts_from (before notifications : List (Option π)) :
    (onRunningPath satisfied).Accepts (latest satisfied before)
        ((observer satisfied).outputs (remembered satisfied before) notifications) ↔
      ∀ earlier path later, notifications = earlier ++ path :: later → Agrees satisfied (before ++ earlier) path := by
  induction notifications generalizing before with
  | nil => exact ⟨fun _ => by simp,fun _ => trivial⟩
  | cons path rest ih =>
    have accepts : (onRunningPath satisfied).Accepts (latest satisfied before)
        ((observer satisfied).outputs (remembered satisfied before) (path :: rest)) ↔
        Agrees satisfied before path ∧ ∀ earlier next later, rest = earlier ++ next :: later →
          Agrees satisfied (before ++ [path] ++ earlier) next := by
      simp only [Machine.outputs,observer,List.singleton_append,Monitor.Accepts,ok_iff]
      refine and_congr_right fun agrees => ?_
      rw [next_latest ((ok_iff before path).mpr agrees),← remembered_snoc]
      exact ih (before ++ [path])
    rw [accepts]
    constructor
    · rintro ⟨here,further⟩ earlier next later split
      cases earlier with
      | nil =>
        cases split
        simpa using here
      | cons first earlier =>
        cases split
        simpa using further earlier next later rfl
    · intro each
      refine ⟨by simpa using each [] path rest rfl,fun earlier next later split => ?_⟩
      subst split
      simpa using each (path :: earlier) next later rfl

/-- Restarts are scheduled exactly on changes of the running path in the histories where, at
every satisfied path, what is remembered is as good as the latest satisfied path. -/
theorem restarts_on_changes_iff (satisfied : π → Bool) (notifications : List (Option π)) :
    (onRunningPath satisfied).Accepts none ((observer satisfied).outputs none notifications) ↔
      ∀ before path after, notifications = before ++ path :: after → Agrees satisfied before path :=
  accepts_from [] notifications

/-- A second notification of the new path restarts the tunnel again. -/
theorem repeated_path_restarts :
    ¬∀ (satisfied : Nat → Bool) (notifications : List (Option Nat)),
      (onRunningPath satisfied).Accepts none ((observer satisfied).outputs none notifications) := by
  intro changes
  have twice := changes (fun _ => true) [some 0,some 1,some 1]
  simp [observer,observeValue,Machine.outputs,Monitor.Accepts,onRunningPath] at twice

end TenonVpn.PathObserver
