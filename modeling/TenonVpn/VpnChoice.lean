import TenonVpn.NodeLocks

/-! Where the VPN node of `ShadowsocksAdapter` comes from: the three statics are those of one
entry of the list that the last successful choice found, or what they were at first. -/
namespace TenonVpn
open NodeOperation ShadowsocksAdapter Machine

/-- A successful choice: the country, the map at that moment and the place of the entry. -/
structure Choice where
  country : Text
  vpnMap : Text → Option Text
  index : Nat

/-- The last successful choice, after an operation: one that picked an entry of six fields. -/
def noteChoice (last : Option Choice) (s : Locked NodeLock NodeStore) (operation : NodeOperation) : Option Choice :=
  match operation.chooses s.store with
  | none => last
  | some country =>
    match s.store.vpnMap country with
    | none => last
    | some nodes =>
      let index := (s.store.random 0).toNat % (Text.components ',' nodes).length
      match (Text.components ',' nodes)[index]? with
      | none => last
      | some entry =>
        if 6 ≤ (Text.components ':' entry).length then some ⟨country,s.store.vpnMap,index⟩ else last

def choosing : Machine (Locked NodeLock NodeStore × Option Choice) NodeOperation (Except (Stop NodeLock) NodeAnswer) :=
  nodeStore.attend noteChoice

/-- The first, second and fourth field of the entry that the choice picked, or the first values. -/
def FromChoice (first : Text × Int × Text) : Locked NodeLock NodeStore × Option Choice → Prop
  | (s,none) => s.store.chosen = first
  | (s,some choice) => ∃ nodes entry, choice.vpnMap choice.country = some nodes ∧
    (Text.components ',' nodes)[choice.index]? = some entry ∧ 6 ≤ (Text.components ':' entry).length ∧
    s.store.chosen = NodeStore.vpnNode (Text.components ':' entry)

theorem fromChoice_congr {first : Text × Int × Text} {s t : Locked NodeLock NodeStore} {last : Option Choice}
    (same : t.store.chosen = s.store.chosen) (kept : FromChoice first (s,last)) : FromChoice first (t,last) := by
  cases last with
  | none => exact Eq.trans same kept
  | some choice =>
    obtain ⟨nodes,entry,listed,found,enough,chosen⟩ := kept
    exact ⟨nodes,entry,listed,found,enough,same.trans chosen⟩

theorem fromChoice_choose {first : Text × Int × Text} {s t : Locked NodeLock NodeStore} {last : Option Choice}
    {operation : NodeOperation} {country : Text} (chooses : operation.chooses s.store = some country)
    (chose : t.store = s.store.choose country) (kept : FromChoice first (s,last)) :
    FromChoice first (t,noteChoice last s operation) := by
  rw [NodeStore.choose] at chose
  simp only [noteChoice,chooses]
  cases listed : s.store.vpnMap country with
  | none =>
    rw [listed] at chose
    exact fromChoice_congr (by rw [chose]) kept
  | some nodes =>
    obtain ⟨entry,found⟩ := exists_entry nodes (s.store.random 0)
    simp only [listed,entryAt_eq found] at chose
    simp only [found]
    split
    · next enough =>
      rw [if_pos enough] at chose
      exact ⟨nodes,entry,listed,found,enough,by rw [chose]; rfl⟩
    · next short =>
      rw [if_neg short] at chose
      exact fromChoice_congr (by rw [chose]; rfl) kept

theorem keeps_fromChoice (first : Text × Int × Text) : choosing.Keeps (FromChoice first) (fun _ _ => True) := by
  rintro ⟨s,last⟩ operation next kept - stepped
  obtain ⟨t,taken,rfl⟩ := attend_step stepped
  obtain ⟨leaves,-⟩ := step_leaves (E := fun _ => True) (fun _ _ => trivial) trivial operation
  have chosen := (leaves t taken).chosen
  cases chooses : operation.chooses s.store with
  | none =>
    simp only [chooses] at chosen
    simp only [noteChoice,chooses]
    exact fromChoice_congr chosen kept
  | some country =>
    simp only [chooses] at chosen
    exact fromChoice_choose chooses chosen kept

/-- In every run the VPN node is the first one or that of the last successful choice, and no index
is out of range. -/
theorem chosen_node (s : Locked NodeLock NodeStore) (operations : List NodeOperation) :
    choosing.Visits (FromChoice s.store.chosen) (s,none) operations ∧
      .error .outOfRange ∉ nodeStore.outputs s operations := by
  constructor
  · have first : FromChoice s.store.chosen (s,none) := rfl
    exact (keeps_fromChoice _).visits first operations
  · have each (t : Locked NodeLock NodeStore) (operation : NodeOperation) :
        ∀ o ∈ (nodeStore.step t operation).1, o ≠ .error .outOfRange := by
      rintro o member rfl
      have stopped := (step_leaves (E := (· ≠ .outOfRange)) (s := t) (fun _ _ => by simp) (by simp) operation).2
      exact stopped _ member rfl
    intro member
    exact (keeps_true nodeStore).outputs (fun t operation _ => each t operation) trivial operations _ member rfl

end TenonVpn
