import TenonVpn.LastWrite
import TenonVpn.NodeStore

/-! The updates of the two maps of nodes: `SetRouteNodes` and `SetVpnNodes` write the
well-formed items of a text, so that the last one of a country wins. -/
namespace TenonVpn

inductive NodeMap
  | route
  | vpn
deriving DecidableEq

def nodeItem (item : Text) : Option (Text × Text) :=
  match Text.split ';' item with
  | [country,list] => some (country,list)
  | _ => none

def nodeItems (nodes : Text) : List (Text × Text) := (Text.split '\x60' nodes).filterMap nodeItem

def Mentions (nodes country : Text) : Prop := ∃ list, (country,list) ∈ nodeItems nodes

namespace NodeMap
open Program ShadowsocksAdapter LastWrite
variable {kind : NodeMap} {s : Locked NodeLock NodeStore}

def lock : NodeMap → NodeLock
  | route => .routeNodes
  | vpn => .vpnNodes

def of : NodeMap → NodeStore → Text → Option Text
  | route => NodeStore.routeMap
  | vpn => NodeStore.vpnMap

def put : NodeMap → NodeStore → (Text → Option Text) → NodeStore
  | route => fun store routeMap => {store with routeMap}
  | vpn => fun store vpnMap => {store with vpnMap}

def set : NodeMap → Text → Program NodeLock NodeStore Unit
  | route => setRouteNodes
  | vpn => setVpnNodes

@[simp] theorem of_put (kind : NodeMap) (store : NodeStore) (map : Text → Option Text) :
    kind.of (kind.put store map) = map := by cases kind <;> rfl

@[simp] theorem put_put (kind : NodeMap) (store : NodeStore) (first second : Text → Option Text) :
    kind.put (kind.put store first) second = kind.put store second := by cases kind <;> rfl

theorem mem_keys {nodes country : Text} : country ∈ (nodeItems nodes).map Prod.fst ↔ Mentions nodes country := by
  simp [Mentions]

/-- `storeNodes` writes the well-formed items in order. -/
theorem storeNodes_eq (map : Text → Option Text) (nodes : Text) :
    storeNodes map nodes = writeAll map (nodeItems nodes) := by
  rw [storeNodes,nodeItems]
  induction Text.split '\x60' nodes generalizing map with
  | nil => rfl
  | cons item items ih =>
    rw [List.foldl_cons,ih,List.filterMap_cons,nodeItem]
    rcases Text.split ';' item with _ | ⟨country,_ | ⟨list,_ | ⟨third,rest⟩⟩⟩
    · rfl
    · rfl
    · have written : (fun other => if other = country then some list else map other) = write map (country,list) := by
        ext1 other
        rw [write,Function.update_apply]
      exact congrArg (fun next => writeAll next (items.filterMap nodeItem)) written
    · rfl

/-- The state after an update: all but its map as it was. -/
def updated (kind : NodeMap) (nodes : Text) (s : Locked NodeLock NodeStore) : Locked NodeLock NodeStore :=
  ⟨s.held,kind.put s.store (writeAll (kind.of s.store) (nodeItems nodes))⟩

theorem of_updated (kind : NodeMap) (nodes : Text) (s : Locked NodeLock NodeStore) :
    kind.of (kind.updated nodes s).store = writeAll (kind.of s.store) (nodeItems nodes) := of_put _ _ _

/-- An update that returns has updated the map; it returns where its lock is free. -/
theorem set_ensures (kind : NodeMap) (nodes : Text) (s : Locked NodeLock NodeStore) :
    Ensures (fun _ => kind.lock ∈ s.held) (kind.set nodes) (fun _ t => t = kind.updated nodes s) s := by
  rw [updated,← storeNodes_eq]
  cases kind with
  | route =>
    rw [set,setRouteNodes]
    split
    · next empty =>
      rw [List.isEmpty_iff.mp empty]
      exact ensures_pure.mpr rfl
    · exact ensures_update id rfl
  | vpn => exact ensures_update id rfl

theorem eq_updated {kind : NodeMap} {nodes : Text} {s t : Locked NodeLock NodeStore}
    (returned : kind.set nodes s = .ok ((),t)) : t = kind.updated nodes s :=
  (ensures_iff.mp (set_ensures kind nodes s)).1 () t returned

end NodeMap

/-- The country has the list of its last well-formed item, or is not mentioned and as before. -/
def LastItemWins (nodes country : Text) (before after : Option Text) : Prop :=
  (∃ earlier list later, nodeItems nodes = earlier ++ (country,list) :: later ∧
    country ∉ later.map Prod.fst ∧ after = some list) ∨ (¬Mentions nodes country ∧ after = before)

/-- The laws of the updates of one map from a state. -/
structure LastWriterWins (kind : NodeMap) (s : Locked NodeLock NodeStore) : Prop where
  returns : kind.lock ∉ s.held → ∀ nodes, ∃ t, kind.set nodes s = .ok ((),t)
  written : ∀ nodes t, kind.set nodes s = .ok ((),t) → t.held = s.held ∧
    t.store = kind.put s.store (kind.of t.store) ∧
    ∀ country, LastItemWins nodes country (kind.of s.store country) (kind.of t.store country)
  twice : ∀ nodes t u, kind.set nodes s = .ok ((),t) → kind.set nodes t = .ok ((),u) → u = t
  swapped : ∀ first second, (∀ country, ¬(Mentions first country ∧ Mentions second country)) →
    ∀ t t' u u', kind.set first s = .ok ((),t) → kind.set second t = .ok ((),t') →
      kind.set second s = .ok ((),u) → kind.set first u = .ok ((),u') → t' = u'

namespace NodeMap
open Program ShadowsocksAdapter LastWrite

theorem updated_twice (kind : NodeMap) (nodes : Text) (s : Locked NodeLock NodeStore) :
    kind.updated nodes (kind.updated nodes s) = kind.updated nodes s := by
  simp only [updated,of_put,put_put,writeAll_twice]

theorem updated_comm (kind : NodeMap) {first second : Text}
    (apart : ∀ country, ¬(Mentions first country ∧ Mentions second country)) (s : Locked NodeLock NodeStore) :
    kind.updated second (kind.updated first s) = kind.updated first (kind.updated second s) := by
  have disjoint : ((nodeItems first).map Prod.fst).Disjoint ((nodeItems second).map Prod.fst) :=
    fun country left right => apart country ⟨mem_keys.mp left,mem_keys.mp right⟩
  simp only [updated,of_put,put_put,writeAll_comm _ disjoint]

theorem lastItemWins_writeAll (map : Text → Option Text) (nodes country : Text) :
    LastItemWins nodes country (map country) (writeAll map (nodeItems nodes) country) := by
  rw [writeAll_apply]
  by_cases mentioned : country ∈ (nodeItems nodes).map Prod.fst
  · obtain ⟨earlier,list,later,same,last⟩ := exists_last mentioned
    rw [same,lastOf_split list last]
    exact Or.inl ⟨earlier,list,later,same,last,rfl⟩
  · rw [lastOf_eq_none_iff.mpr mentioned]
    exact Or.inr ⟨fun found => mentioned (mem_keys.mpr found),rfl⟩

/-- Updates are last-writer-wins for each country, may be repeated, and commute where they
mention no country in common. -/
theorem lastWriterWins (kind : NodeMap) (s : Locked NodeLock NodeStore) : LastWriterWins kind s where
  returns free nodes := by
    cases result : kind.set nodes s with
    | ok answer => exact ⟨answer.2,rfl⟩
    | error stop => exact absurd ((ensures_iff.mp (set_ensures kind nodes s)).2 stop result) free
  written nodes t returned := by
    obtain rfl := eq_updated returned
    rw [of_updated]
    exact ⟨rfl,rfl,lastItemWins_writeAll _ nodes⟩
  twice nodes t u first second := by
    obtain rfl := eq_updated first
    obtain rfl := eq_updated second
    exact updated_twice kind nodes s
  swapped first second apart t t' u u' ft st su fu := by
    obtain rfl := eq_updated ft
    obtain rfl := eq_updated st
    obtain rfl := eq_updated su
    obtain rfl := eq_updated fu
    exact updated_comm kind apart s

example : (storeNodes (fun _ => none) "US;a\x60DE;b\x60US;c\x60;x".toList) "US".toList = some "c".toList := by decide

end NodeMap
end TenonVpn
