import TenonVpn.NodeLocks

/-! What `getRouteNode` finds: the route of an entry that one of its candidates stores, and
a usable one where a candidate stores valid entries only, as long as no list that it
comes to is too long for `randomCustom`. -/
namespace TenonVpn
open Program Machine
namespace ShadowsocksAdapter

/-- The route is that of an entry stored for the country. -/
def StoredRoute (map : Text → Option Text) (country : Text) (route : Text × Int) : Prop :=
  ∃ nodes entry, map country = some nodes ∧ entry ∈ Text.components ',' nodes ∧
    6 ≤ (Text.components ':' entry).length ∧ route = NodeStore.routeNode (some (Text.components ':' entry))

/-- At least six fields, an address and a positive route port. -/
def ValidEntry (entry : Text) : Prop :=
  6 ≤ (Text.components ':' entry).length ∧ (Text.components ':' entry).getD 0 [] ≠ [] ∧
    ∃ port, Text.int64 ((Text.components ':' entry).getD 2 []) = some port ∧ 0 < port

/-- The country has a list, and all of its entries are valid. -/
def AllValid (map : Text → Option Text) (country : Text) : Prop :=
  ∃ nodes, map country = some nodes ∧ ∀ entry ∈ Text.components ',' nodes, ValidEntry entry

theorem unusable_nil : Unusable ([],0) := Or.inl rfl

theorem usable_valid {entry : Text} (valid : ValidEntry entry) :
    ¬Unusable (NodeStore.routeNode (some (Text.components ':' entry))) := by
  obtain ⟨-,addressed,port,read,positive⟩ := valid
  rintro (empty | negative)
  · exact addressed (List.isEmpty_iff.mp empty)
  · simp only [NodeStore.routeNode,read,Option.getD_some] at negative
    exact Int.not_le.mpr positive negative

theorem route_entry {store : NodeStore} {country nodes : Text} (listed : store.routeMap country = some nodes) :
    ∃ entry ∈ Text.components ',' nodes, store.route country = NodeStore.routeNode
      (if 6 ≤ (Text.components ':' entry).length then some (Text.components ':' entry) else none) := by
  obtain ⟨entry,found⟩ := exists_entry nodes (store.random 0)
  refine ⟨entry,List.mem_of_getElem? found,?_⟩
  rw [NodeStore.route,listed,Option.bind_some,entryAt_eq found]

theorem stored_or_unusable (store : NodeStore) (country : Text) :
    Unusable (store.route country) ∨ StoredRoute store.routeMap country (store.route country) := by
  cases listed : store.routeMap country with
  | none =>
    rw [NodeStore.route,listed]
    exact Or.inl unusable_nil
  | some nodes =>
    obtain ⟨entry,member,same⟩ := route_entry listed
    rw [same]
    split
    · next enough => exact Or.inr ⟨nodes,entry,listed,member,enough,rfl⟩
    · exact Or.inl unusable_nil

theorem usable_of_allValid {store : NodeStore} {country : Text} (valid : AllValid store.routeMap country) :
    ¬Unusable (store.route country) := by
  obtain ⟨nodes,listed,all⟩ := valid
  obtain ⟨entry,member,same⟩ := route_entry listed
  rw [same,if_pos (all entry member).1]
  exact usable_valid (all entry member)

theorem firstUsable_found {s : Locked NodeLock NodeStore} (free : .routeNodes ∉ s.held) (before after : List Text)
    {country : Text} (valid : AllValid s.store.routeMap country)
    (short : ∀ other ∈ before ++ [country], ¬NodeStore.Long s.store.routeMap other) (res : Text × Int) :
    Ensures (fun _ => False) (firstUsable (before ++ country :: after) res) (fun route _ => ¬Unusable route) s := by
  induction before generalizing s res with
  | nil =>
    rw [List.nil_append,firstUsable,ensures_bind]
    apply (getOneRouteNode_ensures free (short country (by simp))).imp
    rintro _ t ⟨-,rfl,-⟩
    rw [if_neg (usable_of_allValid valid)]
    exact ensures_pure.mpr (usable_of_allValid valid)
  | cons other before ih =>
    rw [List.cons_append,firstUsable,ensures_bind]
    apply (getOneRouteNode_ensures free (short other (by simp))).imp
    rintro route t ⟨-,rfl,held,random,store⟩
    split
    · have kept : t.store.routeMap = s.store.routeMap := by rw [store]
      refine ih (held ▸ free) (kept ▸ valid) (fun later member => ?_) _
      rw [kept]
      exact short later (List.mem_cons_of_mem other member)
    · next usable => exact ensures_pure.mpr usable

/-- The result of `getRouteNode` is unusable or stored for one of the candidates, and it is usable
where one of them has valid entries only and no list up to it is too long. -/
def FindsRoute (s : Locked NodeLock NodeStore) : Prop :=
  (∀ route t, getRouteNode s = .ok (route,t) →
    Unusable route ∨ ∃ country ∈ candidates s.store, StoredRoute s.store.routeMap country route) ∧
  ∀ before country after, candidates s.store = before ++ country :: after → AllValid s.store.routeMap country →
    (∀ other ∈ before ++ [country], ¬NodeStore.Long s.store.routeMap other) →
    ∃ route t, getRouteNode s = .ok (route,t) ∧ ¬Unusable route

theorem findsRoute_of_free {s : Locked NodeLock NodeStore} (free : .routeNodes ∉ s.held) : FindsRoute s := by
  constructor
  · have found := getRouteNode_ensures ([],0)
      (firstUsable_ensures (E := fun _ => True) (s := s) (fun _ => trivial) trivial (candidates s.store) ([],0))
    intro route t returned
    obtain ⟨-,rfl | ⟨country,member,random,rfl⟩⟩ := (ensures_iff.mp found).1 route t returned
    · exact Or.inl unusable_nil
    · rcases stored_or_unusable {s.store with random} country with failed | stored
      · exact Or.inl failed
      · exact Or.inr ⟨country,member,stored⟩
  · intro before country after tried valid short
    have found := firstUsable_found free before after valid short ([],0)
    rw [← tried] at found
    exact ensures_returned.mp (getRouteNode_ensures ([],0) found)

theorem keeps_routes_free : nodeStore.Keeps (fun s => .routeNodes ∉ s.held) (fun _ _ => True) := by
  intro s operation next free _ stepped
  obtain ⟨leaves,-⟩ := NodeOperation.step_leaves (E := fun _ => True) (fun _ _ => trivial) trivial operation
  obtain ⟨released,taken,-,-⟩ := leaves next stepped
  by_cases releases : NodeOperation.Releases s operation
  · rwa [released releases]
  · rw [taken releases]
    simp [free]

/-- For every store, and after every sequence of operations on it. -/
theorem route_found (store : NodeStore) (operations : List NodeOperation) :
    nodeStore.Visits FindsRoute ⟨[],store⟩ operations := by
  have free : NodeLock.routeNodes ∉ (⟨[],store⟩ : Locked NodeLock NodeStore).held := List.not_mem_nil
  exact Visits.imp (fun _ => findsRoute_of_free) (keeps_routes_free.visits free operations)

def fullEntry : Text := "1.1.1.1:1:2:k:p:d".toList

def longNodes (count : Nat) : Text := fullEntry ++ (List.replicate count (',' :: fullEntry)).flatten

theorem components_longNodes (count : Nat) :
    Text.components ',' (longNodes count) = List.replicate (count + 1) fullEntry := by
  induction count with
  | zero => rfl
  | succ count ih =>
    have next : longNodes (count + 1) = fullEntry ++ ',' :: longNodes count := by
      rw [longNodes,List.replicate_succ,List.flatten_cons,List.cons_append,longNodes]
    rw [next,Text.components_field _ (by decide),ih]
    exact List.replicate_succ.symm

def longStore (count : Nat) : NodeStore :=
  {NodeStore.initial (fun _ => 0) with routeMap := fun _ => some (longNodes count)}

theorem allValid_longStore (count : Nat) (country : Text) : AllValid (longStore count).routeMap country := by
  refine ⟨longNodes count,rfl,fun other member => ?_⟩
  rw [components_longNodes] at member
  cases List.eq_of_mem_replicate member
  exact ⟨by decide,by decide,2,by decide,by decide⟩

theorem getRouteNode_short {s : Locked NodeLock NodeStore} {route : Text × Int} {t : Locked NodeLock NodeStore}
    (returned : getRouteNode s = .ok (route,t)) : ¬NodeStore.Long s.store.routeMap s.store.localCountry := by
  have short : Ensures (fun _ => True) getRouteNode
      (fun _ _ => ¬NodeStore.Long s.store.routeMap s.store.localCountry) s := by
    rw [getRouteNode,ensures_bind,ensures_load,ensures_bind]
    apply (getOneRouteNode_ensures (fun _ => trivial) (fun _ => trivial)).imp
    rintro res t ⟨short,-,-⟩
    exact ensures_iff.mpr ⟨fun _ _ _ => short,fun _ _ => trivial⟩
  exact (ensures_iff.mp short).1 route t returned

theorem long_list_traps : (∃ country ∈ candidates (longStore (2^32)), AllValid (longStore (2^32)).routeMap country) ∧
    ¬∃ route t, getRouteNode ⟨[],longStore (2^32)⟩ = .ok (route,t) ∧ ¬Unusable route := by
  refine ⟨⟨_,List.mem_cons_self,allValid_longStore _ _⟩,?_⟩
  rintro ⟨route,t,returned,-⟩
  refine getRouteNode_short returned ⟨longNodes (2^32),rfl,?_⟩
  rw [components_longNodes,List.length_replicate]
  exact Nat.le_succ _

end ShadowsocksAdapter
end TenonVpn
