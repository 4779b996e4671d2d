import TenonVpn.Locks
import TenonVpn.Machine
import TenonVpn.Text

/-! The node operations of `ShadowsocksAdapter`: the lists of nodes that it stores by country,
the VPN node that it chooses and the route node that it falls back to, each behind a lock
that it takes and releases by hand. -/
namespace TenonVpn

inductive NodeLock
  | item
  | routeNodes
  | vpnNodes
deriving DecidableEq

structure NodeStore where
  localCountry : Text
  choosedCountry : Text
  routeMap : Text → Option Text
  vpnMap : Text → Option Text
  vpnNodes : Option Text
  choosedVpnIp : Text
  choosedVpnPort : Int
  seckey : Text
  /-- What `arc4random` is going to return. -/
  random : Nat → UInt32

/-- The statics before the first operation. -/
def NodeStore.initial (random : Nat → UInt32) : NodeStore :=
  ⟨"CN".toList,"US".toList,fun _ => none,fun _ => none,none,[],0,[],random⟩

def NodeStore.drawn (store : NodeStore) : NodeStore := {store with random := fun n => store.random (n+1)}

namespace ShadowsocksAdapter
open Program

/-- `UInt32(_:)` of an `Int`, which traps outside of the range. -/
def uint32 (n : Int) : Option UInt32 := if 0 ≤ n ∧ n < 2^32 then some (UInt32.ofNat n.toNat) else none

def defaultRoute : List Text := ["US","IN","GB","SG"].map String.toList

/-- The entries of a text of nodes: countries with their lists, of which those with two parts are stored. -/
def storeNodes (map : Text → Option Text) (nodes : Text) : Text → Option Text :=
  (Text.split '\x60' nodes).foldl (fun map item =>
    match Text.split ';' item with
    | [country,list] => fun other => if other = country then some list else map other
    | _ => map) map

def arc4random : Program NodeLock NodeStore UInt32 := do
  let store ← load
  modifyStore NodeStore.drawn
  return store.random 0

def randomCustom (min max : Int) : Program NodeLock NodeStore Nat := do
  let drawn ← arc4random
  let bound ← checked (uint32 max)
  let rest ← checked (if bound = 0 then none else some (drawn % bound))
  let least ← checked (uint32 min)
  let y ← checked (if rest.toNat + least.toNat < 2^32 then some (rest + least) else none)
  return y.toNat

/-- The fields of a random entry, if there are six of them. -/
def randomEntry (nodes : Text) : Program NodeLock NodeStore (Option (List Text)) := do
  let nodeArr := Text.components ',' nodes
  if 0 < nodeArr.length then
    let randPos ← randomCustom 0 nodeArr.length
    let entry ← element nodeArr randPos
    let nodeInfoArr := Text.components ':' entry
    return if 6 ≤ nodeInfoArr.length then some nodeInfoArr else none
  else return none

def setLocalCountry (country : Text) : Program NodeLock NodeStore Unit := do
  lock .item
  modifyStore (fun store => {store with localCountry := country})
  unlock .item

def setChoosedCountry (country : Text) : Program NodeLock NodeStore Unit := do
  lock .item
  modifyStore (fun store => {store with choosedCountry := country})
  unlock .item

def setRouteNodes (tmpRouteNodes : Text) : Program NodeLock NodeStore Unit := do
  if tmpRouteNodes.isEmpty then return ()
  else
    lock .routeNodes
    modifyStore (fun store => {store with routeMap := storeNodes store.routeMap tmpRouteNodes})
    unlock .routeNodes

def setVpnNodes (tmpVpnNodes : Text) : Program NodeLock NodeStore Unit := do
  lock .vpnNodes
  modifyStore (fun store => {store with vpnMap := storeNodes store.vpnMap tmpVpnNodes})
  unlock .vpnNodes

def getVpnNodes : Program NodeLock NodeStore Text := do
  lock .vpnNodes
  let store ← load
  match store.vpnNodes with
  -- the guard returns before the release
  | none => return []
  | some tmpStr =>
    unlock .vpnNodes
    return tmpStr

/-- What `getOneVpnNode` does under the lock: it writes the three statics one by one. -/
def chooseIn (country : Text) : Program NodeLock NodeStore Unit := do
  let store ← load
  match store.vpnMap country with
  | none => return ()
  | some nodes =>
    match ← randomEntry nodes with
    | none => return ()
    | some nodeInfoArr =>
      let ip ← element nodeInfoArr 0
      modifyStore (fun store => {store with choosedVpnIp := ip})
      let port ← element nodeInfoArr 1
      modifyStore (fun store => {store with choosedVpnPort := (Text.int64 port).getD 0})
      let key ← element nodeInfoArr 3
      modifyStore (fun store => {store with seckey := key})

def getOneVpnNode (country : Text) : Program NodeLock NodeStore Unit := do
  lock .vpnNodes
  chooseIn country
  unlock .vpnNodes

def chooseVpnNode : Program NodeLock NodeStore Unit := do
  let store ← load
  getOneVpnNode store.choosedCountry

def routeIn (country : Text) : Program NodeLock NodeStore (Text × Int) := do
  let store ← load
  match store.routeMap country with
  | none => return ([],0)
  | some nodes =>
    match ← randomEntry nodes with
    | none => return ([],0)
    | some nodeInfoArr =>
      let routeIp ← element nodeInfoArr 0
      let routePort ← element nodeInfoArr 2
      return (routeIp,(Text.int64 routePort).getD 0)

def getOneRouteNode (country : Text) : Program NodeLock NodeStore (Text × Int) := do
  lock .routeNodes
  let route ← routeIn country
  unlock .routeNodes
  return route

def Unusable (route : Text × Int) : Prop := route.1.isEmpty = true ∨ route.2 ≤ 0

instance (route : Text × Int) : Decidable (Unusable route) := inferInstanceAs (Decidable (_ ∨ _))

/-- The loop over the countries, left at the first usable route. -/
def firstUsable : List Text → Text × Int → Program NodeLock NodeStore (Text × Int)
  | [],res => return res
  | country :: rest,_ => do
    let res ← getOneRouteNode country
    if Unusable res then firstUsable rest res else return res

def getRouteNode : Program NodeLock NodeStore (Text × Int) := do
  let store ← load
  let res ← getOneRouteNode store.localCountry
  if Unusable res then
    let store ← load
    let res ← getOneRouteNode store.choosedCountry
    if Unusable res then firstUsable defaultRoute res else return res
  else return res

end ShadowsocksAdapter

inductive NodeOperation
  | setLocalCountry (country : Text)
  | setChoosedCountry (country : Text)
  | setRouteNodes (nodes : Text)
  | setVpnNodes (nodes : Text)
  | getVpnNodes
  | getRouteNode
  | getOneRouteNode (country : Text)
  | getOneVpnNode (country : Text)
  | chooseVpnNode
deriving DecidableEq

inductive NodeAnswer
  | done
  | nodes (text : Text)
  | route (route : Text × Int)
deriving DecidableEq

namespace NodeOperation
open Program

def perform : NodeOperation → Program NodeLock NodeStore NodeAnswer
  | setLocalCountry country => (fun _ => .done) <$> ShadowsocksAdapter.setLocalCountry country
  | setChoosedCountry country => (fun _ => .done) <$> ShadowsocksAdapter.setChoosedCountry country
  | setRouteNodes nodes => (fun _ => .done) <$> ShadowsocksAdapter.setRouteNodes nodes
  | setVpnNodes nodes => (fun _ => .done) <$> ShadowsocksAdapter.setVpnNodes nodes
  | getVpnNodes => .nodes <$> ShadowsocksAdapter.getVpnNodes
  | getRouteNode => .route <$> ShadowsocksAdapter.getRouteNode
  | getOneRouteNode country => .route <$> ShadowsocksAdapter.getOneRouteNode country
  | getOneVpnNode country => (fun _ => .done) <$> ShadowsocksAdapter.getOneVpnNode country
  | chooseVpnNode => (fun _ => .done) <$> ShadowsocksAdapter.chooseVpnNode

end NodeOperation

/-- The operations one after the other; a stop ends the run. -/
def nodeStore : Machine (Locked NodeLock NodeStore) NodeOperation (Except (Stop NodeLock) NodeAnswer) where
  step s operation :=
    match operation.perform s with
    | .ok (answer,next) => ([.ok answer],some next)
    | .error stop => ([.error stop],none)

namespace ShadowsocksAdapter
open Program
variable {E : Stop NodeLock → Prop} {s : Locked NodeLock NodeStore}

theorem uint32_eq_none {n : Nat} : uint32 n = none ↔ 2^32 ≤ n := by
  rw [uint32]
  split
  · simp only [reduceCtorEq,false_iff]
    omega
  · simp only [true_iff]
    omega

theorem uint32_eq_some {n : Nat} {bound : UInt32} (converted : uint32 n = some bound) : bound.toNat = n := by
  rw [uint32] at converted
  split at converted
  · next fits =>
    cases converted
    rw [Int.toNat_natCast]
    exact UInt32.toNat_ofNat_of_lt' (by unfold UInt32.size; omega)
  · cases converted

theorem ensures_arc4random {Q : UInt32 → Locked NodeLock NodeStore → Prop} :
    Ensures E arc4random Q s ↔ Q (s.store.random 0) ⟨s.held,s.store.drawn⟩ := by
  rw [arc4random,ensures_bind,ensures_load,ensures_bind,ensures_modifyStore,ensures_pure]

theorem randomCustom_ensures {count : Nat} (present : 0 < count) (long : 2^32 ≤ count → E .trapped) :
    Ensures E (randomCustom 0 count) (fun y t => count < 2^32 ∧ y = (s.store.random 0).toNat % count ∧
      t = ⟨s.held,s.store.drawn⟩) s := by
  rw [randomCustom,ensures_bind,ensures_arc4random,ensures_bind]
  cases converted : uint32 count with
  | none => exact ensures_none.mpr (long (uint32_eq_none.mp converted))
  | some bound =>
    have counted := uint32_eq_some converted
    have nonzero : bound ≠ 0 := by
      rintro rfl
      exact Nat.ne_of_gt present (counted.symm.trans UInt32.toNat_zero)
    have rest : (s.store.random 0 % bound).toNat = (s.store.random 0).toNat % count := by
      rw [UInt32.toNat_mod,counted]
    have zero : uint32 0 = some 0 := rfl
    have sum : (s.store.random 0 % bound).toNat + (0 : UInt32).toNat < 2^32 := (s.store.random 0 % bound).toNat_lt
    rw [ensures_some,if_neg nonzero,ensures_bind,ensures_some,zero,ensures_bind,ensures_some,ensures_bind,
      if_pos sum,ensures_some,ensures_pure,UInt32.add_zero]
    exact ⟨counted ▸ bound.toNat_lt,rest,rfl⟩

/-- The fields of the entry that a random number picks, if there are six of them. -/
def entryAt (nodes : Text) (random : UInt32) : Option (List Text) := do
  let nodeArr := Text.components ',' nodes
  let entry ← nodeArr[random.toNat % nodeArr.length]?
  if 6 ≤ (Text.components ':' entry).length then some (Text.components ':' entry) else none

theorem entryAt_eq {nodes : Text} {random : UInt32} {entry : Text}
    (found : (Text.components ',' nodes)[random.toNat % (Text.components ',' nodes).length]? = some entry) :
    entryAt nodes random =
      if 6 ≤ (Text.components ':' entry).length then some (Text.components ':' entry) else none := by
  simp only [entryAt,found,Option.bind_eq_bind,Option.bind_some]

theorem exists_entry (nodes : Text) (random : UInt32) :
    ∃ entry, (Text.components ',' nodes)[random.toNat % (Text.components ',' nodes).length]? = some entry := by
  have bound := Nat.mod_lt random.toNat (Text.components_present ',' nodes)
  exact ⟨_,List.getElem?_eq_getElem bound⟩

theorem length_of_entryAt {nodes : Text} {random : UInt32} {fields : List Text}
    (picked : entryAt nodes random = some fields) : 6 ≤ fields.length := by
  obtain ⟨entry,found⟩ := exists_entry nodes random
  rw [entryAt_eq found] at picked
  obtain ⟨enough,same⟩ := Option.ite_none_right_eq_some.mp picked
  cases same
  exact enough

theorem randomEntry_ensures {nodes : Text} (long : 2^32 ≤ (Text.components ',' nodes).length → E .trapped) :
    Ensures E (randomEntry nodes) (fun fields t => (Text.components ',' nodes).length < 2^32 ∧
      fields = entryAt nodes (s.store.random 0) ∧ t = ⟨s.held,s.store.drawn⟩) s := by
  rw [randomEntry,if_pos (Text.components_present ',' nodes),ensures_bind]
  apply (randomCustom_ensures (Text.components_present ',' nodes) long).imp
  rintro y t ⟨short,rfl,rfl⟩
  obtain ⟨entry,found⟩ := exists_entry nodes (s.store.random 0)
  rw [ensures_bind,ensures_element found,ensures_pure,entryAt_eq found]
  exact ⟨short,rfl,rfl⟩

end ShadowsocksAdapter

namespace NodeStore
open ShadowsocksAdapter

def chosen (store : NodeStore) : Text × Int × Text := (store.choosedVpnIp,store.choosedVpnPort,store.seckey)

/-- The node of an entry: its first, second and fourth field. -/
def vpnNode (fields : List Text) : Text × Int × Text :=
  (fields.getD 0 [],(Text.int64 (fields.getD 1 [])).getD 0,fields.getD 3 [])

def take (store : NodeStore) : Option (List Text) → NodeStore
  | none => store
  | some fields => {store with
    choosedVpnIp := (vpnNode fields).1
    choosedVpnPort := (vpnNode fields).2.1
    seckey := (vpnNode fields).2.2}

/-- The store after a choice for the country. -/
def choose (store : NodeStore) (country : Text) : NodeStore :=
  match store.vpnMap country with
  | none => store
  | some nodes => store.drawn.take (entryAt nodes (store.random 0))

/-- The address and the route port of an entry. -/
def routeNode : Option (List Text) → Text × Int
  | none => ([],0)
  | some fields => (fields.getD 0 [],(Text.int64 (fields.getD 2 [])).getD 0)

def route (store : NodeStore) (country : Text) : Text × Int :=
  routeNode ((store.routeMap country).bind (fun nodes => entryAt nodes (store.random 0)))

def Long (map : Text → Option Text) (country : Text) : Prop :=
  ∃ nodes, map country = some nodes ∧ 2^32 ≤ (Text.components ',' nodes).length

end NodeStore

/-- The same locks and the same store, but for the random numbers that have been drawn. -/
structure Redrawn (s t : Locked NodeLock NodeStore) : Prop where
  held : t.held = s.held
  store : ∃ random, t.store = {s.store with random}

namespace Redrawn

theorem refl (s : Locked NodeLock NodeStore) : Redrawn s s := ⟨rfl,s.store.random,rfl⟩

theorem trans {s t u : Locked NodeLock NodeStore} (first : Redrawn s t) (second : Redrawn t u) : Redrawn s u := by
  obtain ⟨held,random,store⟩ := first
  obtain ⟨held',random',store'⟩ := second
  exact ⟨held'.trans held,random',by rw [store',store]⟩

end Redrawn

namespace ShadowsocksAdapter
open Program
variable {E : Stop NodeLock → Prop} {s : Locked NodeLock NodeStore} {country : Text}

theorem element_ensures {fields : List Text} {index : Nat} {Q : Text → Locked NodeLock NodeStore → Prop}
    (enough : 6 ≤ fields.length) (bound : index < 6) :
    Ensures E (element fields index) Q s ↔ Q (fields.getD index []) s := by
  have inside : index < fields.length := Nat.lt_of_lt_of_le bound enough
  have found : fields[index]? = some (fields.getD index []) := by
    rw [List.getD_eq_getElem?_getD,List.getElem?_eq_getElem inside,Option.getD_some]
  exact ensures_element found

theorem chooseIn_ensures (long : NodeStore.Long s.store.vpnMap country → E .trapped) :
    Ensures E (chooseIn country) (fun _ t => t = ⟨s.held,s.store.choose country⟩) s := by
  rw [chooseIn,ensures_bind,ensures_load]
  cases listed : s.store.vpnMap country with
  | none =>
    rw [ensures_pure,NodeStore.choose,listed]
  | some nodes =>
    rw [ensures_bind]
    apply (randomEntry_ensures (fun wide => long ⟨nodes,listed,wide⟩)).imp
    rintro picked t ⟨-,rfl,rfl⟩
    simp only [NodeStore.choose,listed]
    cases picked : entryAt nodes (s.store.random 0) with
    | none => exact ensures_pure.mpr rfl
    | some fields =>
      have enough := length_of_entryAt picked
      rw [ensures_bind,element_ensures enough (by decide),ensures_bind,ensures_modifyStore,ensures_bind,
        element_ensures enough (by decide),ensures_bind,ensures_modifyStore,ensures_bind,
        element_ensures enough (by decide),ensures_modifyStore]
      rfl

theorem getOneVpnNode_ensures (busy : .vpnNodes ∈ s.held → E (.blocked .vpnNodes))
    (long : NodeStore.Long s.store.vpnMap country → E .trapped) :
    Ensures E (getOneVpnNode country) (fun _ t => t = ⟨s.held,s.store.choose country⟩) s := by
  refine ensures_last_section busy fun _ => ?_
  refine Ensures.imp (chooseIn_ensures long) ?_
  rintro _ t rfl
  exact ⟨rfl,rfl⟩

theorem routeIn_ensures (long : NodeStore.Long s.store.routeMap country → E .trapped) :
    Ensures E (routeIn country) (fun route t => ¬NodeStore.Long s.store.routeMap country ∧
      route = s.store.route country ∧ Redrawn s t) s := by
  rw [routeIn,ensures_bind,ensures_load]
  cases listed : s.store.routeMap country with
  | none =>
    have short : ¬NodeStore.Long s.store.routeMap country := by
      rintro ⟨nodes,found,-⟩
      rw [listed] at found
      cases found
    rw [ensures_pure,NodeStore.route,listed]
    exact ⟨short,rfl,.refl s⟩
  | some nodes =>
    rw [ensures_bind]
    apply (randomEntry_ensures (fun wide => long ⟨nodes,listed,wide⟩)).imp
    rintro picked t ⟨bound,rfl,rfl⟩
    have short : ¬NodeStore.Long s.store.routeMap country := by
      rintro ⟨other,found,wide⟩
      cases listed.symm.trans found
      exact Nat.not_le_of_lt bound wide
    rw [NodeStore.route,listed,Option.bind_some]
    have redrawn : Redrawn s ⟨s.held,s.store.drawn⟩ := ⟨rfl,_,rfl⟩
    cases picked : entryAt nodes (s.store.random 0) with
    | none => exact ensures_pure.mpr ⟨short,rfl,redrawn⟩
    | some fields =>
      have enough := length_of_entryAt picked
      rw [ensures_bind,element_ensures enough (by decide),ensures_bind,element_ensures enough (by decide),
        ensures_pure]
      exact ⟨short,rfl,redrawn⟩

theorem getOneRouteNode_ensures (busy : .routeNodes ∈ s.held → E (.blocked .routeNodes))
    (long : NodeStore.Long s.store.routeMap country → E .trapped) :
    Ensures E (getOneRouteNode country) (fun route t => ¬NodeStore.Long s.store.routeMap country ∧
      route = s.store.route country ∧ Redrawn s t) s := by
  refine ensures_section busy fun _ => ?_
  refine Ensures.imp (routeIn_ensures long) ?_
  rintro route t ⟨short,same,held,random,store⟩
  exact ⟨held,ensures_pure.mpr ⟨short,same,rfl,random,store⟩⟩

def candidates (store : NodeStore) : List Text := store.localCountry :: store.choosedCountry :: defaultRoute

/-- The route is that of one of the countries for some random number. -/
def OfCountry (store : NodeStore) (countries : List Text) (route : Text × Int) : Prop :=
  ∃ country ∈ countries, ∃ random, route = NodeStore.route {store with random} country

theorem firstUsable_ensures (busy : .routeNodes ∈ s.held → E (.blocked .routeNodes)) (trap : E .trapped)
    (countries : List Text) (res : Text × Int) : Ensures E (firstUsable countries res)
      (fun route t => Redrawn s t ∧ (route = res ∨ OfCountry s.store countries route)) s := by
  induction countries generalizing s res with
  | nil => exact ensures_pure.mpr ⟨.refl s,Or.inl rfl⟩
  | cons country rest ih =>
    rw [firstUsable,ensures_bind]
    apply (getOneRouteNode_ensures busy (fun _ => trap)).imp
    rintro _ t ⟨-,rfl,redrawn⟩
    have here : OfCountry s.store (country :: rest) (s.store.route country) :=
      ⟨country,List.mem_cons_self,s.store.random,rfl⟩
    split
    · apply (ih (redrawn.held ▸ busy) (s.store.route country)).imp
      rintro route u ⟨again,same | ⟨other,member,random,same⟩⟩
      · exact ⟨redrawn.trans again,Or.inr (same ▸ here)⟩
      · obtain ⟨_,store⟩ := redrawn.store
        refine ⟨redrawn.trans again,Or.inr ⟨other,List.mem_cons_of_mem _ member,random,?_⟩⟩
        rw [same,store]
    · exact ensures_pure.mpr ⟨redrawn,Or.inr here⟩

/-- `getRouteNode` tries its candidates in order. -/
theorem getRouteNode_ensures {Q : Text × Int → Locked NodeLock NodeStore → Prop} (res : Text × Int)
    (tries : Ensures E (firstUsable (candidates s.store) res) Q s) : Ensures E getRouteNode Q s := by
  rw [getRouteNode,ensures_bind,ensures_load,ensures_bind]
  rw [candidates,firstUsable,ensures_bind] at tries
  have kept : Ensures (fun _ => True) (getOneRouteNode s.store.localCountry) _ s :=
    getOneRouteNode_ensures (fun _ => trivial) (fun _ => trivial)
  apply (tries.and kept).imp
  rintro res t ⟨later,-,-,-,random,store⟩
  split at later
  · next failed =>
    rw [if_pos failed,ensures_bind,ensures_load,store]
    exact later
  · next found =>
    rw [if_neg found]
    exact later

end ShadowsocksAdapter

end TenonVpn
