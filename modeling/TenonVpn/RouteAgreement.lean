import TenonVpn.NodeStore
import TenonVpn.VpnNode

/-! The app and the extension each pick an entry of a list of nodes and read a route node
from its fields. The two were written separately, and ask for another number of fields. -/
namespace TenonVpn

namespace BaseViewController

/-- `randomCustom` for the number that `arc4random` returns; none where a conversion or the sum traps. -/
def randomCustom (drawn : UInt32) (min max : Int) : Option Nat := do
  let bound ← ShadowsocksAdapter.uint32 max
  let rest ← (if bound = 0 then none else some (drawn % bound))
  let least ← ShadowsocksAdapter.uint32 min
  let y ← (if rest.toNat + least.toNat < 2^32 then some (rest + least) else none)
  return y.toNat

/-- `getOneRouteNode` once `LibP2P` has answered `resStr`; none where it traps. -/
def getOneRouteNodeIn (resStr : Text) (drawn : UInt32) : Option RouteNode :=
  if resStr.isEmpty then some ⟨[],[]⟩
  else
    let nodeArr := Text.components ',' resStr
    if nodeArr.length ≤ 0 then some ⟨[],[]⟩
    else do
      let randPos ← randomCustom drawn 0 nodeArr.length
      let entry ← nodeArr[randPos]?
      return routeNode (nodeInfo entry)

theorem randomCustom_eq {count : Nat} (present : 0 < count) (drawn : UInt32) :
    randomCustom drawn 0 count = if count < 2^32 then some (drawn.toNat % count) else none := by
  cases converted : ShadowsocksAdapter.uint32 count with
  | none =>
    have wide := ShadowsocksAdapter.uint32_eq_none.mp converted
    rw [if_neg (Nat.not_lt.mpr wide),randomCustom,converted]
    rfl
  | some bound =>
    have counted := ShadowsocksAdapter.uint32_eq_some converted
    have nonzero : bound ≠ 0 := by
      rintro rfl
      exact Nat.ne_of_gt present (counted.symm.trans UInt32.toNat_zero)
    have sum : (drawn % bound).toNat + (0 : UInt32).toNat < 2^32 := (drawn % bound).toNat_lt
    have zero : ShadowsocksAdapter.uint32 0 = some 0 := rfl
    rw [if_pos (counted ▸ bound.toNat_lt),randomCustom,converted,zero]
    simp only [Option.bind_eq_bind,Option.bind_some,if_neg nonzero,if_pos sum,UInt32.add_zero,Option.pure_def]
    rw [UInt32.toNat_mod,counted]

theorem getOneRouteNodeIn_eq {resStr entry : Text} {drawn : UInt32} (present : resStr ≠ [])
    (found : (Text.components ',' resStr)[drawn.toNat % (Text.components ',' resStr).length]? = some entry) :
    getOneRouteNodeIn resStr drawn =
      if (Text.components ',' resStr).length < 2^32 then some (routeNode (nodeInfo entry)) else none := by
  have filled := Text.components_present ',' resStr
  rw [getOneRouteNodeIn,if_neg (by simpa using present),if_neg (Nat.not_le.mpr filled),randomCustom_eq filled]
  split
  · simp only [Option.bind_eq_bind,Option.bind_some,found,Option.pure_def]
  · rfl

/-- The text that `LibP2P` answers is read as `getOneRouteNode` reads it. -/
theorem getOneRouteNodeIn_getVpnNodes (country : Text) (answer : ClientAnswer) (drawn : UInt32)
    (short : (Text.components ',' (LibP2P.getVpnNodes country answer)).length < 2^32) :
    getOneRouteNodeIn (LibP2P.getVpnNodes country answer) drawn =
      some (getOneRouteNode country ⟨answer,drawn.toNat⟩) := by
  rw [getOneRouteNode,drawFields]
  by_cases empty : LibP2P.getVpnNodes country answer = []
  · rw [empty]
    rfl
  · obtain ⟨entry,found⟩ := ShadowsocksAdapter.exists_entry (LibP2P.getVpnNodes country answer) drawn
    rw [getOneRouteNodeIn_eq empty found,if_pos short,if_neg (by simpa using empty)]
    simp only [found,Option.bind_some]

end BaseViewController

def RouteNode.Usable (node : RouteNode) : Prop :=
  node.ip ≠ [] ∧ ∃ port, Text.int64 node.port = some port ∧ 0 < port

/-- Neither is usable, or the two have the same address and the same port. -/
def SameRoute (node : RouteNode) (route : Text × Int) : Prop :=
  (¬node.Usable ∧ ShadowsocksAdapter.Unusable route) ∨ (node.ip = route.1 ∧ Text.int64 node.port = some route.2)

/-- The app on the nodes and the extension on what it holds for the country return the
same route for the next random number, or both of them trap. -/
def ReadAlike (nodes country : Text) (s : Locked NodeLock NodeStore) : Prop :=
  match BaseViewController.getOneRouteNodeIn nodes (s.store.random 0), ShadowsocksAdapter.getOneRouteNode country s with
  | some node,.ok (route,_) => SameRoute node route
  | none,.error stop => stop = .trapped
  | _,_ => False

def PicksFiveFields (nodes : Text) (drawn : UInt32) : Prop :=
  ∃ randPos entry, BaseViewController.randomCustom drawn 0 (Text.components ',' nodes).length = some randPos ∧
    (Text.components ',' nodes)[randPos]? = some entry ∧ (Text.components ':' entry).length = 5 ∧
    RouteNode.Usable ⟨(Text.components ':' entry).getD 0 [],(Text.components ':' entry).getD 2 []⟩

namespace RouteNode
open ShadowsocksAdapter

theorem not_usable_empty : ¬RouteNode.Usable ⟨[],[]⟩ := fun usable => usable.1 rfl

theorem unusable_empty : Unusable ([],0) := Or.inl rfl

theorem sameRoute_fields (ip port : Text) : SameRoute ⟨ip,port⟩ (ip,(Text.int64 port).getD 0) := by
  cases read : Text.int64 port with
  | none => exact Or.inl ⟨fun usable => by simp [RouteNode.Usable,read] at usable,Or.inr (by simp)⟩
  | some number => exact Or.inr ⟨rfl,by simp [read]⟩

/-- The rules of the two for the fields of one entry differ at five fields alone. -/
theorem sameRoute_iff {entry : Text} {fields : List Text} (split : Text.components ':' entry = fields) :
    SameRoute (BaseViewController.routeNode (BaseViewController.nodeInfo entry))
      (NodeStore.routeNode (if 6 ≤ fields.length then some fields else none)) ↔
      ¬(fields.length = 5 ∧ RouteNode.Usable ⟨fields.getD 0 [],fields.getD 2 []⟩) := by
  rw [BaseViewController.nodeInfo,split]
  rcases Nat.lt_trichotomy fields.length 5 with few | five | many
  · rw [if_pos few,if_neg (by omega)]
    exact iff_of_true (Or.inl ⟨not_usable_empty,unusable_empty⟩) (fun same => Nat.ne_of_lt few same.1)
  · rw [if_neg (by omega),if_neg (by omega)]
    constructor
    · rintro (⟨unusable,-⟩ | ⟨ip,-⟩) ⟨-,usable⟩
      · exact unusable usable
      · exact usable.1 ip
    · exact fun other => Or.inl ⟨fun usable => other ⟨five,usable⟩,unusable_empty⟩
  · rw [if_neg (by omega),if_pos (show 6 ≤ fields.length from many)]
    exact iff_of_true (sameRoute_fields _ _) (fun same => Nat.ne_of_gt many same.1)

end RouteNode

namespace ShadowsocksAdapter
open Program
variable {s : Locked NodeLock NodeStore} {country nodes : Text}

/-- With the lock free, the call returns the stored country's route, or traps where the list is too long. -/
theorem getOneRouteNode_returns (country : Text) (free : .routeNodes ∉ s.held) :
    Ensures (fun stop => stop = .trapped ∧ NodeStore.Long s.store.routeMap country) (getOneRouteNode country)
      (fun route _ => ¬NodeStore.Long s.store.routeMap country ∧ route = s.store.route country) s := by
  refine (getOneRouteNode_ensures (fun busy => absurd busy free) (fun long => ⟨rfl,long⟩)).imp ?_
  rintro route t ⟨short,same,-⟩
  exact ⟨short,same⟩

theorem long_iff (listed : s.store.routeMap country = some nodes) :
    NodeStore.Long s.store.routeMap country ↔ ¬(Text.components ',' nodes).length < 2^32 := by
  rw [Nat.not_lt]
  constructor
  · rintro ⟨other,found,wide⟩
    cases listed.symm.trans found
    exact wide
  · exact fun wide => ⟨nodes,listed,wide⟩

theorem picksFiveFields_iff {entry : Text} {drawn : UInt32}
    (found : (Text.components ',' nodes)[drawn.toNat % (Text.components ',' nodes).length]? = some entry) :
    PicksFiveFields nodes drawn ↔ (Text.components ',' nodes).length < 2^32 ∧
      ((Text.components ':' entry).length = 5 ∧
        RouteNode.Usable ⟨(Text.components ':' entry).getD 0 [],(Text.components ':' entry).getD 2 []⟩) := by
  rw [PicksFiveFields,BaseViewController.randomCustom_eq (Text.components_present ',' nodes)]
  constructor
  · rintro ⟨randPos,other,picked,taken,five⟩
    obtain ⟨short,same⟩ := Option.ite_none_right_eq_some.mp picked
    cases same
    cases found.symm.trans taken
    exact ⟨short,five⟩
  · rintro ⟨short,five⟩
    exact ⟨_,entry,if_pos short,found,five⟩

/-- The two read a list of nodes alike, unless the entry that is picked is one of five fields. -/
theorem readAlike_iff (free : .routeNodes ∉ s.held) (listed : s.store.routeMap country = some nodes)
    (present : nodes ≠ []) : ReadAlike nodes country s ↔ ¬PicksFiveFields nodes (s.store.random 0) := by
  obtain ⟨entry,found⟩ := exists_entry nodes (s.store.random 0)
  obtain ⟨returned,stopped⟩ := ensures_iff.mp (getOneRouteNode_returns country free)
  rw [long_iff listed] at returned stopped
  rw [ReadAlike,BaseViewController.getOneRouteNodeIn_eq present found,picksFiveFields_iff found]
  cases result : getOneRouteNode country s with
  | error stop =>
    obtain ⟨trapped,wide⟩ := stopped stop result
    rw [if_neg wide]
    exact iff_of_true trapped (fun five => wide five.1)
  | ok answer =>
    obtain ⟨route,t⟩ := answer
    obtain ⟨fits,same⟩ := returned route t result
    have short := not_not.mp fits
    rw [if_pos short,same,NodeStore.route,listed,Option.bind_some,entryAt_eq found]
    exact (RouteNode.sameRoute_iff rfl).trans (not_congr (and_iff_right short).symm)

def usStore (nodes : Text) : NodeStore :=
  {NodeStore.initial (fun _ => 0) with routeMap := fun country => if country = "US".toList then some nodes else none}

theorem readAlike_six : ReadAlike "1.1.1.1:1:2:k:p:d".toList "US".toList ⟨[],usStore "1.1.1.1:1:2:k:p:d".toList⟩ := by
  refine (readAlike_iff List.not_mem_nil rfl (by decide)).mpr ?_
  rintro ⟨randPos,entry,-,taken,five,-⟩
  have single : Text.components ',' "1.1.1.1:1:2:k:p:d".toList = ["1.1.1.1:1:2:k:p:d".toList] := by decide
  rw [single] at taken
  cases List.mem_singleton.mp (List.mem_of_getElem? taken)
  exact absurd five (by decide)

theorem not_readAlike_five : BaseViewController.getOneRouteNodeIn "1.1.1.1:1:2:k:p".toList 0 =
      some ⟨"1.1.1.1".toList,"2".toList⟩ ∧
    (∃ t, getOneRouteNode "US".toList ⟨[],usStore "1.1.1.1:1:2:k:p".toList⟩ = .ok (([],0),t)) ∧
    ¬ReadAlike "1.1.1.1:1:2:k:p".toList "US".toList ⟨[],usStore "1.1.1.1:1:2:k:p".toList⟩ := by
  have app : BaseViewController.getOneRouteNodeIn "1.1.1.1:1:2:k:p".toList 0 =
      some ⟨"1.1.1.1".toList,"2".toList⟩ :=
    (BaseViewController.getOneRouteNodeIn_eq (by decide) rfl).trans (if_pos (by decide))
  have extension : ∃ t, getOneRouteNode "US".toList ⟨[],usStore "1.1.1.1:1:2:k:p".toList⟩ = .ok (([],0),t) :=
    ⟨_,rfl⟩
  refine ⟨app,extension,?_⟩
  obtain ⟨t,returned⟩ := extension
  have drawn : (usStore "1.1.1.1:1:2:k:p".toList).random 0 = 0 := rfl
  rw [ReadAlike,drawn,app,returned]
  rintro (⟨unusable,-⟩ | ⟨ip,-⟩)
  · exact unusable ⟨by decide,2,rfl,by decide⟩
  · exact absurd ip (by decide)

end ShadowsocksAdapter
end TenonVpn
