import TenonVpn.VpnNode

/-! `ConnectVpn` as a whole: what it asks of the `VpnManager`, and what it writes into the
settings and into `old_vpn_ip`, for every answer of the client and every random pick. -/
namespace TenonVpn

inductive ManagerCall
  | disconnect
  | connect
deriving DecidableEq

/-- What `ConnectVpn` reads and writes. -/
structure ConnectState where
  localCountry : Text
  choosedCountry : Option Text
  oldVpnIp : Text
  nowConnectStatus : Nat
  settings : Settings
  vpnsvrStatus : Text

/-- The fields of an entry of a text that `LibP2P` answers for one of the countries. -/
def Offered (countries : List Text) (draws : Nat → Draw) (fields : List Text) : Prop :=
  ∃ country ∈ countries, ∃ k, ∃ entry ∈ Text.components ',' (LibP2P.getVpnNodes country (draws k).answer),
    fields = Text.components ':' entry

namespace ConnectState
open ViewController

/-- `ConnectVpn`; none where the conversion of the port traps. -/
def connectVpn (publicKey : Text) (uninitialized : UInt32) (route vpn : Nat → Draw) (s : ConnectState) :
    Option (List ManagerCall × ConnectState) :=
  let s := {s with vpnsvrStatus := "ok".toList}
  match s.choosedCountry with
  | none => some ([],s)
  | some choosedCountry =>
    let routeNode := chooseRouteNode s.localCountry choosedCountry route
    let vpnNode := chooseVpnNode s.oldVpnIp choosedCountry vpn
    if !routeNode.ip.isEmpty && !vpnNode.ip.isEmpty then do
      let port ← Text.int64 routeNode.port
      let vpnIpInt := LibP2P.changeStrIp uninitialized vpnNode.ip
      let settings := {s.settings with
        ipAddress := routeNode.ip
        port
        publicKey
        encMethod := encMethod vpnIpInt vpnNode.port
        password := vpnNode.passwd
        algorithm := "aes-128-cfb".toList}
      return ([.disconnect,.connect],{s with settings,nowConnectStatus := 1,oldVpnIp := vpnNode.ip})
    else some ([],s)

def Found (route vpn : Nat → Draw) (s : ConnectState) : Prop :=
  ∃ choosedCountry, s.choosedCountry = some choosedCountry ∧
    (chooseRouteNode s.localCountry choosedCountry route).ip ≠ [] ∧
    (chooseVpnNode s.oldVpnIp choosedCountry vpn).ip ≠ []

/-- The settings take the route from one entry, and the node from one entry. -/
structure OfEntries (route vpn : Nat → Draw) (s t : ConnectState) : Prop where
  routed : ∃ fields, Offered (s.localCountry :: s.choosedCountry.toList ++ defaultCountry) route fields ∧
    t.settings.ipAddress = fields.getD 0 [] ∧ some t.settings.port = Text.int64 (fields.getD 2 [])
  chosen : ∃ fields, Offered (s.choosedCountry.toList ++ defaultCountry) vpn fields ∧
    t.oldVpnIp = fields.getD 0 [] ∧ t.settings.password = fields.getD 3 [] ∧
    ∃ address, octets (LibP2P.cString (fields.getD 0 [])) = some address ∧
      t.settings.encMethod = encMethod (UInt32.ofNat (Data.load address)) (fields.getD 1 [])

/-- Whatever the memory held before, the call returns; it asks to connect exactly if a route and
a node are found, with the settings of one entry each, and else changes no setting. -/
def AllOrNothing (publicKey : Text) (route vpn : Nat → Draw) (s : ConnectState) : Prop :=
  ∀ uninitialized, ∃ calls t, s.connectVpn publicKey uninitialized route vpn = some (calls,t) ∧
    (.connect ∈ calls ↔ s.Found route vpn) ∧ (s.Found route vpn → OfEntries route vpn s t) ∧
    (¬s.Found route vpn → t.settings = s.settings ∧ t.oldVpnIp = s.oldVpnIp)

def Convertible (route vpn : Nat → Draw) (s : ConnectState) : Prop :=
  ∀ choosedCountry, s.choosedCountry = some choosedCountry →
    (Text.int64 (chooseRouteNode s.localCountry choosedCountry route).port).isSome = true ∧
    (octets (LibP2P.cString (chooseVpnNode s.oldVpnIp choosedCountry vpn).ip)).isSome = true

end ConnectState

namespace BaseViewController

theorem drawFields_entry {resStr : Text} {random : Nat} {fields : List Text}
    (drawn : drawFields resStr random = some fields) :
    ∃ entry ∈ Text.components ',' resStr, fields = Text.components ':' entry := by
  rw [drawFields] at drawn
  split at drawn
  · cases drawn
  · obtain ⟨entry,found,read⟩ := Option.bind_eq_some_iff.mp drawn
    obtain ⟨-,same⟩ := Option.ite_none_left_eq_some.mp read
    exact ⟨entry,List.mem_of_getElem? found,(Option.some.inj same).symm⟩

theorem getOneRouteNode_entry {country : Text} {draw : Draw} (filled : (getOneRouteNode country draw).ip ≠ []) :
    ∃ entry ∈ Text.components ',' (LibP2P.getVpnNodes country draw.answer),
      getOneRouteNode country draw = ⟨(Text.components ':' entry).getD 0 [],(Text.components ':' entry).getD 2 []⟩ := by
  rw [getOneRouteNode] at filled ⊢
  cases drawn : drawFields (LibP2P.getVpnNodes country draw.answer) draw.random with
  | none =>
    rw [drawn] at filled
    exact absurd rfl filled
  | some fields =>
    obtain ⟨entry,member,rfl⟩ := drawFields_entry drawn
    exact ⟨entry,member,rfl⟩

theorem getOneVpnNode_entry {country : Text} {draw : Draw} (filled : (getOneVpnNode country draw).ip ≠ []) :
    ∃ entry ∈ Text.components ',' (LibP2P.getVpnNodes country draw.answer), getOneVpnNode country draw =
      ⟨(Text.components ':' entry).getD 0 [],(Text.components ':' entry).getD 1 [],(Text.components ':' entry).getD 3 []⟩ := by
  rw [getOneVpnNode] at filled ⊢
  split at filled
  · exact absurd rfl filled
  · next drawn =>
    obtain ⟨entry,member,rfl⟩ := drawFields_entry drawn
    exact ⟨entry,member,rfl⟩

end BaseViewController

namespace ViewController
open BaseViewController

/-- The node found is that of one call, for one of the countries, or the one at hand. -/
theorem firstFilled_eq {ν : Type} (ip : ν → Text) (get : Text → Draw → ν) (draws : Nat → Draw) (k : Nat)
    (countries : List Text) (node : ν) : firstFilled ip get draws k countries node = node ∨
      ∃ country ∈ countries, ∃ k', firstFilled ip get draws k countries node = get country (draws k') := by
  induction countries generalizing k node with
  | nil => exact Or.inl rfl
  | cons country rest ih =>
    rw [firstFilled]
    split
    · rcases ih (k+1) (get country (draws k)) with same | ⟨other,member,k',same⟩
      · exact Or.inr ⟨country,List.mem_cons_self,k,same⟩
      · exact Or.inr ⟨other,List.mem_cons_of_mem country member,k',same⟩
    · exact Or.inr ⟨country,List.mem_cons_self,k,rfl⟩

theorem chooseRouteNode_eq {localCountry choosedCountry : Text} {route : Nat → Draw}
    (filled : (chooseRouteNode localCountry choosedCountry route).ip ≠ []) :
    ∃ country ∈ localCountry :: choosedCountry :: defaultCountry, ∃ k,
      chooseRouteNode localCountry choosedCountry route = getOneRouteNode country (route k) := by
  rw [chooseRouteNode] at filled ⊢
  rcases firstFilled_eq RouteNode.ip getOneRouteNode route 0 (localCountry :: choosedCountry :: defaultCountry)
    ⟨[],[]⟩ with same | found
  · rw [same] at filled
    exact absurd rfl filled
  · exact found

theorem chooseRouteNode_offered {localCountry choosedCountry : Text} {route : Nat → Draw}
    (filled : (chooseRouteNode localCountry choosedCountry route).ip ≠ []) :
    ∃ fields, Offered (localCountry :: choosedCountry :: defaultCountry) route fields ∧
      chooseRouteNode localCountry choosedCountry route = ⟨fields.getD 0 [],fields.getD 2 []⟩ := by
  obtain ⟨country,member,k,same⟩ := chooseRouteNode_eq filled
  rw [same] at filled ⊢
  obtain ⟨entry,listed,read⟩ := getOneRouteNode_entry filled
  exact ⟨_,⟨country,member,k,entry,listed,rfl⟩,read⟩

theorem chooseVpnNode_eq (oldVpnIp choosedCountry : Text) (vpn : Nat → Draw) :
    ∃ country ∈ choosedCountry :: defaultCountry, ∃ k,
      chooseVpnNode oldVpnIp choosedCountry vpn = getOneVpnNode country (vpn k) := by
  obtain ⟨k,other⟩ := first_drawn oldVpnIp choosedCountry vpn
  simp only [chooseVpnNode,other]
  split
  · rcases firstFilled_eq VpnNode.ip getOneVpnNode vpn 12 defaultCountry (getOneVpnNode choosedCountry (vpn k)) with
      same | ⟨country,member,k',same⟩
    · exact ⟨choosedCountry,List.mem_cons_self,k,same⟩
    · exact ⟨country,List.mem_cons_of_mem choosedCountry member,k',same⟩
  · exact ⟨choosedCountry,List.mem_cons_self,k,rfl⟩

theorem chooseVpnNode_offered {oldVpnIp choosedCountry : Text} {vpn : Nat → Draw}
    (filled : (chooseVpnNode oldVpnIp choosedCountry vpn).ip ≠ []) :
    ∃ fields, Offered (choosedCountry :: defaultCountry) vpn fields ∧
      chooseVpnNode oldVpnIp choosedCountry vpn = ⟨fields.getD 0 [],fields.getD 1 [],fields.getD 3 []⟩ := by
  obtain ⟨country,member,k,same⟩ := chooseVpnNode_eq oldVpnIp choosedCountry vpn
  rw [same] at filled ⊢
  obtain ⟨entry,listed,read⟩ := getOneVpnNode_entry filled
  exact ⟨_,⟨country,member,k,entry,listed,rfl⟩,read⟩

end ViewController

namespace ConnectState
open ViewController
variable {route vpn : Nat → Draw} {s : ConnectState}

theorem connectVpn_not_found (publicKey : Text) (uninitialized : UInt32) (failed : ¬s.Found route vpn) :
    s.connectVpn publicKey uninitialized route vpn = some ([],{s with vpnsvrStatus := "ok".toList}) := by
  cases choosed : s.choosedCountry with
  | none => simp only [connectVpn,choosed]
  | some country =>
    have missing : ¬((!(chooseRouteNode s.localCountry country route).ip.isEmpty &&
        !(chooseVpnNode s.oldVpnIp country vpn).ip.isEmpty) = true) := by
      intro both
      refine failed ⟨country,choosed,?_⟩
      simpa using both
    simp only [connectVpn,choosed,if_neg missing]

theorem connectVpn_found (publicKey : Text) (uninitialized : UInt32) {country : Text}
    (choosed : s.choosedCountry = some country) (routeFilled : (chooseRouteNode s.localCountry country route).ip ≠ [])
    (vpnFilled : (chooseVpnNode s.oldVpnIp country vpn).ip ≠ []) :
    s.connectVpn publicKey uninitialized route vpn =
      (Text.int64 (chooseRouteNode s.localCountry country route).port).map fun port =>
        ([.disconnect,.connect],{s with
          vpnsvrStatus := "ok".toList
          settings := {s.settings with
            ipAddress := (chooseRouteNode s.localCountry country route).ip
            port
            publicKey
            encMethod := encMethod (LibP2P.changeStrIp uninitialized (chooseVpnNode s.oldVpnIp country vpn).ip)
              (chooseVpnNode s.oldVpnIp country vpn).port
            password := (chooseVpnNode s.oldVpnIp country vpn).passwd
            algorithm := "aes-128-cfb".toList}
          nowConnectStatus := 1
          oldVpnIp := (chooseVpnNode s.oldVpnIp country vpn).ip}) := by
  have both : (!(chooseRouteNode s.localCountry country route).ip.isEmpty &&
      !(chooseVpnNode s.oldVpnIp country vpn).ip.isEmpty) = true := by simpa using ⟨routeFilled,vpnFilled⟩
  simp only [connectVpn,choosed,if_pos both]
  rw [Option.map_eq_bind]
  rfl

/-- The settings are those of the model that follows the node to the wire. -/
theorem settings_connectVpn (publicKey : Text) (uninitialized : UInt32) {country : Text}
    (choosed : s.choosedCountry = some country) :
    (s.connectVpn publicKey uninitialized route vpn).map (fun result => result.2.settings) =
      ViewController.connectVpn publicKey s.oldVpnIp s.localCountry country uninitialized route vpn s.settings := by
  by_cases found : s.Found route vpn
  · obtain ⟨other,same,routeFilled,vpnFilled⟩ := found
    cases choosed.symm.trans same
    have both : (!(chooseRouteNode s.localCountry country route).ip.isEmpty &&
        !(chooseVpnNode s.oldVpnIp country vpn).ip.isEmpty) = true := by simpa using ⟨routeFilled,vpnFilled⟩
    rw [connectVpn_found publicKey uninitialized choosed routeFilled vpnFilled,Option.map_map]
    simp only [ViewController.connectVpn,if_pos both]
    rfl
  · have missing : ¬((!(chooseRouteNode s.localCountry country route).ip.isEmpty &&
        !(chooseVpnNode s.oldVpnIp country vpn).ip.isEmpty) = true) := by
      intro both
      refine found ⟨country,choosed,?_⟩
      simpa using both
    rw [connectVpn_not_found publicKey uninitialized found]
    simp only [ViewController.connectVpn,if_neg missing]
    rfl

theorem allOrNothing_of_not_found (publicKey : Text) (failed : ¬s.Found route vpn) :
    AllOrNothing publicKey route vpn s := by
  intro uninitialized
  refine ⟨[],_,connectVpn_not_found publicKey uninitialized failed,?_,fun found => absurd found failed,fun _ => ⟨rfl,rfl⟩⟩
  exact iff_of_false List.not_mem_nil failed

theorem allOrNothing_of_convertible (publicKey : Text) (convertible : s.Found route vpn → s.Convertible route vpn) :
    AllOrNothing publicKey route vpn s := by
  by_cases found : s.Found route vpn
  · obtain ⟨country,choosed,routeFilled,vpnFilled⟩ := id found
    obtain ⟨readable,reachable⟩ := convertible found country choosed
    obtain ⟨port,read⟩ := Option.isSome_iff_exists.mp readable
    obtain ⟨address,bytes⟩ := Option.isSome_iff_exists.mp reachable
    obtain ⟨routeFields,routeOffered,routed⟩ := chooseRouteNode_offered routeFilled
    obtain ⟨vpnFields,vpnOffered,chosen⟩ := chooseVpnNode_offered vpnFilled
    intro uninitialized
    have number : LibP2P.changeStrIp uninitialized (chooseVpnNode s.oldVpnIp country vpn).ip =
        UInt32.ofNat (Data.load address) := by rw [LibP2P.changeStrIp,bytes,Option.map_some,Option.getD_some]
    have ran := connectVpn_found publicKey uninitialized choosed routeFilled vpnFilled
    rw [read,Option.map_some,number] at ran
    rw [routed] at read
    rw [chosen] at bytes
    refine ⟨_,_,ran,iff_of_true (List.mem_cons_of_mem _ List.mem_cons_self) found,fun _ => ⟨?_,?_⟩,
      fun failed => absurd found failed⟩
    · refine ⟨routeFields,by rwa [choosed],?_,read.symm⟩
      simp only [routed]
    · refine ⟨vpnFields,by rwa [choosed],?_,?_,address,bytes,?_⟩
      · simp only [chosen]
      · simp only [chosen]
      · simp only [chosen]
  · exact allOrNothing_of_not_found publicKey found

theorem convertible_of_allOrNothing {publicKey : Text} (whole : AllOrNothing publicKey route vpn s)
    (found : s.Found route vpn) : s.Convertible route vpn := by
  obtain ⟨country,choosed,routeFilled,vpnFilled⟩ := id found
  obtain ⟨calls,t,ran,-,entries,-⟩ := whole 0
  obtain ⟨fields,-,old,-,address,bytes,-⟩ := (entries found).chosen
  rw [connectVpn_found publicKey 0 choosed routeFilled vpnFilled] at ran
  obtain ⟨port,read,same⟩ := Option.map_eq_some_iff.mp ran
  cases same
  intro other again
  cases choosed.symm.trans again
  refine ⟨Option.isSome_iff_exists.mpr ⟨port,read⟩,Option.isSome_iff_exists.mpr ⟨address,?_⟩⟩
  rw [← bytes]
  exact congrArg (fun ip => octets (LibP2P.cString ip)) old

/-- `ConnectVpn` is all or nothing exactly if the port of the route's entry and the address
of the node's entry can be converted, where both are found. -/
theorem allOrNothing_iff (publicKey : Text) (route vpn : Nat → Draw) (s : ConnectState) :
    AllOrNothing publicKey route vpn s ↔ (s.Found route vpn → s.Convertible route vpn) :=
  ⟨convertible_of_allOrNothing,allOrNothing_of_convertible publicKey⟩

/-- The client lists nodes with IPv4 addresses whose fields hold neither a separator nor a NUL, or none. -/
def PlainDraw (draw : Draw) : Prop := ∀ node ∈ draw.answer.nodes, node.Plain ∧ node.NulFree

theorem getOneRouteNode_plain {country : Text} {draw : Draw} (single : country ≠ "ALL".toList) (plain : PlainDraw draw)
    (filled : (BaseViewController.getOneRouteNode country draw).ip ≠ []) :
    (Text.int64 (BaseViewController.getOneRouteNode country draw).port).isSome = true := by
  by_cases empty : draw.answer.nodes = []
  · have nothing : LibP2P.getVpnNodes country draw.answer = [] := by
      rw [LibP2P.getVpnNodes,if_neg single,empty]
      rfl
    rw [BaseViewController.getOneRouteNode,nothing] at filled
    exact absurd rfl filled
  · obtain ⟨node,-,-,same⟩ := BaseViewController.getOneRouteNode_listed single
      ⟨empty,fun node member => (plain node member).1⟩ (fun node member => (plain node member).2)
    rw [same,Text.int64_decimal (Nat.lt_trans node.routePort.toNat_lt (by decide))]
    rfl

theorem getOneVpnNode_plain {country : Text} {draw : Draw} (single : country ≠ "ALL".toList) (plain : PlainDraw draw)
    (filled : (BaseViewController.getOneVpnNode country draw).ip ≠ []) :
    (octets (LibP2P.cString (BaseViewController.getOneVpnNode country draw).ip)).isSome = true := by
  by_cases empty : draw.answer.nodes = []
  · have nothing : LibP2P.getVpnNodes country draw.answer = [] := by
      rw [LibP2P.getVpnNodes,if_neg single,empty]
      rfl
    rw [BaseViewController.getOneVpnNode,nothing] at filled
    exact absurd rfl filled
  · obtain ⟨node,member,-,same⟩ := BaseViewController.getOneVpnNode_listed single
      ⟨empty,fun node member => (plain node member).1⟩ (fun node member => (plain node member).2)
    rw [same,LibP2P.cString_eq ((plain node member).2 _ List.mem_cons_self)]
    exact (plain node member).1.address

/-- For such lists, different on each call, `ConnectVpn` is all or nothing. -/
theorem allOrNothing_plain (publicKey : Text) (localSingle : s.localCountry ≠ "ALL".toList)
    (choosedSingle : s.choosedCountry ≠ some "ALL".toList) (routes : ∀ k, PlainDraw (route k))
    (vpns : ∀ k, PlainDraw (vpn k)) : AllOrNothing publicKey route vpn s := by
  refine allOrNothing_of_convertible publicKey ?_
  rintro ⟨country,choosed,routeFilled,vpnFilled⟩ other again
  cases choosed.symm.trans again
  have single : country ≠ "ALL".toList := fun same => choosedSingle (same ▸ choosed)
  have defaults : ∀ default' ∈ defaultCountry, default' ≠ "ALL".toList := by decide
  obtain ⟨country',member,k,same⟩ := chooseRouteNode_eq routeFilled
  obtain ⟨country'',member',k',same'⟩ := chooseVpnNode_eq s.oldVpnIp country vpn
  rw [same] at routeFilled ⊢
  rw [same'] at vpnFilled ⊢
  refine ⟨getOneRouteNode_plain ?_ (routes k) routeFilled,getOneVpnNode_plain ?_ (vpns k') vpnFilled⟩
  · rcases List.mem_cons.mp member with rfl | later
    · exact localSingle
    · rcases List.mem_cons.mp later with rfl | default'
      · exact single
      · exact defaults country' default'
  · rcases List.mem_cons.mp member' with rfl | default'
    · exact single
    · exact defaults country'' default'

def launched (choosedCountry : String) : ConnectState where
  localCountry := "CN".toList
  choosedCountry := some choosedCountry.toList
  oldVpnIp := []
  nowConnectStatus := 0
  settings := VpnManager.launched.settings
  vpnsvrStatus := []

def addressed (ip : String) : Nat → Draw := fun _ => ⟨⟨[],[{nodeOf "5e" with ip := ip.toList}]⟩,0⟩

/-- What the client answers for all countries at once, and no nodes for a single one. -/
def all : Nat → Draw := fun _ => ⟨⟨"US;1.1.1.1:443:8443:5e:02ab:77:".toList,[]⟩,0⟩

/-- A route node with colons in its address, whose third field is no number, makes the call
trap; the entry of all countries has an address that `inet_pton` refuses, and `enc_method`
takes the number that was in memory. -/
theorem not_allOrNothing :
    ((launched "US").Found (addressed "2001:db8:a::1") (addressed "18.188.190.127") ∧
      (launched "US").connectVpn [] 0 (addressed "2001:db8:a::1") (addressed "18.188.190.127") = none ∧
      ¬AllOrNothing [] (addressed "2001:db8:a::1") (addressed "18.188.190.127") (launched "US")) ∧
    ((launched "ALL").Found all all ∧
      (∀ number < 2, ((launched "ALL").connectVpn [] (UInt32.ofNat number) all all).map (fun result =>
        result.2.settings.encMethod) = some (encMethod (UInt32.ofNat number) "443".toList)) ∧
      ¬AllOrNothing [] all all (launched "ALL")) := by
  have colons : (launched "US").Found (addressed "2001:db8:a::1") (addressed "18.188.190.127") :=
    ⟨"US".toList,rfl,by decide,by decide⟩
  have pseudo : (launched "ALL").Found all all := ⟨"ALL".toList,rfl,by decide,by decide⟩
  refine ⟨⟨colons,by decide,fun whole => ?_⟩,pseudo,by decide,fun whole => ?_⟩
  · exact absurd (convertible_of_allOrNothing whole colons _ rfl).1 (by decide)
  · exact absurd (convertible_of_allOrNothing whole pseudo _ rfl).2 (by decide)

end ConnectState
end TenonVpn
