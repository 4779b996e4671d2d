import TenonVpn.CryptoStreamProcessor
import TenonVpn.VpnManager

/-! The choice of the route node and of the VPN node: `LibP2P` lists the nodes of a
country as text, `getOneVpnNode` picks one, `ConnectVpn` writes its address and port into
`enc_method`, and the crypto stream processor of each session reads them back. -/
namespace TenonVpn

/-- `inet_pton` for `AF_INET`: four decimal numbers up to 255 without leading zeros. -/
def octet (text : Text) : Option UInt8 := do
  let value ← Text.digits text
  if value ≤ 255 ∧ (text.length = 1 ∨ text.head? ≠ some '0') then some (UInt8.ofNat value) else none

def octets (src : Text) : Option Data := do
  let bytes ← (Text.components '.' src).mapM octet
  if bytes.length = 4 then some bytes else none

structure VpnServerNode where
  ip : Text
  svrPort : UInt16
  routePort : UInt16
  seckey : Text
  pubkey : Text
  dhtKey : Text

/-- What the client answers to `GetVpnServerNodes`: its text and the nodes. -/
structure ClientAnswer where
  res : Text
  nodes : List VpnServerNode

structure Draw where
  answer : ClientAnswer
  random : Nat

namespace LibP2P

def cString (text : Text) : Text := text.takeWhile (· ≠ '\x00')

/-- `changeStrIp`; the address stays uninitialized where `inet_pton` fails. -/
def changeStrIp (uninitialized : UInt32) (ip : Text) : UInt32 :=
  ((octets (cString ip)).map (fun bytes => UInt32.ofNat (Data.load bytes))).getD uninitialized

def nodeText (node : VpnServerNode) : Text :=
  [node.ip,Text.decimal node.svrPort.toNat,Text.decimal node.routePort.toNat,node.seckey,node.pubkey,
    node.dhtKey].flatMap (· ++ [':'])

def vpnSvr : List VpnServerNode → Text
  | [] => []
  | [node] => nodeText node
  | node :: rest => nodeText node ++ ',' :: vpnSvr rest

def getVpnNodes (country : Text) (answer : ClientAnswer) : Text :=
  if country = "ALL".toList then cString answer.res else cString (vpnSvr answer.nodes)

end LibP2P

structure RouteNode where
  ip : Text
  port : Text

structure VpnNode where
  ip : Text
  port : Text
  passwd : Text

namespace BaseViewController

/-- The fields of an entry, of which there are five at least. -/
def nodeInfo (entry : Text) : Option (List Text) :=
  let nodeInfoArr := Text.components ':' entry
  if nodeInfoArr.length < 5 then none else some nodeInfoArr

/-- The client is asked for 16 nodes, far from the 2^32 for which `randomCustom` traps. -/
def drawFields (resStr : Text) (random : Nat) : Option (List Text) :=
  if resStr.isEmpty then none
  else
    let nodeArr := Text.components ',' resStr
    (nodeArr[random % nodeArr.length]?).bind nodeInfo

def routeNode : Option (List Text) → RouteNode
  | none => ⟨[],[]⟩
  | some info => ⟨info.getD 0 [],info.getD 2 []⟩

def getOneRouteNode (country : Text) (draw : Draw) : RouteNode :=
  routeNode (drawFields (LibP2P.getVpnNodes country draw.answer) draw.random)

def getOneVpnNode (country : Text) (draw : Draw) : VpnNode :=
  match drawFields (LibP2P.getVpnNodes country draw.answer) draw.random with
  | none => ⟨[],[],[]⟩
  | some info => ⟨info.getD 0 [],info.getD 1 [],info.getD 3 []⟩

end BaseViewController

namespace ViewController
open BaseViewController

def defaultCountry : List Text := ["US","IN","CA","DE","AU"].map String.toList

def firstFilled {ν : Type} (ip : ν → Text) (get : Text → Draw → ν) (draws : Nat → Draw) :
    Nat → List Text → ν → ν
  | _, [], node => node
  | k, country :: rest, _ =>
    let node := get country (draws k)
    if (ip node).isEmpty then firstFilled ip get draws (k+1) rest node else node

/-- `for _ in 0...10`, left at the first node with another address. -/
def redraw (oldVpnIp country : Text) (draws : Nat → Draw) : Nat → Nat → VpnNode → VpnNode
  | 0, _, node => node
  | count+1, k, _ =>
    let node := getOneVpnNode country (draws k)
    if oldVpnIp ≠ node.ip then node else redraw oldVpnIp country draws count (k+1) node

def chooseRouteNode (localCountry choosedCountry : Text) (route : Nat → Draw) : RouteNode :=
  firstFilled RouteNode.ip getOneRouteNode route 0 (localCountry :: choosedCountry :: defaultCountry) ⟨[],[]⟩

def chooseVpnNode (oldVpnIp choosedCountry : Text) (vpn : Nat → Draw) : VpnNode :=
  let node := getOneVpnNode choosedCountry (vpn 0)
  let other := if oldVpnIp = node.ip then redraw oldVpnIp choosedCountry vpn 11 1 node else node
  if other.ip.isEmpty then firstFilled VpnNode.ip getOneVpnNode vpn 12 defaultCountry other else other

def encMethod (vpnIpInt : UInt32) (port : Text) : Text :=
  "aes-128-cfb,".toList ++ Text.decimal vpnIpInt.toNat ++ ',' :: port ++ ',' :: "true".toList

/-- What `ConnectVpn` writes into the `VpnManager`; none where a conversion traps. Each
call that chooses a node has a draw of its own. -/
def connectVpn (publicKey oldVpnIp localCountry choosedCountry : Text) (uninitialized : UInt32)
    (route vpn : Nat → Draw) (settings : Settings) : Option Settings :=
  let routeNode := chooseRouteNode localCountry choosedCountry route
  let vpnNode := chooseVpnNode oldVpnIp choosedCountry vpn
  if !routeNode.ip.isEmpty && !vpnNode.ip.isEmpty then
    (Text.int64 routeNode.port).map fun port =>
      let vpnIpInt := LibP2P.changeStrIp uninitialized vpnNode.ip
      {settings with
        ipAddress := routeNode.ip
        port
        publicKey
        encMethod := encMethod vpnIpInt vpnNode.port
        password := vpnNode.passwd
        algorithm := "aes-128-cfb".toList}
  else some settings

end ViewController

namespace VpnServerNode

def texts (node : VpnServerNode) : List Text := [node.ip,node.seckey,node.pubkey,node.dhtKey]

structure Plain (node : VpnServerNode) : Prop where
  address : (octets node.ip).isSome = true
  ascii : ∀ text ∈ node.texts, ∀ c ∈ text, c.toNat < 128
  free : ∀ text ∈ node.texts, ':' ∉ text ∧ ',' ∉ text

theorem all_free (text : Text) : (text.all fun c => c ≠ ':' && c ≠ ',') = true ↔ ':' ∉ text ∧ ',' ∉ text := by
  simp only [List.all_eq_true,Bool.and_eq_true,decide_eq_true_eq]
  constructor
  · exact fun free => ⟨fun colon => (free _ colon).1 rfl,fun comma => (free _ comma).2 rfl⟩
  · rintro ⟨colon,comma⟩ c member
    exact ⟨fun same => colon (same ▸ member),fun same => comma (same ▸ member)⟩

instance (node : VpnServerNode) : Decidable (Plain node) :=
  decidable_of_iff ((octets node.ip).isSome = true ∧ (node.texts.all fun text => text.all fun c => c.toNat < 128) = true ∧
      (node.texts.all fun text => text.all fun c => c ≠ ':' && c ≠ ',') = true)
    ⟨fun ⟨address,ascii,free⟩ => ⟨address,by simpa using ascii,
        fun text member => (all_free text).mp (List.all_eq_true.mp free text member)⟩,
      fun ⟨address,ascii,free⟩ => ⟨address,by simpa using ascii,
        List.all_eq_true.mpr fun text member => (all_free text).mpr (free text member)⟩⟩

def NulFree (node : VpnServerNode) : Prop := ∀ text ∈ node.texts, '\x00' ∉ text

def fields (node : VpnServerNode) : List Text :=
  [node.ip,Text.decimal node.svrPort.toNat,Text.decimal node.routePort.toNat,node.seckey,node.pubkey,node.dhtKey]

variable {node : VpnServerNode}

theorem fields_free {c : Char} (other : c.isDigit = false) (free : ∀ text ∈ node.texts, c ∉ text) :
    ∀ field ∈ node.fields, c ∉ field := by
  intro field member
  simp only [fields,List.mem_cons,List.not_mem_nil,or_false] at member
  rcases member with rfl | rfl | rfl | rfl | rfl | rfl
  · exact free _ (by simp [texts])
  · exact Text.not_mem_decimal _ other
  · exact Text.not_mem_decimal _ other
  · exact free _ (by simp [texts])
  · exact free _ (by simp [texts])
  · exact free _ (by simp [texts])

theorem not_mem_nodeText {c : Char} (other : c.isDigit = false) (colon : c ≠ ':')
    (free : ∀ text ∈ node.texts, c ∉ text) : c ∉ LibP2P.nodeText node := by
  intro member
  obtain ⟨field,listed,inside⟩ := List.mem_flatMap.mp member
  rcases List.mem_append.mp inside with found | last
  · exact fields_free other free field listed found
  · exact colon (List.mem_singleton.mp last)

theorem components_nodeText (plain : node.Plain) :
    Text.components ':' (LibP2P.nodeText node) = node.fields ++ [[]] :=
  Text.components_flatMap (fields_free (by decide) (fun text member => (plain.free text member).1))

end VpnServerNode

namespace LibP2P

theorem cString_eq {text : Text} (free : '\x00' ∉ text) : cString text = text := by
  rw [cString,List.takeWhile_eq_self_iff]
  intro c member
  have other : c ≠ '\x00' := fun same => free (same ▸ member)
  simpa using other

theorem components_vpnSvr {nodes : List VpnServerNode} (filled : nodes ≠ [])
    (free : ∀ node ∈ nodes, ',' ∉ nodeText node) : Text.components ',' (vpnSvr nodes) = nodes.map nodeText := by
  induction nodes with
  | nil => exact absurd rfl filled
  | cons node rest ih =>
    have first := free node List.mem_cons_self
    cases rest with
    | nil => exact Text.components_last first
    | cons next rest =>
      have later := ih (List.cons_ne_nil next rest) (fun other member => free other (List.mem_cons_of_mem node member))
      have joined : vpnSvr (node :: next :: rest) = nodeText node ++ ',' :: vpnSvr (next :: rest) := rfl
      rw [joined,Text.components_field _ first,later]
      rfl

theorem not_mem_vpnSvr {c : Char} {nodes : List VpnServerNode} (comma : c ≠ ',')
    (free : ∀ node ∈ nodes, c ∉ nodeText node) : c ∉ vpnSvr nodes := by
  induction nodes with
  | nil => exact List.not_mem_nil
  | cons node rest ih =>
    have first := free node List.mem_cons_self
    have later := ih (fun other member => free other (List.mem_cons_of_mem node member))
    cases rest with
    | nil => exact first
    | cons next rest =>
      have joined : vpnSvr (node :: next :: rest) = nodeText node ++ ',' :: vpnSvr (next :: rest) := rfl
      rw [joined,List.mem_append,List.mem_cons]
      exact not_or.mpr ⟨first,not_or.mpr ⟨comma,later⟩⟩

theorem nodeText_ne_nil (node : VpnServerNode) : nodeText node ≠ [] := by simp [nodeText]

theorem vpnSvr_ne_nil {nodes : List VpnServerNode} (filled : nodes ≠ []) : vpnSvr nodes ≠ [] := by
  cases nodes with
  | nil => exact absurd rfl filled
  | cons node rest =>
    cases rest with
    | nil => exact nodeText_ne_nil node
    | cons next rest => exact List.append_ne_nil_of_left_ne_nil (nodeText_ne_nil node) _

theorem octets_length {ip : Text} {address : Data} (read : octets ip = some address) : address.length = 4 := by
  simp only [octets,Option.bind_eq_bind,Option.bind_eq_some_iff] at read
  obtain ⟨bytes,-,read⟩ := read
  split at read
  · next four =>
    cases read
    exact four
  · cases read

theorem octets_ne_nil {ip : Text} {address : Data} (read : octets ip = some address) : ip ≠ [] := by
  rintro rfl
  cases read

theorem memory_changeStrIp (uninitialized : UInt32) {ip : Text} (free : '\x00' ∉ ip) {address : Data}
    (read : octets ip = some address) : Data.memory 4 (changeStrIp uninitialized ip).toNat = address := by
  have four := octets_length read
  have small := Data.load_lt address
  rw [four] at small
  rw [changeStrIp,cString_eq free,read,Option.map_some,Option.getD_some,UInt32.toNat_ofNat_of_lt' small,← four,
    Data.memory_load]

end LibP2P

structure Draw.Listed (draw : Draw) : Prop where
  filled : draw.answer.nodes ≠ []
  plain : ∀ node ∈ draw.answer.nodes, node.Plain

def Draw.NulFree (draw : Draw) : Prop := ∀ node ∈ draw.answer.nodes, node.NulFree

def Draw.picked (draw : Draw) : Option VpnServerNode :=
  draw.answer.nodes[draw.random % draw.answer.nodes.length]?

namespace BaseViewController

theorem drawFields_listed {country : Text} {draw : Draw} (single : country ≠ "ALL".toList) (listed : draw.Listed)
    (nulFree : draw.NulFree) : ∃ node ∈ draw.answer.nodes, draw.picked = some node ∧
      drawFields (LibP2P.getVpnNodes country draw.answer) draw.random = some (node.fields ++ [[]]) := by
  have whole : LibP2P.getVpnNodes country draw.answer = LibP2P.vpnSvr draw.answer.nodes := by
    rw [LibP2P.getVpnNodes,if_neg single,LibP2P.cString_eq]
    exact LibP2P.not_mem_vpnSvr (by decide) (fun node member =>
      VpnServerNode.not_mem_nodeText (by decide) (by decide) (nulFree node member))
  have entries : Text.components ',' (LibP2P.vpnSvr draw.answer.nodes) = draw.answer.nodes.map LibP2P.nodeText :=
    LibP2P.components_vpnSvr listed.filled (fun node member => VpnServerNode.not_mem_nodeText (by decide) (by decide)
      (fun text inside => ((listed.plain node member).free text inside).2))
  have inside : draw.random % draw.answer.nodes.length < draw.answer.nodes.length :=
    Nat.mod_lt _ (List.length_pos_iff.mpr listed.filled)
  have some' := List.getElem?_eq_getElem inside
  have member := List.getElem_mem inside
  revert some' member
  generalize draw.answer.nodes[draw.random % draw.answer.nodes.length] = node
  intro some' member
  refine ⟨node,member,some',?_⟩
  have text : (LibP2P.vpnSvr draw.answer.nodes).isEmpty = false :=
    List.isEmpty_eq_false_iff.mpr (LibP2P.vpnSvr_ne_nil listed.filled)
  have found : (draw.answer.nodes.map LibP2P.nodeText)[draw.random % draw.answer.nodes.length]? =
      some (LibP2P.nodeText node) := by
    rw [List.getElem?_map,some',Option.map_some]
  have many : ¬(node.fields ++ [[]]).length < 5 := by simp [VpnServerNode.fields]
  simp only [drawFields,nodeInfo,whole,text,entries,List.length_map,found,Option.bind_some,
    VpnServerNode.components_nodeText (listed.plain node member),many,if_false,Bool.false_eq_true]

theorem getOneVpnNode_listed {country : Text} {draw : Draw} (single : country ≠ "ALL".toList)
    (listed : draw.Listed) (nulFree : draw.NulFree) : ∃ node ∈ draw.answer.nodes, draw.picked = some node ∧
      getOneVpnNode country draw = ⟨node.ip,Text.decimal node.svrPort.toNat,node.seckey⟩ := by
  obtain ⟨node,member,picked,drawn⟩ := drawFields_listed single listed nulFree
  exact ⟨node,member,picked,by simp [getOneVpnNode,drawn,VpnServerNode.fields]⟩

theorem getOneRouteNode_listed {country : Text} {draw : Draw} (single : country ≠ "ALL".toList)
    (listed : draw.Listed) (nulFree : draw.NulFree) : ∃ node ∈ draw.answer.nodes, draw.picked = some node ∧
      getOneRouteNode country draw = ⟨node.ip,Text.decimal node.routePort.toNat⟩ := by
  obtain ⟨node,member,picked,drawn⟩ := drawFields_listed single listed nulFree
  exact ⟨node,member,picked,by simp [getOneRouteNode,routeNode,drawn,VpnServerNode.fields]⟩

end BaseViewController

namespace ViewController
open BaseViewController

theorem redraw_eq (oldVpnIp country : Text) (draws : Nat → Draw) {node : VpnNode}
    (drawn : ∃ k, node = getOneVpnNode country (draws k)) (count k : Nat) :
    ∃ k', redraw oldVpnIp country draws count k node = getOneVpnNode country (draws k') := by
  induction count generalizing k node with
  | zero => exact drawn
  | succ count ih =>
    rw [redraw]
    split
    · exact ⟨k,rfl⟩
    · exact ih ⟨k,rfl⟩ (k+1)

theorem first_drawn (oldVpnIp choosedCountry : Text) (vpn : Nat → Draw) :
    ∃ k, (if oldVpnIp = (getOneVpnNode choosedCountry (vpn 0)).ip then
      redraw oldVpnIp choosedCountry vpn 11 1 (getOneVpnNode choosedCountry (vpn 0))
      else getOneVpnNode choosedCountry (vpn 0)) = getOneVpnNode choosedCountry (vpn k) := by
  split
  · exact redraw_eq oldVpnIp choosedCountry vpn ⟨0,rfl⟩ 11 1
  · exact ⟨0,rfl⟩

theorem chooseVpnNode_listed (oldVpnIp : Text) {choosedCountry : Text} {vpn : Nat → Draw}
    (single : choosedCountry ≠ "ALL".toList) (listed : ∀ k, (vpn k).Listed) (nulFree : ∀ k, (vpn k).NulFree) :
    ∃ k, ∃ node ∈ (vpn k).answer.nodes, (vpn k).picked = some node ∧
      chooseVpnNode oldVpnIp choosedCountry vpn = ⟨node.ip,Text.decimal node.svrPort.toNat,node.seckey⟩ := by
  obtain ⟨k,other⟩ := first_drawn oldVpnIp choosedCountry vpn
  obtain ⟨node,member,picked,drawn⟩ := getOneVpnNode_listed single (listed k) (nulFree k)
  obtain ⟨address,read⟩ := Option.isSome_iff_exists.mp ((listed k).plain node member).address
  refine ⟨k,node,member,picked,?_⟩
  have filled : node.ip.isEmpty = false := List.isEmpty_eq_false_iff.mpr (LibP2P.octets_ne_nil read)
  simp only [chooseVpnNode,other,drawn,filled,Bool.false_eq_true,if_false]

theorem chooseRouteNode_listed {localCountry : Text} (choosedCountry : Text) {route : Nat → Draw}
    (single : localCountry ≠ "ALL".toList) (listed : (route 0).Listed) (nulFree : (route 0).NulFree) :
    ∃ node : VpnServerNode, node.ip ≠ [] ∧
      chooseRouteNode localCountry choosedCountry route = ⟨node.ip,Text.decimal node.routePort.toNat⟩ := by
  obtain ⟨node,member,-,drawn⟩ := getOneRouteNode_listed single listed nulFree
  obtain ⟨address,read⟩ := Option.isSome_iff_exists.mp (listed.plain node member).address
  have some' := LibP2P.octets_ne_nil read
  have filled : node.ip.isEmpty = false := List.isEmpty_eq_false_iff.mpr some'
  refine ⟨node,some',?_⟩
  simp only [chooseRouteNode,firstFilled,drawn,filled,Bool.false_eq_true,if_false]

/-- Nothing traps from `ConnectVpn` to the relay header of a session, and the header names
a node drawn from the client's list by its octets and its port in big-endian order. -/
def Carried (σ : Type) (algorithm : CryptoAlgorithm) (writeIV : Data) (group : UserDefaults) (payload : Data)
    (publicKey oldVpnIp localCountry choosedCountry : Text) (uninitialized : UInt32) (route vpn : Nat → Draw)
    (settings : Settings) : Prop :=
  ∃ connected, connectVpn publicKey oldVpnIp localCountry choosedCountry uninitialized route vpn settings =
      some connected ∧
    ∃ processor : CryptoStreamProcessor σ,
      CryptoStreamProcessor.build algorithm writeIV connected.publicKey connected.encMethod = some processor ∧
      ∃ header, processor.relayData group payload = some header ∧
        ∃ k node address, (vpn k).picked = some node ∧ octets node.ip = some address ∧
          (header.drop (CryptoStreamProcessor.vpnHopStart group)).take 6 =
            address ++ [UInt8.ofNat (node.svrPort.toNat / 256),UInt8.ofNat node.svrPort.toNat]

theorem build_encMethod (σ : Type) (algorithm : CryptoAlgorithm) (writeIV : Data) (publicKey : Text) (ip : UInt32)
    (port : UInt16) : ∃ processor : CryptoStreamProcessor σ,
      CryptoStreamProcessor.build algorithm writeIV publicKey (encMethod ip (Text.decimal port.toNat)) = some processor ∧
      processor.localPublicKey = publicKey ∧ processor.useSmartRoute = true ∧ processor.vpnHop = ⟨ip,port⟩ := by
  have free (n : Nat) : ',' ∉ Text.decimal n := Text.not_mem_decimal n (by decide)
  have comma : encMethod ip (Text.decimal port.toNat) = "aes-128-cfb".toList ++ ',' ::
      (Text.decimal ip.toNat ++ ',' :: (Text.decimal port.toNat ++ ',' :: "true".toList)) := by
    have whole : "aes-128-cfb,".toList = "aes-128-cfb".toList ++ [','] := rfl
    unfold encMethod
    rw [whole]
    simp only [List.append_assoc,List.cons_append,List.nil_append]
  have last : Text.components ',' "true".toList = ["true".toList] := Text.components_last (by decide)
  have fields : Text.components ',' (encMethod ip (Text.decimal port.toNat)) =
      ["aes-128-cfb".toList,Text.decimal ip.toNat,Text.decimal port.toNat,"true".toList] := by
    rw [comma,Text.components_field _ (by decide),Text.components_field _ (free ip.toNat),
      Text.components_field _ (free port.toNat),last]
  have address : Text.uint32 (Text.decimal ip.toNat) = some ip.toNat := Text.uint32_decimal ip.toNat_lt
  have number : Text.uint16 (Text.decimal port.toNat) = some port.toNat := Text.uint16_decimal port.toNat_lt
  have flag : Text.bool "true".toList = some true := rfl
  let processor : CryptoStreamProcessor σ := {
    algorithm
    localPublicKey := publicKey
    method := "aes-128-cfb".toList
    chooseVpnNodeIntIp := UInt32.ofNat ip.toNat
    chooseVpnNodePort := UInt16.ofNat port.toNat
    useSmartRoute := true
    readIV := none
    sendKey := false
    buffer := ⟨[],0⟩
    writeIV
    encryptor := none
    decryptor := none}
  have parsed : CryptoStreamProcessor.build algorithm writeIV publicKey (encMethod ip (Text.decimal port.toNat)) =
      some processor := by
    simp only [CryptoStreamProcessor.build,fields,List.getElem?_cons_zero,List.getElem?_cons_succ,
      Option.bind_eq_bind,Option.bind_some,address,number,flag,processor]
  refine ⟨processor,parsed,rfl,rfl,?_⟩
  simp [processor,CryptoStreamProcessor.vpnHop]

section
variable {localCountry choosedCountry : Text} {route vpn : Nat → Draw}
variable (localSingle : localCountry ≠ "ALL".toList) (choosedSingle : choosedCountry ≠ "ALL".toList)
variable (routes : ∀ k, (route k).Listed) (routesNulFree : ∀ k, (route k).NulFree)
variable (vpns : ∀ k, (vpn k).Listed) (vpnsNulFree : ∀ k, (vpn k).NulFree)
include localSingle choosedSingle routes routesNulFree vpns vpnsNulFree

theorem connectVpn_listed (publicKey oldVpnIp : Text) (uninitialized : UInt32) (settings : Settings) :
    ∃ connected, connectVpn publicKey oldVpnIp localCountry choosedCountry uninitialized route vpn settings =
        some connected ∧ connected.publicKey = publicKey ∧
      ∃ k node address ip, (vpn k).picked = some node ∧ octets node.ip = some address ∧
        Data.memory 4 (UInt32.toNat ip) = address ∧ connected.encMethod = encMethod ip (Text.decimal node.svrPort.toNat) := by
  obtain ⟨relay,relayFilled,routed⟩ := chooseRouteNode_listed choosedCountry localSingle (routes 0) (routesNulFree 0)
  obtain ⟨k,node,member,picked,chosen⟩ := chooseVpnNode_listed oldVpnIp choosedSingle vpns vpnsNulFree
  obtain ⟨address,read⟩ := Option.isSome_iff_exists.mp ((vpns k).plain node member).address
  have stored := LibP2P.memory_changeStrIp uninitialized (vpnsNulFree k node member node.ip List.mem_cons_self) read
  have relayIp : relay.ip.isEmpty = false := List.isEmpty_eq_false_iff.mpr relayFilled
  have vpnIp : node.ip.isEmpty = false := List.isEmpty_eq_false_iff.mpr (LibP2P.octets_ne_nil read)
  have port : Text.int64 (Text.decimal relay.routePort.toNat) = some (relay.routePort.toNat : Int) :=
    Text.int64_decimal (Nat.lt_trans relay.routePort.toNat_lt (by decide))
  have done : connectVpn publicKey oldVpnIp localCountry choosedCountry uninitialized route vpn settings =
      some {settings with
        ipAddress := relay.ip
        port := relay.routePort.toNat
        publicKey
        encMethod := encMethod (LibP2P.changeStrIp uninitialized node.ip) (Text.decimal node.svrPort.toNat)
        password := node.seckey
        algorithm := "aes-128-cfb".toList} := by
    simp only [connectVpn,routed,chosen,relayIp,vpnIp,Bool.not_false,Bool.and_self,if_true,port,Option.map_some]
  exact ⟨_,done,rfl,k,node,address,_,picked,read,stored,rfl⟩

/-- A node from a list without NUL characters reaches the relay header as listed. -/
theorem connectVpn_carried (σ : Type) (algorithm : CryptoAlgorithm) (writeIV : Data) (group : UserDefaults)
    (payload : Data) {publicKey : Text} (keyed : (Data.utf8 publicKey).length = 66) (oldVpnIp : Text)
    (uninitialized : UInt32) (settings : Settings) :
    Carried σ algorithm writeIV group payload publicKey oldVpnIp localCountry choosedCountry uninitialized
      route vpn settings := by
  obtain ⟨connected,done,key,k,node,address,ip,picked,read,stored,method⟩ := connectVpn_listed localSingle
    choosedSingle routes routesNulFree vpns vpnsNulFree publicKey oldVpnIp uninitialized settings
  obtain ⟨processor,parsed,local',smart,hop⟩ := build_encMethod σ algorithm writeIV publicKey ip node.svrPort
  obtain ⟨header,relayed,record⟩ := CryptoStreamProcessor.relayData_vpnHop group smart (by rw [local',keyed]) payload
  refine ⟨connected,done,processor,?_,header,relayed,k,node,address,picked,read,?_⟩
  · rw [key,method,parsed]
  · rw [record,hop,Hop.bytes,stored,Data.memory_bigEndian]

end

def nodeOf (seckey : String) : VpnServerNode where
  ip := "18.188.190.127".toList
  svrPort := 443
  routePort := 8443
  seckey := seckey.toList
  pubkey := "02ab".toList
  dhtKey := "77".toList

def drawOf (seckey : String) : Draw := ⟨⟨[],[nodeOf "5e",nodeOf seckey]⟩,3⟩

theorem connectVpn_carried_5e : Carried UInt8 .aes128CFB (List.replicate 16 7) CryptoStreamProcessor.exRouted [1,2,3]
    (List.replicate 66 '0') "18.188.190.127".toList "CN".toList "US".toList 0 (fun _ => drawOf "5e")
    (fun _ => drawOf "5e") VpnManager.launched.settings := by
  have plain : (nodeOf "5e").Plain := by decide
  have listed : (drawOf "5e").Listed := ⟨by decide,by simp [drawOf,plain]⟩
  have nulFree : (drawOf "5e").NulFree := by
    unfold Draw.NulFree VpnServerNode.NulFree
    decide
  exact connectVpn_carried (by decide) (by decide) (fun _ => listed) (fun _ => nulFree) (fun _ => listed)
    (fun _ => nulFree) _ _ _ _ _ (by decide) _ _ _

/-- A NUL in a field cuts the C string inside of the drawn node, which then has too few fields. -/
theorem connectVpn_nul : (drawOf "5\x00e").Listed ∧ (Data.utf8 (List.replicate 66 '0')).length = 66 ∧
    ¬Carried UInt8 .aes128CFB (List.replicate 16 7) UserDefaults.empty [] (List.replicate 66 '0') [] "CN".toList
      "US".toList 0 (fun _ => drawOf "5\x00e") (fun _ => drawOf "5\x00e") VpnManager.launched.settings := by
  have first : (nodeOf "5e").Plain := by decide
  have second : (nodeOf "5\x00e").Plain := by decide
  refine ⟨⟨by decide,by simp [drawOf,first,second]⟩,by decide,?_⟩
  rintro ⟨connected,done,processor,parsed,-⟩
  have kept : connected = VpnManager.launched.settings := (Option.some.inj done).symm
  rw [kept] at parsed
  cases parsed

end ViewController
end TenonVpn
