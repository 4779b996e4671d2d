import TenonVpn.Text

/-! Addresses and ranges of `IPRangeListRule`: `IPAddress`, `IPMask`, `IPInterval` and
`IPRange`. An address holds the number in host order; `inet_pton` of the system library is
a parameter. An `IPRange` carries the two conditions that its initializer checks. -/
namespace TenonVpn

structure InetPton where
  v4 : Text → Option (BitVec 32)
  v6 : Text → Option (BitVec 128)

inductive IPAddress
  | ipv4 (addr : BitVec 32)
  | ipv6 (addr : BitVec 128)
deriving DecidableEq

namespace IPAddress

inductive Family
  | ipv4
  | ipv6
deriving DecidableEq

def family : IPAddress → Family
  | ipv4 _ => .ipv4
  | ipv6 _ => .ipv6

def fromString (inet : InetPton) (string : Text) : Option IPAddress :=
  match inet.v4 string with
  | some addr => some (ipv4 addr)
  | none => (inet.v6 string).map ipv6

/-- `<`, where every IPv4 address is below every IPv6 address. -/
def lt : IPAddress → IPAddress → Bool
  | ipv4 lhs,ipv4 rhs => lhs.toNat < rhs.toNat
  | ipv6 lhs,ipv6 rhs => lhs.toNat < rhs.toNat
  | ipv4 _,ipv6 _ => true
  | ipv6 _,ipv4 _ => false

def le (lhs rhs : IPAddress) : Bool := !lt rhs lhs

theorem le_refl (ip : IPAddress) : le ip ip = true := by cases ip <;> simp [le,lt]

end IPAddress

def byteSwapped (bits : BitVec 128) : BitVec 128 :=
  (List.range 16).foldl (fun swapped i => swapped <<< 8 ||| (bits >>> (8*i) &&& 255)) 0

/-- `UInt128(_ source: String)`: decimal digits, or others after `0b`, `0o` or `0x`. -/
def uint128 (source : Text) : Option (BitVec 128) :=
  let (radix,input) := match source with
    | '0' :: 'b' :: rest => (2,rest)
    | '0' :: 'o' :: rest => (8,rest)
    | '0' :: 'x' :: rest => (16,rest)
    | rest => (10,rest)
  (Text.unsigned radix (2^128) input).map (BitVec.ofNat 128)

inductive IPMask
  | ipv4 (m : BitVec 32)
  | ipv6 (m : BitVec 128)

inductive IPInterval
  | ipv4 (range : BitVec 32)
  | ipv6 (range : BitVec 128)

/-- `mask(baseIP:)`. For IPv6 it masks the swapped bytes of the address. -/
def IPMask.mask : IPMask → IPAddress → Option (IPAddress × IPAddress)
  | .ipv4 m,.ipv4 addr =>
    if 32 < m.toNat then none
    else if m.toNat = 32 then some (.ipv4 addr,.ipv4 addr)
    else if m.toNat = 0 then some (.ipv4 0,.ipv4 (BitVec.allOnes 32))
    else
      let m := 32 - m.toNat
      let base := (addr >>> m) <<< m
      some (.ipv4 base,.ipv4 (base ||| ~~~((BitVec.allOnes 32 >>> m) <<< m)))
  | .ipv6 m,.ipv6 addr =>
    if 128 < m.toNat then none
    else if m.toNat = 128 then some (.ipv6 addr,.ipv6 addr)
    else if m.toNat = 0 then some (.ipv6 0,.ipv6 (BitVec.allOnes 128))
    else
      let m := 128 - m.toNat
      let base := (byteSwapped addr >>> m) <<< m
      some (.ipv6 base,.ipv6 (base ||| ~~~((BitVec.allOnes 128 >>> m) <<< m)))
  | _,_ => none

def IPAddress.advanced : IPAddress → IPInterval → Option IPAddress
  | ipv4 addr,.ipv4 range => some (ipv4 (addr + range))
  | ipv6 addr,.ipv6 range => some (ipv6 (addr + range))
  | _,_ => none

inductive IPRangeError
  | invalidCIDRFormat
  | invalidRangeFormat
  | invalidRange
  | invalidFormat
  | addressIncompatible
  | intervalInvalid
  | invalidMask
deriving DecidableEq

structure IPRange where
  startIP : IPAddress
  endIP : IPAddress
  compatible : startIP.family = endIP.family
  ordered : startIP.le endIP = true
deriving DecidableEq

namespace IPRange

def init (startIP endIP : IPAddress) : Except IPRangeError IPRange :=
  if compatible : startIP.family = endIP.family then
    if ordered : startIP.le endIP = true then .ok ⟨startIP,endIP,compatible,ordered⟩
    else .error .invalidRange
  else .error .addressIncompatible

def withInterval (startIP : IPAddress) (interval : IPInterval) : Except IPRangeError IPRange :=
  match startIP.advanced interval with
  | none => .error .intervalInvalid
  | some endIP => init startIP endIP

def withMask (startIP : IPAddress) (mask : IPMask) : Except IPRangeError IPRange :=
  match mask.mask startIP with
  | none => .error .invalidMask
  | some (startIP,endIP) => init startIP endIP

def withCIDRString (inet : InetPton) (rep : Text) : Except IPRangeError IPRange :=
  match Text.components '/' rep with
  | [address,bits] =>
    match IPAddress.fromString inet address with
    | none => .error .invalidCIDRFormat
    | some ip =>
      let mask := match ip with
        | .ipv4 _ => (Text.uint32 bits).map fun m => IPMask.ipv4 (.ofNat 32 m)
        | .ipv6 _ => (uint128 bits).map IPMask.ipv6
      match mask with
      | none => .error .invalidCIDRFormat
      | some mask => withMask ip mask
  | _ => .error .invalidCIDRFormat

def withRangeString (inet : InetPton) (rep : Text) : Except IPRangeError IPRange :=
  match Text.components '+' rep with
  | [address,count] =>
    match IPAddress.fromString inet address with
    | none => .error .invalidRangeFormat
    | some startIP =>
      let interval := match startIP with
        | .ipv4 _ => (Text.uint32 count).map fun range => IPInterval.ipv4 (.ofNat 32 range)
        | .ipv6 _ => (uint128 count).map IPInterval.ipv6
      match interval with
      | none => .error .invalidRangeFormat
      | some interval => withInterval startIP interval
  | _ => .error .invalidRangeFormat

def withString (inet : InetPton) (rep : Text) : Except IPRangeError IPRange :=
  if '/' ∈ rep then withCIDRString inet rep
  else if '+' ∈ rep then withRangeString inet rep
  else match IPAddress.fromString inet rep with
    | none => .error .invalidFormat
    | some ip => init ip ip

def contains (range : IPRange) (ip : IPAddress) : Bool :=
  ip.family = range.startIP.family && range.startIP.le ip && ip.le range.endIP

theorem init_self (ip : IPAddress) : init ip ip = .ok ⟨ip,ip,rfl,ip.le_refl⟩ := by
  simp [init,ip.le_refl]

/-- `"a.b.c.d/32"` is the range of the one address. -/
theorem withString_single {inet : InetPton} {address : Text} {addr : BitVec 32}
    (free : '/' ∉ address) (read : inet.v4 address = some addr) :
    withString inet (address ++ ['/','3','2']) = .ok ⟨.ipv4 addr,.ipv4 addr,rfl,IPAddress.le_refl _⟩ := by
  have pieces : Text.components '/' (address ++ ['/','3','2']) = [address,['3','2']] := by
    rw [Text.components_field _ free]
    rfl
  have bits : Text.uint32 ['3','2'] = some 32 := by decide
  simp [withString,withCIDRString,pieces,IPAddress.fromString,read,bits,withMask,IPMask.mask,init_self]

end IPRange
end TenonVpn
