import HostAddr.Error
import HostAddr.Interface

/-!
# Attributes

An attribute is a named text view of a record or of its address. Names are read without regard to
the case of ASCII letters. An attribute that the kind of address at hand does not have reads as
the empty text.
-/

namespace HostAddr

namespace Attribute

/-- The names of the attributes that every address has, in the order of a listing. -/
def common : List String :=
  ["type", "string"]

/-- The names of the attributes that a record has beside those of its address. -/
def record : List String :=
  ["name", "flags"]

/-- The names of the attributes of both families of IP addresses. -/
def ip : List String :=
  ["host", "address", "port", "netmask", "network", "mask_bits", "binary", "hex", "first_usable",
    "last_usable", "octets"]

def ipv4 : List String :=
  ["size", "broadcast", "uint32"]

def ipv6 : List String :=
  ["size", "uint128"]

def unix : List String :=
  ["path"]

/-- Whether a record or some kind of address has an attribute of that name. -/
def isKnown (name : String) : Bool :=
  [common, record, ip, ipv4, ipv6, unix].any (·.contains name.toLower)

def ensureKnown (name : String) : Except Error Unit :=
  if isKnown name then .ok () else .error (.unknownAttribute name)

end Attribute

/-- What the two families of IP addresses do each in their own way. -/
class IPFamily (w : Nat) where
  plainText : IPAddr w → String
  text : IPAddr w → String
  firstUsable : IPAddr w → IPAddr w
  lastUsable : IPAddr w → IPAddr w

instance : IPFamily 32 :=
  ⟨IPv4.plainText, IPv4.text, IPv4.firstUsable, IPv4.lastUsable⟩

instance : IPFamily 128 :=
  ⟨IPv6.plainText, IPv6.text, IPv6.firstUsable, IPv6.lastUsable⟩

namespace IPAddr

variable {w : Nat}

def maskHex (a : IPAddr w) : String :=
  String.ofList (padded 16 (w / 4) a.mask.toNat)

def addressHex (a : IPAddr w) : String :=
  String.ofList (padded 16 (w / 4) a.address.toNat)

def addressBinary (a : IPAddr w) : String :=
  String.ofList (padded 2 w a.address.toNat)

def octetText (a : IPAddr w) : String :=
  String.ofList ([' '].intercalate ((digits 256 (w / 8) a.address.toNat).map decimal))

/-- The attributes of both families, by their names in lower case. -/
def sharedView? [IPFamily w] (a : IPAddr w) (name : String) : Option String :=
  match name with
  | "host" => some (IPFamily.text a.host)
  | "address" => some (IPFamily.plainText a)
  | "port" => some (toString a.port.toNat)
  | "netmask" => some a.maskHex
  | "network" => some (IPFamily.text a.network)
  | "mask_bits" => some (toString a.prefixLen)
  | "binary" => some a.addressBinary
  | "hex" => some a.addressHex
  | "first_usable" => some (IPFamily.text (IPFamily.firstUsable a))
  | "last_usable" => some (IPFamily.text (IPFamily.lastUsable a))
  | "octets" => some a.octetText
  | _ => none

end IPAddr

/-- The attributes of IPv4 alone. -/
def IPv4.ownView? (a : IPv4) (name : String) : Option String :=
  match name with
  | "size" => some (toString (networkSize a))
  | "broadcast" => some (text (IPAddr.bare a.lastAddress))
  | "uint32" => some (toString a.address.toNat)
  | _ => none

/-- The attributes of IPv6 alone. -/
def IPv6.ownView? (a : IPv6) (name : String) : Option String :=
  match name with
  | "size" => some (networkSize a)
  | "uint128" => some (toString a.address.toNat)
  | _ => none

namespace SocketAddress

/-- The names of the attributes that the kind of the address has, in the order of a listing. -/
def attributes : SocketAddress → List String
  | ipv4 _ => Attribute.common ++ (Attribute.ip ++ Attribute.ipv4)
  | ipv6 _ => Attribute.common ++ (Attribute.ip ++ Attribute.ipv6)
  | unix _ => Attribute.common ++ Attribute.unix

/-- The attributes that not every kind of address has, by their names in lower case. -/
def kindView? (s : SocketAddress) (name : String) : Option String :=
  match s with
  | ipv4 a => (a.sharedView? name).or (IPv4.ownView? a name)
  | ipv6 a => (a.sharedView? name).or (IPv6.ownView? a name)
  | unix p => if name = "path" then some p.text else none

/-- The attribute of that name; a name without an attribute reads as the empty text. -/
def view (s : SocketAddress) (name : String) : String :=
  match name.toLower with
  | "type" => s.kind.name
  | "string" => s.text
  | lower => (s.kindView? lower).getD ""

end SocketAddress

/-- The attribute of that name; a name without an attribute reads as the empty text. Name and flags
are those of the interface, all else belongs to the address. -/
def Record.view (r : Record) (name : String) : String :=
  match name.toLower with
  | "name" => r.interface.name
  | "flags" => r.interface.flags.text
  | _ => r.address.view name

end HostAddr
