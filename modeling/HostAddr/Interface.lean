import HostAddr.Address.Text

/-!
# Interfaces and their records

A host lists one record for each address of each interface, every record with a copy of its
interface.
-/

namespace HostAddr

structure InterfaceFlags where
  up : Bool
  broadcast : Bool
  loopback : Bool
  pointToPoint : Bool
  multicast : Bool
deriving DecidableEq

namespace InterfaceFlags

def names (f : InterfaceFlags) : List String :=
  [(f.up, "up"), (f.broadcast, "broadcast"), (f.loopback, "loopback"),
    (f.pointToPoint, "point-to-point"), (f.multicast, "multicast")].filterMap fun (raised, name) =>
    if raised then some name else none

def text (f : InterfaceFlags) : String :=
  "|".intercalate f.names

/-- The flags as the five lowest bits of a number. -/
def ofBits (n : Nat) : InterfaceFlags :=
  ⟨n.testBit 0, n.testBit 1, n.testBit 2, n.testBit 3, n.testBit 4⟩

/-- The flags as the kernel keeps them for a device. -/
def ofDeviceBits (n : Nat) : InterfaceFlags :=
  ⟨n.testBit 0, n.testBit 1, n.testBit 3, n.testBit 4, n.testBit 12⟩

end InterfaceFlags

structure Interface where
  index : Nat
  name : String
  /-- Zero when unknown. -/
  mtu : Nat
  flags : InterfaceFlags
  hardwareAddress : Option (Vector UInt8 6)
deriving DecidableEq

namespace Interface

/-- Six pairs of hexadecimal digits between colons, or nothing. -/
def hardwareText (i : Interface) : String :=
  match i.hardwareAddress with
  | some mac => String.ofList ([':'].intercalate (mac.toList.map fun b => padded 16 2 b.toNat))
  | none => ""

def text (i : Interface) : String :=
  "\x7b" ++ " ".intercalate [toString i.index, toString i.mtu, i.name, i.hardwareText, i.flags.text]
    ++ "\x7d"

end Interface

structure Record where
  address : SocketAddress
  interface : Interface
deriving DecidableEq

def Record.text (r : Record) : String :=
  "\x7b" ++ r.address.text ++ " " ++ r.interface.text ++ "\x7d"

/-- A network device as the kernel describes it, with its addresses. -/
structure Device where
  name : String
  index : Nat
  flagBits : Nat
  hardwareAddress : Option (Vector UInt8 6)
  /-- Zero when unknown. -/
  mtu : Nat
  addresses : List (IPv4 ⊕ IPv6)

namespace Device

def interface (d : Device) : Interface :=
  ⟨d.index, d.name, d.mtu, .ofDeviceBits d.flagBits, d.hardwareAddress⟩

/-- An address as a device has it: with its prefix and without a port. -/
def socketAddress : IPv4 ⊕ IPv6 → SocketAddress
  | .inl a => .ipv4 (a.withPort 0)
  | .inr a => .ipv6 (a.withPort 0)

/-- One record for each address, in the order the kernel gave them. -/
def records (d : Device) : List Record :=
  d.addresses.map fun a => ⟨socketAddress a, d.interface⟩

end Device

end HostAddr
