import HostAddr.Address.Basic

/-!
# Socket addresses

A socket address is an IPv4 address, an IPv6 address or the path of a UNIX socket. Comparisons
between two kinds answer "equal", so that an order of several keys falls through to its next
key, and no address contains one of another kind.
-/

namespace HostAddr

inductive AddressKind where
  | unix
  | ipv4
  | ipv6
deriving DecidableEq, Repr

namespace AddressKind

def name : AddressKind → String
  | unix => "UNIX"
  | ipv4 => "IPv4"
  | ipv6 => "IPv6"

/-- UNIX sockets come before IPv4 and IPv4 before IPv6. -/
def rank : AddressKind → Nat
  | unix => 0
  | ipv4 => 1
  | ipv6 => 2

end AddressKind

structure UnixPath where
  text : String
  text_ne : text ≠ ""
deriving DecidableEq

inductive SocketAddress where
  | ipv4 (a : IPv4)
  | ipv6 (a : IPv6)
  | unix (p : UnixPath)
deriving DecidableEq

namespace SocketAddress

def kind : SocketAddress → AddressKind
  | ipv4 _ => .ipv4
  | ipv6 _ => .ipv6
  | unix _ => .unix

def isIP : SocketAddress → Bool
  | unix _ => false
  | _ => true

def port? : SocketAddress → Option UInt16
  | ipv4 a => some a.port
  | ipv6 a => some a.port
  | unix _ => none

def prefixLen? : SocketAddress → Option Nat
  | ipv4 a => some a.prefixLen
  | ipv6 a => some a.prefixLen
  | unix _ => none

def width? : SocketAddress → Option Nat
  | ipv4 _ => some 32
  | ipv6 _ => some 128
  | unix _ => none

/-- Networks contain the addresses that share their prefix, a path contains itself. -/
def contains : SocketAddress → SocketAddress → Bool
  | ipv4 a, ipv4 b => a.contains b
  | ipv6 a, ipv6 b => a.contains b
  | unix p, unix q => p == q
  | _, _ => false

/-- The order of addresses, and of paths, within one kind. -/
def compareAddress : SocketAddress → SocketAddress → Ordering
  | ipv4 a, ipv4 b => compare a.address.toNat b.address.toNat
  | ipv6 a, ipv6 b => compare a.address.toNat b.address.toNat
  | unix p, unix q => compare p.text q.text
  | _, _ => .eq

def comparePort : SocketAddress → SocketAddress → Ordering
  | ipv4 a, ipv4 b => compare a.port.toNat b.port.toNat
  | ipv6 a, ipv6 b => compare a.port.toNat b.port.toNat
  | _, _ => .eq

/-- Larger networks, which have the shorter prefixes, come first. -/
def compareNetworkSize : SocketAddress → SocketAddress → Ordering
  | ipv4 a, ipv4 b => compare a.prefixLen b.prefixLen
  | ipv6 a, ipv6 b => compare a.prefixLen b.prefixLen
  | _, _ => .eq

def compareKind (a b : SocketAddress) : Ordering :=
  compare a.kind.rank b.kind.rank

end SocketAddress

end HostAddr
