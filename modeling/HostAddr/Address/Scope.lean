import HostAddr.Address.Socket

/-!
# The scope of an address

Whether an address is meant for one interface, one link or the world is written in its first
bits. A UNIX socket has no scope.
-/

namespace HostAddr

namespace IPv4

/-- The octet at position `i`, counted from the first. -/
def octet (i : Nat) (a : BitVec 32) : BitVec 8 :=
  a.extractLsb' (24 - 8 * i) 8

def isUnspecified (a : BitVec 32) : Bool :=
  a == 0

def isLoopback (a : BitVec 32) : Bool :=
  octet 0 a == 127

def isMulticast (a : BitVec 32) : Bool :=
  octet 0 a &&& 0xf0 == 0xe0

def isLinkLocalUnicast (a : BitVec 32) : Bool :=
  octet 0 a == 169 && octet 1 a == 254

def isLinkLocalMulticast (a : BitVec 32) : Bool :=
  octet 0 a == 224 && octet 1 a == 0 && octet 2 a == 0

def isBroadcast (a : BitVec 32) : Bool :=
  a == BitVec.allOnes 32

def isGlobalUnicast (a : BitVec 32) : Bool :=
  !(isUnspecified a || isLoopback a || isMulticast a || isLinkLocalUnicast a || isBroadcast a)

end IPv4

namespace IPv6

def firstGroup (a : BitVec 128) : BitVec 16 :=
  a.extractLsb' 112 16

def isUnspecified (a : BitVec 128) : Bool :=
  a == 0

def isLoopback (a : BitVec 128) : Bool :=
  a == 1

def isMulticast (a : BitVec 128) : Bool :=
  firstGroup a &&& 0xff00 == 0xff00

/-- Multicast of scope 1, whatever its flags. -/
def isInterfaceLocalMulticast (a : BitVec 128) : Bool :=
  firstGroup a &&& 0xff0f == 0xff01

/-- Multicast of scope 2, whatever its flags. -/
def isLinkLocalMulticast (a : BitVec 128) : Bool :=
  firstGroup a &&& 0xff0f == 0xff02

def isLinkLocalUnicast (a : BitVec 128) : Bool :=
  firstGroup a &&& 0xffc0 == 0xfe80

def isGlobalUnicast (a : BitVec 128) : Bool :=
  !(isUnspecified a || isLoopback a || isMulticast a || isLinkLocalUnicast a)

end IPv6

namespace SocketAddress

/-- Unicast that is routed beyond the link. -/
def isGlobalUnicast : SocketAddress → Bool
  | ipv4 a => IPv4.isGlobalUnicast a.address
  | ipv6 a => IPv6.isGlobalUnicast a.address
  | unix _ => false

/-- IPv4 has no multicast within an interface. -/
def isInterfaceLocalMulticast : SocketAddress → Bool
  | ipv6 a => IPv6.isInterfaceLocalMulticast a.address
  | ipv4 _ | unix _ => false

def isLinkLocalMulticast : SocketAddress → Bool
  | ipv4 a => IPv4.isLinkLocalMulticast a.address
  | ipv6 a => IPv6.isLinkLocalMulticast a.address
  | unix _ => false

def isLinkLocalUnicast : SocketAddress → Bool
  | ipv4 a => IPv4.isLinkLocalUnicast a.address
  | ipv6 a => IPv6.isLinkLocalUnicast a.address
  | unix _ => false

def isUnspecified : SocketAddress → Bool
  | ipv4 a => IPv4.isUnspecified a.address
  | ipv6 a => IPv6.isUnspecified a.address
  | unix _ => false

end SocketAddress

end HostAddr
