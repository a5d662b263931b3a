import HostAddr.Text.Numeral

/-!
# Addresses of a fixed width

An address of `w` bits carries a prefix length and a port. The prefix length cuts the bits into
those that name the network and those that name a host in it; the host bits stay in the address.
A bare address has the full prefix length and port 0.
-/

namespace HostAddr

/-- An address of `w` bits with a prefix length and a port, where port 0 stands for none. -/
structure IPAddr (w : Nat) where
  address : BitVec w
  prefixLen : Nat
  port : UInt16
  prefixLen_le : prefixLen ≤ w
deriving DecidableEq

abbrev IPv4 := IPAddr 32

abbrev IPv6 := IPAddr 128

namespace IPAddr

variable {w : Nat}

/-- Prefix lengths out of range give the full one. -/
def ofParts (address : BitVec w) (prefixLen : Nat) (port : UInt16) : IPAddr w :=
  if h : prefixLen ≤ w then ⟨address, prefixLen, port, h⟩ else ⟨address, w, port, Nat.le_refl w⟩

def bare (address : BitVec w) : IPAddr w :=
  ⟨address, w, 0, Nat.le_refl w⟩

def withPort (a : IPAddr w) (port : UInt16) : IPAddr w :=
  { a with port := port }

/-- Whether the prefix covers the whole address. -/
def isHost (a : IPAddr w) : Bool :=
  a.prefixLen == w

/-- As many ones as the prefix is long, then zeros. -/
def mask (a : IPAddr w) : BitVec w :=
  BitVec.allOnes w <<< (w - a.prefixLen)

def networkAddress (a : IPAddr w) : BitVec w :=
  a.address &&& a.mask

def lastAddress (a : IPAddr w) : BitVec w :=
  a.address ||| ~~~a.mask

/-- The network alone: no host bits and no port. -/
def network (a : IPAddr w) : IPAddr w :=
  { a with address := a.networkAddress, port := 0 }

/-- The same address and port with the full prefix. -/
def host (a : IPAddr w) : IPAddr w :=
  (bare a.address).withPort a.port

/-- Whether the address of `b`, whatever its prefix, lies in the network of `a`. -/
def contains (a b : IPAddr w) : Bool :=
  a.address &&& a.mask == b.address &&& a.mask

end IPAddr

namespace IPv4

def ofOctets (a b c d : Nat) : BitVec 32 :=
  BitVec.ofNat 32 (ofDigits 256 [a, b, c, d])

/-- The lowest address a host may take. A network of more than two addresses keeps its lowest
address for itself. -/
def firstUsable (a : IPv4) : IPv4 :=
  IPAddr.bare (if a.prefixLen < 31 then a.networkAddress + 1 else a.networkAddress)

/-- The highest address a host may take. A network of more than two addresses keeps its highest
address for broadcasts. -/
def lastUsable (a : IPv4) : IPv4 :=
  IPAddr.bare (if a.prefixLen < 31 then a.lastAddress - 1 else a.lastAddress)

/-- The number of addresses of the network. -/
def networkSize (a : IPv4) : UInt64 :=
  1 <<< UInt64.ofNat (32 - a.prefixLen)

end IPv4

namespace IPv6

/-- An address from its eight groups of sixteen bits. -/
def ofGroups (gs : List Nat) : BitVec 128 :=
  BitVec.ofNat 128 (ofDigits 65536 gs)

/-- The lowest address a host may take: every address of the network is usable. -/
def firstUsable (a : IPv6) : IPv6 :=
  IPAddr.bare a.networkAddress

/-- The highest address a host may take. -/
def lastUsable (a : IPv6) : IPv6 :=
  IPAddr.bare a.lastAddress

/-- A shift to the left that moves no more bits than there are. -/
def checkedShiftLeft {w : Nat} (x : BitVec w) (n : Nat) : Option (BitVec w) :=
  if n < w then some (x <<< n) else none

/-- The size of the network of all addresses, which 128 bits cannot hold. -/
def fullSpaceSize : String :=
  "340282366920938463463374607431768211456"

/-- The number of addresses of the network, in decimal. -/
def networkSize (a : IPv6) : String :=
  match checkedShiftLeft 1 (128 - a.prefixLen) with
  | some (size : BitVec 128) => toString size.toNat
  | none => fullSpaceSize

end IPv6

end HostAddr
