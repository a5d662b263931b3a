import HostAddr.Address.Socket
import HostAddr.Error

/-!
# Special-purpose networks

Some RFCs set networks apart for a purpose of their own. `specialNetworks` lists them by RFC
number. An address in a network of RFC 6890 counts as private, any other as public. Kept apart
from these is the list of networks whose addresses a router does not forward.
-/

namespace HostAddr

namespace Registry

def v4 (a b c d prefixLen : Nat) : SocketAddress :=
  .ipv4 (IPAddr.ofParts (IPv4.ofOctets a b c d) prefixLen 0)

/-- `groups` are the leading groups; the missing ones are zero. -/
def v6 (groups : List Nat) (prefixLen : Nat) : SocketAddress :=
  let missing := List.replicate (8 - groups.length) 0
  .ipv6 (IPAddr.ofParts (IPv6.ofGroups (groups ++ missing)) prefixLen 0)

def specialNetworks : List (Nat × List SocketAddress) :=
  [(919, [v4 255 255 255 255 32]),
   (1112, [v4 224 0 0 0 4]),
   (1122, [v4 0 0 0 0 8, v4 127 0 0 0 8]),
   (1918, [v4 10 0 0 0 8, v4 172 16 0 0 12, v4 192 168 0 0 16]),
   (2544, [v4 198 18 0 0 15]),
   (2765, [v6 [0, 0, 0, 0, 0, 0xffff] 96]),
   (2928, [v6 [0x2001] 16]),
   (3056, [v6 [0x2002] 16]),
   (3068, [v4 192 88 99 0 24, v6 [0x2002, 0xc058, 0x6301] 120]),
   (3171, [v4 224 0 0 0 4]),
   (3330,
    [v4 0 0 0 0 8, v4 10 0 0 0 8, v4 127 0 0 0 8, v4 169 254 0 0 16, v4 172 16 0 0 12,
     v4 192 0 2 0 24, v4 192 88 99 0 24, v4 192 168 0 0 16, v4 198 18 0 0 15, v4 224 0 0 0 4,
     v4 240 0 0 0 4]),
   (3849, [v6 [0x2001, 0xdb8] 32]),
   (3927, [v4 169 254 0 0 16]),
   (4038, [v6 [0, 0, 0, 0, 0, 0xffff] 96]),
   (4193, [v6 [0xfc00] 7]),
   (4291,
    [v6 [0] 128, v6 [0, 0, 0, 0, 0, 0, 0, 1] 128, v6 [0] 96, v6 [0, 0, 0, 0, 0, 0xffff] 96,
     v6 [0xfe80] 10, v6 [0xfec0] 10, v6 [0xff00] 8]),
   (4380, [v6 [0x2001] 32]),
   (4773, [v6 [0x2001] 23]),
   (4843, [v6 [0x2001, 0x10] 28]),
   (5180, [v6 [0x2001, 0x200] 48]),
   (5735, [v4 192 0 2 0 24, v4 198 51 100 0 24, v4 203 0 113 0 24, v4 198 18 0 0 15]),
   (5737, [v4 192 0 2 0 24, v4 198 51 100 0 24, v4 203 0 113 0 24]),
   (6052, [v6 [0x64, 0xff9b] 96]),
   (6333, [v4 192 0 0 0 29]),
   (6598, [v4 100 64 0 0 10]),
   (6666, [v6 [0x100] 64]),
   (6890,
    [v4 0 0 0 0 8, v4 10 0 0 0 8, v4 100 64 0 0 10, v4 127 0 0 0 8, v4 169 254 0 0 16,
     v4 172 16 0 0 12, v4 192 0 0 0 24, v4 192 0 0 0 29, v4 192 0 2 0 24, v4 192 88 99 0 24,
     v4 192 168 0 0 16, v4 198 18 0 0 15, v4 198 51 100 0 24, v4 203 0 113 0 24, v4 240 0 0 0 4,
     v4 255 255 255 255 32, v6 [0, 0, 0, 0, 0, 0, 0, 1] 128, v6 [0] 128, v6 [0x64, 0xff9b] 96,
     v6 [0, 0, 0, 0, 0, 0xffff] 96, v6 [0x100] 64, v6 [0x2001] 23, v6 [0x2001] 32,
     v6 [0x2001, 0x2] 48, v6 [0x2001, 0xdb8] 32, v6 [0x2001, 0x10] 28, v6 [0x2002] 16,
     v6 [0xfc00] 7, v6 [0xfe80] 10]),
   (7335, [v4 192 0 0 0 29])]

def unforwardedNetworks : List SocketAddress :=
  [v4 0 0 0 0 8, v4 127 0 0 0 8, v4 169 254 0 0 16, v4 192 0 0 0 24, v4 192 0 2 0 24,
   v4 198 51 100 0 24, v4 203 0 113 0 24, v4 240 0 0 0 4, v4 255 255 255 255 32,
   v6 [0, 0, 0, 0, 0, 0, 0, 1] 128, v6 [0] 128, v6 [0, 0, 0, 0, 0, 0xffff] 96,
   v6 [0x2001, 0xdb8] 32, v6 [0x2001, 0x10] 28, v6 [0xfe80] 10]

def privateRfc : Nat :=
  6890

/-- The networks of an RFC, or `none` if it is not on record. -/
def networks? (rfc : Nat) : Option (List SocketAddress) :=
  specialNetworks.lookup rfc

def isIn (rfc : Nat) (a : SocketAddress) : Except Error Bool :=
  match networks? rfc with
  | some nets => .ok (nets.any (·.contains a))
  | none => .error (.unknownRfc rfc)

/-- As `isIn`, where an RFC that is not on record has no networks. -/
def holds (rfc : Nat) (a : SocketAddress) : Bool :=
  ((networks? rfc).getD []).any (·.contains a)

/-- The RFCs with a network that holds the address, ascending. -/
def rfcsOf (a : SocketAddress) : List Nat :=
  (specialNetworks.filter fun (_, nets) => nets.any (·.contains a)).map Prod.fst

/-- IP addresses outside the networks that are not forwarded. -/
def isForwardable (a : SocketAddress) : Bool :=
  a.isIP && !unforwardedNetworks.any (·.contains a)

/-- Addresses in the networks of the RFC come before the others of their kind. -/
def compareMembership (rfc : Nat) (a b : SocketAddress) : Ordering :=
  if a.kind = b.kind ∧ a.isIP then compare (holds rfc b).toNat (holds rfc a).toNat else .eq

end Registry

end HostAddr
