import HostAddr.Error
import HostAddr.Text.Blank

/-!
# Keywords of a selection

The words that name a property, a flag, a kind of address or a sort key. White space around a
word and the case of its ASCII letters do not matter, except that a sort key is taken as it stands
after its sign.
-/

namespace HostAddr

/-- A word without the white space around it, in lower case. -/
def keyword (s : String) : String :=
  (String.ofList (trim s.toList)).toLower

inductive Selector where
  | address
  | flag
  | name
  | network
  | port
  | rfc
  | size
  | type
deriving DecidableEq, Repr

def Selector.parse (s : String) : Except Error Selector :=
  match keyword s with
  | "address" => .ok .address
  | "flag" | "flags" => .ok .flag
  | "name" => .ok .name
  | "network" => .ok .network
  | "port" => .ok .port
  | "rfc" | "rfcs" => .ok .rfc
  | "size" => .ok .size
  | "type" => .ok .type
  | _ => .error (.unknownSelector s)

inductive Flag where
  | up
  | down
  | broadcast
  | loopback
  | multicast
  | pointToPoint
  | forwardable
  | globalUnicast
  | interfaceLocalMulticast
  | linkLocalMulticast
  | linkLocalUnicast
  | unspecified
deriving DecidableEq, Repr

def Flag.parse (s : String) : Except Error Flag :=
  match keyword s with
  | "up" => .ok .up
  | "down" => .ok .down
  | "broadcast" => .ok .broadcast
  | "loopback" => .ok .loopback
  | "multicast" => .ok .multicast
  | "point-to-point" => .ok .pointToPoint
  | "forwardable" => .ok .forwardable
  | "global unicast" => .ok .globalUnicast
  | "interface-local multicast" => .ok .interfaceLocalMulticast
  | "link-local multicast" => .ok .linkLocalMulticast
  | "link-local unicast" => .ok .linkLocalUnicast
  | "unspecified" => .ok .unspecified
  | _ => .error (.unknownFlag s)

/-- Kinds of address, where both kinds of IP address may be taken together. -/
inductive TypeFilter where
  | ip
  | ipv4
  | ipv6
  | unix
deriving DecidableEq, Repr

def TypeFilter.parse (s : String) : Except Error TypeFilter :=
  match keyword s with
  | "ip" => .ok .ip
  | "ipv4" => .ok .ipv4
  | "ipv6" => .ok .ipv6
  | "unix" => .ok .unix
  | _ => .error (.unknownType s)

inductive UniqueKey where
  | address
  | name
deriving DecidableEq, Repr

def UniqueKey.parse (s : String) : Except Error UniqueKey :=
  match keyword s with
  | "address" => .ok .address
  | "name" => .ok .name
  | _ => .error (.unknownUniqueKey s)

inductive SortKey where
  | address
  | name
  | port
  /-- Private addresses before public ones. -/
  | privacy
  /-- Larger networks before smaller ones. -/
  | size
  | type
deriving DecidableEq, Repr

def SortKey.parse (s : String) : Except Error SortKey :=
  match s.toLower with
  | "address" => .ok .address
  | "name" => .ok .name
  | "port" => .ok .port
  | "private" => .ok .privacy
  | "size" => .ok .size
  | "type" => .ok .type
  | _ => .error (.unknownSortKey s)

end HostAddr
