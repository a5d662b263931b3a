import HostAddr.Error
import HostAddr.Text.Blank
import HostAddr.Text.Split

/-!
# Reading addresses

With `Q` four decimal octets and `A` an IPv6 address, an IPv4 address is read from `Q`, `Q/N` or
`Q:P` and an IPv6 address from `A`, `A/N`, `[A]`, `[A/N]` or `[A]:P`, white space around the text
aside. A text of neither form is taken for the path of a UNIX socket when it starts with a dot or
has a slash in it.
-/

namespace HostAddr

abbrev PlainReader (w : Nat) := List Char → Option (BitVec w)

/-- The text that stands before a colon and the port after it. -/
def readPort? (cs : List Char) : Option UInt16 :=
  (readDecimal? 65535 cs).map Nat.toUInt16

namespace IPAddr

variable {w : Nat}

def readNetwork? (plain? : PlainReader w) (address prefixLen : List Char) : Option (IPAddr w) := do
  let a ← plain? address
  let p ← readDecimal? w prefixLen
  return ofParts a p 0

def readEndpoint? (plain? : PlainReader w) (address port : List Char) : Option (IPAddr w) := do
  let a ← plain? address
  let p ← readPort? port
  return (bare a).withPort p

end IPAddr

namespace IPv4

/-- A decimal number below 256 without leading zeros. -/
def readOctet? (cs : List Char) : Option Nat :=
  if cs.head? = some '0' ∧ 1 < cs.length then none else readDecimal? 255 cs

/-- Four decimal octets. -/
def readPlain? (cs : List Char) : Option (BitVec 32) :=
  match (cs.splitOn '.').map readOctet? with
  | [some a, some b, some c, some d] => some (ofOctets a b c d)
  | _ => none

/-- The text without the white space around it: `Q`, `Q/N` or `Q:P`. -/
def read? (cs : List Char) : Option IPv4 :=
  match cutFirst? '/' cs with
  | some (address, prefixLen) => IPAddr.readNetwork? readPlain? address prefixLen
  | none =>
    match readPlain? cs with
    | some a => some (IPAddr.bare a)
    | none => (cutLast? ':' cs).bind fun (address, port) =>
      IPAddr.readEndpoint? readPlain? address port

def parse (s : String) : Except Error IPv4 :=
  match read? (trim s.toList) with
  | some a => .ok a
  | none => .error (.malformedAddress s .ipv4)

end IPv4

namespace IPv6

def readGroup? (cs : List Char) : Option Nat :=
  if cs.length ≤ 4 then readHex? cs else none

/-- Four decimal octets in the place of two groups. -/
def readOctetGroups? (cs : List Char) : Option (List Nat) :=
  (IPv4.readPlain? cs).map fun a => digits 65536 2 a.toNat

/-- Groups of which the last two may be written as four decimal octets. -/
def readTail? : List (List Char) → Option (List Nat)
  | [] => some []
  | [part] => if '.' ∈ part then readOctetGroups? part else (readGroup? part).map ([·])
  | part :: parts => do
    let g ← readGroup? part
    let gs ← readTail? parts
    return g :: gs

/-- The parts between the colons; an empty text has none. -/
def colonParts (cs : List Char) : List (List Char) :=
  if cs = [] then [] else cs.splitOn ':'

/-- Eight groups, or fewer around two colons that stand for the missing ones, at least one. -/
def readPlain? (cs : List Char) : Option (BitVec 128) :=
  match cutAt? [':', ':'] cs with
  | none => do
    let gs ← readTail? (colonParts cs)
    if gs.length = 8 then some (ofGroups gs) else none
  | some (before, after) => do
    let head ← (colonParts before).mapM readGroup?
    let tail ← readTail? (colonParts after)
    if head.length + tail.length ≤ 7 then
      some (ofGroups (head ++ List.replicate (8 - head.length - tail.length) 0 ++ tail))
    else none

def readBare? (cs : List Char) : Option IPv6 :=
  match cutFirst? '/' cs with
  | some (address, prefixLen) => IPAddr.readNetwork? readPlain? address prefixLen
  | none => (readPlain? cs).map IPAddr.bare

/-- The text without the white space around it: `A`, `A/N`, `[A]`, `[A/N]` or `[A]:P`. -/
def read? : List Char → Option IPv6
  | '[' :: cs =>
    match cutFirst? ']' cs with
    | some (inner, []) => readBare? inner
    | some (inner, ':' :: port) => IPAddr.readEndpoint? readPlain? inner port
    | _ => none
  | cs => readBare? cs

def parse (s : String) : Except Error IPv6 :=
  match read? (trim s.toList) with
  | some a => .ok a
  | none => .error (.malformedAddress s .ipv6)

end IPv6

/-- Any text but the empty one is a path. -/
def UnixPath.parse (s : String) : Except Error UnixPath :=
  if h : s = "" then .error (.malformedAddress s .unix) else .ok ⟨s, h⟩

namespace SocketAddress

def parseIP (s : String) : Except Error SocketAddress :=
  match IPv4.parse s, IPv6.parse s with
  | .ok a, _ => .ok (.ipv4 a)
  | .error _, .ok a => .ok (.ipv6 a)
  | .error _, .error _ => .error (.malformedAddress s .ip)

/-- Whether a text that is no IP address passes for a path. -/
def looksLikePath (s : String) : Bool :=
  s.toList.head? == some '.' || s.toList.contains '/'

/-- An IP address of either kind, or else a path. -/
def parse (s : String) : Except Error SocketAddress :=
  match parseIP s with
  | .ok a => .ok a
  | .error _ =>
    if looksLikePath s then (UnixPath.parse s).map .unix
    else .error (.malformedAddress s .any)

def parseAs : AddressForm → String → Except Error SocketAddress
  | .ipv4, s => (IPv4.parse s).map .ipv4
  | .ipv6, s => (IPv6.parse s).map .ipv6
  | .ip, s => parseIP s
  | .unix, s => (UnixPath.parse s).map .unix
  | .any, s => parse s

end SocketAddress

end HostAddr
