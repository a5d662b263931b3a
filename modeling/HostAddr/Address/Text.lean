import HostAddr.Address.Socket
import HostAddr.Text.Quoted

/-!
# The written form of an address

An IPv4 address is written as four decimal octets, an IPv6 address as eight hexadecimal groups of
which the longest run of zeros is left out; IPv4 addresses mapped into IPv6 keep their octets. A
port follows a colon, and an IPv6 address stands in brackets before it. Without a port, a prefix
shorter than the address follows a slash. Paths are quoted.
-/

namespace HostAddr

namespace IPv4

def octets (a : BitVec 32) : List Nat :=
  digits 256 4 a.toNat

def plainChars (a : BitVec 32) : List Char :=
  ['.'].intercalate ((octets a).map decimal)

end IPv4

namespace IPv6

def groups (a : BitVec 128) : List Nat :=
  digits 65536 8 a.toNat

/-- The length of the run of zeros that `gs` starts with. -/
def zeroRun (gs : List Nat) : Nat :=
  (gs.takeWhile (· == 0)).length

/-- The position and length of the first longest run of zeros among the tails of `gs`, where
`i` is the position of `gs`. -/
def longestZeroRun (i : Nat) : List Nat → Nat × Nat
  | [] => (i, 0)
  | g :: gs =>
    let later := longestZeroRun (i + 1) gs
    let here := zeroRun (g :: gs)
    if later.2 ≤ here then (i, here) else later

def groupChars (gs : List Nat) : List Char :=
  [':'].intercalate (gs.map (Nat.toDigits 16))

/-- The IPv4 address that an IPv4-mapped address holds. -/
def mapped? (a : BitVec 128) : Option (BitVec 32) :=
  if a.toNat / 0x100000000 = 0xffff then some (BitVec.ofNat 32 a.toNat) else none

/-- Hexadecimal groups, the first longest run of two or more zeros written as two colons. -/
def compressedChars (gs : List Nat) : List Char :=
  match longestZeroRun 0 gs with
  | (start, len) =>
    if 1 < len then groupChars (gs.take start) ++ "::".toList ++ groupChars (gs.drop (start + len))
    else groupChars gs

def plainChars (a : BitVec 128) : List Char :=
  match mapped? a with
  | some v4 => "::ffff:".toList ++ IPv4.plainChars v4
  | none => compressedChars (groups a)

end IPv6

namespace IPAddr

variable {w : Nat}

/-- A written address followed by its port, or by its prefix length if that is not the full one.
`bracketed` is the form that precedes a port. -/
def charsWith (plain bracketed : List Char) (a : IPAddr w) : List Char :=
  if a.port ≠ 0 then bracketed ++ ':' :: decimal a.port.toNat
  else if a.isHost then plain
  else plain ++ '/' :: decimal a.prefixLen

end IPAddr

namespace IPv4

def chars (a : IPv4) : List Char :=
  a.charsWith (plainChars a.address) (plainChars a.address)

def plainText (a : IPv4) : String :=
  String.ofList (plainChars a.address)

def text (a : IPv4) : String :=
  String.ofList (chars a)

end IPv4

namespace IPv6

def bracketed (cs : List Char) : List Char :=
  '[' :: cs ++ [']']

def chars (a : IPv6) : List Char :=
  a.charsWith (plainChars a.address) (bracketed (plainChars a.address))

def plainText (a : IPv6) : String :=
  String.ofList (plainChars a.address)

def text (a : IPv6) : String :=
  String.ofList (chars a)

end IPv6

def SocketAddress.text : SocketAddress → String
  | ipv4 a => IPv4.text a
  | ipv6 a => IPv6.text a
  | unix p => quote p.text

end HostAddr
