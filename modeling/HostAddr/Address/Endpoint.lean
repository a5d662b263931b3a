import HostAddr.Address.Text

/-!
# Endpoints

To dial an address or to listen on it takes a transport and a target. The target of an IP address
names one host and a port, so a network has none; to listen, port 0 lets the host choose. A UNIX
socket is opened by its path.
-/

namespace HostAddr

/-- What a socket is opened for. -/
inductive SocketUse where
  | dialPacket
  | dialStream
  | listenPacket
  | listenStream
deriving DecidableEq, Repr

namespace SocketUse

def all : List SocketUse :=
  [dialPacket, dialStream, listenPacket, listenStream]

def name : SocketUse → String
  | dialPacket => "DialPacket"
  | dialStream => "DialStream"
  | listenPacket => "ListenPacket"
  | listenStream => "ListenStream"

def isStream : SocketUse → Bool
  | dialPacket | listenPacket => false
  | dialStream | listenStream => true

def listens : SocketUse → Bool
  | dialPacket | dialStream => false
  | listenPacket | listenStream => true

end SocketUse

structure Endpoint where
  transport : String
  target : String
deriving DecidableEq

/-- `host` is the written address in the form that precedes a port. -/
def IPAddr.targetWith {w : Nat} (host : List Char) (use : SocketUse) (a : IPAddr w) : String :=
  if a.isHost ∧ (a.port ≠ 0 ∨ use.listens) then
    String.ofList (host ++ ':' :: decimal a.port.toNat)
  else ""

namespace SocketAddress

def transport (use : SocketUse) : SocketAddress → String
  | ipv4 _ => if use.isStream then "tcp4" else "udp4"
  | ipv6 _ => if use.isStream then "tcp6" else "udp6"
  | unix _ => if use.isStream then "unix" else "unixgram"

def target (use : SocketUse) : SocketAddress → String
  | ipv4 a => a.targetWith (IPv4.plainChars a.address) use
  | ipv6 a => a.targetWith (IPv6.bracketed (IPv6.plainChars a.address)) use
  | unix p => p.text

def endpoint (use : SocketUse) (a : SocketAddress) : Endpoint :=
  ⟨a.transport use, a.target use⟩

end SocketAddress

end HostAddr
