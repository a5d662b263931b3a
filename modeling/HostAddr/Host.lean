import HostAddr.Selection.Filter
import HostAddr.Selection.Slice
import HostAddr.Selection.Sort

/-!
# The host and what it is asked for

A host lists its records and names the interface that carries its default route; either answer
may be a failure. It also has the libraries that match patterns and sort. From these come the
selections that are wanted most: the private and the public addresses of the default interface, and
the address to be reached at on an interface by name.
-/

namespace HostAddr

structure Host where
  listing : Except Error (List Record)
  defaultName : Except Error String
  engine : PatternEngine
  sorter : Sorter

namespace Host

def noDefaultRoute : Error :=
  .host "no default route found"

def allInterfaces (h : Host) : Except Error (List Record) :=
  h.listing

/-- The records of the default interface in the order of the listing. -/
def defaultInterfaces (h : Host) : Except Error (List Record) := do
  let name ← h.defaultName
  let all ← h.listing
  return all.filter fun r => r.interface.name == name

/-- The IP addresses of the default interface, IPv4 first and larger networks first. -/
def defaultIPs (h : Host) : Except Error (List Record) := do
  let defaults ← h.defaultInterfaces
  let ips ← includeBy h.engine "type" "ip" defaults
  sortBy h.sorter "type,size" ips

def privateInterfaces (h : Host) : Except Error (List Record) := do
  includeBy h.engine "rfc" (toString Registry.privateRfc) (← h.defaultIPs)

def publicInterfaces (h : Host) : Except Error (List Record) := do
  excludeBy h.engine "rfc" (toString Registry.privateRfc) (← h.defaultIPs)

def firstAddress (rs : List Record) : String :=
  match rs with
  | r :: _ => r.view "address"
  | [] => ""

def privateIP (h : Host) : Except Error String :=
  h.privateInterfaces.map firstAddress

def publicIP (h : Host) : Except Error String :=
  h.publicInterfaces.map firstAddress

def privateIPs (h : Host) : Except Error String := do
  joinBy "address" " " (← h.privateInterfaces)

def publicIPs (h : Host) : Except Error String := do
  joinBy "address" " " (← h.publicInterfaces)

def interfaceIP (h : Host) (pattern : String) : Except Error String := do
  let named ← includeBy h.engine "name" pattern (← h.listing)
  let ips ← includeBy h.engine "type" "ip" named
  let forwardable ← includeBy h.engine "flag" "forwardable" ips
  let sorted ← sortBy h.sorter "type,size" forwardable
  return firstAddress sorted

end Host

end HostAddr
