import HostAddr.Address.Parse
import HostAddr.Address.Scope
import HostAddr.Interface
import HostAddr.Registry
import HostAddr.Selection.Word

/-!
# Filters

A filter looks at one part of each record. Its parameter is read once, before any record is
looked at. The bar in a parameter separates alternatives, except for flags, all of which a record
has to meet. A filter splits a list of records into those that meet it and the others, both in
their old order; the only records it refuses are those that no mask of the wanted size fits.
-/

namespace HostAddr

def Flag.holds (r : Record) : Flag → Bool
  | .up => r.interface.flags.up
  | .down => !r.interface.flags.up
  | .broadcast => r.interface.flags.broadcast
  | .loopback => r.interface.flags.loopback
  | .multicast => r.interface.flags.multicast
  | .pointToPoint => r.interface.flags.pointToPoint
  | .forwardable => Registry.isForwardable r.address
  | .globalUnicast => r.address.isGlobalUnicast
  | .interfaceLocalMulticast => r.address.isInterfaceLocalMulticast
  | .linkLocalMulticast => r.address.isLinkLocalMulticast
  | .linkLocalUnicast => r.address.isLinkLocalUnicast
  | .unspecified => r.address.isUnspecified

def TypeFilter.holds (a : SocketAddress) : TypeFilter → Bool
  | .ip => a.isIP
  | .ipv4 => a.kind == .ipv4
  | .ipv6 => a.kind == .ipv6
  | .unix => a.kind == .unix

/-- The regular expressions of a library: what a pattern matches, unless it is malformed. -/
structure PatternEngine where
  compile? : String → Option (String → Bool)

inductive Filter where
  | address (isMatch : String → Bool)
  | name (isMatch : String → Bool)
  | port (isMatch : String → Bool)
  | rfcs (numbers : List Nat)
  | size (bits : Nat)
  | types (kinds : List TypeFilter)
  | flags (flags : List Flag)
  | networks (nets : List SocketAddress)

namespace Filter

def tokens (param : String) : List String :=
  (param.toList.splitOn '|').map String.ofList

def trimmed (s : String) : String :=
  String.ofList (trim s.toList)

def parseRfc (token : String) : Except Error Nat :=
  match readWithPlus? 4294967295 (trim token.toList) with
  | some n => if (Registry.networks? n).isSome then .ok n else .error (.unknownRfc n)
  | none => .error (.malformedRfcNumber token)

def parseSize (param : String) : Except Error Nat :=
  match readWithPlus? 4294967295 (trim param.toList) with
  | some n => .ok n
  | none => .error (.malformedMaskSize param)

def compilePattern (engine : PatternEngine) (pattern : String) : Except Error (String → Bool) :=
  match engine.compile? pattern with
  | some isMatch => .ok isMatch
  | none => .error (.malformedRegex pattern)

def compile (engine : PatternEngine) (selector : Selector) (param : String) :
    Except Error Filter :=
  match selector with
  | .address => (compilePattern engine param).map address
  | .name => (compilePattern engine param).map name
  | .port => (compilePattern engine param).map port
  | .rfc => ((tokens param).mapM parseRfc).map rfcs
  | .size => (parseSize param).map size
  | .type => ((tokens param).mapM TypeFilter.parse).map types
  | .flag => ((tokens param).mapM Flag.parse).map flags
  | .network => ((tokens param).mapM fun t => SocketAddress.parseIP (trimmed t)).map networks

def holds : Filter → Record → Bool
  | address isMatch, r => isMatch r.address.text
  | name isMatch, r => isMatch r.interface.name
  | port isMatch, r => r.address.port?.any fun p => isMatch (toString p.toNat)
  | rfcs numbers, r => numbers.any fun n => Registry.holds n r.address
  | size bits, r => r.address.prefixLen? == some bits
  | types kinds, r => kinds.any (·.holds r.address)
  | flags fs, r => fs.all (·.holds r)
  | networks nets, r => nets.any (·.contains r.address)

/-- Why a record cannot be put to the filter: its kind has no mask of that size. -/
def refusal? : Filter → Record → Option Error
  | size bits, r =>
    if r.address.width?.any (· < bits) then some (.maskSizeOutOfBounds bits r.address) else none
  | _, _ => none

def split (f : Filter) (rs : List Record) : Except Error (List Record × List Record) :=
  match rs.findSome? f.refusal? with
  | some e => .error e
  | none => .ok (rs.partition f.holds)

end Filter

def partitionBy (engine : PatternEngine) (selector param : String) (rs : List Record) :
    Except Error (List Record × List Record) := do
  let s ← Selector.parse selector
  let f ← Filter.compile engine s param
  f.split rs

def includeBy (engine : PatternEngine) (selector param : String) (rs : List Record) :
    Except Error (List Record) :=
  (partitionBy engine selector param rs).map Prod.fst

def excludeBy (engine : PatternEngine) (selector param : String) (rs : List Record) :
    Except Error (List Record) :=
  (partitionBy engine selector param rs).map Prod.snd

end HostAddr
