/-!
# The functions of a template

Every function that a template may call, under its name. Sources ask the host, which needs no
argument; the functions after them select from lists of records, and the rest compute on values
of any kind.
-/

namespace HostAddr

/-- What the host can be asked for without an argument. -/
inductive Source where
  | allInterfaces
  | defaultInterfaces
  | privateInterfaces
  | publicInterfaces
  | privateIP
  | publicIP
  | privateIPs
  | publicIPs
deriving DecidableEq, Repr

inductive Function where
  | source (s : Source)
  | interfaceIP
  | includeBy
  | excludeBy
  | sortBy
  | limit
  | offset
  | reverse
  | uniqueBy
  | joinBy
  | attr
  | and
  | or
  | not
  | len
  | index
  | eq
  | ne
  | lt
  | le
  | gt
  | ge
  | print
  | printf
  | println
deriving DecidableEq, Repr

def Source.name : Source → String
  | allInterfaces => "GetAllInterfaces"
  | defaultInterfaces => "GetDefaultInterfaces"
  | privateInterfaces => "GetPrivateInterfaces"
  | publicInterfaces => "GetPublicInterfaces"
  | privateIP => "GetPrivateIP"
  | publicIP => "GetPublicIP"
  | privateIPs => "GetPrivateIPs"
  | publicIPs => "GetPublicIPs"

namespace Function

def name : Function → String
  | source s => s.name
  | interfaceIP => "GetInterfaceIP"
  | includeBy => "include"
  | excludeBy => "exclude"
  | sortBy => "sort"
  | limit => "limit"
  | offset => "offset"
  | reverse => "reverse"
  | uniqueBy => "unique"
  | joinBy => "join"
  | attr => "attr"
  | and => "and"
  | or => "or"
  | not => "not"
  | len => "len"
  | index => "index"
  | eq => "eq"
  | ne => "ne"
  | lt => "lt"
  | le => "le"
  | gt => "gt"
  | ge => "ge"
  | print => "print"
  | printf => "printf"
  | println => "println"

def all : List Function :=
  [source .allInterfaces, source .defaultInterfaces, source .privateInterfaces,
    source .publicInterfaces, source .privateIP, source .publicIP, source .privateIPs,
    source .publicIPs, interfaceIP, includeBy, excludeBy, sortBy, limit, offset, reverse, uniqueBy,
    joinBy, attr, and, or, not, len, index, eq, ne, lt, le, gt, ge, print, printf, println]

def ofName? (s : String) : Option Function :=
  all.find? (·.name == s)

end Function

end HostAddr
