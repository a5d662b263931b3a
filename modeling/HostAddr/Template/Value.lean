import HostAddr.Interface

/-!
# Values

What a pipeline hands on from call to call.
-/

namespace HostAddr

inductive Value where
  | nil
  | bool (b : Bool)
  | int (n : Int)
  | str (s : String)
  | records (rs : List Record)
  | record (r : Record)
deriving DecidableEq

inductive ValueKind where
  | nil
  | bool
  | int
  | str
  | records
  | record
deriving DecidableEq

def ValueKind.name : ValueKind → String
  | nil => "nil"
  | bool => "bool"
  | int => "int"
  | str => "string"
  | records => "IfAddrs"
  | record => "IfAddr"

namespace Value

def kind : Value → ValueKind
  | nil => .nil
  | bool _ => .bool
  | int _ => .int
  | str _ => .str
  | records _ => .records
  | record _ => .record

/-- Nothing, falsehood, zero and what is empty count as false, all else as true. -/
def isTrue : Value → Bool
  | nil => false
  | bool b => b
  | int n => n != 0
  | str s => s != ""
  | records rs => !rs.isEmpty
  | record _ => true

def text : Value → String
  | nil => "<no value>"
  | bool b => if b then "true" else "false"
  | int n => toString n
  | str s => s
  | records rs => "[" ++ " ".intercalate (rs.map Record.text) ++ "]"
  | record r => r.text

end Value

end HostAddr
