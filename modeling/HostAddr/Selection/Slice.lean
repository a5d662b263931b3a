import HostAddr.Attribute
import HostAddr.Selection.Word

/-!
# Slices

The first records of a list, what is left after some, the list without repetitions among
neighbours, and one attribute of all its records in one text.
-/

namespace HostAddr

/-- The text by which two records are held against each other. -/
def UniqueKey.text (r : Record) : UniqueKey → String
  | .address => r.address.text
  | .name => r.interface.name

/-- Drops records whose key equals that of the record kept before them, of which `last` is the
latest. -/
def dropRepeats (key : UniqueKey) (last : Option String) : List Record → List Record
  | [] => []
  | r :: rs =>
    if last = some (key.text r) then dropRepeats key last rs
    else r :: dropRepeats key (some (key.text r)) rs

def uniqueBy (key : String) (rs : List Record) : Except Error (List Record) :=
  (UniqueKey.parse key).map fun k => dropRepeats k none rs

/-- Drops `k` records from the front or, if `k` is negative, all but the last `-k`. -/
def offset (k : Int) (rs : List Record) : Except Error (List Record) :=
  if rs.length < k.natAbs then .error (.offsetOutOfRange k rs.length)
  else if k < 0 then .ok (rs.drop (rs.length - k.natAbs))
  else .ok (rs.drop k.natAbs)

/-- The attribute of that name of every record, between separators. -/
def joinBy (name separator : String) (rs : List Record) : Except Error String := do
  Attribute.ensureKnown name
  return separator.intercalate (rs.map (·.view name))

end HostAddr
