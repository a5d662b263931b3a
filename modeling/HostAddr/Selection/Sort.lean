import HostAddr.Interface
import HostAddr.Registry
import HostAddr.Selection.Word
import HostAddr.Text.Blank

/-!
# Sorting

An order is a list of clauses, each a key with a direction. The first clause that tells two
records apart decides, and records that no clause tells apart keep their old order. Address, port,
privacy and size only compare records of one kind of address, so that not every list of clauses
orders every list of records.
-/

namespace HostAddr

/-- A comparison that is a total preorder of the elements with `S`. -/
structure PreorderOn.{u} {α : Type u} (S : α → Prop) (cmp : α → α → Ordering) : Prop where
  refl : ∀ a, S a → cmp a a = .eq
  swap : ∀ a b, S a → S b → cmp b a = (cmp a b).swap
  trans : ∀ a b c, S a → S b → S c → (cmp a b).isLE → (cmp b c).isLE → (cmp a c).isLE

/-- The stable sort of the standard library. A comparison that is no total order of the records may
make it panic, or leave them in any order. -/
structure Sorter where
  /-- The records after the sort, or nothing where it panics. -/
  sort? : (Record → Record → Ordering) → List Record → Option (List Record)
  sort?_of_preorderOn {cmp : Record → Record → Ordering} {rs : List Record} :
    PreorderOn (· ∈ rs) cmp → sort? cmp rs = some (rs.mergeSort fun a b => (cmp a b).isLE)
  perm_of_sort? {cmp : Record → Record → Ordering} {rs sorted : List Record} :
    sort? cmp rs = some sorted → sorted.Perm rs

def SortKey.compare : SortKey → Record → Record → Ordering
  | .address, a, b => a.address.compareAddress b.address
  | .name, a, b => Ord.compare a.interface.name b.interface.name
  | .port, a, b => a.address.comparePort b.address
  | .privacy, a, b => Registry.compareMembership Registry.privateRfc a.address b.address
  | .size, a, b => a.address.compareNetworkSize b.address
  | .type, a, b => a.address.compareKind b.address

structure SortClause where
  key : SortKey
  descending : Bool
deriving DecidableEq

namespace SortClause

/-- A key after an optional sign; a minus sorts downwards. -/
def parse (s : String) : Except Error SortClause :=
  match trim s.toList with
  | '-' :: key => (SortKey.parse (String.ofList key)).map (⟨·, true⟩)
  | '+' :: key => (SortKey.parse (String.ofList key)).map (⟨·, false⟩)
  | key => (SortKey.parse (String.ofList key)).map (⟨·, false⟩)

def compare (c : SortClause) (a b : Record) : Ordering :=
  if c.descending then (c.key.compare a b).swap else c.key.compare a b

end SortClause

abbrev SortSpec := List SortClause

namespace SortSpec

/-- Clauses between commas. -/
def parse (s : String) : Except Error SortSpec :=
  (s.toList.splitOn ',').mapM fun clause => SortClause.parse (String.ofList clause)

/-- The answer of the first clause that tells the records apart. -/
def compare (spec : SortSpec) (a b : Record) : Ordering :=
  spec.foldl (fun answer c => answer.then (c.compare a b)) .eq

def sort (sorter : Sorter) (spec : SortSpec) (rs : List Record) : Except Error (List Record) :=
  match sorter.sort? spec.compare rs with
  | some sorted => .ok sorted
  | none => .error .sortPanic

end SortSpec

def sortBy (sorter : Sorter) (spec : String) (rs : List Record) : Except Error (List Record) := do
  let clauses ← SortSpec.parse spec
  clauses.sort sorter rs

end HostAddr
