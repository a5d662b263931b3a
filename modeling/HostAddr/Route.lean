import HostAddr.Address.Parse
import HostAddr.Text.Blank
import HostAddr.Text.Split

/-!
# Default routes

The interface of the default route, found in the text of one of four routing tools. The first
line that qualifies decides.
-/

namespace HostAddr

namespace Route

def device? : List (List Char) → Option (List Char)
  | a :: b :: rest => if a = "dev".toList then some b else device? (b :: rest)
  | _ => none

/-- A line of a listing of routes: `default`, and somewhere `dev` with a name after it. -/
def ofListingLine? (line : List Char) : Option String :=
  match words line with
  | first :: rest => if first = "default".toList then (device? (first :: rest)).map String.ofList
    else none
  | [] => none

def ofListing? (text : String) : Option String :=
  (lines text.toList).findSome? ofListingLine?

/-- A row of the kernel's table: the name of the interface first, and a destination and a mask
that are both zero. -/
def ofTableLine? (line : List Char) : Option String :=
  match words line with
  | name :: destination :: _ :: _ :: _ :: _ :: _ :: mask :: _ =>
    if destination = "00000000".toList ∧ mask = "00000000".toList then some (String.ofList name)
    else none
  | _ => none

/-- The kernel's table, whose first line is a heading. -/
def ofTable? (text : String) : Option String :=
  ((lines text.toList).drop 1).findSome? ofTableLine?

/-- What follows the word `interface:` on the line that starts with it. -/
def ofQueryLine? (line : List Char) : Option String :=
  ("interface:".toList.isPrefixOf? (trim line)).map fun rest => String.ofList (trim rest)

def ofQuery? (text : String) : Option String :=
  ((lines text.toList).findSome? ofQueryLine?).filter (· ≠ "")

/-- A row of a statistic: destination and mask zero, and the address of the interface fourth. -/
def ofStatisticLine? (line : List Char) : Option String :=
  match words line with
  | destination :: mask :: _ :: address :: _ =>
    if destination = "0.0.0.0".toList ∧ mask = "0.0.0.0".toList then
      match IPv4.readPlain? address, IPv6.readPlain? address with
      | some a, _ => some (String.ofList (IPv4.plainChars a))
      | none, some a => some (String.ofList (IPv6.plainChars a))
      | none, none => none
    else none
  | _ => none

def ofStatistic? (text : String) : Option String :=
  (lines text.toList).findSome? ofStatisticLine?

end Route

end HostAddr
