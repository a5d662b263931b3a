import HostAddr.Regex.CharSet

/-!
# Regular expressions

The expressions themselves and the relation of matching. To match is to move through a text: an
expression takes a set of positions to the set of positions that it can reach from them, and it
matches a text if it reaches anything from any position. A set of positions is a number whose
bit `i` stands for the position before character `i`.
-/

namespace HostAddr

/-- Conditions on the two characters around a position. -/
inductive Look where
  | textStart
  | textEnd
  | lineStart
  | lineEnd
  | lineStartCRLF
  | lineEndCRLF
  | wordBoundary (ascii : Bool)
  | notWordBoundary (ascii : Bool)
  | wordStart (ascii : Bool)
  | wordEnd (ascii : Bool)
  | wordStartHalf (ascii : Bool)
  | wordEndHalf (ascii : Bool)
deriving DecidableEq

def isWord (ascii : Bool) : Option Char → Bool
  | none => false
  | some c => (LetterClass.word.set ascii).contains c

/-- Whether the condition holds between the characters `before` and `after`, which are absent at
the ends of the text. -/
def Look.holds : Look → Option Char × Option Char → Bool
  | textStart, (before, _) => before.isNone
  | textEnd, (_, after) => after.isNone
  | lineStart, (before, _) => before.isNone || before == some '\n'
  | lineEnd, (_, after) => after.isNone || after == some '\n'
  | lineStartCRLF, (before, after) =>
    before.isNone || before == some '\n' || (before == some '\r' && after != some '\n')
  | lineEndCRLF, (before, after) =>
    after.isNone || after == some '\r' || (after == some '\n' && before != some '\r')
  | wordBoundary ascii, (before, after) => isWord ascii before != isWord ascii after
  | notWordBoundary ascii, (before, after) => isWord ascii before == isWord ascii after
  | wordStart ascii, (before, after) => !isWord ascii before && isWord ascii after
  | wordEnd ascii, (before, after) => isWord ascii before && !isWord ascii after
  | wordStartHalf ascii, (before, _) => !isWord ascii before
  | wordEndHalf ascii, (_, after) => !isWord ascii after

inductive Regex where
  | empty
  | literal (text : List Char)
  | chars (set : CharSet)
  | look (condition : Look)
  /-- A group that is numbered, in the order of the opening parentheses. -/
  | group (number : Nat) (a : Regex)
  | seq (a b : Regex)
  | alt (a b : Regex)
  /-- At least `least` times, and at most `most` times if there is such a bound. Whether it is
  greedy decides among matches and not whether there is one. -/
  | times (least : Nat) (most : Option Nat) (greedy : Bool) (a : Regex)
deriving DecidableEq

namespace Regex

def positionsWhere {α : Type} (p : α → Bool) : List α → Nat
  | [] => 0
  | x :: xs => (p x).toNat + 2 * positionsWhere p xs

/-- The characters on both sides of each position of a text. -/
def sides (text : List Char) : List (Option Char × Option Char) :=
  (none :: text.map some).zip (text.map some ++ [none])

def iterate (f : Nat → Nat) : Nat → Nat → Nat
  | 0, s => s
  | n + 1, s => iterate f n (f s)

/-- The positions after a character that meets `p`, out of those of `s`. -/
def advance (text : List Char) (p : Char → Bool) (s : Nat) : Nat :=
  (s &&& positionsWhere p text) <<< 1

/-- The positions that the expression reaches from those of `s`. In a text of `n` characters a
repetition changes nothing more after `n + 1` rounds, since by then some round stood still. -/
def reach (text : List Char) : Regex → Nat → Nat
  | empty, s => s
  | literal cs, s => cs.foldl (fun s c => advance text (· == c) s) s
  | chars set, s => advance text set.contains s
  | look condition, s => s &&& positionsWhere condition.holds (sides text)
  | group _ a, s => a.reach text s
  | seq a b, s => b.reach text (a.reach text s)
  | alt a b, s => a.reach text s ||| b.reach text s
  | times least most _ a, s =>
    let rounds := text.length + 1
    let further := match most with
      | some n => min (n - least) rounds
      | none => rounds
    iterate (fun s => s ||| a.reach text s) further
      (iterate (a.reach text) (min least rounds) s)

def isMatch (r : Regex) (text : String) : Bool :=
  r.reach text.toList (Nat.pow 2 (text.toList.length + 1) - 1) != 0

end Regex

end HostAddr
