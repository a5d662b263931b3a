import HostAddr.Text.Blank
import HostAddr.Text.CaseFold
import HostAddr.Text.WordChar

/-!
# Character classes of a regular expression

A class is a set of characters, held as the ranges of its code points. Ranges, the classes of
digits, white space and word characters, and the classes with a name are combined by union,
intersection, difference and complement. A class that ignores case holds every case variant of
its members, and is closed so before it is complemented.
-/

namespace HostAddr

structure CharSet where
  ranges : List (Nat × Nat)
  ascending : isAscending 0 ranges := by decide
deriving DecidableEq

namespace CharSet

def contains (s : CharSet) (c : Char) : Bool :=
  inRanges s.ranges c.toNat

def empty : CharSet where
  ranges := []

def insert (s : CharSet) (first last : Nat) : CharSet :=
  if h : first ≤ last then
    { ranges := insertRange first last s.ranges
      ascending := isAscending_mono (isAscending_insertRange h s.ascending) (by omega) }
  else s

def range (first last : Char) : CharSet :=
  empty.insert first.toNat last.toNat

def single (c : Char) : CharSet :=
  range c c

def union (a b : CharSet) : CharSet :=
  b.ranges.foldl (fun s r => s.insert r.1 r.2) a

def ofRanges (rs : List (Char × Char)) : CharSet :=
  rs.foldl (fun s r => s.union (range r.1 r.2)) empty

def complement (a : CharSet) : CharSet where
  ranges := gaps 0 a.ranges
  ascending := isAscending_gaps a.ascending (Nat.le_refl 0)

def intersection (a b : CharSet) : CharSet :=
  (a.complement.union b.complement).complement

def difference (a b : CharSet) : CharSet :=
  (a.complement.union b).complement

def symmetricDifference (a b : CharSet) : CharSet :=
  (a.difference b).union (b.difference a)

def isAscii (s : CharSet) : Bool :=
  s.ranges.all fun r => r.2 < 128

/-- Adds what `variants` gives for each of those of `cs` that are members. -/
def closeUnder (s : CharSet) (cs : List Char) (variants : Char → List Char) : CharSet :=
  ((cs.filter s.contains).flatMap variants).foldl (fun t c => t.insert c.toNat c.toNat) s

def otherAsciiCase (c : Char) : Char :=
  if c.isUpper then c.toLower else c.toUpper

/-- The set with the case variants of its members, among ASCII letters only if `ascii`. -/
def anyCase (ascii : Bool) (s : CharSet) : CharSet :=
  if ascii then
    let letters := (List.range 128).map Char.ofNat
    s.closeUnder letters fun c => [otherAsciiCase c]
  else s.closeUnder foldingChars caseVariants

/-- The classes that are named between colons; all of them hold ASCII characters only. -/
def named? : String → Option CharSet
  | "alnum" => some (ofRanges [('0', '9'), ('A', 'Z'), ('a', 'z')])
  | "alpha" => some (ofRanges [('A', 'Z'), ('a', 'z')])
  | "ascii" => some (ofRanges [('\x00', '\x7f')])
  | "blank" => some (ofRanges [('\t', '\t'), (' ', ' ')])
  | "cntrl" => some (ofRanges [('\x00', '\x1f'), ('\x7f', '\x7f')])
  | "digit" => some (ofRanges [('0', '9')])
  | "graph" => some (ofRanges [('!', '~')])
  | "lower" => some (ofRanges [('a', 'z')])
  | "print" => some (ofRanges [(' ', '~')])
  | "punct" => some (ofRanges [('!', '/'), (':', '@'), ('[', '\x60'), ('\x7b', '~')])
  | "space" => some (ofRanges [('\t', '\r'), (' ', ' ')])
  | "upper" => some (ofRanges [('A', 'Z')])
  | "word" => some (ofRanges [('0', '9'), ('A', 'Z'), ('_', '_'), ('a', 'z')])
  | "xdigit" => some (ofRanges [('0', '9'), ('A', 'F'), ('a', 'f')])
  | _ => none

end CharSet

/-- The three classes with a letter of their own. -/
inductive LetterClass where
  | digit
  | space
  | word
deriving DecidableEq

namespace LetterClass

/-- The members of the class, or the ASCII ones among them. -/
def set (ascii : Bool) : LetterClass → CharSet
  | digit =>
    if ascii then .ofRanges [('0', '9')] else ⟨digitRanges, by decide +kernel⟩
  | space =>
    if ascii then .ofRanges [('\t', '\r'), (' ', ' ')] else ⟨blankRanges, by decide +kernel⟩
  | word =>
    if ascii then .ofRanges [('0', '9'), ('A', 'Z'), ('_', '_'), ('a', 'z')]
    else ⟨wordRanges, by decide +kernel⟩

end LetterClass

inductive SetOperation where
  | intersection
  | difference
  | symmetricDifference
deriving DecidableEq

def SetOperation.apply : SetOperation → CharSet → CharSet → CharSet
  | intersection => CharSet.intersection
  | difference => CharSet.difference
  | symmetricDifference => CharSet.symmetricDifference

end HostAddr
