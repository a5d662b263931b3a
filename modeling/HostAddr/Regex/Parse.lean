import HostAddr.Regex.Program
import HostAddr.Text.Letter
import HostAddr.Text.Numeral

/-!
# Reading regular expressions

The grammar of patterns: literals, escapes, classes in brackets with nesting and set operations,
groups with names and flags, alternation, repetition with bounds, and assertions. Look-around and
back-references are refused, and so are patterns that are nested too deep or whose program is too
large. Of the classes that other engines read, `\p` and `\P` for Unicode properties are missing and
refused as well. A pattern is read from left to right with a stack of open groups; every step takes
at least one character.
-/

namespace HostAddr

namespace Regex

/-- What the flags of a pattern switch. -/
structure Flags where
  ignoreCase : Bool
  multiLine : Bool
  dotAll : Bool
  crlf : Bool
  /-- Classes and case hold ASCII characters only, and no class is complemented. -/
  ascii : Bool
  /-- Repetitions are lazy, and those marked as lazy are greedy. -/
  swapGreed : Bool
  /-- White space and comments in the pattern count for nothing. -/
  verbose : Bool
deriving DecidableEq

namespace Flags

def default : Flags :=
  ⟨false, false, false, false, false, false, false⟩

def set? (f : Flags) (on : Bool) : Char → Option Flags
  | 'i' => some { f with ignoreCase := on }
  | 'm' => some { f with multiLine := on }
  | 's' => some { f with dotAll := on }
  | 'R' => some { f with crlf := on }
  | 'u' => some { f with ascii := !on }
  | 'x' => some { f with verbose := on }
  | 'U' => some { f with swapGreed := on }
  | _ => none

def fold (f : Flags) (s : CharSet) : CharSet :=
  if f.ignoreCase then s.anyCase f.ascii else s

def negate? (f : Flags) (negated : Bool) (s : CharSet) : Option CharSet :=
  if negated then if f.ascii then none else some s.complement else some s

end Flags

/-- In verbose mode, drops white space and comments. -/
def skipSpace (f : Flags) : List Char → List Char
  | [] => []
  | c :: cs =>
    if f.verbose && isBlank c then skipSpace f cs
    else if f.verbose && c == '#' then skipComment f cs
    else c :: cs
where
  skipComment (f : Flags) : List Char → List Char
    | [] => []
    | c :: cs => if c == '\n' then skipSpace f cs else skipComment f cs

/-- What a single element of a pattern or of a class may be. -/
inductive Element where
  | char (c : Char)
  | set (s : CharSet)
  | look (l : Look)

def isEscapable (c : Char) : Bool :=
  c.toNat < 128 && !c.isAlphanum && c != '<' && c != '>'

def hexChar? (digits : List Char) : Option Char := do
  let n ← readHex? digits
  if n.isValidChar then some (Char.ofNat n) else none

/-- A code point as `count` hexadecimal digits or as any number of them in braces. -/
def readCodePoint? (count : Nat) : List Char → Option (Element × List Char)
  | '\x7b' :: cs => do
    let (digits, rest) ← (cutBrace cs)
    let c ← hexChar? digits
    return (.char c, rest)
  | cs => do
    let digits := cs.take count
    if digits.length < count then none
    let c ← hexChar? digits
    return (.char c, cs.drop count)
where
  cutBrace : List Char → Option (List Char × List Char)
    | [] => none
    | '\x7d' :: cs => some ([], cs)
    | c :: cs => (cutBrace cs).map fun (digits, rest) => (c :: digits, rest)

/-- Two hexadecimal digits, which stand for a byte if all is ASCII, or a code point in braces. -/
def readByte? (f : Flags) (cs : List Char) : Option (Element × List Char) := do
  let (e, rest) ← readCodePoint? 2 cs
  match e with
  | .char c => if f.ascii && cs.head? ≠ some '\x7b' && 128 ≤ c.toNat then none else some (e, rest)
  | _ => none

def readLetterClass? (f : Flags) (kind : LetterClass) (negated : Bool) (cs : List Char) :
    Option (Element × List Char) :=
  (f.negate? negated (kind.set f.ascii)).map fun s => (.set s, cs)

def isBoundaryChar (c : Char) : Bool :=
  c.isAlpha || c == '-'

/-- What follows the escape `\b`: a kind of boundary in braces, or nothing of its own. -/
def readBoundary? (f : Flags) : List Char → Option (Element × List Char)
  | '\x7b' :: cs =>
    if (cs.head?.map isBoundaryChar).getD false then
      let name := cs.takeWhile isBoundaryChar
      match cs.dropWhile isBoundaryChar with
      | '\x7d' :: rest =>
        match String.ofList name with
        | "start" => some (.look (.wordStart f.ascii), rest)
        | "end" => some (.look (.wordEnd f.ascii), rest)
        | "start-half" => some (.look (.wordStartHalf f.ascii), rest)
        | "end-half" => some (.look (.wordEndHalf f.ascii), rest)
        | _ => none
      | _ => none
    else if cs = [] then none
    else some (.look (.wordBoundary f.ascii), '\x7b' :: cs)
  | cs => some (.look (.wordBoundary f.ascii), cs)

def readEscape? (f : Flags) : List Char → Option (Element × List Char)
  | [] => none
  | c :: cs =>
    match c with
    | 'x' => readByte? f cs
    | 'u' => readCodePoint? 4 cs
    | 'U' => readCodePoint? 8 cs
    | 'd' => readLetterClass? f .digit false cs
    | 's' => readLetterClass? f .space false cs
    | 'w' => readLetterClass? f .word false cs
    | 'D' => readLetterClass? f .digit true cs
    | 'S' => readLetterClass? f .space true cs
    | 'W' => readLetterClass? f .word true cs
    | 'a' => some (.char '\x07', cs)
    | 'f' => some (.char '\x0c', cs)
    | 't' => some (.char '\t', cs)
    | 'n' => some (.char '\n', cs)
    | 'r' => some (.char '\r', cs)
    | 'v' => some (.char '\x0b', cs)
    | 'A' => some (.look .textStart, cs)
    | 'z' => some (.look .textEnd, cs)
    | 'b' => readBoundary? f cs
    | 'B' => some (.look (.notWordBoundary f.ascii), cs)
    | '<' => some (.look (.wordStart f.ascii), cs)
    | '>' => some (.look (.wordEnd f.ascii), cs)
    | c => if isEscapable c then some (.char c, cs) else none

def readClassElement? (f : Flags) : List Char → Option (Element × List Char)
  | [] => none
  | '\\' :: cs => (readEscape? f cs).bind checked
  | c :: cs => checked (.char c, cs)
where
  /-- A class of ASCII characters has no other members. -/
  checked : Element × List Char → Option (Element × List Char)
    | (.char c, rest) => if f.ascii && 128 ≤ c.toNat then none else some (.char c, rest)
    | other => some other

def readNamedClass? (f : Flags) (cs : List Char) : Option (CharSet × List Char) := do
  let negated := cs.head? == some '^'
  let body := if negated then cs.drop 1 else cs
  match body.dropWhile (· != ':') with
  | ':' :: ']' :: rest =>
    let set ← CharSet.named? (String.ofList (body.takeWhile (· != ':')))
    let set ← f.negate? negated (f.fold set)
    return (set, rest)
  | _ => none

/-- One or two elements inside brackets: a class, a character or a range. -/
def readClassItem? (f : Flags) (cs : List Char) : Option (CharSet × List Char) := do
  let (first, cs) ← readClassElement? f cs
  let cs := skipSpace f cs
  match cs with
  | [] => none
  | '-' :: tail =>
    let tail := skipSpace f tail
    if tail.head? = some ']' ∨ tail.head? = some '-' then alone first cs
    else
      let (last, rest) ← readClassElement? f tail
      match first, last with
      | .char a, .char b => if a ≤ b then some (.range a b, rest) else none
      | _, _ => none
  | cs => alone first cs
where
  alone (e : Element) (rest : List Char) : Option (CharSet × List Char) :=
    match e with
    | .char c => some (.single c, rest)
    | .set s => some (s, rest)
    | .look _ => none

/-- The depth of an expression whose parts have these depths; one part alone adds nothing. -/
def depthOf : List Nat → Nat
  | [] => 0
  | [d] => d
  | ds => ds.foldl max 0 + 1

/-- The members of a bracket so far, with the depth of nesting of each item. -/
structure Members where
  set : CharSet
  depths : List Nat

def Members.add (m : Members) (set : CharSet) (depth : Nat) : Members :=
  ⟨m.set.union set, depth :: m.depths⟩

/-- What is open while the inside of a class is read. -/
inductive ClassFrame where
  /-- A bracket, with what came before it in the bracket around it. -/
  | bracket (outer : Members) (negated : Bool)
  /-- A set operation, with its left side and the depth of that. -/
  | operation (op : SetOperation) (left : CharSet) (depth : Nat)

/-- The operand that ends here, joined with the left side that waits for it. -/
def closeOperand (f : Flags) (right : Members) :
    List ClassFrame → CharSet × Nat × List ClassFrame
  | .operation op left depth :: frames =>
    (op.apply (f.fold left) (f.fold right.set), max depth (depthOf right.depths) + 1, frames)
  | frames => (right.set, depthOf right.depths, frames)

/-- The start of a class after its bracket: a caret complements it, and leading hyphens or else a
leading closing bracket are members. -/
def readClassOpen? (f : Flags) (cs : List Char) : Option (Bool × Members × List Char) :=
  let cs := skipSpace f cs
  let negated := cs.head? == some '^'
  let cs := if negated then skipSpace f (cs.drop 1) else cs
  let body := cs.dropWhile (· == '-')
  let hyphens := cs.length - body.length
  if body = [] then none
  else if 0 < hyphens then some (negated, ⟨.single '-', List.replicate hyphens 0⟩, body)
  else if body.head? = some ']' then
    if skipSpace f (body.drop 1) = [] then none
    else some (negated, ⟨.single ']', [0]⟩, body.drop 1)
  else some (negated, ⟨.empty, []⟩, body)

/-- The rest of a class whose brackets and operations are on the stack; `members` are those of
the innermost bracket so far. The answer holds the class and its depth. -/
def readClass? (f : Flags) :
    Nat → List ClassFrame → Members → List Char → Option (CharSet × Nat × List Char)
  | 0, _, _, _ => none
  | fuel + 1, frames, members, cs =>
    match skipSpace f cs with
    | [] => none
    | '[' :: ':' :: rest =>
      match readNamedClass? f rest with
      | some (set, rest) => readClass? f fuel frames (members.add set 0) rest
      | none => do
        let (negated, inner, rest) ← readClassOpen? f (':' :: rest)
        readClass? f fuel (.bracket members negated :: frames) inner rest
    | '[' :: rest => do
      let (negated, inner, rest) ← readClassOpen? f rest
      readClass? f fuel (.bracket members negated :: frames) inner rest
    | ']' :: rest =>
      match closeOperand f members frames with
      | (whole, depth, .bracket outer negated :: frames) => do
        let closed ← f.negate? negated (f.fold whole)
        if frames.isEmpty then some (closed, depth + 1, rest)
        else readClass? f fuel frames (outer.add closed (depth + 1)) rest
      | _ => none
    | '&' :: '&' :: rest => operate fuel .intersection frames members rest
    | '-' :: '-' :: rest => operate fuel .difference frames members rest
    | '~' :: '~' :: rest => operate fuel .symmetricDifference frames members rest
    | cs => do
      let (item, rest) ← readClassItem? f cs
      readClass? f fuel frames (members.add item 0) rest
where
  operate (fuel : Nat) (op : SetOperation) (frames : List ClassFrame) (members : Members)
      (rest : List Char) : Option (CharSet × Nat × List Char) :=
    let (left, depth, frames) := closeOperand f members frames
    readClass? f fuel (.operation op left depth :: frames) ⟨.empty, []⟩ rest

def readBounds? (f : Flags) (cs : List Char) : Option (Nat × Option Nat × List Char) := do
  let (least?, cs) ← readCount? cs
  match cs with
  | ',' :: cs =>
    match skipSpace f cs with
    | '\x7d' :: rest => do
      let least ← least?
      return (least, none, rest)
    | cs => do
      let least ← least?
      let (most?, cs) ← readCount? cs
      let most ← most?
      match cs with
      | '\x7d' :: rest => if least ≤ most then some (least, some most, rest) else none
      | _ => none
  | '\x7d' :: rest => do
    let least ← least?
    return (least, some least, rest)
  | _ => none
where
  /-- A number with white space around it; the outer `none` is a number out of range, the inner
  one its absence. -/
  readCount? (cs : List Char) : Option (Option Nat × List Char) :=
    let cs := trimStart cs
    let digits := cs.takeWhile Char.isDigit
    let rest := trimStart (cs.dropWhile Char.isDigit)
    if digits = [] then some (none, rest)
    else (readDecimal? 4294967295 digits).map fun n => (some n, rest)

def isGroupNameChar (first : Bool) (c : Char) : Bool :=
  if first then c == '_' || isLetter c
  else c == '_' || c == '.' || c == '[' || c == ']' || isLetter c || isNumber c

def readGroupName? (cs : List Char) : Option (List Char × List Char) :=
  match cs.takeWhile (· != '>'), cs.dropWhile (· != '>') with
  | c :: name, '>' :: rest =>
    if isGroupNameChar true c && name.all (isGroupNameChar false) then some (c :: name, rest)
    else none
  | _, _ => none

/-- Reads the flags of a group up to the colon or parenthesis that ends them. `seen` are the
letters so far. The answer holds the new flags, whether any were named, and the end mark. -/
def readFlags? (seen : List Char) (on : Bool) (f : Flags) :
    List Char → Option (Flags × Bool × Char × List Char)
  | [] => none
  | c :: cs =>
    if c == ':' || c == ')' then
      if seen.head? = some '-' then none else some (f, !seen.isEmpty, c, cs)
    else if seen.contains c then none
    else if c == '-' then readFlags? (c :: seen) false f cs
    else match f.set? on c with
      | some f => readFlags? (c :: seen) on f cs
      | none => none

/-- A part of a pattern with its depth of nesting; a switch of flags has no expression. -/
structure Part where
  expression : Option Regex
  depth : Nat

/-- What has been read of a group: its number if it has one, the flags now in force, the parts
since the last bar, latest first, and the alternatives before it. -/
structure Group where
  number : Option Nat
  flags : Flags
  parts : List Part
  alternatives : List (Regex × Nat)

namespace Group

def start (number : Option Nat) (f : Flags) : Group :=
  ⟨number, f, [], []⟩

def push (g : Group) (p : Part) : Group :=
  { g with parts := p :: g.parts }

def sequence (g : Group) : Regex × Nat :=
  (Regex.sequence (g.parts.reverse.filterMap Part.expression), depthOf (g.parts.map Part.depth))

def inside (g : Group) : Regex × Nat :=
  let all := (g.sequence :: g.alternatives).reverse
  (choice (all.map Prod.fst), depthOf (all.map Prod.snd))

def whole (g : Group) : Part :=
  let (r, depth) := g.inside
  ⟨some (g.number.elim r fun n => .group n r), depth + 1⟩

def bar (g : Group) : Group :=
  { g with parts := [], alternatives := g.sequence :: g.alternatives }

/-- Repeats the latest part. -/
def repeatLast? (g : Group) (least : Nat) (most : Option Nat) (greedy : Bool) : Option Group :=
  match g.parts with
  | ⟨some r, depth⟩ :: parts =>
    some { g with parts := ⟨some (repetition least most greedy r), depth + 1⟩ :: parts }
  | _ => none

end Group

def character (f : Flags) (c : Char) : Regex :=
  ofSet (f.fold (.single c))

/-- Every character but those that end a line, unless the dot takes these too. -/
def dot? (f : Flags) : Option Regex :=
  if f.ascii then none
  else if f.dotAll then some (.chars CharSet.empty.complement)
  else if f.crlf then some (.chars ((CharSet.single '\r').union (.single '\n')).complement)
  else some (.chars (CharSet.single '\n').complement)

def caret (f : Flags) : Regex :=
  .look (if f.multiLine then if f.crlf then .lineStartCRLF else .lineStart else .textStart)

def dollar (f : Flags) : Regex :=
  .look (if f.multiLine then if f.crlf then .lineEndCRLF else .lineEnd else .textEnd)

def ofElement (f : Flags) : Element → Regex
  | .char c => character f c
  | .set s => ofSet s
  | .look l => .look l

/-- The state of a reader: the group being read, the groups around it, the names in use, and the
number of groups that have one. -/
structure Reader where
  group : Group
  outer : List Group
  names : List (List Char)
  numbered : Nat

namespace Reader

def push (s : Reader) (p : Part) : Reader :=
  { s with group := s.group.push p }

def openGroup (s : Reader) (f : Flags) : Reader :=
  { s with group := .start none f, outer := s.group :: s.outer }

def openNumbered (s : Reader) : Reader :=
  { s with
    group := .start (some (s.numbered + 1)) s.group.flags
    outer := s.group :: s.outer
    numbered := s.numbered + 1 }

/-- Opens a group with a name that is not in use. -/
def openNamed? (s : Reader) (cs : List Char) : Option (Reader × List Char) := do
  let (name, rest) ← readGroupName? cs
  if s.names.contains name then none
  else some ({ s.openNumbered with names := name :: s.names }, rest)

def readGroupOpen? (s : Reader) (cs : List Char) : Option (Reader × List Char) :=
  match skipSpace s.group.flags cs with
  | '?' :: '=' :: _ | '?' :: '!' :: _ | '?' :: '<' :: '=' :: _ | '?' :: '<' :: '!' :: _ => none
  | '?' :: 'P' :: '<' :: cs => s.openNamed? cs
  | '?' :: '<' :: cs => s.openNamed? cs
  | '?' :: cs =>
    match readFlags? [] true s.group.flags cs with
    | none => none
    | some (f, _, ':', rest) => some (s.openGroup f, rest)
    | some (f, named, _, rest) =>
      if named then
        some ({ s with group := { s.group.push ⟨none, 0⟩ with flags := f } }, rest)
      else none
  | cs => some (s.openNumbered, cs)

/-- A repetition; a question mark after it makes it lazy. -/
def repeatLast? (s : Reader) (least : Nat) (most : Option Nat) (cs : List Char) :
    Option (Reader × List Char) := do
  let isLazy := cs.head? == some '?'
  let group ← s.group.repeatLast? least most (isLazy == s.group.flags.swapGreed)
  return ({ s with group }, if isLazy then cs.drop 1 else cs)

/-- Reads one construct that starts with `c`; `cs` is not empty of skipped white space. -/
def step? (s : Reader) (c : Char) (cs : List Char) : Option (Reader × List Char) :=
  let f := s.group.flags
  match c with
  | '(' => s.readGroupOpen? cs
  | ')' =>
    match s.outer with
    | [] => none
    | g :: outer => some ({ s with group := g.push s.group.whole, outer }, cs)
  | '|' => some ({ s with group := s.group.bar }, cs)
  | '[' => do
    let (negated, inner, rest) ← readClassOpen? f cs
    let (set, depth, rest) ←
      readClass? f (rest.length + 1) [.bracket ⟨.empty, []⟩ negated] inner rest
    return (s.push ⟨some (ofSet set), depth⟩, rest)
  | '?' => s.repeatLast? 0 (some 1) cs
  | '*' => s.repeatLast? 0 none cs
  | '+' => s.repeatLast? 1 none cs
  | '\x7b' => do
    let (least, most, rest) ← readBounds? f cs
    s.repeatLast? least most (skipSpace f rest)
  | '\\' => do
    let (e, rest) ← readEscape? f cs
    return (s.push ⟨some (ofElement f e), 0⟩, rest)
  | '.' => do
    let r ← dot? f
    return (s.push ⟨some r, 0⟩, cs)
  | '^' => some (s.push ⟨some (caret f), 0⟩, cs)
  | '$' => some (s.push ⟨some (dollar f), 0⟩, cs)
  | c => some (s.push ⟨some (character f c), 0⟩, cs)

/-- Reads the rest of a pattern; `fuel` exceeds its length. The answer holds the expression and
its depth. -/
def run? : Nat → Reader → List Char → Option (Regex × Nat)
  | 0, _, _ => none
  | fuel + 1, s, cs =>
    match skipSpace s.group.flags cs with
    | [] => if s.outer.isEmpty then some s.group.inside else none
    | c :: cs =>
      match s.step? c cs with
      | some (s, rest) => run? fuel s rest
      | none => none

end Reader

/-- How deep the groups, repetitions, classes, sequences and alternations of a pattern may be
nested. -/
def maxDepth : Nat :=
  250

def parse? (pattern : String) : Option Regex :=
  let cs := pattern.toList
  match Reader.run? (cs.length + 1) ⟨.start none .default, [], [], 0⟩ cs with
  | some (r, depth) => if depth ≤ maxDepth ∧ r.fits then some r else none
  | none => none

end Regex

end HostAddr
