import HostAddr.Regex.Normal
import HostAddr.Text.Utf8
import Std.Data.HashMap

/-!
# The size of an expression's program

An expression is compiled to two programs, one that reads a text forward and one that reads it
backward, and is refused if either takes more than ten megabytes. A program is a list of states.
A state takes 32 bytes; a fork takes 4 more for each of its branches, and a state that tells byte
ranges apart takes 8 more for each of them. Programs are not built here, only measured: `Draft`
holds what is known of a program while its states are counted.
-/

namespace HostAddr

structure Draft where
  states : Nat
  /-- The bytes beyond those that every state takes. -/
  extra : Nat
  /-- Whether what was compiled last ends in a fork. -/
  endsInFork : Bool

namespace Draft

def limit : Nat :=
  10 * 1024 * 1024

def size (d : Draft) : Nat :=
  32 * d.states + d.extra

def grow (d : Draft) (states : Nat) (extra : Nat) : Draft :=
  ⟨d.states + states, d.extra + extra, false⟩

/-- Goes on from the end of what was compiled last, which adds a branch to a fork. -/
def link (d : Draft) : Draft :=
  if d.endsInFork then { d with extra := d.extra + 4 } else d

/-- Ends in a fork of one branch, which the end of what was compiled last leads to. -/
def fork (d : Draft) : Draft :=
  { d.link.grow 1 4 with endsInFork := true }

/-- Ends a branch of an alternation that is the `n`-th, counted from zero. With the second branch
come the fork at the start and the state at the end. -/
def branch (n : Nat) (d : Draft) : Draft :=
  d.link.grow (if n = 1 then 2 else 0) 4

/-- Compiles one thing `n` times, or until the draft is too large. -/
def again (compile : Draft → Draft) : Nat → Draft → Draft
  | 0, d => d
  | n + 1, d => if limit < d.size then d else again compile n (compile d)

/-- Compiles `n` copies of one thing in a row; no copy at all is one empty state. -/
def copies (compile : Draft → Draft) : Nat → Draft → Draft
  | 0, d => d.grow 1 0
  | n + 1, d => again (fun d => compile d.link) n (compile d)

end Draft

/-- While a class is compiled, states that are the same are shared as far as a table of limited
size remembers them: a state is found by a slot, and a slot remembers the latest state only. -/
structure Sharing where
  draft : Draft
  table : Std.HashMap UInt64 (List Nat × Nat)

namespace Sharing

def fnv (key : List Nat) : UInt64 :=
  key.foldl (fun h n => (h ^^^ n.toUInt64) * 1099511628211) 14695981039346656037

/-- The number of the state with this key, which is added if it is not remembered. -/
def state (slots : UInt64) (key : List Nat) (extra : Nat) : StateM Sharing Nat := do
  let slot := fnv key % slots
  let s ← get
  match s.table[slot]? with
  | some (key', number) => if key' = key then return number
  | none => pure ()
  let number := s.draft.states
  set (⟨s.draft.grow 1 extra, s.table.insert slot (key, number)⟩ : Sharing)
  return number

/-- Compiles the spellings that start at one state and end at the state `target`. Spellings in a
row that start with the same byte range share the state after it. -/
def forward (target : Nat) : Nat → List (List (UInt8 × UInt8)) → StateM Sharing Nat
  | 0, _ => return target
  | depth + 1, spellings =>
    if spellings.all List.isEmpty then return target
    else do
      let groups := spellings.splitBy fun a b => a.head? == b.head?
      let keys ← groups.mapM fun group => do
        let next ← forward target depth (group.map List.tail)
        return group.head?.bind List.head? |>.elim [] fun (first, last) =>
          [first.toNat, last.toNat, next]
      state 10000 keys.flatten (8 * groups.length)

/-- Compiles one spelling from its end, the state `target`, and makes it a branch of the fork that
all spellings start from. -/
def backward (target : Nat) (spelling : List (UInt8 × UInt8)) : StateM Sharing Unit := do
  let _ ← spelling.foldlM
    (fun next (first, last) => state 1000 [next, first.toNat, last.toNat] 0) target
  modify fun s => { s with draft := s.draft.grow 0 4 }

end Sharing

/-- Compiles a class between a state at its start and one at its end. -/
def CharSet.compile (backward : Bool) (s : CharSet) (d : Draft) : Draft :=
  if s.isAscii then d.grow 2 (8 * s.ranges.length)
  else
    let spellings := s.ranges.flatMap spellings
    if backward then
      (spellings.forM (Sharing.backward (d.states + 1)) |>.run ⟨d.grow 2 0, {}⟩).2.draft
    else
      (Sharing.forward d.states 4 spellings |>.run ⟨d.grow 1 0, {}⟩).2.draft

/-- Compiles alternatives that all are literals, given by what is left of their bytes. Bytes that
start more than one of them are shared, but nothing is shared across a literal that ends. -/
def compileLiterals : Nat → List (List UInt8) → Draft → Draft
  | 0, _, d => d
  | depth + 1, words, d =>
    if words.all List.isEmpty then d
    else
      let ends := words.headD [] = []
      let chunks := (words.dropWhile List.isEmpty).splitOnP List.isEmpty
      let starts := chunks.map fun chunk => (chunk.filterMap List.head?).eraseDups
      let forks := (chunks.filter (· ≠ [])).length + (chunks.length - 1) + (if ends then 1 else 0)
      let d := (chunks.zip starts).foldl (fun d (chunk, firsts) =>
        let d := firsts.foldl (fun d byte =>
          compileLiterals depth ((chunk.filter (·.head? == some byte)).map List.tail) d) d
        match firsts.length with
        | 0 => d
        | 1 => d.grow 1 0
        | n => d.grow 1 (8 * n)) d
      d.grow 1 (4 * forks)

namespace Regex

def literals? : Regex → Option (List (List Char))
  | literal cs => some [cs]
  | alt (literal cs) b => b.literals?.map (cs :: ·)
  | _ => none

/-- The least number of characters of a match, if anything matches. -/
def minLength? : Regex → Option Nat
  | empty | look _ => some 0
  | literal cs => some cs.length
  | chars set => if set.ranges = [] then none else some 1
  | group _ a => a.minLength?
  | seq a b => do return (← a.minLength?) + (← b.minLength?)
  | alt a b => do return min (← a.minLength?) (← b.minLength?)
  | times least _ _ a => a.minLength?.map (least * ·)

/-- Whether every match starts at the start of the text by a condition that says so. -/
def isAnchoredAtStart : Regex → Bool
  | look l => l = .textStart
  | group _ a => a.isAnchoredAtStart
  | seq a b => a.isAnchoredAtStart || (a.isEmptyOnly && b.isAnchoredAtStart)
  | alt a b => a.isAnchoredAtStart && b.isAnchoredAtStart
  | times least _ _ a => 0 < least && a.isAnchoredAtStart
  | _ => false

/-- Whether every match ends at the end of the text by a condition that says so. -/
def isAnchoredAtEnd : Regex → Bool
  | look l => l = .textEnd
  | group _ a => a.isAnchoredAtEnd
  | seq a b => b.isAnchoredAtEnd || (b.isEmptyOnly && a.isAnchoredAtEnd)
  | alt a b => a.isAnchoredAtEnd && b.isAnchoredAtEnd
  | times least _ _ a => 0 < least && a.isAnchoredAtEnd
  | _ => false

def utf8 (cs : List Char) : List UInt8 :=
  cs.flatMap String.utf8EncodeChar

/-- Compiles a repetition, of which `one` compiles one round. -/
def compileTimes (least : Nat) (most : Option Nat) (mayBeEmpty : Bool) (one : Draft → Draft)
    (d : Draft) : Draft :=
  match least, most with
  | 0, some 1 => (one (d.grow 1 0)).link.grow 1 8
  | 0, none =>
    if mayBeEmpty then (one d).link.grow 3 16
    else { (one (d.grow 1 0)).link.grow 0 4 with endsInFork := true }
  | least, none => (Draft.copies one least d).fork
  | least, some most =>
    let d := Draft.copies one least d
    if least = most then d
    else Draft.again (fun d => (one (d.grow 1 0)).link.grow 0 8) (most - least) (d.link.grow 1 0)

/-- Compiles an expression. If it is a branch of an alternation, `before` is the number of those
before it. Only forward programs have states at both ends of a group. -/
def compile (backward : Bool) : Regex → Nat → Draft → Draft
  | empty, before, d => close before (d.grow 1 0)
  | literal cs, before, d => close before (d.grow (utf8 cs).length 0)
  | chars set, before, d => close before (set.compile backward d)
  | look _, before, d => close before (d.grow 1 0)
  | group _ a, before, d =>
    close before (if backward then compile backward a 0 d
      else (compile backward a 0 (d.grow 1 0)).link.grow 1 0)
  | seq a b, before, d =>
    close before (if backward then compile backward a 0 (compile backward b 0 d).link
      else compile backward b 0 (compile backward a 0 d).link)
  | alt a b, before, d =>
    match if before = 0 then (alt a b).literals? else none with
    | some texts =>
      let words := texts.map fun cs => if backward then (utf8 cs).reverse else utf8 cs
      compileLiterals (words.foldl (fun n w => max n w.length) 0 + 1) words (d.grow 1 0)
    | none => compile backward b (before + 1) (.branch before (compile backward a 0 d))
  | times least most _ a, before, d =>
    let mayBeEmpty := !a.minLength?.any (0 < ·)
    close before (compileTimes least most mayBeEmpty (compile backward a 0) d)
where
  close (before : Nat) (d : Draft) : Draft :=
    if before = 0 then d else d.branch before

/-- The size of the program for the expression. A program that need not start at an end of the
text starts with a loop over any bytes, and a forward program is a group by itself. -/
def programSize (backward : Bool) (r : Regex) : Nat :=
  let anchored := if backward then r.isAnchoredAtEnd else r.isAnchoredAtStart
  let start : Draft := if anchored then ⟨1, 0, false⟩ else ⟨3, 16, false⟩
  let body :=
    if backward then r.compile backward 0 start
    else (r.compile backward 0 (start.grow 1 0)).link.grow 1 0
  (body.link.grow 1 0).size

def fits (r : Regex) : Bool :=
  r.programSize false ≤ Draft.limit && r.programSize true ≤ Draft.limit

end Regex

end HostAddr
