import HostAddr.Regex.Basic

/-!
# Expressions in normal form

Expressions are built in a normal form. A sequence holds no sequence, no empty expression and no
two literals in a row; an alternative is no alternation. Single characters and classes that are
alternatives of each other make one class, alternatives that all start with the same elements
share them, and repetitions that say nothing are left out.
-/

namespace HostAddr

namespace Regex

/-- The class, or the literal if it has one member. -/
def ofSet (s : CharSet) : Regex :=
  match s.ranges with
  | [(first, last)] => if first = last then literal [Char.ofNat first] else chars s
  | _ => chars s

def elements : Regex → List Regex
  | empty => []
  | seq a b => a :: b.elements
  | r => [r]

def alternatives : Regex → List Regex
  | alt a b => a :: b.alternatives
  | r => [r]

/-- Puts an element before others and joins literals. -/
def prepend : Regex → List Regex → List Regex
  | literal a, literal b :: rest => literal (a ++ b) :: rest
  | r, rest => r :: rest

def sequence (rs : List Regex) : Regex :=
  link ((rs.flatMap elements).foldr prepend [])
where
  link : List Regex → Regex
    | [] => empty
    | [r] => r
    | r :: rest => seq r (link rest)

/-- The class of the characters if every expression is a single one. -/
def singles? (rs : List Regex) : Option CharSet :=
  rs.foldlM (fun s r => match r with
    | literal [c] => some (s.union (.single c))
    | _ => none) .empty

/-- The union of the classes if every expression is one. -/
def sets? (rs : List Regex) : Option CharSet :=
  rs.foldlM (fun s r => match r with
    | chars t => some (s.union t)
    | _ => none) .empty

def isSequence : Regex → Bool
  | seq _ _ => true
  | _ => false

def commonPrefix : List Regex → List Regex → List Regex
  | a :: as, b :: bs => if a = b then a :: commonPrefix as bs else []
  | _, _ => []

/-- The elements that all of the sequences start with, if they are all sequences. -/
def sharedStart (rs : List Regex) : List Regex :=
  if rs.all isSequence then
    match rs.map elements with
    | [] => []
    | es :: rest => rest.foldl commonPrefix es
  else []

def size : Regex → Nat
  | group _ a | times _ _ _ a => a.size + 1
  | seq a b | alt a b => a.size + b.size + 1
  | _ => 1

/-- Any one of the expressions, the earlier ones first. What a shared start leaves of them is
smaller, so `fuel` need not exceed their size. -/
def choiceUpTo : Nat → List Regex → Regex
  | fuel, rs =>
    match rs.flatMap alternatives with
    | [] => chars .empty
    | [r] => r
    | rs =>
      match singles? rs, sets? rs, fuel with
      | some s, _, _ | _, some s, _ => ofSet s
      | _, _, 0 => link rs
      | _, _, fuel + 1 =>
        let start := sharedStart rs
        if start = [] then link rs
        else
          let rests := rs.map fun r => sequence (r.elements.drop start.length)
          sequence (start ++ [choiceUpTo fuel rests])
where
  link : List Regex → Regex
    | [] => chars .empty
    | [r] => r
    | r :: rest => alt r (link rest)

def choice (rs : List Regex) : Regex :=
  choiceUpTo (rs.foldl (fun n r => n + r.size) 0) rs

/-- Whether the expression matches the empty text only. -/
def isEmptyOnly : Regex → Bool
  | empty | look _ => true
  | literal _ | chars _ => false
  | group _ a => a.isEmptyOnly
  | seq a b | alt a b => a.isEmptyOnly && b.isEmptyOnly
  | times _ most _ a => most.isSome && a.isEmptyOnly

/-- The expression a number of times. To repeat what matches the empty text only is to have it
once. -/
def repetition (least : Nat) (most : Option Nat) (greedy : Bool) (a : Regex) : Regex :=
  let (least, most) :=
    if a.isEmptyOnly then (min least 1, some (min (most.getD 1) 1)) else (least, most)
  match least, most with
  | 0, some 0 => empty
  | 1, some 1 => a
  | least, most => times least most greedy a

end Regex

end HostAddr
