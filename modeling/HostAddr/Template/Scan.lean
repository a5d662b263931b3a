import HostAddr.Template.Fault
import HostAddr.Text.Blank
import HostAddr.Text.Numeral
import HostAddr.Text.Split

/-!
# From text to items

Double braces cut a template into text and actions, and an action is cut into tokens. A hyphen
inside the braces, with white space on its inner side, trims the text on its outer side. An action
that is a comment leaves no item. Each scan answers with what is left of the text, which is
shorter than what it was given; that is why scanning ends.
-/

namespace HostAddr

namespace Scan

/-- The longest name that the text starts with, possibly empty. -/
def name (cs : List Char) : String × List Char :=
  (String.ofList (cs.takeWhile isNameChar), cs.dropWhile isNameChar)

theorem length_name_le (cs : List Char) : (name cs).2.length ≤ cs.length :=
  (List.dropWhile_sublist isNameChar).length_le

def fields : List Char → List String × List Char
  | '.' :: c :: cs =>
    if isNameStart c then
      let more := fields (name (c :: cs)).2
      ((name (c :: cs)).1 :: more.1, more.2)
    else ([], '.' :: c :: cs)
  | cs => ([], cs)
termination_by cs => cs.length
decreasing_by
  have := length_name_le (c :: cs)
  simp only [List.length_cons] at this ⊢
  omega

theorem length_fields_le (cs : List Char) : (fields cs).2.length ≤ cs.length := by
  fun_induction fields cs with
  | case1 c cs _ more ih =>
    have := length_name_le (c :: cs)
    show (fields (name (c :: cs)).2).2.length ≤ _
    simp only [List.length_cons] at this ⊢
    omega
  | case2 => simp
  | case3 => simp

/-- The value of a numeral, with a hyphen in front if negative, when it fits 64 bits. -/
def integer? (numeral : List Char) : Option Int :=
  match numeral with
  | '-' :: ds => (readDecimal? 0x8000000000000000 ds).map fun n => -(n : Int)
  | ds => (readDecimal? 0x7fffffffffffffff ds).map fun n => (n : Int)

/-- The number that starts with `first`, a digit or a hyphen. -/
def number (first : Char) (cs : List Char) : Except SyntaxFault (Int × List Char) :=
  let numeral := first :: cs.takeWhile Char.isDigit
  match integer? numeral with
  | some n => .ok (n, cs.dropWhile Char.isDigit)
  | none => .error (.malformedNumber (String.ofList numeral))

/-- The character that a backslash and `c` stand for. -/
def escaped? : Char → Option Char
  | 'n' => some '\n'
  | 't' => some '\t'
  | 'r' => some '\r'
  | '\\' => some '\\'
  | '"' => some '"'
  | _ => none

/-- A string up to its closing quotation mark. -/
def quoted : List Char → Except SyntaxFault (List Char × List Char)
  | [] => .error .unterminatedString
  | '\n' :: _ => .error .unterminatedString
  | '"' :: cs => .ok ([], cs)
  | ['\\'] => .error (.unknownEscape none)
  | '\\' :: c :: cs =>
    match escaped? c with
    | some d => (quoted cs).map fun (s, rest) => (d :: s, rest)
    | none => .error (.unknownEscape (some c))
  | c :: cs => (quoted cs).map fun (s, rest) => (c :: s, rest)

theorem length_quoted_lt {cs s rest : List Char} (h : quoted cs = .ok (s, rest)) :
    rest.length < cs.length := by
  fun_induction quoted cs generalizing s with
  | case1 => cases h
  | case2 => cases h
  | case3 cs => cases h; simp
  | case4 => cases h
  | case5 c cs d _ ih =>
    obtain ⟨⟨s', rest'⟩, hq, hpair⟩ := map_eq_ok_iff.1 h
    cases hpair
    have := ih hq
    simp only [List.length_cons]
    omega
  | case6 => cases h
  | case7 c cs _ _ _ _ ih =>
    obtain ⟨⟨s', rest'⟩, hq, hpair⟩ := map_eq_ok_iff.1 h
    cases hpair
    have := ih hq
    simp only [List.length_cons]
    omega

/-- What a dot starts: a chain of fields, or the dot itself. -/
def dotted (cs : List Char) : Token × List Char :=
  match fields ('.' :: cs) with
  | (first :: more, rest) => (.field first more, rest)
  | ([], _) => (.dot, cs)

def token (c : Char) (cs : List Char) : Except SyntaxFault (Token × List Char) :=
  match c with
  | '|' => .ok (.pipe, cs)
  | '(' => .ok (.leftParen, cs)
  | ')' => .ok (.rightParen, cs)
  | ',' => .ok (.comma, cs)
  | '=' => .ok (.assign, cs)
  | ':' =>
    match cs with
    | '=' :: cs => .ok (.declare, cs)
    | _ => .error .loneColon
  | '"' => (quoted cs).map fun (s, rest) => (.str (String.ofList s), rest)
  | '\x60' =>
    match cutFirst? '\x60' cs with
    | some (s, rest) => .ok (.str (String.ofList s), rest)
    | none => .error .unterminatedRawString
  | '.' => .ok (dotted cs)
  | '$' =>
    let (x, rest) := name cs
    let (more, rest) := fields rest
    .ok (.var ("$" ++ x) more, rest)
  | c =>
    if c = '-' ∨ c.isDigit then (number c cs).map fun (n, rest) => (.int n, rest)
    else if isNameStart c then
      let (x, rest) := name cs
      .ok (.ident (String.singleton c ++ x), rest)
    else .error (.unexpectedChar c)

theorem length_number_le {first : Char} {cs rest : List Char} {n : Int}
    (h : number first cs = .ok (n, rest)) : rest.length ≤ cs.length := by
  unfold number at h
  dsimp only at h
  split at h
  · cases h
    exact (List.dropWhile_sublist _).length_le
  · cases h

theorem length_dotted_le (cs : List Char) : (dotted cs).2.length ≤ cs.length := by
  unfold dotted
  split
  · rename_i first more rest h
    rw [fields.eq_def] at h
    split at h
    · rename_i c cs' heq
      cases heq
      split at h
      · have := length_fields_le (name (c :: cs')).2
        have := length_name_le (c :: cs')
        cases h
        simp only [List.length_cons] at *
        omega
      · cases h
    · cases h
  · exact Nat.le_refl _

theorem length_token_le {c : Char} {cs rest : List Char} {t : Token}
    (h : token c cs = .ok (t, rest)) : rest.length ≤ cs.length := by
  unfold token at h
  split at h
  case h_6 =>
    split at h
    · cases h
      simp
    · cases h
  case h_7 =>
    obtain ⟨⟨s, rest'⟩, hq, hpair⟩ := map_eq_ok_iff.1 h
    cases hpair
    exact Nat.le_of_lt (length_quoted_lt hq)
  case h_8 =>
    split at h
    · rename_i hcut
      cases h
      exact Nat.le_of_lt (length_cutFirst_lt hcut)
    · cases h
  case h_9 =>
    have hle := length_dotted_le cs
    rwa [Except.ok.inj h] at hle
  case h_10 =>
    cases h
    exact Nat.le_trans (length_fields_le _) (length_name_le cs)
  case h_11 =>
    split at h
    · obtain ⟨⟨n, rest'⟩, hn, hpair⟩ := map_eq_ok_iff.1 h
      cases hpair
      exact length_number_le hn
    · split at h
      · cases h
        exact length_name_le cs
      · cases h
  all_goals
    cases h
    exact Nat.le_refl _

/-- The end of an action: whether it trims, and what follows. A hyphen belongs to it only after
white space. -/
def close? (spaced : Bool) : List Char → Option (Bool × List Char)
  | '-' :: '\x7d' :: '\x7d' :: cs => if spaced then some (true, cs) else none
  | '\x7d' :: '\x7d' :: cs => some (false, cs)
  | _ => none

theorem length_close_lt {spaced trims : Bool} {cs rest : List Char}
    (h : close? spaced cs = some (trims, rest)) : rest.length < cs.length := by
  unfold close? at h
  split at h
  · split at h
    · cases h
      simp only [List.length_cons]
      omega
    · cases h
  · cases h
    simp only [List.length_cons]
    omega
  · cases h

/-- What an action leaves: its tokens unless it is a comment, whether it trims the text after it,
and the text after it. -/
structure Action where
  tokens : Option (List Token)
  trims : Bool
  rest : List Char

def Action.cons (t : Token) (a : Action) : Action :=
  { a with tokens := a.tokens.map (t :: ·) }

/-- The tokens that are left of an action, to its end. -/
def tokens (cs : List Char) : Except SyntaxFault Action :=
  let body := trimStart cs
  let spaced := decide (body.length < cs.length)
  match close? spaced body with
  | some (trims, rest) => .ok ⟨some [], trims, rest⟩
  | none =>
    match _hb : body with
    | [] => .error .unclosedAction
    | '/' :: '*' :: _ => .error .commentNotAlone
    | c :: cs' =>
      match _ht : token c cs' with
      | .error e => .error e
      | .ok (t, rest) => (tokens rest).map (Action.cons t)
termination_by cs.length
decreasing_by
  have := length_token_le _ht
  have := length_trimStart_le cs
  have := congrArg List.length _hb
  simp only [body, List.length_cons] at *
  omega

def comment (cs : List Char) : Except SyntaxFault Action :=
  match cutAt? ['*', '/'] cs with
  | none => .error .unclosedComment
  | some (_, after) =>
    let rest := trimStart after
    match close? (rest.length < after.length) rest with
    | some (trims, rest) => .ok ⟨none, trims, rest⟩
    | none => .error .tokensAfterComment

/-- An action after its opening braces. -/
def action (cs : List Char) : Except SyntaxFault Action :=
  let body := trimStart cs
  match close? (body.length < cs.length) body with
  | some _ => .error (.missingValue .command)
  | none =>
    match body with
    | '/' :: '*' :: _ => comment body
    | _ => tokens cs

theorem length_tokens_rest_lt {cs : List Char} {a : Action} (h : tokens cs = .ok a) :
    a.rest.length < cs.length := by
  fun_induction tokens cs generalizing a with
  | case1 cs body spaced trims rest =>
    rename_i hclose
    cases h
    have := length_close_lt hclose
    have := length_trimStart_le cs
    simp only [body] at *
    omega
  | case2 => cases h
  | case3 => cases h
  | case4 => cases h
  | case5 cs body spaced _ c cs' _ hb t rest ht =>
    rename_i ih
    obtain ⟨a', ha, rfl⟩ := map_eq_ok_iff.1 h
    have := ih ha
    have := length_token_le ht
    have := length_trimStart_le cs
    have := congrArg List.length hb
    simp only [body, List.length_cons, Action.cons] at *
    omega

theorem length_action_rest_lt {cs : List Char} {a : Action} (h : action cs = .ok a) :
    a.rest.length < cs.length := by
  have hle := length_trimStart_le cs
  unfold action at h
  dsimp only at h
  split at h
  · cases h
  · split at h
    · unfold comment at h
      split at h
      · cases h
      · rename_i before after hcut
        have := length_cutAt_lt (by simp) hcut
        dsimp only at h
        split at h
        · rename_i hclose
          cases h
          have := length_close_lt hclose
          have := length_trimStart_le after
          dsimp only
          omega
        · cases h
    · exact length_tokens_rest_lt h

/-- Whether a text inside the braces starts with a hyphen that trims. -/
def opensWithTrim : List Char → Bool
  | '-' :: c :: _ => isBlank c
  | _ => false

/-- A text without the white space that its neighbours trim; an empty text is no item. -/
def textItems (trimsStart trimsEnd : Bool) (cs : List Char) : List Item :=
  let cs := if trimsStart then trimStart cs else cs
  let cs := if trimsEnd then trimEnd cs else cs
  if cs = [] then [] else [.text (String.ofList cs)]

/-- The items of a text; `trims` is whether the action before it trims it. -/
def items (trims : Bool) (cs : List Char) : Except SyntaxFault (List Item) :=
  match _hcut : cutAt? ['\x7b', '\x7b'] cs with
  | none => .ok (textItems trims false cs)
  | some (before, after) =>
    let trimsBefore := opensWithTrim after
    match _ha : action (if trimsBefore then after.drop 1 else after) with
    | .error e => .error e
    | .ok a => (items a.trims a.rest).map fun rest =>
      textItems trims trimsBefore before ++ (a.tokens.map Item.action).toList ++ rest
termination_by cs.length
decreasing_by
  have := length_cutAt_lt (by simp) _hcut
  have := length_action_rest_lt _ha
  have hdrop : (after.drop 1).length ≤ after.length := by simp
  split at this <;> omega

end Scan

def Item.scan (s : String) : Except SyntaxFault (List Item) :=
  Scan.items false s.toList

end HostAddr
