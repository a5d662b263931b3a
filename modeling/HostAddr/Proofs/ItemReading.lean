import HostAddr.Proofs.TokenReading
import Mathlib.Data.List.DropRight

/-!
# Templates read back

A layout is a template as it may be written: texts with actions between them, the tokens of an
action with one space before, between and after them, and a hyphen inside the braces wherever the
text outside them loses its white space. What a layout is written as is read as its items.
-/

namespace HostAddr

namespace Scan

lemma trimStart_append {lead : List Char} (hlead : ∀ c ∈ lead, isBlank c) (rest : List Char) :
    trimStart (lead ++ rest) = trimStart rest :=
  List.dropWhile_append_of_pos hlead

/-- The end of an action. -/
lemma tokens_of_close {cs rest : List Char} {trims : Bool}
    (h : close? (decide ((trimStart cs).length < cs.length)) (trimStart cs) = some (trims, rest)) :
    tokens cs = .ok ⟨some [], trims, rest⟩ := by
  rw [tokens]
  split
  · simp_all
  · simp_all

/-- An action goes on with its next token, or fails as that does. -/
lemma tokens_of_start {cs ds : List Char} {c : Char} (hcs : trimStart cs = c :: ds)
    (hc : StartsToken c ds) :
    tokens cs = token c ds >>= fun (t, rest) => (tokens rest).map (Action.cons t) := by
  rw [tokens]
  split
  · rename_i hclose
    rw [hcs, hc.close?] at hclose
    cases hclose
  · split
    · rename_i hbody
      cases hcs.symm.trans hbody
    · rename_i hbody
      exact absurd (List.cons.inj (hcs.symm.trans hbody)).1 hc.slash
    · rename_i hbody
      obtain ⟨rfl, rfl⟩ := List.cons.inj (hcs.symm.trans hbody)
      split
      · rename_i hread
        rw [hread]
        rfl
      · rename_i hread
        rw [hread]
        rfl

/-- One more token of an action. -/
lemma tokens_of_token {cs ds rest : List Char} {c : Char} {t : Token} (hcs : trimStart cs = c :: ds)
    (hc : StartsToken c ds) (ht : token c ds = .ok (t, rest)) :
    tokens cs = (tokens rest).map (Action.cons t) := by
  rw [tokens_of_start hcs hc, ht]
  rfl

/-- The end of an action, which trims the text after it or not. -/
def closing (trims : Bool) : List Char :=
  (if trims then ['-'] else []) ++ ['\x7d', '\x7d']

lemma close?_closing (trims : Bool) (rest : List Char) :
    close? true (closing trims ++ rest) = some (trims, rest) := by
  cases trims <;> rfl

lemma endsName_space (rest : List Char) : EndsName (' ' :: rest) := by
  rintro c ⟨⟩
  decide

/-- Tokens after spaces and before the end of an action are read as these tokens. -/
theorem tokens_source {ts : List Token} (hts : ∀ t ∈ ts, t.WellFormed) (trims : Bool)
    (rest : List Char) :
    tokens (ts.flatMap (fun t => ' ' :: t.source) ++ ' ' :: (closing trims ++ rest)) =
      .ok ⟨some ts, trims, rest⟩ := by
  induction ts with
  | nil =>
    have hbody : trimStart (' ' :: (closing trims ++ rest)) = closing trims ++ rest := by
      cases trims <;> rfl
    refine tokens_of_close ?_
    rw [List.flatMap_nil, List.nil_append, hbody, decide_eq_true (by simp)]
    exact close?_closing trims rest
  | cons t ts ih =>
    obtain ⟨ht, hts⟩ := List.forall_mem_cons.1 hts
    obtain ⟨c, cs, hsource, hc⟩ := startsToken_source ht
    obtain ⟨after, hafter⟩ : ∃ after, ts.flatMap (fun t => ' ' :: t.source) ++
        ' ' :: (closing trims ++ rest) = ' ' :: after := by
      cases ts with
      | nil => exact ⟨_, rfl⟩
      | cons u us => exact ⟨_, rfl⟩
    have hbody : trimStart (' ' :: c :: cs ++ ' ' :: after) = c :: (cs ++ ' ' :: after) :=
      (hc.append _).trimStart
    rw [List.flatMap_cons, hsource, List.append_assoc, hafter, tokens_of_token hbody (hc.append _)
      (token_source ht hsource (endsName_space after)), ← hafter, ih hts]
    rfl

/-- An action that starts with a token is the list of its tokens. -/
lemma action_eq_tokens {cs ds : List Char} {c : Char} (hcs : trimStart cs = c :: ds)
    (hc : StartsToken c ds) : action cs = tokens cs := by
  rw [action, hcs, hc.close?]
  dsimp only
  split
  · rename_i heq
    exact absurd (List.cons.inj heq).1 hc.slash
  · rfl

/-- Parts with a mark before each are the parts with the mark between them, after a first one. -/
lemma flatMap_cons_eq_cons_intercalate {mark : Char} {parts : List (List Char)} (h : parts ≠ []) :
    parts.flatMap (mark :: ·) = mark :: [mark].intercalate parts := by
  induction parts with
  | nil => exact absurd rfl h
  | cons part parts ih =>
    cases parts with
    | nil => simp
    | cons next parts =>
      rw [List.flatMap_cons, ih (List.cons_ne_nil next parts), List.intercalate_cons_cons]
      simp

/-- An action of tokens with spaces around them is read as these tokens. -/
theorem action_source {ts : List Token} (hne : ts ≠ []) (hts : ∀ t ∈ ts, t.WellFormed)
    (trims : Bool) (rest : List Char) :
    action (' ' :: [' '].intercalate (ts.map Token.source) ++ ' ' :: (closing trims ++ rest)) =
      .ok ⟨some ts, trims, rest⟩ := by
  rw [← flatMap_cons_eq_cons_intercalate (by simpa using hne), List.flatMap_map,
    ← tokens_source hts trims rest]
  obtain ⟨t, ts, rfl⟩ := List.exists_cons_of_ne_nil hne
  obtain ⟨c, cs, hsource, hc⟩ := startsToken_source (hts t List.mem_cons_self)
  rw [List.flatMap_cons, hsource, List.append_assoc]
  generalize ts.flatMap (fun t => ' ' :: t.source) ++ ' ' :: (closing trims ++ rest) = after
  have hbody : trimStart (' ' :: c :: cs ++ after) = c :: (cs ++ after) :=
    (hc.append after).trimStart
  exact action_eq_tokens hbody (hc.append after)

/-- A text without braces is one item at most. -/
lemma items_of_none {trims : Bool} {cs : List Char}
    (h : cutAt? ['\x7b', '\x7b'] cs = none) : items trims cs = .ok (textItems trims false cs) := by
  rw [items]
  split
  · rfl
  · rename_i hcut
    cases h.symm.trans hcut

/-- Braces end a text and open an action, after which reading goes on. -/
lemma items_of_cut {trims : Bool} {cs before after : List Char}
    (h : cutAt? ['\x7b', '\x7b'] cs = some (before, after)) :
    items trims cs = action (if opensWithTrim after then after.drop 1 else after) >>= fun a =>
      (items a.trims a.rest).map fun rest => textItems trims (opensWithTrim after) before ++
        (a.tokens.map Item.action).toList ++ rest := by
  rw [items]
  split
  · rename_i hcut
    cases h.symm.trans hcut
  · rename_i hcut
    cases h.symm.trans hcut
    dsimp only
    generalize action (if opensWithTrim after then after.drop 1 else after) = outcome
    cases outcome <;> rfl

lemma cutAt?_braces {before : List Char} (h : ¬['\x7b', '\x7b'] <:+: before)
    (hlast : before.getLast? ≠ some '\x7b') (after : List Char) :
    cutAt? ['\x7b', '\x7b'] (before ++ '\x7b' :: '\x7b' :: after) = some (before, after) :=
  cutAt?_append_marker (not_infix_concat h (.inl hlast)) after

end Scan

/-- A text and the action after it: its tokens, and whether it trims the text before it and the
text after it. -/
structure Segment where
  text : String
  trimsBefore : Bool
  tokens : List Token
  trimsAfter : Bool

/-- A template as it may be written. -/
structure Layout where
  segments : List Segment
  /-- The text after the last action. -/
  last : String

namespace Segment

/-- The text holds no braces that open an action, not even with those after it, and the action
has tokens, all of which can be written. -/
structure WellFormed (s : Segment) : Prop where
  text : ¬['\x7b', '\x7b'] <:+: s.text.toList
  text_end : s.text.toList.getLast? ≠ some '\x7b'
  tokens_ne : s.tokens ≠ []
  tokens : ∀ t ∈ s.tokens, t.WellFormed

def source (s : Segment) : List Char :=
  s.text.toList ++ ['\x7b', '\x7b'] ++ (if s.trimsBefore then ['-'] else []) ++
    ' ' :: [' '].intercalate (s.tokens.map Token.source) ++
    ' ' :: (if s.trimsAfter then ['-'] else []) ++ ['\x7d', '\x7d']

end Segment

/-- A text without the white space at the ends where it is trimmed. -/
def keptText (trimsStart trimsEnd : Bool) (cs : List Char) : List Char :=
  let cs := if trimsStart then cs.dropWhile isBlank else cs
  if trimsEnd then cs.rdropWhile isBlank else cs

/-- A text is an item unless it is empty. -/
def textItem (cs : List Char) : List Item :=
  if cs = [] then [] else [.text (String.ofList cs)]

lemma Scan.textItems_eq (trimsStart trimsEnd : Bool) (cs : List Char) :
    textItems trimsStart trimsEnd cs = textItem (keptText trimsStart trimsEnd cs) := rfl

namespace Layout

structure WellFormed (l : Layout) : Prop where
  segments : ∀ s ∈ l.segments, s.WellFormed
  last : ¬['\x7b', '\x7b'] <:+: l.last.toList

def source (l : Layout) : String :=
  String.ofList (l.segments.flatMap Segment.source ++ l.last.toList)

/-- The items of segments and the text after them; `trims` is whether the action before them
trims the first text. -/
def itemsFrom (trims : Bool) (last : String) : List Segment → List Item
  | [] => textItem (keptText trims false last.toList)
  | s :: segments => textItem (keptText trims s.trimsBefore s.text.toList) ++
      .action s.tokens :: itemsFrom s.trimsAfter last segments

def items (l : Layout) : List Item :=
  itemsFrom false l.last l.segments

/-- One segment adds its text, trimmed by its neighbours, and its action. -/
theorem items_segment {s : Segment} (hs : s.WellFormed) (trims : Bool) (rest : List Char) :
    Scan.items trims (s.source ++ rest) = (Scan.items s.trimsAfter rest).map fun items =>
      textItem (keptText trims s.trimsBefore s.text.toList) ++ .action s.tokens :: items := by
  have haction := Scan.action_source hs.tokens_ne hs.tokens s.trimsAfter rest
  generalize hinner : ' ' :: [' '].intercalate (s.tokens.map Token.source) ++
    ' ' :: (Scan.closing s.trimsAfter ++ rest) = inner at haction
  have hsource : s.source ++ rest = s.text.toList ++ '\x7b' :: '\x7b' ::
      ((if s.trimsBefore then ['-'] else []) ++ inner) := by
    rw [← hinner]
    simp [Segment.source, Scan.closing]
  have hopens : Scan.opensWithTrim ((if s.trimsBefore then ['-'] else []) ++ inner) =
      s.trimsBefore := by
    rw [← hinner]
    cases s.trimsBefore <;> rfl
  have hbody : (if s.trimsBefore then
      ((if s.trimsBefore then ['-'] else []) ++ inner).drop 1
      else (if s.trimsBefore then ['-'] else []) ++ inner) = inner := by
    cases s.trimsBefore <;> rfl
  rw [hsource, Scan.items_of_cut (Scan.cutAt?_braces hs.text hs.text_end _), hopens, hbody, haction,
    ok_bind]
  simp [Scan.textItems_eq]

theorem items_segments {segments : List Segment} (hs : ∀ s ∈ segments, s.WellFormed) {last : String}
    (hlast : ¬['\x7b', '\x7b'] <:+: last.toList) (trims : Bool) :
    Scan.items trims (segments.flatMap Segment.source ++ last.toList) =
      .ok (itemsFrom trims last segments) := by
  induction segments generalizing trims with
  | nil => exact Scan.items_of_none (cutAt?_eq_none hlast)
  | cons s segments ih =>
    obtain ⟨hs, hsegments⟩ := List.forall_mem_cons.1 hs
    rw [List.flatMap_cons, List.append_assoc, items_segment hs, ih hsegments]
    rfl

/-- What a layout is written as is read as its items. -/
theorem scan_source {l : Layout} (h : l.WellFormed) : Item.scan l.source = .ok l.items := by
  rw [Item.scan, source, String.toList_ofList]
  exact items_segments h.segments h.last false

/-- Braces and hyphens in strings and numbers are none of the template. -/
theorem scan_source_braces :
    let l : Layout := ⟨[
      ⟨"a \n", true, [.ident "print", .str "\x7d\x7d-\x7b\x7b\\\"\t", .int (-0x8000000000000000)],
        false⟩,
      ⟨" \t ", false, [.var "$x1" ["A", "_b"], .declare, .leftParen, .field "L" [], .dot,
        .rightParen, .pipe, .var "$" [], .comma, .assign, .int 0], true⟩], " -\x7d\x7d\x7b "⟩
    l.WellFormed ∧ Item.scan l.source = .ok [.text "a",
      .action [.ident "print", .str "\x7d\x7d-\x7b\x7b\\\"\t", .int (-0x8000000000000000)],
      .text " \t ", .action [.var "$x1" ["A", "_b"], .declare, .leftParen, .field "L" [], .dot,
        .rightParen, .pipe, .var "$" [], .comma, .assign, .int 0], .text "-\x7d\x7d\x7b "] := by
  intro l
  have hl : l.WellFormed := by
    refine ⟨fun s hs => ?_, by decide +kernel⟩
    rcases List.mem_pair.1 hs with rfl | rfl
    · exact ⟨by decide +kernel, by decide +kernel, by decide, by decide +kernel⟩
    · exact ⟨by decide +kernel, by decide +kernel, by decide, by decide +kernel⟩
  refine ⟨hl, (scan_source hl).trans ?_⟩
  decide +kernel

end Layout

end HostAddr
