import HostAddr.Proofs.QuotedText

/-!
# Quoted output in templates

What the verb `q` writes is not the form in which templates hold a string: it has an escape for
every hidden character, and templates know five of these escapes alone. The others are refused, so
a template that holds quoted output either reads the string back or fails.
-/

namespace HostAddr

/-- A character that is read back from quoted output: it stands there as it is, or its escape is
one that templates know. -/
def ReadsBack (c : Char) : Prop :=
  escapeChar '"' c = [c] ∨ c ∈ ['"', '\\', '\n', '\t', '\r']

instance : DecidablePred ReadsBack :=
  fun _ => inferInstanceAs (Decidable (_ ∨ _))

/-- The character after the backslash in an escape that templates do not know. -/
def unknownMark (c : Char) : Char :=
  if c = '\x00' then '0' else 'u'

lemma escapeChar_of_readsBack {c : Char} (h : ReadsBack c) :
    escapeChar '"' c = sourceEscape c := by
  rcases h with hplain | hknown
  · fun_cases sourceEscape c with
    | case1 | case2 | case3 | case4 | case5 => exact absurd hplain (by decide)
    | case6 => exact hplain
  · simp only [List.mem_cons, List.not_mem_nil, or_false] at hknown
    rcases hknown with rfl | rfl | rfl | rfl | rfl <;> rfl

lemma escapeChar_of_not_readsBack {c : Char} (h : ¬ReadsBack c) :
    ∃ cs, escapeChar '"' c = '\\' :: unknownMark c :: cs := by
  unfold ReadsBack at h
  simp only [List.mem_cons, List.not_mem_nil, or_false, not_or] at h
  obtain ⟨hplain, hquote, hbackslash, hnewline, htab, hreturn⟩ := h
  unfold escapeChar at hplain ⊢
  rw [if_neg (not_or.2 ⟨hquote, hbackslash⟩), if_neg hnewline, if_neg hreturn, if_neg htab]
    at hplain ⊢
  by_cases hnul : c = '\x00'
  · rw [if_pos hnul, unknownMark, if_pos hnul]
    exact ⟨[], rfl⟩
  · rw [if_neg hnul] at hplain ⊢
    by_cases hhidden : isHidden c
    · rw [if_pos hhidden, unknownMark, if_neg hnul]
      exact ⟨_, rfl⟩
    · rw [if_neg hhidden] at hplain
      exact absurd rfl hplain

namespace Scan

/-- Quoted output is read up to the first character whose escape is unknown. -/
theorem quoted_flatMap_escapeChar (cs rest : List Char) :
    quoted (cs.flatMap (escapeChar '"') ++ '"' :: rest) =
      match cs.find? (¬ReadsBack ·) with
      | none => .ok (cs, rest)
      | some c => .error (.unknownEscape (some (unknownMark c))) := by
  induction cs with
  | nil => rfl
  | cons c cs ih =>
    rw [List.flatMap_cons, List.append_assoc]
    by_cases hc : ReadsBack c
    · rw [escapeChar_of_readsBack hc, quoted_sourceEscape, ih, List.find?_cons_of_neg (by simpa)]
      cases cs.find? (¬ReadsBack ·) <;> rfl
    · obtain ⟨ds, hds⟩ := escapeChar_of_not_readsBack hc
      have hunknown : escaped? (unknownMark c) = none := by
        unfold unknownMark
        split <;> rfl
      rw [hds, List.find?_cons_of_pos (by simpa)]
      simp only [List.cons_append, quoted, hunknown]

/-- An action that starts with a quotation mark starts with a string. -/
lemma action_quoted (cs : List Char) :
    action ('"' :: cs) = quoted cs >>= fun (s, rest) =>
      (tokens rest).map (Action.cons (.str (String.ofList s))) := by
  have hstarts : StartsToken '"' cs := ⟨by decide, by decide, by decide, by simp⟩
  rw [action_eq_tokens hstarts.trimStart hstarts, tokens_of_start hstarts.trimStart hstarts, token]
  cases quoted cs <;> rfl

end Scan

/-- A template that is one action, without white space in it. -/
def inBraces (action : String) : String :=
  "\x7b\x7b" ++ action ++ "\x7d\x7d"

lemma Value.format_quote (s : String) : format "%q" [.str s] = quote s := by
  have hchars : formatChars ['%', 'q'] [.str s] = quoteChars s.toList := List.append_nil _
  exact congrArg String.ofList hchars

/-- Quoted output in braces is read as its string, or refused for the first character whose escape
is unknown. -/
theorem scan_quote (s : String) :
    Item.scan (inBraces (quote s)) =
      match s.toList.find? (¬ReadsBack ·) with
      | none => .ok [.action [.str s]]
      | some c => .error (.unknownEscape (some (unknownMark c))) := by
  let body := s.toList.flatMap (escapeChar '"') ++ '"' :: ['\x7d', '\x7d']
  have hsource : (inBraces (quote s)).toList = [] ++ '\x7b' :: '\x7b' :: '"' :: body := by
    simp [inBraces, quote, quoteChars, body]
  have hcut : cutAt? ['\x7b', '\x7b'] ([] ++ '\x7b' :: '\x7b' :: '"' :: body) =
      some ([], '"' :: body) := Scan.cutAt?_braces (by decide) (by decide) ('"' :: body)
  have hopens : Scan.opensWithTrim ('"' :: body) = false := rfl
  rw [Item.scan, hsource, Scan.items_of_cut hcut, hopens, if_neg (by decide), Scan.action_quoted,
    Scan.quoted_flatMap_escapeChar]
  cases s.toList.find? (¬ReadsBack ·) with
  | none =>
    have hclose : Scan.tokens ['\x7d', '\x7d'] = .ok ⟨some [], false, []⟩ :=
      Scan.tokens_of_close rfl
    have hlast : Scan.items false [] = .ok [] := Scan.items_of_none rfl
    simp only [ok_bind, hclose, Except.map, Scan.Action.cons, hlast, String.ofList_toList]
    rfl
  | some c => rfl

/-- Quoted output in braces is the one string that it was written for, or it is refused for an
escape. It is never refused if every character of the string is read back, and only then. -/
theorem scan_format_quote (s : String) :
    (Item.scan (inBraces (Value.format "%q" [.str s])) = .ok [.action [.str s]] ∨
      ∃ mark ∈ ['0', 'u'], Item.scan (inBraces (Value.format "%q" [.str s])) =
        .error (.unknownEscape (some mark))) ∧
    (Item.scan (inBraces (Value.format "%q" [.str s])) = .ok [.action [.str s]] ↔
      ∀ c ∈ s.toList, ReadsBack c) := by
  rw [Value.format_quote, scan_quote]
  cases hfind : s.toList.find? (¬ReadsBack ·) with
  | none =>
    refine ⟨.inl rfl, iff_of_true rfl ?_⟩
    simpa using List.find?_eq_none.1 hfind
  | some c =>
    have hmark : unknownMark c ∈ ['0', 'u'] := by
      unfold unknownMark
      split <;> decide
    refine ⟨.inr ⟨unknownMark c, hmark, rfl⟩, iff_of_false nofun fun hall => ?_⟩
    have hc := List.find?_some hfind
    simp only [decide_not, Bool.not_eq_true', decide_eq_false_iff_not] at hc
    exact hc (hall c (List.mem_of_find?_eq_some hfind))

/-- The control character that rings a bell is written by its code point. -/
example : ¬ReadsBack '\x07' ∧ ReadsBack 'é' ∧ ReadsBack '\'' := by
  decide +kernel

end HostAddr
