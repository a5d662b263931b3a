import HostAddr.Proofs.ItemReading

/-!
# Reading comments

A comment leaves nothing but the text around it, and one that is not closed is refused. The search
for the mark that closes a comment takes the last character of the mark that opens it along, so a
slash right after that mark closes the comment.
-/

namespace HostAddr

namespace Scan

/-- What is left of an action after the mark that closes a comment. -/
def commentEnd (cs : List Char) : Except SyntaxFault Action :=
  let rest := trimStart cs
  match close? (rest.length < cs.length) rest with
  | some (trims, rest) => .ok ⟨none, trims, rest⟩
  | none => .error .tokensAfterComment

lemma comment_of_cut {cs before after : List Char}
    (h : cutAt? ['*', '/'] cs = some (before, after)) : comment cs = commentEnd after := by
  rw [comment, h]
  rfl

/-- An action that opens with a comment is that comment. -/
lemma action_eq_comment {lead : List Char} (hlead : ∀ c ∈ lead, isBlank c) (cs : List Char) :
    action (lead ++ '/' :: '*' :: cs) = comment ('/' :: '*' :: cs) := by
  have hbody : trimStart (lead ++ '/' :: '*' :: cs) = '/' :: '*' :: cs :=
    (trimStart_append hlead _).trans rfl
  rw [action, hbody]
  rfl

/-- Only a slash at the start of a body makes a closing mark with the mark before it. -/
lemma not_infix_comment {body : List Char} (h : ¬['*', '/'] <:+: body)
    (hslash : body.head? ≠ some '/') : ¬['*', '/'] <:+: '/' :: '*' :: body := by
  rw [List.infix_cons_iff, List.infix_cons_iff]
  rintro (hopen | hstar | hbody)
  · exact absurd (List.cons_prefix_cons.1 hopen).1 (by decide)
  · obtain ⟨rest, hrest⟩ := (List.cons_prefix_cons.1 hstar).2
    rw [← hrest] at hslash
    exact hslash rfl
  · exact h hbody

/-- A comment is read up to the first closing mark after its opening mark. -/
lemma action_comment {lead body : List Char} (hlead : ∀ c ∈ lead, isBlank c)
    (hbody : ¬['*', '/'] <:+: body) (hslash : body.head? ≠ some '/') (after : List Char) :
    action (lead ++ '/' :: '*' :: (body ++ '*' :: '/' :: after)) = commentEnd after := by
  have hopening : ¬['*', '/'] <:+: '/' :: '*' :: body := not_infix_comment hbody hslash
  have hcut : cutAt? ['*', '/'] ('/' :: '*' :: body ++ (['*', '/'] ++ after)) =
      some ('/' :: '*' :: body, after) :=
    cutAt?_append_marker (not_infix_concat hopening (.inr (by decide))) after
  rw [action_eq_comment hlead]
  exact comment_of_cut hcut

lemma action_unclosed {lead body : List Char} (hlead : ∀ c ∈ lead, isBlank c)
    (hbody : ¬['*', '/'] <:+: body) (hslash : body.head? ≠ some '/') :
    action (lead ++ '/' :: '*' :: body) = .error .unclosedComment := by
  rw [action_eq_comment hlead, comment, cutAt?_eq_none (not_infix_comment hbody hslash)]

/-- The star of the opening mark closes the comment together with a slash after it. -/
lemma action_slash {lead : List Char} (hlead : ∀ c ∈ lead, isBlank c) (after : List Char) :
    action (lead ++ '/' :: '*' :: '/' :: after) = commentEnd after := by
  have hcut : cutAt? ['*', '/'] ('/' :: '*' :: '/' :: after) = some (['/'], after) := by
    simp [cutAt?]
  rw [action_eq_comment hlead]
  exact comment_of_cut hcut

/-- Reading a text and an action that opens with white space and a slash. -/
lemma items_opening {t lead : List Char} (ht : ¬['\x7b', '\x7b'] <:+: t)
    (hlast : t.getLast? ≠ some '\x7b') {trims : Bool} (hlead : ∀ c ∈ lead, isBlank c)
    (htrims : trims → lead ≠ []) (cs : List Char) :
    items false (t ++ '\x7b' :: '\x7b' :: ((if trims then ['-'] else []) ++ (lead ++ '/' :: cs))) =
      action (lead ++ '/' :: cs) >>= fun a => (items a.trims a.rest).map fun rest =>
        textItem (keptText false trims t) ++ (a.tokens.map Item.action).toList ++ rest := by
  rw [items_of_cut (cutAt?_braces ht hlast _)]
  cases trims with
  | true =>
    obtain ⟨c, lead, rfl⟩ := List.exists_cons_of_ne_nil (htrims rfl)
    have hopens : opensWithTrim ('-' :: (c :: lead ++ '/' :: cs)) = true :=
      hlead c List.mem_cons_self
    simp only [if_true, List.singleton_append, hopens, List.drop_one, List.tail_cons]
    rfl
  | false =>
    have hopens : opensWithTrim (lead ++ '/' :: cs) = false := by
      cases lead with
      | nil => rfl
      | cons c lead =>
        have hc : c ≠ '-' := by
          rintro rfl
          exact absurd (hlead '-' List.mem_cons_self) (by decide)
        unfold opensWithTrim
        split
        · rename_i heq
          exact absurd (List.cons.inj heq).1 hc
        · rfl
    simp only [Bool.false_eq_true, if_false, List.nil_append, hopens]
    rfl

lemma exists_tokens_of_tokens {cs : List Char} {a : Action} (h : tokens cs = .ok a) :
    ∃ ts, a.tokens = some ts := by
  fun_induction tokens cs generalizing a with
  | case1 =>
    cases h
    exact ⟨[], rfl⟩
  | case2 => cases h
  | case3 => cases h
  | case4 => cases h
  | case5 =>
    rename_i ih
    obtain ⟨a', ha, rfl⟩ := map_eq_ok_iff.1 h
    obtain ⟨ts, hts⟩ := ih ha
    exact ⟨_, by rw [Action.cons, hts]; rfl⟩

/-- An action that opens with no comment has a token. -/
lemma exists_tokens_of_action {cs : List Char} {a : Action} (h : action cs = .ok a)
    (hcomment : ¬['/', '*'] <+: trimStart cs) : ∃ ts, a.tokens = some ts ∧ ts ≠ [] := by
  rw [action] at h
  split at h
  · cases h
  rename_i hclose
  split at h
  · rename_i hbody
    exact absurd ⟨_, hbody.symm⟩ hcomment
  rw [tokens] at h
  split at h
  · rename_i hsome
    cases hclose.symm.trans hsome
  split at h
  · cases h
  · cases h
  split at h
  · cases h
  · rename_i t rest _
    obtain ⟨a', ha, rfl⟩ := map_eq_ok_iff.1 h
    obtain ⟨ts, hts⟩ := exists_tokens_of_tokens ha
    refine ⟨t :: ts, ?_, List.cons_ne_nil t ts⟩
    rw [Action.cons, hts]
    rfl

end Scan

/-- Braces that open an action, whether it trims the text before it, and white space after them. -/
def opening (trims : Bool) (lead : String) : String :=
  "\x7b\x7b" ++ (if trims then "-" else "") ++ lead

lemma toList_opening (trims : Bool) (lead : String) : (opening trims lead).toList =
    '\x7b' :: '\x7b' :: ((if trims then ['-'] else []) ++ lead.toList) := by
  cases trims <;> simp [opening]

lemma scan_opening {s t : String} (ht : ¬['\x7b', '\x7b'] <:+: t.toList)
    (hlast : t.toList.getLast? ≠ some '\x7b') {trims : Bool} {lead : String}
    (hlead : ∀ c ∈ lead.toList, isBlank c) (htrims : trims → lead ≠ "") (cs : List Char)
    (hs : s.toList = t.toList ++ ((opening trims lead).toList ++ '/' :: cs)) :
    Item.scan s = Scan.action (lead.toList ++ '/' :: cs) >>= fun a =>
      (Scan.items a.trims a.rest).map fun rest =>
        textItem (keptText false trims t.toList) ++ (a.tokens.map Item.action).toList ++ rest := by
  rw [Item.scan, hs, toList_opening, List.cons_append, List.cons_append, List.append_assoc]
  exact Scan.items_opening ht hlast hlead (by simpa using htrims) cs

/-- What an action that trims the text before it starts with. -/
lemma eq_cons_of_opensWithTrim {cs : List Char} (h : Scan.opensWithTrim cs) :
    ∃ c ds, cs = '-' :: c :: ds ∧ isBlank c := by
  unfold Scan.opensWithTrim at h
  split at h
  · exact ⟨_, _, rfl, h⟩
  · cases h

/-- Whether a text after opening braces goes on with a comment, past what may stand before it. -/
def OpensComment (s : String) : Prop :=
  ∃ (trims : Bool) (lead body : String), (∀ c ∈ lead.toList, isBlank c) ∧ (trims → lead ≠ "") ∧
    "\x7b\x7b" ++ s = opening trims lead ++ "/*" ++ body

lemma opensComment_of_prefix {s : String}
    (h : ['/', '*'] <+:
      trimStart (if Scan.opensWithTrim s.toList then s.toList.drop 1 else s.toList)) :
    OpensComment s := by
  obtain ⟨body, hbody⟩ := h
  generalize hinner : (if Scan.opensWithTrim s.toList then s.toList.drop 1 else s.toList) = inner
    at hbody
  have hlead : ∀ c ∈ inner.takeWhile isBlank, isBlank c := fun c hc => List.mem_takeWhile_imp hc
  have hsplit : inner = inner.takeWhile isBlank ++ '/' :: '*' :: body :=
    calc
      inner = inner.takeWhile isBlank ++ trimStart inner := List.takeWhile_append_dropWhile.symm
      _ = inner.takeWhile isBlank ++ '/' :: '*' :: body := congrArg _ hbody.symm
  refine ⟨Scan.opensWithTrim s.toList, String.ofList (inner.takeWhile isBlank), String.ofList body,
    by simpa using hlead, fun htrims => ?_, ?_⟩
  · obtain ⟨c, ds, hs, hc⟩ := eq_cons_of_opensWithTrim htrims
    rw [if_pos htrims, hs] at hinner
    rw [← hinner]
    simp [hc]
  · have hs : s.toList = (if Scan.opensWithTrim s.toList then ['-'] else []) ++ inner := by
      rw [← hinner]
      by_cases htrims : Scan.opensWithTrim s.toList = true
      · obtain ⟨c, ds, hs, hc⟩ := eq_cons_of_opensWithTrim htrims
        rw [if_pos htrims, if_pos htrims, hs]
        rfl
      · rw [if_neg htrims, if_neg htrims]
        rfl
    rw [hsplit] at hs
    rw [← String.toList_inj]
    simpa [toList_opening] using hs

/-- An action that opens with no comment is an item. -/
lemma exists_action_of_scan {t s : String} (ht : ¬['\x7b', '\x7b'] <:+: t.toList)
    (hlast : t.toList.getLast? ≠ some '\x7b') (hs : ¬OpensComment s) {items : List Item}
    (h : Item.scan (t ++ "\x7b\x7b" ++ s) = .ok items) :
    ∃ (trims : Bool) (ts : List Token) (more : List Item), ts ≠ [] ∧
      items = textItem (keptText false trims t.toList) ++ .action ts :: more := by
  have hsource : (t ++ "\x7b\x7b" ++ s).toList = t.toList ++ '\x7b' :: '\x7b' :: s.toList := by simp
  rw [Item.scan, hsource, Scan.items_of_cut (Scan.cutAt?_braces ht hlast _), bind_eq_ok_iff] at h
  obtain ⟨a, ha, h⟩ := h
  obtain ⟨more, _, rfl⟩ := map_eq_ok_iff.1 h
  obtain ⟨ts, htokens, hne⟩ := Scan.exists_tokens_of_action ha (mt opensComment_of_prefix hs)
  refine ⟨Scan.opensWithTrim s.toList, ts, more, hne, ?_⟩
  rw [htokens, Scan.textItems_eq]
  simp

/-- A comment leaves no item, and a comment that is not closed is refused, unless its body starts
with a slash: `/*/` is read as `/**/`. An action that is no comment is an item. -/
theorem scan_comment {t : String} (ht : ¬['\x7b', '\x7b'] <:+: t.toList)
    (hlast : t.toList.getLast? ≠ some '\x7b') :
    (∀ body u : String, ¬['*', '/'] <:+: body.toList → body.toList.head? ≠ some '/' →
      Item.scan (t ++ "\x7b\x7b/*" ++ body ++ "*/\x7d\x7d" ++ u) =
        (Item.scan u).map (textItem t.toList ++ ·)) ∧
    (∀ (trims : Bool) (lead : String), (∀ c ∈ lead.toList, isBlank c) → (trims → lead ≠ "") →
      (∀ body : String, ¬['*', '/'] <:+: body.toList → body.toList.head? ≠ some '/' →
        Item.scan (t ++ opening trims lead ++ "/*" ++ body) = .error .unclosedComment) ∧
      ∀ u : String, Item.scan (t ++ opening trims lead ++ "/*/" ++ u) =
        Item.scan (t ++ opening trims lead ++ "/**/" ++ u)) ∧
    ∀ (s : String) (items : List Item), ¬OpensComment s →
      Item.scan (t ++ "\x7b\x7b" ++ s) = .ok items →
      ∃ (trims : Bool) (ts : List Token) (more : List Item), ts ≠ [] ∧
        items = textItem (keptText false trims t.toList) ++ .action ts :: more := by
  refine ⟨fun body u hbody hslash => ?_, fun trims lead hlead htrims =>
    ⟨fun body hbody hslash => ?_, fun u => ?_⟩, fun s items hs => exists_action_of_scan ht hlast hs⟩
  · have hread : Scan.action ("".toList ++ '/' :: '*' :: (body.toList ++ '*' :: '/' ::
        '\x7d' :: '\x7d' :: u.toList)) = .ok ⟨none, false, u.toList⟩ :=
      Scan.action_comment (by simp) hbody hslash _
    have hsource : (t ++ "\x7b\x7b/*" ++ body ++ "*/\x7d\x7d" ++ u).toList = t.toList ++
        ((opening false "").toList ++ '/' :: '*' :: (body.toList ++ '*' :: '/' ::
          '\x7d' :: '\x7d' :: u.toList)) := by
      simp [opening]
    rw [scan_opening ht hlast (by simp) (by simp) _ hsource, hread]
    simp [keptText, Item.scan]
  · rw [scan_opening ht hlast hlead htrims ('*' :: body.toList) (by simp),
      Scan.action_unclosed hlead hbody hslash]
    rfl
  · have hempty : Scan.action (lead.toList ++ '/' :: '*' :: '*' :: '/' :: u.toList) =
        Scan.commentEnd u.toList :=
      Scan.action_comment hlead (by simp : ¬['*', '/'] <:+: []) (by simp) u.toList
    rw [scan_opening ht hlast hlead htrims ('*' :: '/' :: u.toList) (by simp),
      scan_opening ht hlast hlead htrims ('*' :: '*' :: '/' :: u.toList) (by simp), hempty,
      Scan.action_slash hlead]

/-- Stars and braces in a comment, a comment without an end, a slash as an end, and no comment. -/
theorem scan_comment_stars :
    Item.scan ("a " ++ "\x7b\x7b/*" ++ "* \x7b\x7b*" ++ "*/\x7d\x7d" ++ "b") =
        (Item.scan "b").map (textItem "a ".toList ++ ·) ∧
      Item.scan ("a " ++ opening true " " ++ "/*" ++ " \x7d\x7d") = .error .unclosedComment ∧
      Item.scan ("a " ++ opening true " " ++ "/*/" ++ " -\x7d\x7d b") =
        Item.scan ("a " ++ opening true " " ++ "/**/" ++ " -\x7d\x7d b") ∧
      ∃ (trims : Bool) (ts : List Token) (more : List Item), ts ≠ [] ∧
        [.text "a ", .action [.dot], .text "b"] =
          textItem (keptText false trims "a ".toList) ++ .action ts :: more := by
  have ht : ¬['\x7b', '\x7b'] <:+: "a ".toList := by decide
  have hlast : "a ".toList.getLast? ≠ some '\x7b' := by decide
  obtain ⟨hclosed, hopen, haction⟩ := scan_comment ht hlast
  have hblank : ∀ c ∈ " ".toList, isBlank c := List.forall_mem_singleton.2 (by decide)
  obtain ⟨hunclosed, hslash⟩ := hopen true " " hblank (by decide)
  refine ⟨hclosed _ _ (by decide) (by decide), hunclosed _ (by decide) (by decide), hslash _,
    haction ".\x7d\x7db" _ ?_ (by decide +kernel)⟩
  rintro ⟨trims, lead, body, hlead, -, heq⟩
  have hchars : '.' :: "\x7d\x7db".toList =
      (if trims then ['-'] else []) ++ (lead.toList ++ '/' :: '*' :: body.toList) := by
    simpa [toList_opening] using congrArg String.toList heq
  generalize lead.toList = blanks at hlead hchars
  cases trims with
  | true => simp at hchars
  | false =>
    cases blanks with
    | nil => simp at hchars
    | cons c blanks =>
      obtain rfl : '.' = c := (List.cons.inj hchars).1
      exact absurd (hlead '.' List.mem_cons_self) (by decide)

/-- A slash at the start of a body spoils a comment, and closes one that is not closed. -/
theorem not_forall_scan_comment :
    (¬∀ body : String, ¬['*', '/'] <:+: body.toList →
      Item.scan ("a" ++ "\x7b\x7b/*" ++ body ++ "*/\x7d\x7d" ++ "b") =
        (Item.scan "b").map (textItem "a".toList ++ ·)) ∧
    ¬∀ body : String, ¬['*', '/'] <:+: body.toList →
      ∃ e, Item.scan ("a" ++ "\x7b\x7b/*" ++ body) = .error e := by
  constructor
  · intro h
    have hscan : Item.scan ("a" ++ "\x7b\x7b/*" ++ "/" ++ "*/\x7d\x7d" ++ "b") =
        .error .tokensAfterComment := by decide +kernel
    have hread := hscan.symm.trans (h "/" (by decide))
    revert hread
    decide +kernel
  · intro h
    have hscan : Item.scan ("a" ++ "\x7b\x7b/*" ++ "/\x7d\x7d") = .ok [.text "a"] := by
      decide +kernel
    obtain ⟨e, he⟩ := h "/\x7d\x7d" (by decide)
    cases hscan.symm.trans he

end HostAddr
