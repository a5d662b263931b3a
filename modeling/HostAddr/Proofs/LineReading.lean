import HostAddr.Proofs.TextReading
import Mathlib.Data.List.Forall2

/-!
# Lines and their fields

The fields of a line are what stands between its white space, and they are the same however much
white space there is and of whatever kind. A look-up that takes no notice of a carriage return at
the end of a line finds the same with either line end.
-/

namespace HostAddr

/-- The fields of a line: runs of characters other than white space, which stands between any two
of them and may stand around them. -/
inductive HasFields : List Char → List (List Char) → Prop
  | blank {blanks : List Char} (h : ∀ c ∈ blanks, isBlank c) : HasFields blanks []
  | field {blanks field rest : List Char} {fields : List (List Char)}
    (hblanks : ∀ c ∈ blanks, isBlank c) (hne : field ≠ [])
    (hfield : ∀ c ∈ field, isBlank c = false) (hrest : ∀ c ∈ rest.head?, isBlank c)
    (h : HasFields rest fields) : HasFields (blanks ++ field ++ rest) (field :: fields)

section

variable {cs line : List Char} {fields : List (List Char)}

/-- Fields do not reach over white space. -/
lemma words_append_cons {c : Char} (hc : isBlank c) (before after : List Char) :
    words (before ++ c :: after) = words before ++ words after := by
  rw [words, List.splitOnP_append_cons before after hc, List.filter_append]
  rfl

lemma words_of_blank (h : ∀ c ∈ cs, isBlank c) : words cs = [] := by
  induction cs with
  | nil => rfl
  | cons c cs ih =>
    obtain ⟨hc, hcs⟩ := List.forall_mem_cons.1 h
    have hcons := words_append_cons hc [] cs
    rwa [ih hcs] at hcons

lemma words_blank_append {before : List Char} (h : ∀ c ∈ before, isBlank c) (cs : List Char) :
    words (before ++ cs) = words cs := by
  induction before with
  | nil => rfl
  | cons c before ih =>
    obtain ⟨hc, hbefore⟩ := List.forall_mem_cons.1 h
    have hcons := words_append_cons hc [] (before ++ cs)
    rwa [ih hbefore] at hcons

lemma words_append_blank {c : Char} (hc : isBlank c) (cs : List Char) :
    words (cs ++ [c]) = words cs := by
  have happend := words_append_cons hc cs []
  rwa [words_of_blank (List.forall_mem_nil _), List.append_nil] at happend

lemma words_of_field (hne : cs ≠ []) (h : ∀ c ∈ cs, isBlank c = false) : words cs = [cs] := by
  rw [words, List.splitOnP_eq_singleton h]
  simp [hne]

lemma HasFields.words (h : HasFields line fields) : words line = fields := by
  induction h with
  | blank h => exact words_of_blank h
  | @field blanks field rest fields hblanks hne hfield hrest _ ih =>
    rw [List.append_assoc, words_blank_append hblanks]
    cases rest with
    | nil => rw [List.append_nil, words_of_field hne hfield, ← ih]; rfl
    | cons c rest =>
      have hc : isBlank c := hrest c rfl
      have htail := words_append_cons hc [] rest
      rw [List.nil_append] at htail
      rw [words_append_cons hc, words_of_field hne hfield, ← ih, htail]
      rfl

/-- A character before a line is white space, the start of a new field or that of the first. -/
lemma HasFields.exists_cons (c : Char) (h : HasFields line fields) :
    ∃ fields, HasFields (c :: line) fields := by
  cases hc : isBlank c with
  | true =>
    cases h with
    | blank h => exact ⟨[], .blank (List.forall_mem_cons.2 ⟨hc, h⟩)⟩
    | field hblanks hne hfield hrest h =>
      exact ⟨_, .field (List.forall_mem_cons.2 ⟨hc, hblanks⟩) hne hfield hrest h⟩
  | false =>
    have hnew (hhead : ∀ d ∈ line.head?, isBlank d) : ∃ fields, HasFields (c :: line) fields :=
      ⟨[c] :: fields, .field (List.forall_mem_nil _) (List.cons_ne_nil c [])
        (List.forall_mem_singleton.2 hc) hhead h⟩
    cases h with
    | blank h => exact hnew fun d hd => h d (List.mem_of_mem_head? hd)
    | @field blanks field rest fields hblanks hne hfield hrest h =>
      cases blanks with
      | nil => exact ⟨(c :: field) :: fields, .field (List.forall_mem_nil _)
          (List.cons_ne_nil c field) (List.forall_mem_cons.2 ⟨hc, hfield⟩) hrest h⟩
      | cons b blanks =>
        refine hnew fun d hd => hblanks d ?_
        obtain rfl : b = d := by simpa using hd
        exact List.mem_cons_self

lemma exists_hasFields (line : List Char) : ∃ fields, HasFields line fields := by
  induction line with
  | nil => exact ⟨[], .blank (List.forall_mem_nil _)⟩
  | cons c line ih =>
    obtain ⟨fields, h⟩ := ih
    exact h.exists_cons c

/-- Every line has one list of fields, its words. -/
theorem words_eq_iff : words line = fields ↔ HasFields line fields := by
  refine ⟨?_, HasFields.words⟩
  rintro rfl
  obtain ⟨fields, h⟩ := exists_hasFields line
  rwa [h.words]

end

/-- Two lines with the same fields, whatever white space is between and around them. -/
def SameFields (line line' : List Char) : Prop :=
  ∃ fields, HasFields line fields ∧ HasFields line' fields

lemma SameFields.words_eq {line line' : List Char} (h : SameFields line line') :
    words line = words line' := by
  obtain ⟨fields, hline, hline'⟩ := h
  rw [hline.words, hline'.words]

/-- Two texts that differ in their line ends alone: where a line of one ends with a line feed, that
of the other may have a carriage return before it. -/
inductive SameUpToLineEnds : List Char → List Char → Prop
  | nil : SameUpToLineEnds [] []
  | char {s t : List Char} (c : Char) (h : SameUpToLineEnds s t) :
    SameUpToLineEnds (c :: s) (c :: t)
  | toReturn {s t : List Char} (h : SameUpToLineEnds s t) :
    SameUpToLineEnds ('\n' :: s) ('\r' :: '\n' :: t)
  | ofReturn {s t : List Char} (h : SameUpToLineEnds s t) :
    SameUpToLineEnds ('\r' :: '\n' :: s) ('\n' :: t)

/-- One of two lines may have a carriage return at its end that the other lacks. -/
def SameUpToReturn (line line' : List Char) : Prop :=
  line = line' ∨ line ++ ['\r'] = line' ∨ line = line' ++ ['\r']

lemma SameUpToReturn.cons {line line' : List Char} (h : SameUpToReturn line line') (c : Char) :
    SameUpToReturn (c :: line) (c :: line') := by
  rcases h with rfl | rfl | rfl
  · exact .inl rfl
  · exact .inr (.inl rfl)
  · exact .inr (.inr rfl)

lemma splitOn_newline_cons (s : List Char) : ('\n' :: s).splitOn '\n' = [] :: s.splitOn '\n' :=
  List.splitOn_append_cons_self [] s

lemma splitOn_return_newline_cons (s : List Char) :
    ('\r' :: '\n' :: s).splitOn '\n' = ['\r'] :: s.splitOn '\n' :=
  List.splitOn_append_cons_self ['\r'] s

lemma SameUpToLineEnds.forall₂ {s t : List Char} (h : SameUpToLineEnds s t) :
    List.Forall₂ SameUpToReturn (s.splitOn '\n') (t.splitOn '\n') := by
  induction h with
  | nil => exact .cons (.inl rfl) .nil
  | @char s t c _ ih =>
    rw [List.splitOn_cons_eq_if_modifyHead, List.splitOn_cons_eq_if_modifyHead]
    split
    · exact .cons (.inl rfl) ih
    · obtain ⟨first, parts, hs⟩ := List.exists_cons_of_ne_nil (List.splitOn_ne_nil '\n' s)
      obtain ⟨first', parts', ht⟩ := List.exists_cons_of_ne_nil (List.splitOn_ne_nil '\n' t)
      rw [hs, ht] at ih ⊢
      obtain ⟨hfirst, hparts⟩ := List.forall₂_cons.1 ih
      exact .cons (hfirst.cons c) hparts
  | toReturn _ ih =>
    rw [splitOn_newline_cons, splitOn_return_newline_cons]
    exact .cons (.inr (.inl rfl)) ih
  | ofReturn _ ih =>
    rw [splitOn_newline_cons, splitOn_return_newline_cons]
    exact .cons (.inr (.inr rfl)) ih

/-- A look-up in single lines that finds nothing in an empty line and takes no notice of a carriage
return at the end of a line. -/
structure IgnoresLineEnds {β : Type} (find? : List Char → Option β) : Prop where
  nil : find? [] = none
  concat_return : ∀ line, find? (line ++ ['\r']) = find? line

lemma findSome?_congr {α β : Type} {f : α → Option β} {xs ys : List α}
    (h : List.Forall₂ (fun x y => f x = f y) xs ys) : xs.findSome? f = ys.findSome? f := by
  induction h with
  | nil => rfl
  | cons hxy _ ih => rw [List.findSome?_cons, List.findSome?_cons, hxy, ih]

namespace IgnoresLineEnds

variable {β : Type} {find? : List Char → Option β}

lemma dropReturn (h : IgnoresLineEnds find?) (line : List Char) :
    find? (dropReturn line) = find? line := by
  rw [HostAddr.dropReturn]
  split
  · rename_i hreturn
    rw [← h.concat_return, List.dropLast_append_getLast? '\r' hreturn]
  · rfl

lemma eq_of_sameUpToReturn (h : IgnoresLineEnds find?) {line line' : List Char}
    (hsame : SameUpToReturn line line') : find? line = find? line' := by
  rcases hsame with rfl | rfl | rfl
  · rfl
  · exact (h.concat_return line).symm
  · exact h.concat_return line'

/-- What is found in the lines of a text is found in its parts between line feeds. -/
theorem findSome?_lines (h : IgnoresLineEnds find?) (k : Nat) (cs : List Char) :
    ((lines cs).drop k).findSome? find? = ((cs.splitOn '\n').drop k).findSome? find? := by
  obtain ⟨init, last, hparts⟩ : ∃ init last, cs.splitOn '\n' = init ++ [last] :=
    ⟨_, _, (List.dropLast_concat_getLast (List.splitOn_ne_nil '\n' cs)).symm⟩
  have hfound : ((init.map HostAddr.dropReturn).drop k).findSome? find? =
      (init.drop k).findSome? find? := by
    rw [← List.map_drop, List.findSome?_map]
    exact congrArg (List.findSome? · _) (funext h.dropReturn)
  have hlast (n : Nat) : (([last].filter (· ≠ [])).drop n).findSome? find? =
      ([last].drop n).findSome? find? := by
    by_cases hnil : last = []
    · cases n <;> simp [hnil, h.nil]
    · rw [List.filter_cons_of_pos (by simpa using hnil), List.filter_nil]
  rw [lines, hparts, List.dropLast_concat, List.getLast?_concat, Option.toList_some,
    List.drop_append, List.drop_append, List.findSome?_append, List.findSome?_append, hfound,
    List.length_map, hlast]

/-- Line ends do not change what is found. -/
theorem findSome?_of_sameUpToLineEnds (h : IgnoresLineEnds find?) (k : Nat) {s t : List Char}
    (hsame : SameUpToLineEnds s t) :
    ((lines s).drop k).findSome? find? = ((lines t).drop k).findSome? find? := by
  rw [h.findSome?_lines, h.findSome?_lines]
  refine findSome?_congr (List.forall₂_drop k ?_)
  exact hsame.forall₂.imp fun _ _ => h.eq_of_sameUpToReturn

/-- Lines after other lines are looked through after them. -/
theorem findSome?_append (h : IgnoresLineEnds find?) {k : Nat} (hk : k ≤ 1) (s t : String) :
    ((lines (s ++ "\n" ++ t).toList).drop k).findSome? find? =
      (((lines s.toList).drop k).findSome? find?).or ((lines t.toList).findSome? find?) := by
  have hparts := splitOn_append_mark (show "\n".toList = ['\n'] from rfl) s t
  have hlength : k ≤ (s.toList.splitOn '\n').length :=
    hk.trans (List.length_pos_iff.2 (List.splitOn_ne_nil '\n' s.toList))
  have hall := h.findSome?_lines 0 t.toList
  rw [List.drop_zero, List.drop_zero] at hall
  rw [h.findSome?_lines, h.findSome?_lines, hall, hparts, List.drop_append_of_le_length hlength,
    List.findSome?_append]

end IgnoresLineEnds

end HostAddr
