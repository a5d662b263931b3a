import HostAddr.Text.Blank
import HostAddr.Text.Numeral
import HostAddr.Text.Quoted
import HostAddr.Text.Split
import Mathlib.Data.List.DropRight
import Mathlib.Data.List.TakeWhile
import Mathlib.Tactic.Common
import Mathlib.Tactic.IntervalCases

/-!
# Numerals and cuts read back

A numeral is read as the number it was written for, in base ten and in base sixteen, a text that
was put together around a mark is cut at that mark again, and the escapes of a quoted text are read
one by one.
-/

namespace HostAddr

/-- The digits of hexadecimal numerals in lower case; those of decimal numerals are among them. -/
def hexDigits : List Char :=
  "0123456789abcdef".toList

lemma digitChar_mem_hexDigits {d : Nat} (h : d < 16) : d.digitChar ∈ hexDigits := by
  revert d
  decide

lemma mem_hexDigits_of_mem_toDigits {b n : Nat} {c : Char} (hb : 1 < b) (hb' : b ≤ 16)
    (h : c ∈ Nat.toDigits b n) : c ∈ hexDigits := by
  induction n using Nat.strongRecOn with
  | ind n ih =>
    rw [Nat.toDigits_eq_if hb] at h
    split at h
    · rw [List.mem_singleton.1 h]
      exact digitChar_mem_hexDigits (by omega)
    · rcases List.mem_append.1 h with h | h
      · exact ih (n / b) (Nat.div_lt_self (by omega) hb) h
      · have hlt := Nat.mod_lt n (show 0 < b by omega)
        rw [List.mem_singleton.1 h]
        exact digitChar_mem_hexDigits (by omega)

lemma notMem_toDigits {c : Char} (h : c ∉ hexDigits) (n : Nat) : c ∉ Nat.toDigits 16 n :=
  mt (mem_hexDigits_of_mem_toDigits (by omega) (by omega)) h

lemma mem_hexDigits_of_mem_decimal {n : Nat} {c : Char} (h : c ∈ decimal n) : c ∈ hexDigits :=
  mem_hexDigits_of_mem_toDigits (by omega) (by omega) h

lemma notMem_decimal {c : Char} (h : c ∉ hexDigits) (n : Nat) : c ∉ decimal n :=
  mt mem_hexDigits_of_mem_decimal h

lemma decimal_ne_nil (n : Nat) : decimal n ≠ [] :=
  Nat.toDigits_ne_nil

lemma toList_toString (n : Nat) : (toString n).toList = decimal n :=
  Nat.toList_repr

theorem readDecimal?_decimal {limit n : Nat} (h : n ≤ limit) :
    readDecimal? limit (decimal n) = some n := by
  have hdigits : (decimal n).all Char.isDigit = true :=
    List.all_eq_true.2 fun c hc => Nat.isDigit_of_mem_toDigits (by omega) (by omega) hc
  have hvalue : Nat.ofDigitChars 10 (decimal n) 0 = n := Nat.ofDigitChars_ten_toDigits
  rw [readDecimal?, if_pos ⟨decimal_ne_nil n, hdigits⟩, hvalue]
  exact if_pos h

lemma toNat_of_isDigit {c : Char} (h : c.isDigit) : 48 ≤ c.toNat ∧ c.toNat ≤ 57 := by
  simpa [Char.isDigit, UInt32.le_iff_toNat_le] using h

/-- Only the numeral of zero starts with a zero. -/
lemma head?_decimal_ne {n : Nat} (h : 0 < n) : (decimal n).head? ≠ some '0' := by
  induction n using Nat.strongRecOn with
  | ind n ih =>
    rw [decimal, Nat.toDigits_eq_if (by omega)]
    split
    · rename_i hlt
      simp only [List.head?_cons, ne_eq, Option.some.injEq]
      interval_cases n <;> decide
    · have hhead := ih (n / 10) (by omega) (by omega)
      obtain ⟨c, cs, hcs⟩ :=
        List.exists_cons_of_ne_nil (Nat.toDigits_ne_nil (n := n / 10) (b := 10))
      rw [decimal, hcs] at hhead
      rwa [hcs]

lemma hexDigit?_digitChar {d : Nat} (h : d < 16) : hexDigit? d.digitChar = some d := by
  revert d
  decide

lemma exists_mapM_hexDigit (n : Nat) :
    ∃ ds, (Nat.toDigits 16 n).mapM hexDigit? = some ds ∧ ofDigits 16 ds = n := by
  induction n using Nat.strongRecOn with
  | ind n ih =>
    rw [Nat.toDigits_eq_if (by omega)]
    split
    · rename_i hlt
      exact ⟨[n], by simp [hexDigit?_digitChar hlt], by simp [ofDigits]⟩
    · obtain ⟨ds, hmap, hvalue⟩ := ih (n / 16) (by omega)
      have hlast := hexDigit?_digitChar (Nat.mod_lt n (show 0 < 16 by omega))
      refine ⟨ds ++ [n % 16], by simp [List.mapM_append, hmap, hlast], ?_⟩
      rw [ofDigits_concat, hvalue, Nat.div_add_mod']

theorem readHex?_toDigits (n : Nat) : readHex? (Nat.toDigits 16 n) = some n := by
  obtain ⟨ds, hmap, hvalue⟩ := exists_mapM_hexDigit n
  rw [readHex?, if_neg Nat.toDigits_ne_nil, hmap, Option.map_some, hvalue]

lemma mem_intercalate_singleton {mark c : Char} {parts : List (List Char)}
    (h : c ∈ [mark].intercalate parts) : c = mark ∨ ∃ part ∈ parts, c ∈ part := by
  induction parts with
  | nil => simp at h
  | cons part parts ih =>
    cases parts with
    | nil => exact .inr ⟨part, by simp, by simpa using h⟩
    | cons next parts =>
      rw [List.intercalate_cons_cons] at h
      rcases List.mem_append.1 h with h | h
      · rcases List.mem_append.1 h with h | h
        · exact .inr ⟨part, by simp, h⟩
        · exact .inl (List.mem_singleton.1 h)
      · rcases ih h with h | ⟨other, hother, hc⟩
        · exact .inl h
        · exact .inr ⟨other, List.mem_cons_of_mem part hother, hc⟩

/-- Texts with a mark in between have the parts of both, whatever marks are in them. -/
lemma splitOn_append_mark {c : Char} {mark : String} (hmark : mark.toList = [c]) (s t : String) :
    (s ++ mark ++ t).toList.splitOn c = s.toList.splitOn c ++ t.toList.splitOn c := by
  rw [String.toList_append, String.toList_append, hmark, List.append_assoc, List.singleton_append,
    List.splitOn_append_cons_self]

/-- The parts of a split text do not have the mark in them. -/
lemma notMem_of_mem_splitOn {c : Char} {cs part : List Char} (h : part ∈ cs.splitOn c) :
    c ∉ part := by
  induction cs generalizing part with
  | nil =>
    rw [List.splitOn_nil, List.mem_singleton] at h
    simp [h]
  | cons d cs ih =>
    rw [List.splitOn_cons_eq_if_modifyHead] at h
    split at h
    · rcases List.mem_cons.1 h with rfl | h
      · exact List.not_mem_nil
      · exact ih h
    · rename_i hd
      obtain ⟨first, parts, hparts⟩ := List.exists_cons_of_ne_nil (List.splitOn_ne_nil c cs)
      rw [hparts] at h ih
      rcases List.mem_cons.1 h with rfl | h
      · have hne : c ≠ d := by
          rintro rfl
          simp at hd
        exact List.not_mem_cons_of_ne_of_not_mem hne (ih List.mem_cons_self)
      · exact ih (List.mem_cons_of_mem first h)

/-- A text without white space is its own trimmed form. -/
lemma trim_eq_self {cs : List Char} (h : ∀ c ∈ cs, isBlank c = false) : trim cs = cs := by
  have hstart : trimStart cs = cs := by
    rw [trimStart, List.dropWhile_eq_self_iff]
    intro hpos
    rw [h _ (List.getElem_mem hpos)]
    exact Bool.false_ne_true
  rw [trim, hstart, trimEnd, List.dropWhile_eq_self_iff.2, List.reverse_reverse]
  intro hpos
  rw [h _ (List.mem_reverse.1 (List.getElem_mem hpos))]
  exact Bool.false_ne_true

/-- Nor is white space trimmed that other characters stand around. -/
lemma trimEnd_cons {c : Char} (hc : isBlank c = false) (cs : List Char) :
    trimEnd (c :: cs) = c :: trimEnd cs := by
  rw [trimEnd, List.reverse_cons, List.dropWhile_append]
  split
  · rename_i hnil
    simp [trimEnd, List.isEmpty_iff.1 hnil, hc]
  · simp [trimEnd]

lemma trimEnd_trim (cs : List Char) : trimEnd (trim cs) = trim cs :=
  List.rdropWhile_idempotent isBlank (trimStart cs)

lemma trim_cons {c : Char} (hc : isBlank c = false) (cs : List Char) :
    trim (c :: cs) = c :: trimEnd cs := by
  rw [trim, trimStart, List.dropWhile_cons_of_neg (by simp [hc]), trimEnd_cons hc]

lemma trimEnd_of_trim {c : Char} {cs rest : List Char} (hc : isBlank c = false)
    (h : trim cs = c :: rest) : trimEnd rest = rest := by
  have hend := trimEnd_trim cs
  rw [h, trimEnd_cons hc] at hend
  exact (List.cons.inj hend).2

lemma mem_of_mem_trim {c : Char} {cs : List Char} (h : c ∈ trim cs) : c ∈ cs := by
  have hend : c ∈ trimStart cs := (List.rdropWhile_prefix isBlank _).subset h
  exact (List.dropWhile_sublist isBlank).subset hend

lemma cutFirst?_append {c : Char} {before : List Char} (h : c ∉ before) (after : List Char) :
    cutFirst? c (before ++ c :: after) = some (before, after) :=
  cutFirst?_eq_some_iff.2 ⟨h, rfl⟩

theorem cutLast?_eq_some_iff {c : Char} {cs before after : List Char} :
    cutLast? c cs = some (before, after) ↔ c ∉ after ∧ cs = before ++ c :: after := by
  simp only [cutLast?, Option.map_eq_some_iff, Prod.exists, Prod.mk.injEq]
  constructor
  · rintro ⟨x, y, hcut, rfl, rfl⟩
    obtain ⟨hx, hcs⟩ := cutFirst?_eq_some_iff.1 hcut
    refine ⟨by simpa using hx, ?_⟩
    rw [← List.reverse_reverse cs, hcs]
    simp
  · rintro ⟨hafter, rfl⟩
    refine ⟨after.reverse, before.reverse, cutFirst?_eq_some_iff.2 ⟨by simpa using hafter, ?_⟩,
      by simp, by simp⟩
    simp

/-- What stands before two marks in a row is skipped up to its own marks. -/
lemma cutAt?_append {c : Char} {before : List Char} (h : c ∉ before) (rest : List Char) :
    cutAt? [c, c] (before ++ rest) =
      (cutAt? [c, c] rest).map fun (x, y) => (before ++ x, y) := by
  induction before with
  | nil => simp
  | cons d before ih =>
    obtain ⟨hd, hbefore⟩ := not_or.1 (mt List.mem_cons.2 h)
    rw [List.cons_append, cutAt?, if_neg (by simp [List.isPrefixOf, hd]), ih hbefore,
      Option.map_map]
    rfl

/-- A marker is found where it stands if no earlier one is complete before it ends. -/
theorem cutAt?_append_marker {marker before : List Char}
    (h : ¬marker <:+: before ++ marker.dropLast) (after : List Char) :
    cutAt? marker (before ++ (marker ++ after)) = some (before, after) := by
  induction before with
  | nil =>
    cases marker with
    | nil => exact absurd List.nil_infix h
    | cons c marker => simp [cutAt?, List.isPrefixOf_iff_prefix]
  | cons d before ih =>
    have hhead : ¬marker <+: d :: (before ++ (marker ++ after)) := by
      intro hhere
      have hshort : d :: before ++ marker.dropLast <+: d :: (before ++ (marker ++ after)) := by
        rw [List.cons_append, List.cons_prefix_cons]
        exact ⟨rfl, (List.prefix_append_right_inj before).2
          ((List.dropLast_prefix marker).trans (List.prefix_append marker after))⟩
      refine h (List.prefix_of_prefix_length_le hhere hshort ?_).isInfix
      rw [List.length_append, List.length_cons, List.length_dropLast]
      omega
    have htail : ¬marker <:+: before ++ marker.dropLast := fun hin =>
      h (hin.trans (List.suffix_cons d _).isInfix)
    rw [List.cons_append, cutAt?, if_neg (mt List.isPrefixOf_iff_prefix.1 hhead), ih htail]
    rfl

lemma cutAt?_eq_none {marker cs : List Char} (h : ¬marker <:+: cs) : cutAt? marker cs = none := by
  induction cs with
  | nil => rfl
  | cons c cs ih =>
    have hhead : ¬marker <+: c :: cs := fun hhere => h hhere.isInfix
    have htail : ¬marker <:+: cs := fun hin => h (hin.trans (List.suffix_cons c cs).isInfix)
    rw [cutAt?, if_neg (mt List.isPrefixOf_iff_prefix.1 hhead), ih htail]
    rfl

/-- A marker of two characters occurs in a longer text only where it did or at its end. -/
lemma not_infix_concat {a b c : Char} {cs : List Char} (h : ¬[a, b] <:+: cs)
    (hend : cs.getLast? ≠ some a ∨ c ≠ b) : ¬[a, b] <:+: cs ++ [c] := by
  rw [List.infix_concat_iff, not_or]
  refine ⟨fun hsuffix => ?_, h⟩
  rcases List.suffix_concat_iff.1 hsuffix with hnil | ⟨init, hab, hinit⟩
  · cases hnil
  · obtain ⟨rfl, rfl⟩ : init = [a] ∧ b = c := by
      have hsplit := List.append_inj' (show [a] ++ [b] = init ++ [c] from hab) rfl
      exact ⟨hsplit.1.symm, (List.cons.inj hsplit.2).1⟩
    obtain ⟨front, rfl⟩ := hinit
    simp at hend

/-- Characters of a class up to the first that is not of it. -/
lemma takeWhile_append_dropWhile_append {p : Char → Bool} {cs rest : List Char}
    (hcs : ∀ c ∈ cs, p c) (hrest : ∀ c ∈ rest.head?, p c = false) :
    (cs ++ rest).takeWhile p = cs ∧ (cs ++ rest).dropWhile p = rest := by
  rw [List.takeWhile_append_of_pos hcs, List.dropWhile_append_of_pos hcs]
  cases rest with
  | nil => simp
  | cons c rest => simp [hrest c rfl]

/-- The character that an escape stands for, and what follows the escape. -/
def readEscaped? : List Char → Option (Char × List Char)
  | '\\' :: 'u' :: '\x7b' :: cs =>
    (cutFirst? '\x7d' cs).bind fun (ds, rest) => (readHex? ds).map fun n => (Char.ofNat n, rest)
  | '\\' :: 'n' :: rest => some ('\n', rest)
  | '\\' :: 'r' :: rest => some ('\r', rest)
  | '\\' :: 't' :: rest => some ('\t', rest)
  | '\\' :: '0' :: rest => some ('\x00', rest)
  | '\\' :: c :: rest => some (c, rest)
  | c :: rest => some (c, rest)
  | [] => none

lemma readEscaped?_codeEscape (c : Char) (rest : List Char) :
    readEscaped? (codeEscape c ++ rest) = some (c, rest) := by
  have hbrace := notMem_toDigits (c := '\x7d') (by decide) c.toNat
  simp only [codeEscape, List.append_assoc, List.cons_append, List.nil_append, readEscaped?,
    cutFirst?_append hbrace, Option.bind_some, readHex?_toDigits, Option.map_some,
    Char.ofNat_toNat]

lemma readEscaped?_escapeChar (c : Char) (rest : List Char) :
    readEscaped? (escapeChar '"' c ++ rest) = some (c, rest) := by
  fun_cases escapeChar '"' c with
  | case1 h =>
    rcases h with rfl | rfl
    · rfl
    · rfl
  | case2 _ h =>
    rw [h]
    rfl
  | case3 _ _ h =>
    rw [h]
    rfl
  | case4 _ _ _ h =>
    rw [h]
    rfl
  | case5 _ _ _ _ h =>
    rw [h]
    rfl
  | case6 => exact readEscaped?_codeEscape c rest
  | case7 h =>
    rw [List.singleton_append, readEscaped?.eq_def]
    split <;> simp_all

/-- Words that are read off a text one by one are those that it was put together from. -/
lemma flatMap_injective {α β : Type*} {f : α → List β} (read? : List β → Option (α × List β))
    (hnil : read? [] = none) (hread : ∀ x rest, read? (f x ++ rest) = some (x, rest)) :
    Function.Injective (List.flatMap f) := by
  have hcons (x : α) (xs : List α) : read? ((x :: xs).flatMap f) = some (x, xs.flatMap f) := by
    rw [List.flatMap_cons, hread]
  intro xs
  induction xs with
  | nil =>
    intro ys h
    cases ys with
    | nil => rfl
    | cons y ys =>
      have hy := hcons y ys
      rw [← h, List.flatMap_nil, hnil] at hy
      cases hy
  | cons x xs ih =>
    intro ys h
    have hx := hcons x xs
    rw [h] at hx
    cases ys with
    | nil =>
      rw [List.flatMap_nil, hnil] at hx
      cases hx
    | cons y ys =>
      rw [hcons, Option.some.injEq, Prod.mk.injEq] at hx
      rw [hx.1, ih hx.2.symm]

/-- Texts that are quoted alike are equal. -/
theorem quote_injective : Function.Injective quote := by
  intro s t h
  have hchars : quoteChars s.toList = quoteChars t.toList := String.ofList_injective h
  refine String.toList_injective (flatMap_injective readEscaped? rfl readEscaped?_escapeChar ?_)
  simpa [quoteChars] using hchars

end HostAddr
