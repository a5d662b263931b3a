import HostAddr.Proofs.Outcome
import HostAddr.Proofs.TextReading
import HostAddr.Template.Scan

/-!
# Tokens read back

The written form of a token is read as that token, with all that follows it left over, as long as
what follows cannot be taken for more of it. Names are the only tokens that may be cut short: the
letters, digits and dots after a name belong to it.
-/

namespace HostAddr

lemma exists_range_of_inRanges {ranges : List (Nat × Nat)} {n : Nat} (h : inRanges ranges n) :
    ∃ r ∈ ranges, r.1 ≤ n ∧ n ≤ r.2 := by
  induction ranges with
  | nil => cases h
  | cons r ranges ih =>
    obtain ⟨first, last⟩ := r
    rw [inRanges] at h
    split at h
    · cases h
    rename_i hfirst
    rw [Bool.or_eq_true, decide_eq_true_eq] at h
    rcases h with hlast | hrest
    · exact ⟨(first, last), List.mem_cons_self, by omega, hlast⟩
    · obtain ⟨r, hr, hn⟩ := ih hrest
      exact ⟨r, List.mem_cons_of_mem _ hr, hn⟩

/-- White space is no part of a name. -/
lemma isNameChar_of_isBlank {c : Char} (h : isBlank c) : isNameChar c = false := by
  have hapart : ∀ r ∈ blankRanges, ∀ k < r.2 + 1 - r.1, inRanges letterRanges (r.1 + k) = false ∧
      inRanges numberRanges (r.1 + k) = false ∧ r.1 + k ≠ '_'.toNat := by decide +kernel
  obtain ⟨r, hr, hfirst, hlast⟩ := exists_range_of_inRanges h
  obtain ⟨hletter, hnumber, hunderscore⟩ := hapart r hr (c.toNat - r.1) (by omega)
  rw [Nat.add_sub_cancel' hfirst] at hletter hnumber hunderscore
  have hne : (c == '_') = false := by
    rw [beq_eq_false_iff_ne]
    rintro rfl
    exact hunderscore rfl
  rw [isNameChar, isLetter, isNumber, hletter, hnumber, hne]
  rfl

lemma isNameChar_of_isNameStart {c : Char} (h : isNameStart c) : isNameChar c := by
  rw [isNameStart, Bool.or_eq_true] at h
  rw [isNameChar, Bool.or_eq_true, Bool.or_eq_true]
  exact h.imp_left .inl

lemma isNameChar_of_isDigit {c : Char} (h : c.isDigit) : isNameChar c := by
  obtain ⟨hzero, hnine⟩ := toNat_of_isDigit h
  have hrange : inRanges numberRanges c.toNat = true := by
    rw [numberRanges, inRanges, if_neg (by omega), decide_eq_true hnine, Bool.true_or]
  rw [isNameChar, isNumber, hrange, Bool.or_true, Bool.true_or]

/-- A letter or an underscore, then letters, numbers and underscores. -/
def isName : List Char → Bool
  | [] => false
  | c :: cs => isNameStart c && cs.all isNameChar

lemma isName_iff {cs : List Char} :
    isName cs ↔ ∃ c ds, cs = c :: ds ∧ isNameStart c ∧ ∀ d ∈ ds, isNameChar d := by
  cases cs with
  | nil => simp [isName]
  | cons c cs => simp [isName]

lemma isNameChar_of_isName {cs : List Char} (h : isName cs) : ∀ c ∈ cs, isNameChar c := by
  obtain ⟨c, ds, rfl, hc, hds⟩ := isName_iff.1 h
  exact List.forall_mem_cons.2 ⟨isNameChar_of_isNameStart hc, hds⟩

namespace Token

/-- A token that has a written form: names are made of the characters of names, and integers fit
64 bits. -/
def WellFormed : Token → Prop
  | .ident name => isName name.toList
  | .field first more => ∀ f ∈ first :: more, isName f.toList
  | .var name fields => name.toList.head? = some '$' ∧ (∀ c ∈ name.toList.tail, isNameChar c) ∧
      ∀ f ∈ fields, isName f.toList
  | .int n => -0x8000000000000000 ≤ n ∧ n ≤ 0x7fffffffffffffff
  | _ => True

instance : DecidablePred WellFormed
  | .ident name => inferInstanceAs (Decidable (isName name.toList = true))
  | .field first more => inferInstanceAs (Decidable (∀ f ∈ first :: more, isName f.toList = true))
  | .var name fields =>
    have := List.decidableBAll (isNameChar · = true) name.toList.tail
    inferInstanceAs (Decidable (name.toList.head? = some '$' ∧
      (∀ c ∈ name.toList.tail, isNameChar c = true) ∧ ∀ f ∈ fields, isName f.toList = true))
  | .int n => inferInstanceAs (Decidable (-0x8000000000000000 ≤ n ∧ n ≤ 0x7fffffffffffffff))
  | .dot | .str _ | .pipe | .leftParen | .rightParen | .comma | .declare | .assign =>
    inferInstanceAs (Decidable True)

end Token

namespace Scan

/-- A text that starts with nothing that a name before it would take. -/
def EndsName (rest : List Char) : Prop :=
  ∀ c ∈ rest.head?, isNameChar c = false ∧ c ≠ '.'

variable {rest : List Char}

lemma EndsName.isNameChar_head? (h : EndsName rest) : ∀ c ∈ rest.head?, isNameChar c = false :=
  fun c hc => (h c hc).1

/-- Nor does it start with a character of a kind that names are made of. -/
lemma EndsName.head?_eq_false (h : EndsName rest) {p : Char → Bool}
    (hp : ∀ {c}, p c → isNameChar c) : ∀ c ∈ rest.head?, p c = false := by
  intro c hc
  rw [Bool.eq_false_iff]
  intro hpc
  have hname := hp hpc
  rw [h.isNameChar_head? c hc] at hname
  cases hname

lemma name_append {cs : List Char} (hcs : ∀ c ∈ cs, isNameChar c)
    (hrest : ∀ c ∈ rest.head?, isNameChar c = false) :
    name (cs ++ rest) = (String.ofList cs, rest) := by
  obtain ⟨htake, hdrop⟩ := takeWhile_append_dropWhile_append hcs hrest
  rw [name, htake, hdrop]

/-- A name ends where a chain of fields starts. -/
lemma isNameChar_head?_fieldChars (fs : List String) (hrest : EndsName rest) :
    ∀ c ∈ (Token.fieldChars fs ++ rest).head?, isNameChar c = false := by
  cases fs with
  | nil => exact hrest.isNameChar_head?
  | cons f fs =>
    rintro c ⟨⟩
    decide

/-- A chain of fields is read to its end. -/
theorem fields_append {fs : List String} (hfs : ∀ f ∈ fs, isName f.toList)
    (hrest : EndsName rest) : fields (Token.fieldChars fs ++ rest) = (fs, rest) := by
  induction fs with
  | nil =>
    rw [Token.fieldChars, List.flatMap_nil, List.nil_append, fields.eq_def]
    split
    · exact absurd rfl (hrest '.' rfl).2
    · rfl
  | cons f fs ih =>
    obtain ⟨hf, hfs⟩ := List.forall_mem_cons.1 hfs
    obtain ⟨c, ds, hcs, hc, hds⟩ := isName_iff.1 hf
    have hname := name_append (isNameChar_of_isName hf) (isNameChar_head?_fieldChars fs hrest)
    rw [hcs, List.cons_append] at hname
    rw [Token.fieldChars, List.flatMap_cons, ← Token.fieldChars, hcs, List.cons_append,
      List.cons_append, List.append_assoc, List.cons_append, fields, if_pos hc, hname, ih hfs,
      ← hcs, String.ofList_toList]

lemma dotted_field {first : String} {more : List String}
    (h : ∀ f ∈ first :: more, isName f.toList) (hrest : EndsName rest) :
    dotted (first.toList ++ (Token.fieldChars more ++ rest)) = (.field first more, rest) := by
  have hread := fields_append h hrest
  rw [Token.fieldChars, List.flatMap_cons, ← Token.fieldChars, List.cons_append, List.cons_append,
    List.append_assoc] at hread
  rw [dotted, hread]

lemma dotted_dot (hrest : EndsName rest) : dotted rest = (.dot, rest) := by
  have hread : fields ('.' :: rest) = ([], '.' :: rest) := by
    cases rest with
    | nil => simp [fields]
    | cons c cs =>
      have hc : isNameStart c = false := hrest.head?_eq_false isNameChar_of_isNameStart c rfl
      rw [fields, if_neg (by simp [hc])]
  rw [dotted, hread]

/-- The written form of one character is read as that character. -/
lemma quoted_sourceEscape (c : Char) (cs : List Char) :
    quoted (sourceEscape c ++ cs) = (quoted cs).map fun (s, after) => (c :: s, after) := by
  unfold sourceEscape
  split
  · rfl
  · rfl
  · rfl
  · rfl
  · rfl
  · rename_i hbackslash hquote hnewline _ _
    rw [List.singleton_append, quoted.eq_def]
    split
    all_goals simp_all

/-- A string is read up to the mark that closes it. -/
theorem quoted_flatMap_sourceEscape (s rest : List Char) :
    quoted (s.flatMap sourceEscape ++ '"' :: rest) = .ok (s, rest) := by
  induction s with
  | nil => rfl
  | cons c s ih =>
    rw [List.flatMap_cons, List.append_assoc, quoted_sourceEscape, ih]
    rfl

lemma toList_toString_natCast (n : Nat) : (toString (n : Int)).toList = decimal n := by
  show (Nat.repr n).toList = decimal n
  rw [Nat.toList_repr, decimal]

lemma toList_toString_negSucc (n : Nat) :
    (toString (Int.negSucc n)).toList = '-' :: decimal (n + 1) := by
  show ("-" ++ Nat.repr (n + 1)).toList = _
  rw [String.toList_append, Nat.toList_repr, decimal]
  rfl

lemma isDigit_of_mem_decimal {n : Nat} {c : Char} (h : c ∈ decimal n) : c.isDigit :=
  Nat.isDigit_of_mem_toDigits (by omega) (by omega) h

lemma number_append {first : Char} {ds : List Char} (hds : ∀ d ∈ ds, d.isDigit)
    (hrest : EndsName rest) {n : Int} (hn : integer? (first :: ds) = some n) :
    number first (ds ++ rest) = .ok (n, rest) := by
  obtain ⟨htake, hdrop⟩ := takeWhile_append_dropWhile_append hds
    (hrest.head?_eq_false isNameChar_of_isDigit)
  rw [number, htake, hdrop]
  simp only [hn]

/-- A number of 64 bits is read up to its last digit. -/
theorem number_toString {n : Int} (hlow : -0x8000000000000000 ≤ n) (hhigh : n ≤ 0x7fffffffffffffff)
    {c : Char} {cs : List Char} (hcs : (toString n).toList = c :: cs) (hrest : EndsName rest) :
    (c = '-' ∨ c.isDigit) ∧ number c (cs ++ rest) = .ok (n, rest) := by
  cases n with
  | ofNat n =>
    rw [Int.ofNat_eq_natCast] at hcs hhigh ⊢
    rw [toList_toString_natCast] at hcs
    have hdigits : ∀ d ∈ c :: cs, d.isDigit := fun d hd =>
      isDigit_of_mem_decimal (hcs ▸ hd)
    obtain ⟨hc, htail⟩ := List.forall_mem_cons.1 hdigits
    have hvalue : integer? (c :: cs) = some (n : Int) := by
      have hread : readDecimal? 0x7fffffffffffffff (c :: cs) = some n := by
        rw [← hcs]
        exact readDecimal?_decimal (by omega)
      rw [integer?, hread]
      · rfl
      · rintro ds ⟨rfl, -⟩
        cases hc
    exact ⟨.inr hc, number_append htail hrest hvalue⟩
  | negSucc n =>
    rw [toList_toString_negSucc] at hcs
    obtain ⟨rfl, rfl⟩ := List.cons.inj hcs
    have hvalue : integer? ('-' :: decimal (n + 1)) = some (Int.negSucc n) := by
      rw [integer?, readDecimal?_decimal (by omega)]
      rfl
    exact ⟨.inl rfl, number_append (fun d hd => isDigit_of_mem_decimal hd) hrest hvalue⟩

lemma isNameStart_of_isDigit {c : Char} (h : c.isDigit) : isNameStart c = false := by
  obtain ⟨hzero, hnine⟩ := toNat_of_isDigit h
  have hletter : isLetter c = false := by
    rw [isLetter, letterRanges, inRanges, if_pos (by omega)]
  have hne : (c == '_') = false := by
    rw [beq_eq_false_iff_ne]
    rintro rfl
    cases h
  rw [isNameStart, hletter, hne]
  rfl

lemma token_of_isNameStart {c : Char} (hc : isNameStart c) (cs : List Char) :
    token c cs = .ok (.ident (String.singleton c ++ (name cs).1), (name cs).2) := by
  have hnumber : ¬(c = '-' ∨ c.isDigit) := by
    rintro (rfl | hdigit)
    · exact absurd hc (by decide)
    · exact absurd hc (by simp [isNameStart_of_isDigit hdigit])
  unfold token
  split
  case h_11 => rw [if_neg hnumber, if_pos hc]
  all_goals exact absurd hc (by decide)

lemma token_of_number {c : Char} (hc : c = '-' ∨ c.isDigit) (cs : List Char) :
    token c cs = (number c cs).map fun (n, rest) => (.int n, rest) := by
  unfold token
  split
  case h_11 => rw [if_pos hc]
  all_goals exact absurd hc (by decide)

lemma exists_toList_eq_cons {s : String} {c : Char} (h : s.toList.head? = some c) :
    ∃ cs, s.toList = c :: cs :=
  List.head?_eq_some_iff.1 h

lemma singleton_append_of_toList {s : String} {c : Char} {cs : List Char} (h : s.toList = c :: cs) :
    String.singleton c ++ String.ofList cs = s := by
  rw [String.singleton_eq_ofList, ← String.ofList_append, List.singleton_append, ← h,
    String.ofList_toList]

/-- What a token is written as is read as that token. -/
theorem token_source {t : Token} (ht : t.WellFormed) {c : Char} {cs : List Char}
    (hcs : t.source = c :: cs) (hrest : EndsName rest) : token c (cs ++ rest) = .ok (t, rest) := by
  cases t with
  | ident x =>
    change x.toList = c :: cs at hcs
    obtain ⟨d, ds, hx, hd, hds⟩ := isName_iff.1 ht
    obtain ⟨rfl, rfl⟩ := List.cons.inj (hcs.symm.trans hx)
    have hspelled : String.singleton c ++ String.ofList cs = x := singleton_append_of_toList hcs
    rw [token_of_isNameStart hd, name_append hds hrest.isNameChar_head?]
    dsimp only
    rw [hspelled]
  | dot =>
    obtain ⟨rfl, rfl⟩ := List.cons.inj hcs
    exact congrArg Except.ok (dotted_dot hrest)
  | field first more =>
    change '.' :: (first.toList ++ Token.fieldChars more) = c :: cs at hcs
    obtain ⟨rfl, rfl⟩ := List.cons.inj hcs
    rw [List.append_assoc]
    exact congrArg Except.ok (dotted_field ht hrest)
  | var x fs =>
    change x.toList ++ Token.fieldChars fs = c :: cs at hcs
    obtain ⟨hhead, hname, hfields⟩ := ht
    obtain ⟨ds, hx⟩ := exists_toList_eq_cons hhead
    rw [hx] at hcs hname
    rw [List.tail_cons] at hname
    obtain ⟨rfl, rfl⟩ := List.cons.inj hcs
    have hspelled : "$" ++ String.ofList ds = x := singleton_append_of_toList hx
    change token '$' (ds ++ Token.fieldChars fs ++ rest) = _
    rw [List.append_assoc, token, name_append hname (isNameChar_head?_fieldChars fs hrest)]
    dsimp only
    rw [fields_append hfields hrest, hspelled]
  | str s =>
    change '"' :: (s.toList.flatMap sourceEscape ++ ['"']) = c :: cs at hcs
    obtain ⟨rfl, rfl⟩ := List.cons.inj hcs
    rw [List.append_assoc, List.singleton_append, token, quoted_flatMap_sourceEscape]
    show Except.ok (Token.str (String.ofList s.toList), rest) = _
    rw [String.ofList_toList]
  | int n =>
    obtain ⟨hc, hread⟩ := number_toString ht.1 ht.2 hcs hrest
    rw [token_of_number hc, hread]
    rfl
  | pipe | leftParen | rightParen | comma | declare | assign =>
    obtain ⟨rfl, rfl⟩ := List.cons.inj hcs
    rfl

/-- A text that starts a token: with neither white space nor a comment nor the end of an action. -/
structure StartsToken (c : Char) (cs : List Char) : Prop where
  blank : isBlank c = false
  slash : c ≠ '/'
  brace : c ≠ '\x7d'
  hyphen : c = '-' → ∃ d ds, cs = d :: ds ∧ d ≠ '\x7d'

namespace StartsToken

lemma of_isNameChar {c : Char} (h : isNameChar c) (cs : List Char) : StartsToken c cs where
  blank := by
    rw [Bool.eq_false_iff]
    intro hblank
    rw [isNameChar_of_isBlank hblank] at h
    cases h
  slash := by
    rintro rfl
    exact absurd h (by decide)
  brace := by
    rintro rfl
    exact absurd h (by decide)
  hyphen := by
    rintro rfl
    exact absurd h (by decide)

lemma append {c : Char} {cs : List Char} (h : StartsToken c cs) (rest : List Char) :
    StartsToken c (cs ++ rest) where
  blank := h.blank
  slash := h.slash
  brace := h.brace
  hyphen hc := by
    obtain ⟨d, ds, rfl, hd⟩ := h.hyphen hc
    exact ⟨d, ds ++ rest, rfl, hd⟩

lemma trimStart {c : Char} {cs : List Char} (h : StartsToken c cs) :
    HostAddr.trimStart (c :: cs) = c :: cs := by
  rw [HostAddr.trimStart, List.dropWhile_cons_of_neg (by simp [h.blank])]

lemma close? {c : Char} {cs : List Char} (h : StartsToken c cs) (spaced : Bool) :
    Scan.close? spaced (c :: cs) = none := by
  unfold Scan.close?
  split
  · rename_i heq
    obtain ⟨rfl, rfl⟩ := List.cons.inj heq
    obtain ⟨d, ds, hcs, hd⟩ := h.hyphen rfl
    exact absurd (List.cons.inj hcs).1.symm hd
  · rename_i heq
    exact absurd (List.cons.inj heq).1 h.brace
  · rfl

end StartsToken

/-- What a token is written as starts that token. -/
theorem startsToken_source {t : Token} (ht : t.WellFormed) :
    ∃ c cs, t.source = c :: cs ∧ StartsToken c cs := by
  cases t with
  | ident x =>
    obtain ⟨c, cs, hx, hc, -⟩ := isName_iff.1 ht
    exact ⟨c, cs, hx, .of_isNameChar (isNameChar_of_isNameStart hc) cs⟩
  | var x fs =>
    obtain ⟨cs, hx⟩ := exists_toList_eq_cons ht.1
    refine ⟨'$', cs ++ Token.fieldChars fs, ?_, ?_⟩
    · change x.toList ++ Token.fieldChars fs = _
      rw [hx]
      rfl
    · exact ⟨by decide, by decide, by decide, by simp⟩
  | int n =>
    cases n with
    | ofNat n =>
      obtain ⟨c, cs, hcs⟩ := List.exists_cons_of_ne_nil (decimal_ne_nil n)
      refine ⟨c, cs, (toList_toString_natCast n).trans hcs, .of_isNameChar ?_ cs⟩
      exact isNameChar_of_isDigit (isDigit_of_mem_decimal (hcs ▸ List.mem_cons_self))
    | negSucc n =>
      obtain ⟨c, cs, hcs⟩ := List.exists_cons_of_ne_nil (decimal_ne_nil (n + 1))
      refine ⟨'-', c :: cs, (toList_toString_negSucc n).trans (congrArg _ hcs), by decide,
        by decide, by decide, fun _ => ⟨c, cs, rfl, ?_⟩⟩
      rintro rfl
      exact absurd (isDigit_of_mem_decimal (hcs ▸ List.mem_cons_self)) (by decide)
  | dot | field | str | pipe | leftParen | rightParen | comma | declare | assign =>
    exact ⟨_, _, rfl, by decide, by decide, by decide, by simp⟩

end Scan

end HostAddr
