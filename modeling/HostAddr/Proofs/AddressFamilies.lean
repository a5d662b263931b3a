import HostAddr.Proofs.AddressGrammar
import HostAddr.Proofs.Outcome
import Mathlib.Data.List.Permutation

/-!
# The family of an address

No text is an address of both families, so it does not matter which is tried first, nor what white
space is around the text. What is no IP address is the path of a UNIX socket, as it stands, where it
looks like one.
-/

namespace HostAddr

/-- White space around a text is trimmed with that of the text. -/
lemma trim_append {before after : List Char} (hbefore : ∀ c ∈ before, isBlank c)
    (hafter : ∀ c ∈ after, isBlank c) (cs : List Char) :
    trim (before ++ cs ++ after) = trim cs := by
  have hend (xs : List Char) : trimEnd (xs ++ after) = trimEnd xs := by
    rw [trimEnd, List.reverse_append,
      List.dropWhile_append_of_pos fun c hc => hafter c (List.mem_reverse.1 hc), trimEnd]
  rw [trim, trimStart, List.append_assoc, List.dropWhile_append_of_pos hbefore,
    List.dropWhile_append, trim, trimStart]
  split
  · rename_i hnil
    rw [List.isEmpty_iff.1 hnil, List.dropWhile_eq_nil_iff.2 hafter]
  · exact hend _

namespace SocketAddress

/-- The forms are tried one after another, and the first that reads the text decides. -/
def parseInOrder (forms : List AddressForm) (s : String) : Except Error SocketAddress :=
  forms.foldr
    (fun form rest =>
      match parseAs form s with
      | .ok a => .ok a
      | .error _ => rest)
    (.error (.malformedAddress s .ip))

/-- A text that starts with a dot or has a slash in it. -/
def IsPathLike (s : String) : Prop :=
  s.toList.head? = some '.' ∨ '/' ∈ s.toList

instance : DecidablePred IsPathLike :=
  fun _ => inferInstanceAs (Decidable (_ ∨ _))

lemma looksLikePath_iff {s : String} : looksLikePath s = true ↔ IsPathLike s := by
  simp [looksLikePath, IsPathLike]

lemma not_parse_both (s : String) :
    ¬((∃ a, IPv4.parse s = .ok a) ∧ ∃ b, IPv6.parse s = .ok b) := by
  rintro ⟨⟨a, ha⟩, b, hb⟩
  exact not_isText_both (IPv4.parse_eq_ok_iff.1 ha) (IPv6.parse_eq_ok_iff.1 hb)

lemma parseIP_eq_ok_iff {s : String} {x : SocketAddress} :
    parseIP s = .ok x ↔
      (∃ a, IPv4.parse s = .ok a ∧ ipv4 a = x) ∨ ∃ b, IPv6.parse s = .ok b ∧ ipv6 b = x := by
  have hboth := not_parse_both s
  rw [parseIP]
  cases h4 : IPv4.parse s with
  | ok a =>
    cases h6 : IPv6.parse s with
    | ok b => exact absurd ⟨⟨a, h4⟩, b, h6⟩ hboth
    | error e => simp
  | error e => cases IPv6.parse s <;> simp

lemma parseInOrder_perm {forms : List AddressForm} (h : forms.Perm [.ipv4, .ipv6]) (s : String) :
    parseInOrder forms s = parseIP s := by
  have hboth := not_parse_both s
  rw [parseIP]
  rcases List.perm_pair.1 h with rfl | rfl
  · cases h4 : IPv4.parse s with
    | ok a => simp [parseInOrder, parseAs, h4, Except.map]
    | error e => cases h6 : IPv6.parse s <;> simp [parseInOrder, parseAs, h4, h6, Except.map]
  · cases h6 : IPv6.parse s with
    | ok b =>
      cases h4 : IPv4.parse s with
      | ok a => exact absurd ⟨⟨a, h4⟩, b, h6⟩ hboth
      | error e => simp [parseInOrder, parseAs, h6, Except.map]
    | error e => cases h4 : IPv4.parse s <;> simp [parseInOrder, parseAs, h4, h6, Except.map]

lemma parseIP_append {before after : String} (hbefore : ∀ c ∈ before.toList, isBlank c)
    (hafter : ∀ c ∈ after.toList, isBlank c) (s : String) (x : SocketAddress) :
    parseIP (before ++ s ++ after) = .ok x ↔ parseIP s = .ok x := by
  simp only [parseIP_eq_ok_iff, IPv4.parse_eq_ok_iff, IPv6.parse_eq_ok_iff, String.toList_append,
    trim_append hbefore hafter]

lemma parse_of_parseIP_error {s : String} {e : Error} (h : parseIP s = .error e) :
    parse s = if IsPathLike s then (UnixPath.parse s).map unix
      else .error (.malformedAddress s .any) := by
  simp only [parse, h, looksLikePath_iff]

/-- A text with a character in it is a path. -/
lemma exists_unixPath_of_isPathLike {s : String} (h : IsPathLike s) :
    ∃ p : UnixPath, p.text = s ∧ UnixPath.parse s = .ok p := by
  have hne : s ≠ "" := by
    rintro rfl
    rcases h with h | h
    · cases h
    · cases h
  exact ⟨⟨s, hne⟩, rfl, by rw [UnixPath.parse, dif_neg hne]⟩

/-- At most one family reads a text, so the order of the families does not matter, nor does white
space around the text. A text of neither family is a path exactly where it looks like one, and it is
refused as it stands where it does not. -/
theorem parse_families (s : String) :
    ¬((∃ a, IPv4.parse s = .ok a) ∧ ∃ b, IPv6.parse s = .ok b) ∧
    (∀ forms : List AddressForm, forms.Perm [.ipv4, .ipv6] → parseInOrder forms s = parseIP s) ∧
    (∀ before after : String, (∀ c ∈ before.toList, isBlank c) → (∀ c ∈ after.toList, isBlank c) →
      ∀ x, parseIP (before ++ s ++ after) = .ok x ↔ parseIP s = .ok x) ∧
    (∀ x, parseIP s = .ok x → parse s = .ok x) ∧
    ((∀ x, parseIP s ≠ .ok x) →
      ((∃ p : UnixPath, p.text = s ∧ parse s = .ok (unix p)) ↔ IsPathLike s) ∧
      (¬IsPathLike s → parse s = .error (.malformedAddress s .any))) := by
  refine ⟨not_parse_both s, fun forms h => parseInOrder_perm h s,
    fun before after hbefore hafter x => parseIP_append hbefore hafter s x,
    fun x hx => by rw [parse, hx], fun hnone => ?_⟩
  obtain ⟨e, he⟩ : ∃ e, parseIP s = .error e := by
    rcases exists_ok_or_error (parseIP s) with ⟨x, hx⟩ | herror
    · exact absurd hx (hnone x)
    · exact herror
  rw [parse_of_parseIP_error he]
  by_cases hpath : IsPathLike s
  · obtain ⟨p, hp, hparse⟩ := exists_unixPath_of_isPathLike hpath
    rw [if_pos hpath, hparse]
    exact ⟨iff_of_true ⟨p, hp, rfl⟩ hpath, fun h => absurd hpath h⟩
  · rw [if_neg hpath]
    exact ⟨iff_of_false (by simp) hpath, fun _ => rfl⟩

/-- An IPv4 address with a port, a path after a blank and a text that is neither. -/
theorem parse_families_mixed :
    parseInOrder [.ipv6, .ipv4] "10.0.0.1:080" = parseIP "10.0.0.1:080" ∧
    parseIP ("\t" ++ "10.0.0.1:080" ++ " ") = .ok (ipv4 ((IPAddr.bare 0x0a000001).withPort 80)) ∧
    parse "10.0.0.1:080" = .ok (ipv4 ((IPAddr.bare 0x0a000001).withPort 80)) ∧
    (∃ p : UnixPath, p.text = " 10.0.0.1:80/a" ∧ parse " 10.0.0.1:80/a" = .ok (unix p)) ∧
    parse "::1::" = .error (.malformedAddress "::1::" .any) := by
  have hip : parseIP "10.0.0.1:080" = .ok (ipv4 ((IPAddr.bare 0x0a000001).withPort 80)) := rfl
  have hpath : parseIP " 10.0.0.1:80/a" = .error (.malformedAddress " 10.0.0.1:80/a" .ip) := rfl
  have hneither : parseIP "::1::" = .error (.malformedAddress "::1::" .ip) := rfl
  obtain ⟨-, horder, hblank, hparse, -⟩ := parse_families "10.0.0.1:080"
  obtain ⟨-, -, -, -, hunix⟩ := parse_families " 10.0.0.1:80/a"
  obtain ⟨-, -, -, -, hrefused⟩ := parse_families "::1::"
  have htab : ∀ c ∈ "\t".toList, isBlank c := List.all_eq_true.1 (by decide)
  have hspace : ∀ c ∈ " ".toList, isBlank c := List.all_eq_true.1 (by decide)
  exact ⟨horder _ (by decide), (hblank "\t" " " htab hspace _).2 hip, hparse _ hip,
    (hunix (by simp [hpath])).1.2 (by decide), (hrefused (by simp [hneither])).2 (by decide)⟩

end SocketAddress

end HostAddr
