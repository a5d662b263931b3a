import HostAddr.Proofs.PlainGrammar

/-!
# The grammar of addresses

A plain address may be followed by a slash and the length of its prefix. An IPv4 address may be
followed by a colon and a port instead, and an IPv6 address may stand in brackets, which a port can
follow. The readers accept these forms, without the white space around them, and no others.
-/

namespace HostAddr

namespace IPAddr

variable {w : Nat} {IsPlain : List Char → BitVec w → Prop} {plain? : PlainReader w}
  {cs before after : List Char} {a : IPAddr w}

/-- A plain address, alone or before the length of its prefix. -/
inductive IsNetwork (IsPlain : List Char → BitVec w → Prop) : List Char → IPAddr w → Prop
  | bare {cs : List Char} {x : BitVec w} (h : IsPlain cs x) :
    IsNetwork IsPlain cs ⟨x, w, 0, Nat.le_refl w⟩
  | prefixed {cs ds : List Char} {x : BitVec w} {n : Nat} (h : IsPlain cs x)
    (hds : IsNumeral 10 ds n) (hn : n ≤ w) : IsNetwork IsPlain (cs ++ '/' :: ds) ⟨x, n, 0, hn⟩

lemma readNetwork?_eq_some_iff (hplain : ∀ cs x, plain? cs = some x ↔ IsPlain cs x) :
    readNetwork? plain? before after = some a ↔
      ∃ x n, ∃ hn : n ≤ w, IsPlain before x ∧ IsNumeral 10 after n ∧ ⟨x, n, 0, hn⟩ = a := by
  simp only [readNetwork?, Option.bind_eq_bind, Option.bind_eq_some_iff, Option.pure_def,
    Option.some.injEq, hplain, readDecimal?_eq_some_iff]
  constructor
  · rintro ⟨x, hx, n, ⟨hn, hle⟩, ha⟩
    exact ⟨x, n, hle, hx, hn, by rw [← ha, ofParts, dif_pos hle]⟩
  · rintro ⟨x, n, hle, hx, hn, ha⟩
    exact ⟨x, hx, n, ⟨hn, hle⟩, by rw [← ha, ofParts, dif_pos hle]⟩

lemma readPort?_eq_some_iff {port : UInt16} :
    readPort? cs = some port ↔ IsNumeral 10 cs port.toNat := by
  simp only [readPort?, Option.map_eq_some_iff, readDecimal?_eq_some_iff]
  constructor
  · rintro ⟨n, ⟨hn, hle⟩, rfl⟩
    rwa [UInt16.toNat_ofNat_of_lt' (Nat.lt_succ_of_le hle)]
  · intro h
    have hlt := port.toNat_lt
    exact ⟨port.toNat, ⟨h, by omega⟩, by simp⟩

lemma readEndpoint?_eq_some_iff (hplain : ∀ cs x, plain? cs = some x ↔ IsPlain cs x) :
    readEndpoint? plain? before after = some a ↔
      ∃ x port, IsPlain before x ∧ IsNumeral 10 after port.toNat ∧
        ⟨x, w, port, Nat.le_refl w⟩ = a := by
  simp only [readEndpoint?, Option.bind_eq_bind, Option.bind_eq_some_iff, Option.pure_def,
    Option.some.injEq, hplain, readPort?_eq_some_iff]
  constructor
  · rintro ⟨x, hx, port, hport, ha⟩
    exact ⟨x, port, hx, hport, ha⟩
  · rintro ⟨x, port, hx, hport, ha⟩
    exact ⟨x, hx, port, hport, ha⟩

/-- What stands before the first slash, or the whole text where there is none, is a plain
address. -/
theorem isNetwork_iff (hplain : ∀ cs x, plain? cs = some x ↔ IsPlain cs x)
    (hslash : ∀ cs x, IsPlain cs x → '/' ∉ cs) :
    IsNetwork IsPlain cs a ↔
      (match cutFirst? '/' cs with
      | some (before, after) => readNetwork? plain? before after
      | none => (plain? cs).map IPAddr.bare) = some a := by
  constructor
  · intro h
    cases h with
    | bare h =>
      rw [cutFirst?_eq_none_iff.2 (hslash _ _ h), (hplain _ _).2 h]
      rfl
    | prefixed h hds hn =>
      rw [cutFirst?_append (hslash _ _ h)]
      exact (readNetwork?_eq_some_iff hplain).2 ⟨_, _, hn, h, hds, rfl⟩
  · intro h
    split at h
    · rename_i before after hcut
      obtain ⟨x, n, hn, hx, hds, rfl⟩ := (readNetwork?_eq_some_iff hplain).1 h
      rw [(cutFirst?_eq_some_iff.1 hcut).2]
      exact .prefixed hx hds hn
    · obtain ⟨x, hx, rfl⟩ := Option.map_eq_some_iff.1 h
      exact .bare ((hplain _ _).1 hx)

lemma IsNetwork.notMem {c : Char} (h : IsNetwork IsPlain cs a)
    (hplain : ∀ cs x, IsPlain cs x → c ∉ cs) (hc : hexDigit? c = none) (hslash : c ≠ '/') :
    c ∉ cs := by
  cases h with
  | bare h => exact hplain _ _ h
  | prefixed h hds hn =>
    rw [List.mem_append, List.mem_cons, not_or, not_or]
    exact ⟨hplain _ _ h, hslash, hds.notMem (by omega) hc⟩

end IPAddr

namespace IPv4

/-- A network, or a plain address before its port. -/
inductive IsText : List Char → IPv4 → Prop
  | network {cs : List Char} {a : IPv4} (h : IPAddr.IsNetwork IsPlain cs a) : IsText cs a
  | endpoint {cs ds : List Char} {x : BitVec 32} {port : UInt16} (h : IsPlain cs x)
    (hds : IsNumeral 10 ds port.toNat) : IsText (cs ++ ':' :: ds) ⟨x, 32, port, Nat.le_refl 32⟩

lemma IsPlain.slash_notMem (cs : List Char) (x : BitVec 32) (h : IsPlain cs x) : '/' ∉ cs :=
  h.notMem rfl (by decide)

lemma IsPlain.colon_notMem {cs : List Char} {x : BitVec 32} (h : IsPlain cs x) : ':' ∉ cs :=
  h.notMem rfl (by decide)

theorem read?_eq_some_iff {cs : List Char} {a : IPv4} : read? cs = some a ↔ IsText cs a := by
  have hplain := fun cs x => @readPlain?_eq_some_iff cs x
  have hnetwork := @IPAddr.isNetwork_iff 32 IsPlain readPlain? cs a hplain IsPlain.slash_notMem
  constructor
  · intro h
    rw [read?] at h
    split at h
    · rename_i before after hcut
      rw [hcut] at hnetwork
      exact .network (hnetwork.2 h)
    · rename_i hcut
      rw [hcut] at hnetwork
      split at h
      · rename_i x hx
        exact .network (hnetwork.2 (by rw [hx]; exact h))
      · obtain ⟨⟨before, after⟩, hport, hread⟩ := Option.bind_eq_some_iff.1 h
        obtain ⟨x, port, hx, hds, rfl⟩ := (IPAddr.readEndpoint?_eq_some_iff hplain).1 hread
        rw [(cutLast?_eq_some_iff.1 hport).2]
        exact .endpoint hx hds
  · intro h
    cases h with
    | network h =>
      have hread := hnetwork.1 h
      rw [read?]
      cases hcut : cutFirst? '/' cs with
      | some parts =>
        rw [hcut] at hread
        exact hread
      | none =>
        rw [hcut] at hread
        obtain ⟨x, hx, rfl⟩ := Option.map_eq_some_iff.1 hread
        simp only [hx]
    | @endpoint cs ds x port h hds =>
      have hslash : '/' ∉ cs ++ ':' :: ds := by
        simp [IsPlain.slash_notMem cs x h, hds.notMem (by omega) (c := '/') rfl]
      have hcolon : ':' ∉ ds := hds.notMem (by omega) rfl
      have hnone : readPlain? (cs ++ ':' :: ds) = none := by
        refine Option.eq_none_iff_forall_ne_some.2 fun y hy => ?_
        exact ((hplain _ _).1 hy).colon_notMem (by simp)
      rw [read?, cutFirst?_eq_none_iff.2 hslash]
      simp only [hnone, cutLast?_eq_some_iff.2 ⟨hcolon, rfl⟩, Option.bind_some]
      exact (IPAddr.readEndpoint?_eq_some_iff hplain).2 ⟨x, port, h, hds, rfl⟩

end IPv4

namespace IPv6

/-- A network, in brackets or not, or a plain address in brackets before its port. -/
inductive IsText : List Char → IPv6 → Prop
  | network {cs : List Char} {a : IPv6} (h : IPAddr.IsNetwork IsPlain cs a) : IsText cs a
  | bracketed {cs : List Char} {a : IPv6} (h : IPAddr.IsNetwork IsPlain cs a) :
    IsText ('[' :: cs ++ [']']) a
  | endpoint {cs ds : List Char} {x : BitVec 128} {port : UInt16} (h : IsPlain cs x)
    (hds : IsNumeral 10 ds port.toNat) :
    IsText ('[' :: cs ++ ']' :: ':' :: ds) ⟨x, 128, port, Nat.le_refl 128⟩

lemma IsPlain.slash_notMem (cs : List Char) (x : BitVec 128) (h : IsPlain cs x) : '/' ∉ cs :=
  h.notMem rfl (by decide) (by decide)

lemma IsPlain.bracket_notMem {c : Char} (hc : c = '[' ∨ c = ']') {cs : List Char} {x : BitVec 128}
    (h : IsPlain cs x) : c ∉ cs := by
  rcases hc with rfl | rfl
  · exact h.notMem rfl (by decide) (by decide)
  · exact h.notMem rfl (by decide) (by decide)

lemma read?_of_readBare {cs : List Char} (h : '[' ∉ cs) : read? cs = readBare? cs := by
  rw [read?]
  rintro ds rfl
  exact h List.mem_cons_self

theorem readBare?_eq_some_iff {cs : List Char} {a : IPv6} :
    readBare? cs = some a ↔ IPAddr.IsNetwork IsPlain cs a :=
  (IPAddr.isNetwork_iff (fun cs x => @readPlain?_eq_some_iff cs x) IsPlain.slash_notMem).symm

theorem read?_eq_some_iff {cs : List Char} {a : IPv6} : read? cs = some a ↔ IsText cs a := by
  have hplain := fun cs x => @readPlain?_eq_some_iff cs x
  constructor
  · intro h
    rw [read?.eq_def] at h
    split at h
    · rename_i cs
      split at h
      · rename_i inner hcut
        rw [(cutFirst?_eq_some_iff.1 hcut).2, ← List.cons_append]
        exact .bracketed (readBare?_eq_some_iff.1 h)
      · rename_i inner port hcut
        obtain ⟨x, port, hx, hds, rfl⟩ := (IPAddr.readEndpoint?_eq_some_iff hplain).1 h
        rw [(cutFirst?_eq_some_iff.1 hcut).2, ← List.cons_append]
        exact .endpoint hx hds
      · cases h
    · exact .network (readBare?_eq_some_iff.1 h)
  · intro h
    cases h with
    | network h =>
      have hopen : '[' ∉ cs :=
        h.notMem (fun _ _ => IsPlain.bracket_notMem (by simp)) rfl (by decide)
      rw [read?_of_readBare hopen]
      exact readBare?_eq_some_iff.2 h
    | @bracketed cs a h =>
      have hclose : ']' ∉ cs :=
        h.notMem (fun _ _ => IsPlain.bracket_notMem (by simp)) rfl (by decide)
      rw [List.cons_append, read?, cutFirst?_append hclose]
      exact readBare?_eq_some_iff.2 h
    | endpoint h hds =>
      rw [List.cons_append, read?, cutFirst?_append (h.bracket_notMem (by simp))]
      exact (IPAddr.readEndpoint?_eq_some_iff hplain).2 ⟨_, _, h, hds, rfl⟩

end IPv6

namespace IPv4

lemma parse_eq_ok_iff {s : String} {a : IPv4} : parse s = .ok a ↔ IsText (trim s.toList) a := by
  rw [← read?_eq_some_iff, parse]
  cases read? (trim s.toList) <;> simp

lemma parse_eq_error_iff {s : String} {e : Error} :
    parse s = .error e ↔ e = .malformedAddress s .ipv4 ∧ ¬∃ a, IsText (trim s.toList) a := by
  simp only [← read?_eq_some_iff, parse]
  cases read? (trim s.toList) <;> simp [eq_comm]

lemma IsText.notMem {cs : List Char} {a : IPv4} (h : IsText cs a) {c : Char}
    (hc : hexDigit? c = none) (hmarks : c ∉ ['.', ':', '/']) : c ∉ cs := by
  simp only [List.mem_cons, List.not_mem_nil, or_false, not_or] at hmarks
  obtain ⟨hdot, hcolon, hslash⟩ := hmarks
  cases h with
  | network h => exact h.notMem (fun _ _ h => h.notMem hc hdot) hc hslash
  | endpoint h hds =>
    rw [List.mem_append, List.mem_cons, not_or, not_or]
    exact ⟨h.notMem hc hdot, hcolon, hds.notMem (by omega) hc⟩

/-- An IPv4 address has a colon only before its port. -/
theorem IsText.count_colon_le {cs : List Char} {a : IPv4} (h : IsText cs a) :
    cs.count ':' ≤ 1 := by
  cases h with
  | network h =>
    have hcolon : ':' ∉ cs := h.notMem (fun _ _ h => h.colon_notMem) rfl (by decide)
    rw [List.count_eq_zero_of_not_mem hcolon]
    omega
  | @endpoint cs ds x port h hds =>
    have hport : ':' ∉ ds := hds.notMem (by omega) rfl
    rw [List.count_append, List.count_cons_self, List.count_eq_zero_of_not_mem h.colon_notMem,
      List.count_eq_zero_of_not_mem hport]

end IPv4

namespace IPv6

lemma parse_eq_ok_iff {s : String} {a : IPv6} : parse s = .ok a ↔ IsText (trim s.toList) a := by
  rw [← read?_eq_some_iff, parse]
  cases read? (trim s.toList) <;> simp

lemma parse_eq_error_iff {s : String} {e : Error} :
    parse s = .error e ↔ e = .malformedAddress s .ipv6 ∧ ¬∃ a, IsText (trim s.toList) a := by
  simp only [← read?_eq_some_iff, parse]
  cases read? (trim s.toList) <;> simp [eq_comm]

lemma IsText.notMem {cs : List Char} {a : IPv6} (h : IsText cs a) {c : Char}
    (hc : hexDigit? c = none) (hmarks : c ∉ ['.', ':', '/', '[', ']']) : c ∉ cs := by
  simp only [List.mem_cons, List.not_mem_nil, or_false, not_or] at hmarks
  obtain ⟨hdot, hcolon, hslash, hopen, hclose⟩ := hmarks
  have hplain : ∀ cs x, IsPlain cs x → c ∉ cs := fun _ _ h => h.notMem hc hdot hcolon
  cases h with
  | network h => exact h.notMem hplain hc hslash
  | bracketed h => simp [h.notMem hplain hc hslash, hopen, hclose]
  | endpoint h hds => simp [hplain _ _ h, hopen, hclose, hcolon, hds.notMem (by omega) hc]

lemma IsNetwork.two_le_count {cs : List Char} {a : IPv6} (h : IPAddr.IsNetwork IsPlain cs a) :
    2 ≤ cs.count ':' := by
  cases h with
  | bare h => exact h.two_le_count
  | prefixed h hds hn =>
    have hcount := h.two_le_count
    rw [List.count_append]
    omega

theorem IsText.two_le_count {cs : List Char} {a : IPv6} (h : IsText cs a) : 2 ≤ cs.count ':' := by
  cases h with
  | network h => exact IsNetwork.two_le_count h
  | bracketed h =>
    have hcount := IsNetwork.two_le_count h
    rw [List.count_append, List.count_cons_of_ne (by decide)]
    omega
  | endpoint h hds =>
    have hcount := h.two_le_count
    rw [List.count_append, List.count_cons_of_ne (by decide)]
    omega

end IPv6

/-- An address of the one family has a colon at most, one of the other has two at least. -/
theorem not_isText_both {cs : List Char} {a : IPv4} {b : IPv6} (ha : IPv4.IsText cs a) :
    ¬IPv6.IsText cs b := by
  intro hb
  have hle := ha.count_colon_le
  have hge := hb.two_le_count
  omega

/-- The readers accept the grammar of their family and refuse all else with the text as it was. -/
theorem parse_iff_isText (s : String) :
    (∀ a, IPv4.parse s = .ok a ↔ IPv4.IsText (trim s.toList) a) ∧
    (∀ e, IPv4.parse s = .error e ↔
      e = .malformedAddress s .ipv4 ∧ ¬∃ a, IPv4.IsText (trim s.toList) a) ∧
    (∀ a, IPv6.parse s = .ok a ↔ IPv6.IsText (trim s.toList) a) ∧
    (∀ e, IPv6.parse s = .error e ↔
      e = .malformedAddress s .ipv6 ∧ ¬∃ a, IPv6.IsText (trim s.toList) a) :=
  ⟨fun _ => IPv4.parse_eq_ok_iff, fun _ => IPv4.parse_eq_error_iff,
    fun _ => IPv6.parse_eq_ok_iff, fun _ => IPv6.parse_eq_error_iff⟩

example : IPv6.parse "[2001:DB8::1]:0443\n" =
    .ok ((IPAddr.bare 0x20010db8000000000000000000000001).withPort 443) := rfl

example : IPv4.parse " 10.0.0.1:+80" = .error (.malformedAddress " 10.0.0.1:+80" .ipv4) := rfl

end HostAddr
