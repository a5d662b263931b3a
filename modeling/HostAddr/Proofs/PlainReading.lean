import HostAddr.Address.Text
import HostAddr.Proofs.PlainGrammar

/-!
# Plain addresses read back

The octets of an IPv4 address and the groups of an IPv6 address are digits in base 256 and 65536.
Each of the three ways to write the groups, in full, around two colons and with the last two as
octets, is of the grammar for the groups it was written for, and so it is read as them.
-/

namespace HostAddr

namespace IPv4

lemma readOctet?_decimal {n : Nat} (h : n < 256) : readOctet? (decimal n) = some n := by
  have hcanonical : ¬((decimal n).head? = some '0' ∧ 1 < (decimal n).length) := by
    rintro ⟨hhead, hlength⟩
    rcases Nat.eq_zero_or_pos n with rfl | hpos
    · exact absurd hlength (by decide)
    · exact head?_decimal_ne hpos hhead
  rw [readOctet?, if_neg hcanonical, readDecimal?_decimal (by omega)]

lemma ofDigits_octets (a : BitVec 32) : ofDigits 256 (octets a) = a.toNat := by
  rw [octets, ofDigits_digits]
  exact Nat.mod_eq_of_lt a.isLt

theorem isPlain_plainChars (a : BitVec 32) : IsPlain (plainChars a) a := by
  refine ⟨(octets a).map decimal, octets a, ?_, length_digits 256 4 a.toNat, rfl, ?_⟩
  · rw [List.forall₂_map_left_iff, List.forall₂_same]
    intro n hn
    exact readOctet?_eq_some_iff.1 (readOctet?_decimal (lt_of_mem_digits (by omega) hn))
  · rw [ofDigits_octets, BitVec.ofNat_toNat, BitVec.setWidth_eq]

end IPv4

namespace IPv6

lemma length_groups (a : BitVec 128) : (groups a).length = 8 :=
  length_digits 65536 8 a.toNat

lemma lt_of_mem_groups {a : BitVec 128} {g : Nat} (h : g ∈ groups a) : g < 65536 :=
  lt_of_mem_digits (by omega) h

lemma ofGroups_groups (a : BitVec 128) : ofGroups (groups a) = a := by
  have hvalue : ofDigits 65536 (groups a) = a.toNat := by
    rw [groups, ofDigits_digits]
    exact Nat.mod_eq_of_lt a.isLt
  rw [ofGroups, hvalue, BitVec.ofNat_toNat, BitVec.setWidth_eq]

lemma isGroup_toDigits {g : Nat} (h : g < 65536) : IsGroup (Nat.toDigits 16 g) g where
  numeral := readHex?_eq_some_iff.1 (readHex?_toDigits g)
  length_le := (Nat.length_toDigits_le_iff (by omega) (by omega)).2 h

variable {gs : List Nat}

lemma forall₂_isGroup (h : ∀ g ∈ gs, g < 65536) :
    List.Forall₂ IsGroup (gs.map (Nat.toDigits 16)) gs := by
  rw [List.forall₂_map_left_iff, List.forall₂_same]
  exact fun g hg => isGroup_toDigits (h g hg)

lemma isTail_groups (h : ∀ g ∈ gs, g < 65536) : IsTail (gs.map (Nat.toDigits 16)) gs := by
  induction gs with
  | nil => exact .nil
  | cons g gs ih =>
    exact .cons (isGroup_toDigits (h g (by simp))) (ih fun x hx => h x (List.mem_cons_of_mem g hx))

lemma takeWhile_zeros (gs : List Nat) :
    gs.takeWhile (· == 0) = List.replicate (zeroRun gs) 0 := by
  refine List.eq_replicate_iff.2 ⟨rfl, fun g hg => ?_⟩
  simpa using List.mem_takeWhile_imp hg

/-- The run that is found consists of zeros and stands where it is said to. -/
lemma exists_longestZeroRun (i : Nat) (gs : List Nat) :
    ∃ before after, gs = before ++ List.replicate (longestZeroRun i gs).2 0 ++ after ∧
      (longestZeroRun i gs).1 = i + before.length := by
  induction gs generalizing i with
  | nil => exact ⟨[], [], by simp [longestZeroRun], by simp [longestZeroRun]⟩
  | cons g gs ih =>
    rw [longestZeroRun]
    split
    · refine ⟨[], (g :: gs).dropWhile (· == 0), ?_, rfl⟩
      rw [← takeWhile_zeros, List.nil_append, List.takeWhile_append_dropWhile]
    · obtain ⟨before, after, hgs, hstart⟩ := ih (i + 1)
      refine ⟨g :: before, after, ?_, ?_⟩
      · rw [List.cons_append, List.cons_append, ← hgs]
      · rw [hstart, List.length_cons]
        omega

/-- Groups are written in full or with a run of zeros left out. -/
theorem compressedChars_cases (gs : List Nat) :
    compressedChars gs = groupChars gs ∨
      ∃ before n after, gs = before ++ List.replicate n 0 ++ after ∧ 1 < n ∧
        compressedChars gs = groupChars before ++ ':' :: ':' :: groupChars after := by
  obtain ⟨before, after, hgs, hstart⟩ := exists_longestZeroRun 0 gs
  rw [compressedChars]
  generalize longestZeroRun 0 gs = run at hgs hstart ⊢
  obtain ⟨start, len⟩ := run
  rw [Nat.zero_add] at hstart
  subst hgs hstart
  by_cases hrun : 1 < len
  · exact .inr ⟨before, len, after, rfl, hrun, by simp [hrun]⟩
  · exact .inl (by simp [hrun])

theorem isPlain_compressedChars (hlength : gs.length = 8) (h : ∀ g ∈ gs, g < 65536) :
    IsPlain (compressedChars gs) (ofGroups gs) := by
  rcases compressedChars_cases gs with hchars | ⟨before, n, after, rfl, hn, hchars⟩
  · rw [hchars]
    exact .full (isTail_groups h) hlength
  · simp only [List.length_append, List.length_replicate] at hlength
    have hbefore : ∀ g ∈ before, g < 65536 := fun g hg => h g (by simp [hg])
    have hafter : ∀ g ∈ after, g < 65536 := fun g hg => h g (by simp [hg])
    rw [hchars]
    exact .short (forall₂_isGroup hbefore) (isTail_groups hafter) hlength (by omega)

lemma ofGroups_mapped {a : BitVec 128} {v4 : BitVec 32} (h : mapped? a = some v4) :
    ofGroups (List.replicate 5 0 ++ 0xffff :: digits 65536 2 v4.toNat) = a := by
  rw [mapped?] at h
  split at h
  · rename_i hhigh
    cases h
    have hvalue : ofDigits 65536 (List.replicate 5 0 ++ 0xffff :: digits 65536 2
        (BitVec.ofNat 32 a.toNat).toNat) = a.toNat := by
      simp only [digits, ofDigits, BitVec.toNat_ofNat, List.replicate, List.cons_append,
        List.nil_append, List.foldl_cons, List.foldl_nil]
      omega
    rw [ofGroups, hvalue, BitVec.ofNat_toNat, BitVec.setWidth_eq]
  · cases h

/-- An address is written in its own grammar. -/
theorem isPlain_plainChars (a : BitVec 128) : IsPlain (plainChars a) a := by
  rw [plainChars]
  split
  · rename_i v4 hmapped
    have htail : IsTail [Nat.toDigits 16 0xffff, IPv4.plainChars v4]
        (0xffff :: digits 65536 2 v4.toNat) :=
      .cons (isGroup_toDigits (by omega)) (.octets (IPv4.isPlain_plainChars v4))
    have hchars : "::ffff:".toList ++ IPv4.plainChars v4 = [':'].intercalate [] ++ ':' :: ':' ::
        [':'].intercalate [Nat.toDigits 16 0xffff, IPv4.plainChars v4] := by
      have hgroup : Nat.toDigits 16 0xffff = "ffff".toList := by decide
      simp [List.intercalate_cons_cons, hgroup]
    have hplain := IsPlain.short (n := 5) .nil htail rfl (by omega)
    rwa [List.nil_append, ofGroups_mapped hmapped, ← hchars] at hplain
  · have hplain := isPlain_compressedChars (length_groups a) fun g hg => lt_of_mem_groups hg
    rwa [ofGroups_groups] at hplain

end IPv6

end HostAddr
