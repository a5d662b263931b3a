import HostAddr.Address.Parse
import HostAddr.Proofs.TextReading
import Mathlib.Data.List.Forall2

/-!
# The grammar of plain addresses

A numeral is a run of digits, an IPv4 address is four octets between dots, and an IPv6 address is
eight groups between colons, the last two of which may be written as octets, or fewer groups around
two colons in a row. The readers accept these forms and no others.
-/

namespace HostAddr

/-- A digit of base `b`, in either case, and its value. -/
def IsDigit (b : Nat) (c : Char) (d : Nat) : Prop :=
  d < b ∧ (c = d.digitChar ∨ c = d.digitChar.toUpper)

/-- A run of digits of base `b`, one at least, and the number it stands for. -/
def IsNumeral (b : Nat) (cs : List Char) (n : Nat) : Prop :=
  cs ≠ [] ∧ ∃ ds, List.Forall₂ (IsDigit b) cs ds ∧ ofDigits b ds = n

lemma isDigit_ten_iff {c : Char} {d : Nat} :
    IsDigit 10 c d ↔ c.isDigit ∧ c.toNat - '0'.toNat = d := by
  constructor
  · rintro ⟨hd, rfl | rfl⟩
    · revert d
      decide
    · revert d
      decide
  · rintro ⟨hc, rfl⟩
    obtain ⟨hzero, hnine⟩ := toNat_of_isDigit hc
    have hall : ∀ n ≤ 57, 48 ≤ n → IsDigit 10 (Char.ofNat n) (n - '0'.toNat) := by
      unfold IsDigit
      decide
    simpa only [Char.ofNat_toNat] using hall c.toNat hnine hzero

lemma hexDigit?_eq_some_iff {c : Char} {d : Nat} : hexDigit? c = some d ↔ IsDigit 16 c d := by
  constructor
  · intro h
    rw [hexDigit?] at h
    split at h
    · rename_i hdigit
      cases h
      obtain ⟨hd, hc⟩ := isDigit_ten_iff.2 ⟨hdigit, rfl⟩
      exact ⟨by omega, hc⟩
    · split at h
      · rename_i hletter
        cases h
        have hlower : ∀ n ≤ 102, 97 ≤ n → IsDigit 16 (Char.ofNat n) (n - 'a'.toNat + 10) := by
          unfold IsDigit
          decide
        have hrange : 97 ≤ c.toNat ∧ c.toNat ≤ 102 := by
          simpa [Char.le_def, UInt32.le_iff_toNat_le] using hletter
        simpa only [Char.ofNat_toNat] using hlower c.toNat hrange.2 hrange.1
      · split at h
        · rename_i hletter
          cases h
          have hupper : ∀ n ≤ 70, 65 ≤ n → IsDigit 16 (Char.ofNat n) (n - 'A'.toNat + 10) := by
            unfold IsDigit
            decide
          have hrange : 65 ≤ c.toNat ∧ c.toNat ≤ 70 := by
            simpa [Char.le_def, UInt32.le_iff_toNat_le] using hletter
          simpa only [Char.ofNat_toNat] using hupper c.toNat hrange.2 hrange.1
        · cases h
  · rintro ⟨hd, rfl | rfl⟩
    · revert d
      decide
    · revert d
      decide

lemma IsDigit.hexDigit? {b : Nat} (hb : b ≤ 16) {c : Char} {d : Nat} (h : IsDigit b c d) :
    hexDigit? c = some d :=
  hexDigit?_eq_some_iff.2 ⟨h.1.trans_le hb, h.2⟩

lemma forall_mem_of_forall₂ {α β : Type} {R : α → β → Prop} {p : α → Prop} {xs : List α}
    {ys : List β} (h : List.Forall₂ R xs ys) (hp : ∀ x y, R x y → p x) : ∀ x ∈ xs, p x :=
  ((List.forall₂_and_left xs ys).1 (h.imp fun x y hxy => ⟨hp x y hxy, hxy⟩)).1

/-- A list is read where each of its elements is. -/
lemma mapM_eq_some_iff {α β : Type} {f : α → Option β} {xs : List α} {ys : List β} :
    xs.mapM f = some ys ↔ List.Forall₂ (fun x y => f x = some y) xs ys := by
  induction xs generalizing ys with
  | nil => simp [eq_comm]
  | cons x xs ih =>
    rw [List.mapM_cons, List.forall₂_cons_left_iff]
    simp only [Option.bind_eq_bind, Option.bind_eq_some_iff, ih, Option.pure_def,
      Option.some.injEq, @eq_comm _ ys]
    exact exists_congr fun y => by simp

lemma readHex?_eq_some_iff {cs : List Char} {n : Nat} :
    readHex? cs = some n ↔ IsNumeral 16 cs n := by
  rw [readHex?, IsNumeral]
  split
  · simp [*]
  · simp [*, mapM_eq_some_iff, hexDigit?_eq_some_iff]

lemma forall₂_isDigit_ten_iff {cs : List Char} {ds : List Nat} :
    List.Forall₂ (IsDigit 10) cs ds ↔
      (∀ c ∈ cs, c.isDigit) ∧ cs.map (fun c => c.toNat - '0'.toNat) = ds := by
  have hdigit : IsDigit 10 = fun c d => c.isDigit ∧ c.toNat - '0'.toNat = d :=
    funext₂ fun c d => propext isDigit_ten_iff
  rw [hdigit, List.forall₂_and_left, ← List.forall₂_eq_eq_eq, List.forall₂_map_left_iff]

theorem readDecimal?_eq_some_iff {limit n : Nat} {cs : List Char} :
    readDecimal? limit cs = some n ↔ IsNumeral 10 cs n ∧ n ≤ limit := by
  have hvalue : Nat.ofDigitChars 10 cs 0 = ofDigits 10 (cs.map fun c => c.toNat - '0'.toNat) := by
    rw [Nat.ofDigitChars, ofDigits, List.foldl_map]
    simp only [Nat.mul_comm]
  have hnumeral : IsNumeral 10 cs n ↔
      (cs ≠ [] ∧ cs.all Char.isDigit) ∧ Nat.ofDigitChars 10 cs 0 = n := by
    simp [IsNumeral, forall₂_isDigit_ten_iff, hvalue, and_assoc]
  rw [hnumeral, readDecimal?]
  split
  · rename_i hcs
    simp only [Option.ite_none_right_eq_some, Option.some.injEq]
    exact ⟨fun h => ⟨⟨hcs, h.2⟩, h.2 ▸ h.1⟩, fun h => ⟨h.1.2 ▸ h.2, h.1.2⟩⟩
  · rename_i hcs
    exact iff_of_false (by simp) fun h => hcs h.1.1

lemma isNumeral_decimal (n : Nat) : IsNumeral 10 (decimal n) n :=
  (readDecimal?_eq_some_iff.1 (readDecimal?_decimal (Nat.le_refl n))).1

/-- A character that is no digit does not occur in a numeral. -/
lemma IsNumeral.notMem {b n : Nat} {cs : List Char} (h : IsNumeral b cs n) (hb : b ≤ 16) {c : Char}
    (hc : hexDigit? c = none) : c ∉ cs := by
  obtain ⟨-, ds, hds, -⟩ := h
  have hsome : ∀ x ∈ cs, hexDigit? x ≠ none :=
    forall_mem_of_forall₂ hds fun x d hx => by simp [hx.hexDigit? hb]
  exact fun hmem => hsome c hmem hc

lemma map_eq_map_some_iff {α β : Type} {f : α → Option β} {xs : List α} {ys : List β} :
    xs.map f = ys.map some ↔ List.Forall₂ (fun x y => f x = some y) xs ys := by
  rw [← List.forall₂_eq_eq_eq, List.forall₂_map_left_iff, List.forall₂_map_right_iff]

lemma count_intercalate {mark : Char} {parts : List (List Char)} (h : ∀ part ∈ parts, mark ∉ part) :
    ([mark].intercalate parts).count mark = parts.length - 1 := by
  induction parts with
  | nil => rfl
  | cons part parts ih =>
    have hpart := List.count_eq_zero_of_not_mem (h part List.mem_cons_self)
    cases parts with
    | nil => simpa using hpart
    | cons next parts =>
      rw [List.intercalate_cons_cons, List.count_append, List.count_append, hpart,
        ih fun part hmem => h part (List.mem_cons_of_mem _ hmem)]
      simp [Nat.add_comm]

lemma notMem_intercalate {mark c : Char} {parts : List (List Char)} (hmark : c ≠ mark)
    (h : ∀ part ∈ parts, c ∉ part) : c ∉ [mark].intercalate parts := by
  intro hmem
  rcases mem_intercalate_singleton hmem with heq | ⟨part, hpart, hc⟩
  · exact hmark heq
  · exact h part hpart hc

namespace IPv4

/-- A decimal numeral below 256 without leading zeros. -/
structure IsOctet (cs : List Char) (n : Nat) : Prop where
  numeral : IsNumeral 10 cs n
  lt : n < 256
  canonical : cs.head? = some '0' → cs.length = 1

/-- Four octets between dots. -/
def IsPlain (cs : List Char) (a : BitVec 32) : Prop :=
  ∃ parts octets, List.Forall₂ IsOctet parts octets ∧ octets.length = 4 ∧
    ['.'].intercalate parts = cs ∧ BitVec.ofNat 32 (ofDigits 256 octets) = a

lemma readOctet?_eq_some_iff {cs : List Char} {n : Nat} :
    readOctet? cs = some n ↔ IsOctet cs n := by
  rw [readOctet?]
  split
  · rename_i hcs
    exact iff_of_false (by simp) fun h => by have := h.canonical hcs.1; omega
  · rename_i hcs
    rw [readDecimal?_eq_some_iff]
    constructor
    · rintro ⟨hn, hle⟩
      refine ⟨hn, by omega, fun hhead => ?_⟩
      have hpos := List.length_pos_iff.2 hn.1
      have hshort : ¬1 < cs.length := fun hlong => hcs ⟨hhead, hlong⟩
      omega
    · intro h
      exact ⟨h.numeral, Nat.le_of_lt_succ h.lt⟩

lemma IsOctet.dot_notMem {cs : List Char} {n : Nat} (h : IsOctet cs n) : '.' ∉ cs :=
  h.numeral.notMem (by omega) rfl

theorem readPlain?_eq_some_iff {cs : List Char} {a : BitVec 32} :
    readPlain? cs = some a ↔ IsPlain cs a := by
  have hoctets {parts : List (List Char)} {octets : List Nat} :
      parts.map readOctet? = octets.map some ↔ List.Forall₂ IsOctet parts octets := by
    simp only [map_eq_map_some_iff, readOctet?_eq_some_iff]
  rw [readPlain?]
  constructor
  · intro h
    split at h
    · rename_i w x y z hparts
      exact ⟨_, [w, x, y, z], hoctets.1 hparts, rfl, List.intercalate_splitOn '.',
        Option.some.inj h⟩
    · cases h
  · rintro ⟨parts, octets, hparts, hlength, rfl, rfl⟩
    have hdot : ∀ part ∈ parts, '.' ∉ part :=
      forall_mem_of_forall₂ hparts fun _ _ h => h.dot_notMem
    have hne : parts ≠ [] := by
      rintro rfl
      rw [List.forall₂_nil_left_iff.1 hparts] at hlength
      cases hlength
    rw [List.splitOn_intercalate '.' hdot hne, hoctets.2 hparts]
    match octets, hlength with
    | [w, x, y, z], _ => rfl

namespace IsPlain

variable {cs : List Char} {a : BitVec 32}

lemma notMem (h : IsPlain cs a) {c : Char} (hc : hexDigit? c = none) (hdot : c ≠ '.') : c ∉ cs := by
  obtain ⟨parts, octets, hparts, -, rfl, -⟩ := h
  exact notMem_intercalate hdot
    (forall_mem_of_forall₂ hparts fun _ _ h => h.numeral.notMem (by omega) hc)

lemma dot_mem (h : IsPlain cs a) : '.' ∈ cs := by
  obtain ⟨parts, octets, hparts, hlength, rfl, -⟩ := h
  have hdot : ∀ part ∈ parts, '.' ∉ part :=
    forall_mem_of_forall₂ hparts fun _ _ h => h.dot_notMem
  rw [← List.count_pos_iff, count_intercalate hdot, hparts.length_eq]
  omega

end IsPlain

end IPv4

namespace IPv6

/-- Up to four hexadecimal digits. -/
structure IsGroup (cs : List Char) (g : Nat) : Prop where
  numeral : IsNumeral 16 cs g
  length_le : cs.length ≤ 4

/-- The parts that end an address: groups, of which the last two may be four octets. -/
inductive IsTail : List (List Char) → List Nat → Prop
  | nil : IsTail [] []
  | octets {part : List Char} {a : BitVec 32} (h : IPv4.IsPlain part a) :
    IsTail [part] (digits 65536 2 a.toNat)
  | cons {part : List Char} {g : Nat} {parts : List (List Char)} {gs : List Nat}
    (h : IsGroup part g) (ht : IsTail parts gs) : IsTail (part :: parts) (g :: gs)

/-- Eight groups, or fewer around two colons that stand for the missing ones, one at least. -/
inductive IsPlain : List Char → BitVec 128 → Prop
  | full {parts : List (List Char)} {gs : List Nat} (h : IsTail parts gs)
    (hlength : gs.length = 8) :
    IsPlain ([':'].intercalate parts) (ofGroups gs)
  | short {before after : List (List Char)} {hs ts : List Nat} {n : Nat}
    (hbefore : List.Forall₂ IsGroup before hs) (hafter : IsTail after ts)
    (hlength : hs.length + n + ts.length = 8) (hn : 0 < n) :
    IsPlain ([':'].intercalate before ++ ':' :: ':' :: [':'].intercalate after)
      (ofGroups (hs ++ List.replicate n 0 ++ ts))

lemma readGroup?_eq_some_iff {cs : List Char} {g : Nat} :
    readGroup? cs = some g ↔ IsGroup cs g := by
  rw [readGroup?]
  split
  · rename_i hle
    rw [readHex?_eq_some_iff]
    exact ⟨fun h => ⟨h, hle⟩, IsGroup.numeral⟩
  · rename_i hlt
    exact iff_of_false (by simp) fun h => hlt h.length_le

lemma readOctetGroups?_eq_some_iff {cs : List Char} {gs : List Nat} :
    readOctetGroups? cs = some gs ↔ ∃ a, IPv4.IsPlain cs a ∧ digits 65536 2 a.toNat = gs := by
  rw [readOctetGroups?, Option.map_eq_some_iff]
  simp only [IPv4.readPlain?_eq_some_iff]

lemma mapM_readGroup_eq_some_iff {parts : List (List Char)} {gs : List Nat} :
    parts.mapM readGroup? = some gs ↔ List.Forall₂ IsGroup parts gs := by
  simp only [mapM_eq_some_iff, readGroup?_eq_some_iff]

theorem readTail?_eq_some_iff {parts : List (List Char)} {gs : List Nat} :
    readTail? parts = some gs ↔ IsTail parts gs := by
  constructor
  · intro h
    induction parts generalizing gs with
    | nil =>
      cases h
      exact .nil
    | cons part parts ih =>
      cases parts with
      | nil =>
        rw [readTail?] at h
        split at h
        · obtain ⟨a, ha, rfl⟩ := readOctetGroups?_eq_some_iff.1 h
          exact .octets ha
        · obtain ⟨g, hg, rfl⟩ := Option.map_eq_some_iff.1 h
          exact .cons (readGroup?_eq_some_iff.1 hg) .nil
      | cons next parts =>
        rw [readTail?] at h
        · simp only [Option.bind_eq_bind, Option.bind_eq_some_iff, Option.pure_def,
            Option.some.injEq] at h
          obtain ⟨g, hg, gs, hgs, rfl⟩ := h
          exact .cons (readGroup?_eq_some_iff.1 hg) (ih hgs)
        · simp
  · intro h
    induction h with
    | nil => rfl
    | octets h =>
      rw [readTail?, if_pos h.dot_mem]
      exact readOctetGroups?_eq_some_iff.2 ⟨_, h, rfl⟩
    | @cons part g parts gs h ht ih =>
      have hdot : '.' ∉ part := h.numeral.notMem (by omega) rfl
      cases parts with
      | nil =>
        cases ht
        rw [readTail?, if_neg hdot, readGroup?_eq_some_iff.2 h, Option.map_some]
      | cons next parts =>
        rw [readTail?, readGroup?_eq_some_iff.2 h, ih]
        · rfl
        · simp

/-- Parts that stand between colons. -/
def AreParts (parts : List (List Char)) : Prop :=
  ∀ part ∈ parts, part ≠ [] ∧ ':' ∉ part

lemma IsGroup.isPart {cs : List Char} {g : Nat} (h : IsGroup cs g) : cs ≠ [] ∧ ':' ∉ cs :=
  ⟨h.numeral.1, h.numeral.notMem (by omega) rfl⟩

lemma areParts_of_forall₂ {parts : List (List Char)} {gs : List Nat}
    (h : List.Forall₂ IsGroup parts gs) : AreParts parts :=
  forall_mem_of_forall₂ h fun _ _ h => h.isPart

namespace IsTail

variable {parts : List (List Char)} {gs : List Nat}

lemma areParts (h : IsTail parts gs) : AreParts parts := by
  induction h with
  | nil => exact List.forall_mem_nil _
  | octets h =>
    exact List.forall_mem_singleton.2
      ⟨List.ne_nil_of_mem h.dot_mem, h.notMem rfl (by decide)⟩
  | cons h _ ih => exact List.forall_mem_cons.2 ⟨h.isPart, ih⟩

lemma notMem (h : IsTail parts gs) {c : Char} (hc : hexDigit? c = none) (hdot : c ≠ '.') :
    ∀ part ∈ parts, c ∉ part := by
  induction h with
  | nil => exact List.forall_mem_nil _
  | octets h => exact List.forall_mem_singleton.2 (h.notMem hc hdot)
  | cons h _ ih => exact List.forall_mem_cons.2 ⟨h.numeral.notMem (by omega) hc, ih⟩

/-- Octets stand for two groups and are one part. -/
lemma length_le (h : IsTail parts gs) : gs.length ≤ parts.length + 1 := by
  induction h with
  | nil => simp
  | octets h => simp
  | cons h _ ih => simpa using ih

end IsTail

lemma intercalate_colonParts (cs : List Char) : [':'].intercalate (colonParts cs) = cs := by
  rw [colonParts]
  split
  · simp [*]
  · exact List.intercalate_splitOn ':'

namespace AreParts

variable {parts : List (List Char)}

lemma tail {part : List Char} (h : AreParts (part :: parts)) : AreParts parts :=
  fun x hx => h x (List.mem_cons_of_mem part hx)

/-- The first part starts with no colon. -/
lemma exists_eq_cons {part : List Char} (h : AreParts (part :: parts)) :
    ∃ c cs, [':'].intercalate (part :: parts) = c :: cs ∧ c ≠ ':' := by
  obtain ⟨hne, hcolon⟩ := h part List.mem_cons_self
  obtain ⟨c, cs, rfl⟩ := List.exists_cons_of_ne_nil hne
  have hc : c ≠ ':' := fun h => hcolon (h ▸ List.mem_cons_self)
  cases parts with
  | nil => exact ⟨c, cs, by simp, hc⟩
  | cons next parts => exact ⟨c, _, by rw [List.intercalate_cons_cons]; rfl, hc⟩

lemma colonParts_intercalate (h : AreParts parts) :
    colonParts ([':'].intercalate parts) = parts := by
  cases parts with
  | nil => rfl
  | cons part parts =>
    obtain ⟨c, cs, hcs, _⟩ := h.exists_eq_cons
    rw [colonParts, if_neg (by simp [hcs])]
    exact List.splitOn_intercalate ':' (fun x hx => (h x hx).2) (by simp)

/-- No two colons in a row start among parts. -/
lemma cutAt?_append (h : AreParts parts) (rest : List Char) :
    cutAt? [':', ':'] ([':'].intercalate parts ++ rest) =
      (cutAt? [':', ':'] rest).map fun (x, y) => ([':'].intercalate parts ++ x, y) := by
  induction parts with
  | nil => simp
  | cons part parts ih =>
    have hcolon := (h part List.mem_cons_self).2
    cases parts with
    | nil => simpa using HostAddr.cutAt?_append hcolon rest
    | cons next parts =>
      obtain ⟨c, cs, hcs, hc⟩ := h.tail.exists_eq_cons
      have hskip : cutAt? [':', ':'] (':' :: ([':'].intercalate (next :: parts) ++ rest)) =
          (cutAt? [':', ':'] ([':'].intercalate (next :: parts) ++ rest)).map
            fun (x, y) => (':' :: x, y) := by
        rw [cutAt?, if_neg]
        simp [hcs, List.isPrefixOf, Ne.symm hc]
      rw [List.intercalate_cons_cons, List.append_assoc, List.append_assoc, List.singleton_append,
        HostAddr.cutAt?_append hcolon, hskip, ih h.tail, Option.map_map, Option.map_map]
      refine congrFun (congrArg Option.map (funext fun x => ?_)) _
      simp

end AreParts

/-! ### Plain addresses -/

theorem readPlain?_eq_some_iff {cs : List Char} {a : BitVec 128} :
    readPlain? cs = some a ↔ IsPlain cs a := by
  constructor
  · intro h
    rw [readPlain?] at h
    split at h
    · simp only [Option.bind_eq_bind, Option.bind_eq_some_iff, Option.ite_none_right_eq_some,
        Option.some.injEq] at h
      obtain ⟨gs, hgs, hlength, rfl⟩ := h
      rw [← intercalate_colonParts cs]
      exact .full (readTail?_eq_some_iff.1 hgs) hlength
    · rename_i before after hcut
      simp only [Option.bind_eq_bind, Option.bind_eq_some_iff, Option.ite_none_right_eq_some,
        Option.some.injEq] at h
      obtain ⟨hs, hhs, ts, hts, hlength, rfl⟩ := h
      rw [eq_append_of_cutAt hcut, ← intercalate_colonParts before, ← intercalate_colonParts after]
      exact .short (mapM_readGroup_eq_some_iff.1 hhs) (readTail?_eq_some_iff.1 hts) (by omega)
        (by omega)
  · intro h
    cases h with
    | @full parts gs h hlength =>
      have hcut : cutAt? [':', ':'] ([':'].intercalate parts) = none := by
        simpa [cutAt?] using h.areParts.cutAt?_append []
      rw [readPlain?, hcut]
      simp [h.areParts.colonParts_intercalate, readTail?_eq_some_iff.2 h, hlength]
    | @short before after hs ts n hbefore hafter hlength hn =>
      have hparts := areParts_of_forall₂ hbefore
      have hcut : cutAt? [':', ':'] ([':'].intercalate before ++ ':' :: ':' ::
          [':'].intercalate after) = some ([':'].intercalate before, [':'].intercalate after) := by
        rw [hparts.cutAt?_append]
        simp [cutAt?, List.isPrefixOf]
      have hmissing : 8 - hs.length - ts.length = n := by omega
      rw [readPlain?, hcut]
      simp only [hparts.colonParts_intercalate, hafter.areParts.colonParts_intercalate,
        mapM_readGroup_eq_some_iff.2 hbefore, readTail?_eq_some_iff.2 hafter, Option.bind_eq_bind,
        Option.bind_some, hmissing]
      rw [if_pos (by omega)]

namespace IsPlain

variable {cs : List Char} {a : BitVec 128}

lemma notMem (h : IsPlain cs a) {c : Char} (hc : hexDigit? c = none) (hdot : c ≠ '.')
    (hcolon : c ≠ ':') : c ∉ cs := by
  cases h with
  | full h _ => exact notMem_intercalate hcolon (h.notMem hc hdot)
  | short hbefore hafter _ _ =>
    have hgroups := notMem_intercalate hcolon
      (forall_mem_of_forall₂ hbefore fun _ _ h => h.numeral.notMem (by omega) hc)
    simp [hgroups, notMem_intercalate hcolon (hafter.notMem hc hdot), hcolon]

/-- An IPv6 address has two colons at least. -/
lemma two_le_count (h : IsPlain cs a) : 2 ≤ cs.count ':' := by
  cases h with
  | full h hlength =>
    have hle := h.length_le
    rw [count_intercalate fun part hpart => (h.areParts part hpart).2]
    omega
  | short hbefore hafter hlength hn =>
    rw [List.count_append, List.count_cons_self, List.count_cons_self]
    omega

end IsPlain

end IPv6

end HostAddr
