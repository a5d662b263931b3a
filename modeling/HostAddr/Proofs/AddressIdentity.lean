import HostAddr.Proofs.AddressReading
import HostAddr.Proofs.DistinctRecords

/-!
# Addresses and their texts

The text of an address leaves out the prefix length where there is a port, so two addresses can
have the same text. Among the addresses that are read or that a device has none do: an IP address
is read back from its text, and a path stands between quotation marks, which no IP address has.
-/

namespace HostAddr

namespace SocketAddress

/-- An address that was read, as any form of address, or that a device has. -/
inductive IsObtained : SocketAddress → Prop
  | read {s : String} {a : SocketAddress} (h : parse s = .ok a) : IsObtained a
  | readIP {s : String} {a : SocketAddress} (h : parseIP s = .ok a) : IsObtained a
  | readIPv4 {s : String} {a : IPv4} (h : IPv4.parse s = .ok a) : IsObtained (ipv4 a)
  | readIPv6 {s : String} {a : IPv6} (h : IPv6.parse s = .ok a) : IsObtained (ipv6 a)
  | readPath {s : String} {p : UnixPath} (h : UnixPath.parse s = .ok p) : IsObtained (unix p)
  | device {d : Device} {r : Record} (h : r ∈ d.records) : IsObtained r.address

variable {a b : SocketAddress}

lemma IsObtained.parseIP_text (h : a.IsObtained) (hip : a.isIP) : parseIP a.text = .ok a := by
  cases h with
  | read h => exact parseIP_text_of_parseIP (parseIP_of_parse h hip)
  | readIP h => exact parseIP_text_of_parseIP h
  | readIPv4 h => exact parseIP_ipv4 (IPv4.isFamily.written_of_parse h)
  | readIPv6 h => exact parseIP_ipv6 (IPv6.isFamily.written_of_parse h)
  | readPath h => cases hip
  | device h => exact parseIP_of_parse (parse_text_of_device h) hip

/-- Quotation marks are in the texts of paths and in no others. -/
lemma quote_mem_text_iff : '"' ∈ a.text.toList ↔ ¬a.isIP := by
  cases a with
  | ipv4 a => exact iff_of_false (notMem_text rfl rfl (by decide)) (not_not_intro rfl)
  | ipv6 a => exact iff_of_false (notMem_text rfl rfl (by decide)) (not_not_intro rfl)
  | unix p => simp [text, quote, quoteChars, isIP]

lemma eq_of_text_of_not_isIP (ha : ¬a.isIP) (hb : ¬b.isIP) (h : a.text = b.text) : a = b := by
  cases a with
  | ipv4 a => exact absurd rfl ha
  | ipv6 a => exact absurd rfl ha
  | unix p =>
    cases b with
    | ipv4 b => exact absurd rfl hb
    | ipv6 b => exact absurd rfl hb
    | unix q =>
      obtain ⟨p, hp⟩ := p
      obtain ⟨q, hq⟩ := q
      obtain rfl : p = q := quote_injective h
      rfl

theorem IsObtained.eq_of_text (ha : a.IsObtained) (hb : b.IsObtained) (h : a.text = b.text) :
    a = b := by
  have hkind : a.isIP ↔ b.isIP := by
    rw [← not_iff_not, ← quote_mem_text_iff, ← quote_mem_text_iff, h]
  by_cases hip : a.isIP
  · have hread := ha.parseIP_text hip
    rw [h, hb.parseIP_text (hkind.1 hip)] at hread
    exact (Except.ok.inj hread).symm
  · exact eq_of_text_of_not_isIP hip (mt hkind.2 hip) h

end SocketAddress

section

variable {α β γ : Type} [DecidableEq β] [DecidableEq γ] {f : α → β} {g : β → γ}

/-- The elements whose value under `f` is not that of the element before them, where `before` is
the value before the first element. -/
def changes (f : α → β) (before : Option β) (xs : List α) : List α :=
  (((before :: xs.map fun x => some (f x)).zip xs).filter fun (b, x) => b ≠ some (f x)).map Prod.snd

lemma changes_cons (before : Option β) (x : α) (xs : List α) :
    changes f before (x :: xs) =
      if before = some (f x) then changes f (some (f x)) xs
      else x :: changes f (some (f x)) xs := by
  unfold changes
  by_cases h : before = some (f x)
  · simp [h]
  · simp [h]

/-- A value that tells others apart may stand for them. -/
lemma changes_comp (before : Option β) (xs : List α)
    (hbefore : ∀ b ∈ before, ∀ x ∈ xs, g b = g (f x) → b = f x)
    (hxs : ∀ x ∈ xs, ∀ y ∈ xs, g (f x) = g (f y) → f x = f y) :
    changes (fun x => g (f x)) (before.map g) xs = changes f before xs := by
  induction xs generalizing before with
  | nil => rfl
  | cons x xs ih =>
    obtain ⟨hx, htail⟩ := List.forall_mem_cons.1 hxs
    have hrest := ih (some (f x))
      (by
        rintro _ ⟨⟩ y hy
        exact hx y (List.mem_cons_of_mem x hy))
      (fun y hy z hz => htail y hy z (List.mem_cons_of_mem x hz))
    have hhead : before.map g = some (g (f x)) ↔ before = some (f x) := by
      constructor
      · intro h
        obtain ⟨b, hb, hgb⟩ := Option.map_eq_some_iff.1 h
        rw [hb, hbefore b hb x List.mem_cons_self hgb]
      · rintro rfl
        rfl
    rw [changes_cons, changes_cons]
    simp only [hhead, Option.map_some] at hrest ⊢
    rw [hrest]

end

/-- A record is dropped exactly where it has the key of the record before it. -/
theorem dropRepeats_eq_changes (key : UniqueKey) (last : Option String) (rs : List Record) :
    dropRepeats key last rs = changes key.text last rs := by
  induction rs generalizing last with
  | nil => rfl
  | cons r rs ih =>
    rw [dropRepeats, changes_cons]
    by_cases h : last = some (key.text r)
    · rw [if_pos h, if_pos h, ih, h]
    · rw [if_neg h, if_neg h, ih]

/-- Obtained addresses with the same text are equal, so a list without repetitions by address has
lost only records whose whole address is that of the record before them. -/
theorem text_identifies :
    (∀ a b : SocketAddress, a.IsObtained → b.IsObtained → a.text = b.text → a = b) ∧
    ∀ rs : List Record, (∀ r ∈ rs, r.address.IsObtained) →
      uniqueBy "address" rs = .ok (changes Record.address none rs) := by
  refine ⟨fun a b ha hb h => ha.eq_of_text hb h, fun rs hrs => ?_⟩
  have hword : UniqueKey.parse "address" = .ok .address := UniqueKey.parse_word .address
  have hdrop : dropRepeats .address none rs = changes Record.address none rs := by
    rw [dropRepeats_eq_changes]
    apply changes_comp (f := Record.address) (g := SocketAddress.text) none
    · simp
    · intro r hr s hs htext
      exact (hrs r hr).eq_of_text (hrs s hs) htext
  rw [uniqueBy, hword, ← hdrop]
  rfl

/-- Two ways to write an endpoint, and a network beside a path of the same characters. -/
theorem text_identifies_mixed :
    (∃ a b, SocketAddress.parse "10.0.0.1:080" = .ok a ∧ IPv4.parse "10.0.0.1:80\n" = .ok b ∧
      a = .ipv4 b) ∧
    ∃ rs, rs.map (·.address.text) = ["10.0.0.1/8", "10.0.0.1/8", "\"10.0.0.1/8\"", "10.0.0.1"] ∧
      (uniqueBy "address" rs).map (·.map (·.address.text)) =
        .ok ["10.0.0.1/8", "\"10.0.0.1/8\"", "10.0.0.1"] := by
  obtain ⟨heq, hunique⟩ := text_identifies
  constructor
  · have ha : SocketAddress.parse "10.0.0.1:080" =
        .ok (.ipv4 ((IPAddr.bare 0x0a000001).withPort 80)) := rfl
    have hb : IPv4.parse "10.0.0.1:80\n" = .ok ((IPAddr.bare 0x0a000001).withPort 80) := rfl
    exact ⟨_, _, ha, hb, heq _ _ (.read ha) (.readIPv4 hb) rfl⟩
  · let i : Interface := ⟨1, "en0", 1500, .ofBits 1, none⟩
    have hnet : SocketAddress.parse "10.0.0.1/8" =
        .ok (.ipv4 (IPAddr.ofParts 0x0a000001 8 0)) := rfl
    have hbare : IPv4.parse "10.0.0.1" = .ok (IPAddr.bare 0x0a000001) := rfl
    have hpath : UnixPath.parse "10.0.0.1/8" = .ok ⟨"10.0.0.1/8", by decide⟩ := rfl
    let rs : List Record := [⟨.ipv4 (IPAddr.ofParts 0x0a000001 8 0), i⟩,
      ⟨.ipv4 (IPAddr.ofParts 0x0a000001 8 0), i⟩, ⟨.unix ⟨"10.0.0.1/8", by decide⟩, i⟩,
      ⟨.ipv4 (IPAddr.bare 0x0a000001), i⟩]
    have hrs : ∀ r ∈ rs, r.address.IsObtained := by
      simp only [rs, List.forall_mem_cons]
      exact ⟨.read hnet, .read hnet, .readPath hpath, .readIPv4 hbare, by simp⟩
    refine ⟨rs, by decide +kernel, ?_⟩
    rw [hunique rs hrs]
    decide +kernel

/-- A port hides the prefix length, and no reader gives both. -/
example : IPv4.text ((IPAddr.ofParts 0x0a000001 8 0).withPort 80) =
    IPv4.text ((IPAddr.bare 0x0a000001).withPort 80) := rfl

end HostAddr
