import HostAddr.Interface
import HostAddr.Proofs.AddressFamilies
import HostAddr.Proofs.PlainReading

/-!
# Addresses read back

The text of an address has room for a port or for a prefix length, not for both: a port hides the
prefix. No reader gives an address with a port and a short prefix and no device has one, so the
text of each of these is read as the address itself.
-/

namespace HostAddr

namespace IPAddr

variable {w : Nat}

/-- What the text of an address tells of it. -/
def written (a : IPAddr w) : IPAddr w :=
  if a.port = 0 then a else a.host

lemma written_of_port {a : IPAddr w} (h : a.port = 0) : a.written = a := by
  rw [written, if_pos h]

lemma address_written (a : IPAddr w) : a.written.address = a.address := by
  rw [written]
  split <;> rfl

lemma address_eq_of_written {a b : IPAddr w} (h : a.written = b.written) :
    a.address = b.address := by
  rw [← a.address_written, h, b.address_written]

variable {IsPlain : List Char → BitVec w → Prop} {plain bracketed cs : List Char} {a : IPAddr w}

lemma IsNetwork.written_eq (h : IsNetwork IsPlain cs a) : a.written = a := by
  cases h with
  | bare h => exact written_of_port rfl
  | prefixed h hds hn => exact written_of_port rfl

lemma written_endpoint (x : BitVec w) (port : UInt16) :
    written ⟨x, w, port, Nat.le_refl w⟩ = ⟨x, w, port, Nat.le_refl w⟩ := by
  rw [written]
  split <;> rfl

/-- Without a port, an address is written as a network. -/
lemma isNetwork_charsWith (h : IsPlain plain a.address) (hport : a.port = 0) :
    IsNetwork IsPlain (charsWith plain bracketed a) a := by
  obtain ⟨address, prefixLen, port, hle⟩ := a
  obtain rfl : port = 0 := hport
  rw [charsWith, if_neg (by simp)]
  split
  · rename_i hhost
    obtain rfl : prefixLen = w := by simpa [isHost] using hhost
    exact .bare h
  · exact .prefixed h (isNumeral_decimal prefixLen) hle

end IPAddr

lemma hexDigit?_eq_none_of_isBlank {c : Char} (h : isBlank c) : hexDigit? c = none := by
  rw [Option.eq_none_iff_forall_ne_some]
  intro d hd
  obtain ⟨hlt, hc⟩ := hexDigit?_eq_some_iff.1 hd
  have hall : ∀ d < 16, ¬isBlank d.digitChar ∧ ¬isBlank d.digitChar.toUpper := by decide
  rcases hc with rfl | rfl
  · exact (hall d hlt).1 h
  · exact (hall d hlt).2 h

/-- A text of digits and marks has no white space around it. -/
lemma trim_eq_of_marks {marks cs : List Char} (hmarks : marks.any isBlank = false)
    (h : ∀ c, hexDigit? c = none → c ∉ marks → c ∉ cs) : trim cs = cs := by
  refine trim_eq_self fun c hc => ?_
  by_contra hblank
  exact h c (hexDigit?_eq_none_of_isBlank (by simpa using hblank))
    (fun hmark => List.any_eq_false.1 hmarks c hmark (by simpa using hblank)) hc

/-- A family of addresses that is written in the grammar `IsText` and read by it. -/
structure IPAddr.IsFamily {w : Nat} (IsText : List Char → IPAddr w → Prop)
    (text : IPAddr w → String) (parse : String → Except Error (IPAddr w)) : Prop where
  isText_text : ∀ a, IsText (text a).toList a.written
  written_eq : ∀ {cs a}, IsText cs a → a.written = a
  trim_eq : ∀ {cs a}, IsText cs a → trim cs = cs
  parse_eq_ok_iff : ∀ {s a}, parse s = .ok a ↔ IsText (trim s.toList) a

namespace IPAddr.IsFamily

variable {w : Nat} {IsText : List Char → IPAddr w → Prop} {text : IPAddr w → String}
  {parse : String → Except Error (IPAddr w)} (hf : IsFamily IsText text parse)

include hf

lemma parse_of_isText {cs : List Char} {a : IPAddr w} (h : IsText cs a) :
    parse (String.ofList cs) = .ok a := by
  rw [hf.parse_eq_ok_iff, String.toList_ofList, hf.trim_eq h]
  exact h

/-- The text of an address is read as what it tells of the address. -/
theorem parse_text (a : IPAddr w) : parse (text a) = .ok a.written := by
  have htext := hf.parse_of_isText (hf.isText_text a)
  rwa [String.ofList_toList] at htext

lemma parse_text_of_written {a : IPAddr w} (h : a.written = a) : parse (text a) = .ok a := by
  rw [hf.parse_text, h]

lemma written_of_parse {s : String} {a : IPAddr w} (h : parse s = .ok a) : a.written = a :=
  hf.written_eq (hf.parse_eq_ok_iff.1 h)

theorem parse_text_of_eq_ok {s : String} {a : IPAddr w} (h : parse s = .ok a) :
    parse (text a) = .ok a :=
  hf.parse_text_of_written (hf.written_of_parse h)

/-- The text of an address tells its bits. -/
lemma address_eq_of_text {a b : IPAddr w} (h : text a = text b) : a.address = b.address := by
  have hparse := hf.parse_text a
  rw [h, hf.parse_text] at hparse
  exact address_eq_of_written (Except.ok.inj hparse).symm

lemma text_ne_empty (hempty : ∀ a, parse "" ≠ .ok a) (a : IPAddr w) : text a ≠ "" := by
  intro h
  have hparse := hf.parse_text a
  rw [h] at hparse
  exact hempty _ hparse

end IPAddr.IsFamily

namespace IPv4

/-- An address is written in the grammar of its family, as far as its text tells of it. -/
theorem isText_chars (a : IPv4) : IsText (chars a) a.written := by
  have hplain := isPlain_plainChars a.address
  by_cases hport : a.port = 0
  · rw [IPAddr.written_of_port hport]
    exact .network (IPAddr.isNetwork_charsWith hplain hport)
  · rw [chars, IPAddr.charsWith, if_pos hport, IPAddr.written, if_neg hport]
    exact .endpoint hplain (isNumeral_decimal a.port.toNat)

lemma isFamily : IPAddr.IsFamily IsText text parse where
  isText_text a := by
    rw [text, String.toList_ofList]
    exact isText_chars a
  written_eq h := by
    cases h with
    | network h => exact h.written_eq
    | endpoint _ _ => exact IPAddr.written_endpoint _ _
  trim_eq h := trim_eq_of_marks (by decide) fun _ hc hmark => h.notMem hc hmark
  parse_eq_ok_iff := parse_eq_ok_iff

end IPv4

namespace IPv6

/-- An address is written in the grammar of its family, as far as its text tells of it. -/
theorem isText_chars (a : IPv6) : IsText (chars a) a.written := by
  have hplain := isPlain_plainChars a.address
  by_cases hport : a.port = 0
  · rw [IPAddr.written_of_port hport]
    exact .network (IPAddr.isNetwork_charsWith hplain hport)
  · rw [chars, IPAddr.charsWith, if_pos hport, IPAddr.written, if_neg hport, bracketed,
      List.append_assoc]
    exact .endpoint hplain (isNumeral_decimal a.port.toNat)

lemma isFamily : IPAddr.IsFamily IsText text parse where
  isText_text a := by
    rw [text, String.toList_ofList]
    exact isText_chars a
  written_eq h := by
    cases h with
    | network h => exact h.written_eq
    | bracketed h => exact h.written_eq
    | endpoint _ _ => exact IPAddr.written_endpoint _ _
  trim_eq h := trim_eq_of_marks (by decide) fun _ hc hmark => h.notMem hc hmark
  parse_eq_ok_iff := parse_eq_ok_iff

end IPv6

namespace SocketAddress

lemma parseIP_of_parse_ipv4 {s : String} {a : IPv4} (h : IPv4.parse s = .ok a) :
    parseIP s = .ok (ipv4 a) :=
  parseIP_eq_ok_iff.2 (.inl ⟨a, h, rfl⟩)

lemma parseIP_of_parse_ipv6 {s : String} {a : IPv6} (h : IPv6.parse s = .ok a) :
    parseIP s = .ok (ipv6 a) :=
  parseIP_eq_ok_iff.2 (.inr ⟨a, h, rfl⟩)

lemma parseIP_ipv4 {a : IPv4} (h : a.written = a) : parseIP (IPv4.text a) = .ok (.ipv4 a) :=
  parseIP_of_parse_ipv4 (IPv4.isFamily.parse_text_of_written h)

lemma parseIP_ipv6 {a : IPv6} (h : a.written = a) : parseIP (IPv6.text a) = .ok (.ipv6 a) :=
  parseIP_of_parse_ipv6 (IPv6.isFamily.parse_text_of_written h)

lemma isIP_of_port {a : SocketAddress} {p : UInt16} (h : a.port? = some p) : a.isIP := by
  cases a with
  | unix q => cases h
  | _ => rfl

lemma parseIP_text_of_port {a : SocketAddress} (h : a.port? = some 0) : parseIP a.text = .ok a := by
  cases a with
  | unix q => cases h
  | ipv4 a => exact parseIP_ipv4 (IPAddr.written_of_port (Option.some.inj h))
  | ipv6 a => exact parseIP_ipv6 (IPAddr.written_of_port (Option.some.inj h))

lemma notMem_text {a : SocketAddress} (hip : a.isIP) {c : Char} (hc : hexDigit? c = none)
    (hmarks : c ∉ ['.', ':', '/', '[', ']']) : c ∉ a.text.toList := by
  cases a with
  | unix q => cases hip
  | ipv4 a =>
    rw [text, IPv4.text, String.toList_ofList]
    refine (IPv4.isText_chars a).notMem hc fun hmark => ?_
    exact hmarks (List.mem_append_left ['[', ']'] hmark)
  | ipv6 a =>
    rw [text, IPv6.text, String.toList_ofList]
    exact (IPv6.isText_chars a).notMem hc hmarks

lemma parse_of_parseIP {s : String} {a : SocketAddress} (h : parseIP s = .ok a) :
    parse s = .ok a := by
  rw [parse, h]

theorem parseIP_text_of_parseIP {s : String} {a : SocketAddress} (h : parseIP s = .ok a) :
    parseIP a.text = .ok a := by
  rw [parseIP] at h
  split at h
  · rename_i x _ hparse
    cases h
    exact parseIP_ipv4 (IPv4.isFamily.written_of_parse hparse)
  · rename_i x _ hparse
    cases h
    exact parseIP_ipv6 (IPv6.isFamily.written_of_parse hparse)
  · cases h

/-- What is not read as an IP address is no IP address. -/
lemma parseIP_of_parse {s : String} {a : SocketAddress} (h : parse s = .ok a) (hip : a.isIP) :
    parseIP s = .ok a := by
  rw [parse] at h
  split at h
  · rename_i x hparse
    cases h
    exact hparse
  · split at h
    · obtain ⟨p, _, rfl⟩ : ∃ p, UnixPath.parse s = .ok p ∧ .unix p = a := by
        cases hpath : UnixPath.parse s with
        | error e => simp [hpath, Except.map] at h
        | ok p => exact ⟨p, rfl, by simpa [hpath, Except.map] using h⟩
      cases hip
    · cases h

theorem parse_text_of_device {d : Device} {r : Record} (h : r ∈ d.records) :
    parse r.address.text = .ok r.address := by
  obtain ⟨a, _, rfl⟩ := List.mem_map.1 h
  cases a with
  | inl a => exact parse_of_parseIP (parseIP_ipv4 (IPAddr.written_of_port rfl))
  | inr a => exact parse_of_parseIP (parseIP_ipv6 (IPAddr.written_of_port rfl))

/-- The text of an address that was read, or that a device has, is read as that address. -/
theorem parse_text_of_parse :
    (∀ (s : String) (a : IPv4), IPv4.parse s = .ok a → IPv4.parse (IPv4.text a) = .ok a) ∧
    (∀ (s : String) (a : IPv6), IPv6.parse s = .ok a → IPv6.parse (IPv6.text a) = .ok a) ∧
    (∀ (s : String) (a : SocketAddress), parseIP s = .ok a → parseIP a.text = .ok a) ∧
    (∀ (s : String) (a : SocketAddress), parse s = .ok a → a.isIP → parse a.text = .ok a) ∧
    (∀ (d : Device), ∀ r ∈ d.records, parse r.address.text = .ok r.address) := by
  refine ⟨fun s a h => ?_, fun s a h => ?_, fun s a h => ?_, fun s a h hip => ?_, fun d r hr => ?_⟩
  · exact IPv4.isFamily.parse_text_of_eq_ok h
  · exact IPv6.isFamily.parse_text_of_eq_ok h
  · exact parseIP_text_of_parseIP h
  · exact parse_of_parseIP (parseIP_text_of_parseIP (parseIP_of_parse h hip))
  · exact parse_text_of_device hr

/-- A network, two endpoints, a mapped address and the address of a device are read back. -/
theorem parse_text_forms :
    (∃ a, IPv4.parse " 10.1.2.3/8" = .ok a ∧ IPv4.parse (IPv4.text a) = .ok a) ∧
    (∃ a, IPv6.parse "[2001:DB8:0:0:1:0:0:1]:443" = .ok a ∧ IPv6.parse (IPv6.text a) = .ok a) ∧
    (∃ a, parseIP "10.1.2.3:080" = .ok a ∧ parseIP a.text = .ok a) ∧
    (∃ a, parse "[::ffff:1.2.3.4/64]" = .ok a ∧ a.isIP ∧ parse a.text = .ok a) ∧
    (∃ r ∈ Device.records ⟨"en0", 1, 1, none, 1500, [.inr (IPAddr.ofParts 1 64 0)]⟩,
      parse r.address.text = .ok r.address) := by
  obtain ⟨h4, h6, hip, hany, hdevice⟩ := parse_text_of_parse
  have hr4 : IPv4.parse " 10.1.2.3/8" = .ok (IPAddr.ofParts 0x0a010203 8 0) := rfl
  have hr6 : IPv6.parse "[2001:DB8:0:0:1:0:0:1]:443" =
      .ok ((IPAddr.bare 0x20010db8000000000001000000000001).withPort 443) := rfl
  have hrip : parseIP "10.1.2.3:080" = .ok (.ipv4 ((IPAddr.bare 0x0a010203).withPort 80)) := rfl
  have hrany : parse "[::ffff:1.2.3.4/64]" = .ok (.ipv6 (IPAddr.ofParts 0xffff01020304 64 0)) :=
    rfl
  have hlisted := hdevice ⟨"en0", 1, 1, none, 1500, [.inr (IPAddr.ofParts 1 64 0)]⟩
  exact ⟨⟨_, hr4, h4 _ _ hr4⟩, ⟨_, hr6, h6 _ _ hr6⟩, ⟨_, hrip, hip _ _ hrip⟩,
    ⟨_, hrany, rfl, hany _ _ hrany rfl⟩,
    ⟨_, List.mem_cons_self, hlisted _ List.mem_cons_self⟩⟩

end SocketAddress

end HostAddr
