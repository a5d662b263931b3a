import HostAddr.Proofs.AddressReading
import HostAddr.Proofs.Outcome
import HostAddr.Selection.Slice
import Mathlib.Data.List.Nodup

/-!
# Names of attributes

The attributes of an address are those that have a text of their own, and none of these texts is
empty. An address lists each of them once, whatever the case of the letters that ask for it, and a
name is known when it is one of an interface or one that some kind of address lists. A join of the
records of a list depends on nothing else to succeed.
-/

namespace HostAddr

/-- What an attribute of an IP address shows: an address, a number in decimal, digits of a fixed
number, or octets. -/
inductive IsView : String → Prop where
  | address {a : SocketAddress} (ha : a.isIP) : IsView a.text
  | number (n : Nat) : IsView (toString n)
  | numeral {b n : Nat} (hb : 0 < b) (hb' : b ≤ 16) (hn : 0 < n) (x : Nat) :
      IsView (String.ofList (padded b n x))
  | octets {w : Nat} (hw : 0 < w / 8) (a : IPAddr w) : IsView a.octetText

namespace IPFamily

variable {w : Nat} [IPFamily w] {ip : IPAddr w → SocketAddress} {a : IPAddr w} {name s : String}

/-- The addresses of a family as socket addresses: they have its texts and its attributes. -/
structure IsKind (ip : IPAddr w → SocketAddress) : Prop where
  byte_dvd : 8 ∣ w
  pos : 0 < w
  isIP : ∀ a, (ip a).isIP
  text_eq : ∀ a, (ip a).text = text a
  plainText_eq : ∀ a : IPAddr w, plainText a = text (IPAddr.bare a.address)
  parseIP_text : ∀ {a : IPAddr w}, a.written = a → SocketAddress.parseIP (text a) = .ok (ip a)
  kindView?_eq : ∀ {a : IPAddr w} {name s : String}, a.sharedView? name = some s →
    (ip a).kindView? name = some s

lemma IsKind.isView_text (hip : IsKind ip) (a : IPAddr w) : IsView (text a) := by
  rw [← hip.text_eq]
  exact .address (hip.isIP a)

lemma IsKind.isView (hip : IsKind ip) (h : a.sharedView? name = some s) : IsView s := by
  obtain ⟨octets, rfl⟩ := hip.byte_dvd
  have hpos := hip.pos
  unfold IPAddr.sharedView? at h
  split at h <;> cases h
  case h_1 | h_5 | h_9 | h_10 => exact hip.isView_text _
  case h_2 =>
    rw [hip.plainText_eq]
    exact hip.isView_text _
  case h_3 | h_6 => exact .number _
  case h_4 | h_7 | h_8 => exact .numeral (by omega) (by omega) (by omega) _
  case h_11 => exact .octets (by omega) a

end IPFamily

/-- An address alone is its own text. -/
lemma IPAddr.charsWith_bare {w : Nat} (plain bracketed : List Char) (x : BitVec w) :
    charsWith plain bracketed (bare x) = plain := by
  simp [charsWith, bare, isHost]

lemma IPv4.isKind : IPFamily.IsKind SocketAddress.ipv4 where
  byte_dvd := by omega
  pos := by omega
  isIP _ := rfl
  text_eq _ := rfl
  plainText_eq _ := congrArg String.ofList (IPAddr.charsWith_bare _ _ _).symm
  parseIP_text := SocketAddress.parseIP_ipv4
  kindView?_eq h := by
    rw [SocketAddress.kindView?, h]
    rfl

lemma IPv6.isKind : IPFamily.IsKind SocketAddress.ipv6 where
  byte_dvd := by omega
  pos := by omega
  isIP _ := rfl
  text_eq _ := rfl
  plainText_eq _ := congrArg String.ofList (IPAddr.charsWith_bare _ _ _).symm
  parseIP_text := SocketAddress.parseIP_ipv6
  kindView?_eq h := by
    rw [SocketAddress.kindView?, h]
    rfl

lemma IPAddr.isSome_sharedView?_iff {w : Nat} [IPFamily w] {a : IPAddr w} {name : String} :
    (a.sharedView? name).isSome ↔ name ∈ Attribute.ip := by
  unfold sharedView?
  split <;> simp_all [Attribute.ip]

lemma IPv4.isSome_ownView?_iff {a : IPv4} {name : String} :
    (ownView? a name).isSome ↔ name ∈ Attribute.ipv4 := by
  unfold ownView?
  split <;> simp_all [Attribute.ipv4]

lemma IPv6.isSome_ownView?_iff {a : IPv6} {name : String} :
    (ownView? a name).isSome ↔ name ∈ Attribute.ipv6 := by
  unfold ownView?
  split <;> simp_all [Attribute.ipv6]

lemma AddressKind.name_ne_empty (k : AddressKind) : k.name ≠ "" := by
  cases k <;> decide

namespace SocketAddress

lemma text_ne_empty (a : SocketAddress) : a.text ≠ "" := by
  cases a with
  | ipv4 a => exact IPv4.isFamily.text_ne_empty (fun _ => by rintro ⟨⟩) a
  | ipv6 a => exact IPv6.isFamily.text_ne_empty (fun _ => by rintro ⟨⟩) a
  | unix p =>
    intro h
    have hnil : quoteChars p.text.toList = [] := String.ofList_injective h
    simp [quoteChars] at hnil

end SocketAddress

lemma IsView.ne_empty {s : String} (h : IsView s) : s ≠ "" := by
  intro hs
  have hnil := congrArg String.toList hs
  cases h with
  | address ha => exact SocketAddress.text_ne_empty _ hs
  | number n =>
    rw [toList_toString] at hnil
    exact decimal_ne_nil n hnil
  | numeral hb hb' hn x =>
    have hlength := congrArg List.length hnil
    rw [String.toList_ofList, padded, List.length_map, length_digits] at hlength
    exact hn.ne' hlength
  | @octets w hw a =>
    obtain ⟨d, ds, hds⟩ : ∃ d ds, digits 256 (w / 8) a.address.toNat = d :: ds := by
      rw [← List.ne_nil_iff_exists_cons, ← List.length_pos_iff, length_digits]
      exact hw
    have hd : decimal d ≠ [] := decimal_ne_nil d
    rw [IPAddr.octetText, String.toList_ofList, hds, List.map_cons] at hnil
    cases hrest : ds.map decimal with
    | nil => simp [hrest, hd] at hnil
    | cons part parts => simp [hrest, List.intercalate_cons_cons] at hnil

namespace SocketAddress

variable {a : SocketAddress} {name s : String}

/-- The attributes of one kind of address are views, but for the path. -/
lemma isView_of_kindView? (hname : name ≠ "path") (h : a.kindView? name = some s) : IsView s := by
  cases a with
  | ipv4 a =>
    rcases Option.or_eq_some_iff.1 h with hshared | ⟨-, hown⟩
    · exact IPv4.isKind.isView hshared
    · unfold IPv4.ownView? at hown
      split at hown <;> cases hown
      case h_1 => exact .number (IPv4.networkSize a).toNat
      case h_2 => exact IPv4.isKind.isView_text _
      case h_3 => exact .number a.address.toNat
  | ipv6 a =>
    rcases Option.or_eq_some_iff.1 h with hshared | ⟨-, hown⟩
    · exact IPv6.isKind.isView hshared
    · unfold IPv6.ownView? at hown
      split at hown <;> cases hown
      case h_1 =>
        unfold IPv6.networkSize
        split
        · exact .number _
        · exact .number 340282366920938463463374607431768211456
      case h_2 => exact .number a.address.toNat
  | unix p => simp [kindView?, hname] at h

lemma ne_empty_of_kindView? (h : a.kindView? name = some s) : s ≠ "" := by
  by_cases hname : name = "path"
  · cases a with
    | unix p =>
      rw [kindView?, if_pos hname] at h
      cases h
      exact p.text_ne
    | ipv4 a =>
      subst hname
      cases h
    | ipv6 a =>
      subst hname
      cases h
  · exact (isView_of_kindView? hname h).ne_empty

/-- The table of the attributes and what reads them have the same names. -/
lemma mem_attributes_iff :
    name ∈ a.attributes ↔ name ∈ Attribute.common ∨ (a.kindView? name).isSome := by
  cases a with
  | ipv4 a =>
    simp only [attributes, kindView?, List.mem_append, Option.isSome_or, Bool.or_eq_true,
      IPAddr.isSome_sharedView?_iff, IPv4.isSome_ownView?_iff]
  | ipv6 a =>
    simp only [attributes, kindView?, List.mem_append, Option.isSome_or, Bool.or_eq_true,
      IPAddr.isSome_sharedView?_iff, IPv6.isSome_ownView?_iff]
  | unix p => simp [attributes, kindView?, Attribute.unix]

lemma view_eq (hlower : name.toLower = name) (h : a.kindView? name = some s) :
    a.view name = s := by
  rw [view, hlower]
  split
  · cases a <;> cases h
  · cases a <;> cases h
  · rw [h, Option.getD_some]

/-- The attributes of an address are those that it has a text for, which is never empty. -/
theorem view_ne_empty_iff (a : SocketAddress) (name : String) :
    a.view name ≠ "" ↔ name.toLower ∈ a.attributes := by
  rw [mem_attributes_iff, view]
  split
  · rename_i htype
    simp [htype, a.kind.name_ne_empty, Attribute.common]
  · rename_i hstring
    simp [hstring, a.text_ne_empty, Attribute.common]
  · rename_i htype hstring
    cases hview : a.kindView? name.toLower with
    | none =>
      have hcommon : name.toLower ∉ Attribute.common := by
        simpa [Attribute.common] using And.intro htype hstring
      simp [hcommon]
    | some s => simpa using ne_empty_of_kindView? hview

lemma nodup_attributes (a : SocketAddress) : a.attributes.Nodup := by
  cases a with
  | ipv4 _ | ipv6 _ | unix _ =>
    rw [attributes]
    decide

end SocketAddress

namespace Attribute

variable {name : String}

lemma isKnown_iff : isKnown name = true ↔ name.toLower ∈ record ∨
    ∃ a : SocketAddress, name.toLower ∈ a.attributes := by
  have hmem : isKnown name = true ↔ name.toLower ∈ common ∨ name.toLower ∈ record ∨
      name.toLower ∈ ip ∨ name.toLower ∈ ipv4 ∨ name.toLower ∈ ipv6 ∨ name.toLower ∈ unix := by
    simp [isKnown]
  rw [hmem]
  constructor
  · let a4 : SocketAddress := .ipv4 (IPAddr.bare 0)
    let a6 : SocketAddress := .ipv6 (IPAddr.bare 0)
    let p : SocketAddress := .unix ⟨".", by decide⟩
    rintro (hcommon | hrecord | hip | hipv4 | hipv6 | hunix)
    · exact .inr ⟨p, List.mem_append_left _ hcommon⟩
    · exact .inl hrecord
    · exact .inr ⟨a4, List.mem_append_right _ (List.mem_append_left _ hip)⟩
    · exact .inr ⟨a4, List.mem_append_right _ (List.mem_append_right _ hipv4)⟩
    · exact .inr ⟨a6, List.mem_append_right _ (List.mem_append_right _ hipv6)⟩
    · exact .inr ⟨p, List.mem_append_right _ hunix⟩
  · rintro (hrecord | ⟨a, ha⟩)
    · exact .inr (.inl hrecord)
    · cases a <;> simp only [SocketAddress.attributes, List.mem_append] at ha <;> tauto

lemma ensureKnown_eq_ok_iff : ensureKnown name = .ok () ↔ isKnown name = true := by
  simp [ensureKnown]

end Attribute

lemma Record.view_of_ne (r : Record) {name : String} (hname : name.toLower ≠ "name")
    (hflags : name.toLower ≠ "flags") : r.view name = r.address.view name := by
  unfold view
  split
  · contradiction
  · contradiction
  · rfl

lemma joinBy_of_isKnown {name : String} (h : Attribute.isKnown name = true) (separator : String)
    (rs : List Record) :
    joinBy name separator rs = .ok (separator.intercalate (rs.map (·.view name))) := by
  rw [joinBy, Attribute.ensureKnown_eq_ok_iff.2 h]
  rfl

lemma exists_joinBy_eq_error_iff (name separator : String) (rs : List Record) :
    (∃ e, joinBy name separator rs = .error e) ↔ ¬Attribute.isKnown name = true := by
  constructor
  · rintro ⟨e, he⟩ hknown
    rw [joinBy_of_isKnown hknown] at he
    cases he
  · intro h
    rw [joinBy, Attribute.ensureKnown, if_neg h]
    exact ⟨_, rfl⟩

/-- An address has a text for the attributes that it lists and for no others, each listed once. A
name is known when an interface or some kind of address has an attribute of that name. A record has
those of its interface apart from those of its address, and a join of records fails for the sake of
the name alone. -/
theorem attribute_tables_agree :
    (∀ (a : SocketAddress) (name : String), a.view name ≠ "" ↔ name.toLower ∈ a.attributes) ∧
    (∀ a : SocketAddress, a.attributes.Nodup) ∧
    (∀ name : String, Attribute.isKnown name = true ↔
      name.toLower = "name" ∨ name.toLower = "flags" ∨
        ∃ a : SocketAddress, name.toLower ∈ a.attributes) ∧
    (∀ (r : Record) (name : String), name.toLower ≠ "name" → name.toLower ≠ "flags" →
      r.view name = r.address.view name) ∧
    (∀ (name separator : String) (rs : List Record),
      (∃ e, joinBy name separator rs = .error e) ↔ ¬Attribute.isKnown name = true) ∧
    (∀ name : String, Attribute.isKnown name = true → ∀ (separator : String) (rs : List Record),
      joinBy name separator rs = .ok (separator.intercalate (rs.map (·.view name)))) := by
  refine ⟨SocketAddress.view_ne_empty_iff, SocketAddress.nodup_attributes, ?_, ?_,
    exists_joinBy_eq_error_iff, ?_⟩
  · intro name
    rw [Attribute.isKnown_iff, Attribute.record, List.mem_cons, List.mem_singleton, or_assoc]
  · intro r name hname hflags
    exact r.view_of_ne hname hflags
  · intro name hknown separator rs
    exact joinBy_of_isKnown hknown separator rs

/-- A name in letters of both cases, on records of two kinds of which one has no such attribute. -/
theorem attribute_tables_agree_broadcast :
    let i : Interface := ⟨1, "en0", 1500, .ofBits 3, none⟩
    let r4 : Record := ⟨.ipv4 (IPAddr.ofParts 0x0a010203 8 0), i⟩
    let r6 : Record := ⟨.ipv6 (IPAddr.ofParts 1 64 443), i⟩
    "BroadCast".toLower ≠ "name" ∧ "BroadCast".toLower ≠ "flags" ∧
      r4.view "BroadCast" = r4.address.view "BroadCast" ∧
      Attribute.isKnown "BroadCast" = true ∧
      joinBy "BroadCast" "," [r4, r6] = .ok "10.255.255.255," := by
  obtain ⟨-, -, hknown, hrecord, -, hjoin⟩ := attribute_tables_agree
  have hname : "BroadCast".toLower ≠ "name" := by decide +kernel
  have hflags : "BroadCast".toLower ≠ "flags" := by decide +kernel
  have hlisted : "BroadCast".toLower ∈ (SocketAddress.ipv4 (IPAddr.bare 0)).attributes := by
    decide +kernel
  have hbroadcast := (hknown "BroadCast").2 (.inr (.inr ⟨_, hlisted⟩))
  exact ⟨hname, hflags, hrecord _ _ hname hflags, hbroadcast,
    (hjoin _ hbroadcast _ _).trans (by decide +kernel)⟩

end HostAddr
