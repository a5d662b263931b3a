import HostAddr.Attribute
import HostAddr.Proofs.AddressBlocks

/-!
# Views of an address

The bits of an address are shown as hexadecimal and binary digits of a fixed number, as a decimal
integer and as octets, and each of these is read as the same number. The other views are texts of
addresses, which are read back as the addresses they show.
-/

namespace HostAddr

lemma IsNumeral.eq {b m n : Nat} {cs : List Char} (hb : b ≤ 16) (hm : IsNumeral b cs m)
    (hn : IsNumeral b cs n) : m = n := by
  obtain ⟨-, ds, hds, rfl⟩ := hm
  obtain ⟨-, es, hes, rfl⟩ := hn
  have hread {fs : List Nat} (h : List.Forall₂ (IsDigit b) cs fs) :
      cs.mapM hexDigit? = some fs :=
    mapM_eq_some_iff.2 (h.imp fun _ _ hd => hd.hexDigit? hb)
  have hsame : some ds = some es := by
    rw [← hread hds, hread hes]
  rw [Option.some.inj hsame]

lemma IsNumeral.iff_eq {b m n : Nat} {cs : List Char} (hb : b ≤ 16) (hm : IsNumeral b cs m) :
    IsNumeral b cs n ↔ n = m := by
  constructor
  · intro hn
    exact hn.eq hb hm
  · rintro rfl
    exact hm

lemma isNumeral_padded {b n : Nat} (hb : 0 < b) (hn : 0 < n) (x : Nat) :
    IsNumeral b (padded b n x) (x % b ^ n) := by
  refine ⟨?_, digits b n x, ?_, ofDigits_digits b n x⟩
  · rw [← List.length_pos_iff, padded, List.length_map, length_digits]
    exact hn
  · rw [padded, List.forall₂_map_left_iff, List.forall₂_same]
    intro d hd
    exact ⟨lt_of_mem_digits hb hd, .inl rfl⟩

/-- Exactly `n` digits of base `b`, in lower case, that are read as `x`. -/
structure IsPadded (b n : Nat) (s : String) (x : Nat) : Prop where
  length : s.toList.length = n
  digits : ∀ c ∈ s.toList, c ∈ hexDigits.take b
  reads_iff : ∀ y, IsNumeral b s.toList y ↔ y = x

lemma isPadded_padded {b n x : Nat} (hb : 1 < b) (hb' : b ≤ 16) (hn : 0 < n) (hx : x < b ^ n) :
    IsPadded b n (String.ofList (padded b n x)) x := by
  have hvalue := isNumeral_padded (by omega : 0 < b) hn x
  rw [Nat.mod_eq_of_lt hx] at hvalue
  constructor
  case length => simp [padded]
  case digits =>
    rw [String.toList_ofList]
    intro c hc
    obtain ⟨d, hd, rfl⟩ := List.mem_map.1 hc
    have hlt : d < b := lt_of_mem_digits (by omega) hd
    have hall : ∀ b ≤ 16, ∀ d < b, d.digitChar ∈ hexDigits.take b := by decide
    exact hall b hb' d hlt
  case reads_iff =>
    intro y
    rw [String.toList_ofList]
    exact hvalue.iff_eq hb'

lemma isNumeral_toString_iff {m n : Nat} : IsNumeral 10 (toString n).toList m ↔ m = n := by
  rw [toList_toString]
  exact (isNumeral_decimal n).iff_eq (by omega)

lemma ofDigits_append_zeros (b : Nat) (ds : List Nat) (n : Nat) :
    ofDigits b (ds ++ List.replicate n 0) = ofDigits b ds * b ^ n := by
  induction n with
  | zero => simp
  | succ n ih =>
    rw [List.replicate_succ', ← List.append_assoc, ofDigits_concat, ih, Nat.add_zero,
      Nat.mul_assoc, Nat.pow_succ]

lemma ofDigits_ones (n : Nat) : ofDigits 2 (List.replicate n 1) + 1 = 2 ^ n := by
  induction n with
  | zero => rfl
  | succ n ih =>
    rw [List.replicate_succ', ofDigits_concat]
    omega

namespace IPAddr

variable {w : Nat}

/-- The mask in binary digits. -/
lemma toNat_mask (x : IPAddr w) :
    x.mask.toNat =
      ofDigits 2 (List.replicate x.prefixLen 1 ++ List.replicate (w - x.prefixLen) 0) := by
  have hones := ofDigits_ones x.prefixLen
  have hrest := toNat_not_mask x
  have hlt := x.mask.isLt
  have hwidth : 2 ^ x.prefixLen * 2 ^ (w - x.prefixLen) = 2 ^ w := by
    rw [← Nat.pow_add, Nat.add_sub_cancel' x.prefixLen_le]
  have hpos := Nat.two_pow_pos (w - x.prefixLen)
  rw [BitVec.toNat_not] at hrest
  rw [ofDigits_append_zeros]
  rw [← hones, Nat.add_mul] at hwidth
  omega

/-- A number of `w` bits has a hexadecimal digit for every four of them. -/
lemma isPadded_hex (hw : 8 ∣ w) (hpos : 0 < w) (v : BitVec w) :
    IsPadded 16 (w / 4) (String.ofList (padded 16 (w / 4) v.toNat)) v.toNat := by
  have hbits : 4 * (w / 4) = w := by omega
  have hlt := v.isLt
  apply isPadded_padded (by omega) (by omega) (by omega)
  calc v.toNat < 2 ^ w := hlt
    _ = 2 ^ (4 * (w / 4)) := by rw [hbits]
    _ = 16 ^ (w / 4) := Nat.pow_mul 2 4 (w / 4)

lemma isPadded_binary (hpos : 0 < w) (v : BitVec w) :
    IsPadded 2 w (String.ofList (padded 2 w v.toNat)) v.toNat :=
  isPadded_padded (by omega) (by omega) hpos v.isLt

lemma isPadded_maskHex (hw : 8 ∣ w) (hpos : 0 < w) (x : IPAddr w) :
    IsPadded 16 (w / 4) x.maskHex
      (ofDigits 2 (List.replicate x.prefixLen 1 ++ List.replicate (w - x.prefixLen) 0)) := by
  rw [← toNat_mask]
  exact isPadded_hex hw hpos x.mask

/-- The octets that a text shows in decimal, between blanks. -/
def readOctets? (cs : List Char) : Option (List Nat) :=
  (cs.splitOn ' ').mapM (readDecimal? 255)

lemma readOctets?_octetText (hw : 0 < w / 8) (x : IPAddr w) :
    readOctets? x.octetText.toList = some (digits 256 (w / 8) x.address.toNat) := by
  have hblank : ∀ part ∈ (digits 256 (w / 8) x.address.toNat).map decimal, ' ' ∉ part := by
    intro part hpart
    obtain ⟨d, -, rfl⟩ := List.mem_map.1 hpart
    exact notMem_decimal (by decide) d
  have hne : (digits 256 (w / 8) x.address.toNat).map decimal ≠ [] := by
    rw [← List.length_pos_iff, List.length_map, length_digits]
    exact hw
  rw [readOctets?, octetText, String.toList_ofList, List.splitOn_intercalate ' ' hblank hne,
    mapM_eq_some_iff, List.forall₂_map_left_iff, List.forall₂_same]
  intro d hd
  have hlt : d < 256 := lt_of_mem_digits (by omega) hd
  exact readDecimal?_decimal (by omega)

lemma exists_octets (hw : 8 ∣ w) (hpos : 0 < w) (x : IPAddr w) :
    ∃ os, readOctets? x.octetText.toList = some os ∧ os.length = w / 8 ∧
      ofDigits 256 os = x.address.toNat := by
  have hbits : 8 * (w / 8) = w := by omega
  have hlt : x.address.toNat < 256 ^ (w / 8) := by
    calc x.address.toNat < 2 ^ w := x.address.isLt
      _ = 2 ^ (8 * (w / 8)) := by rw [hbits]
      _ = 256 ^ (w / 8) := Nat.pow_mul 2 8 (w / 8)
  refine ⟨_, readOctets?_octetText (by omega) x, length_digits 256 (w / 8) x.address.toNat, ?_⟩
  rw [ofDigits_digits]
  exact Nat.mod_eq_of_lt hlt

/-- The views of an address, which `ip` makes a socket address, where `first` and `last` are the
usable addresses of its network and `integer` is the attribute that shows it as a number: the
numerals are read as the number of its bits and the texts as the addresses they show. -/
structure HasViews (ip : IPAddr w → SocketAddress) (first last : IPAddr w → IPAddr w)
    (integer : String) (x : IPAddr w) : Prop where
  hex : IsPadded 16 (w / 4) ((ip x).view "hex") x.address.toNat
  binary : IsPadded 2 w ((ip x).view "binary") x.address.toNat
  integer : ∀ n, IsNumeral 10 ((ip x).view integer).toList n ↔ n = x.address.toNat
  octets : ∃ os, readOctets? ((ip x).view "octets").toList = some os ∧ os.length = w / 8 ∧
    ofDigits 256 os = x.address.toNat
  netmask : IsPadded 16 (w / 4) ((ip x).view "netmask")
    (ofDigits 2 (List.replicate x.prefixLen 1 ++ List.replicate (w - x.prefixLen) 0))
  address : SocketAddress.parseIP ((ip x).view "address") = .ok (ip (bare x.address))
  host : SocketAddress.parseIP ((ip x).view "host") = .ok (ip x.host)
  network : SocketAddress.parseIP ((ip x).view "network") = .ok (ip x.network)
  firstUsable : SocketAddress.parseIP ((ip x).view "first_usable") = .ok (ip (first x))
  lastUsable : SocketAddress.parseIP ((ip x).view "last_usable") = .ok (ip (last x))

/-- What the families share: their usable addresses have no port. -/
lemma hasViews [IPFamily w] {ip : IPAddr w → SocketAddress} (hip : IPFamily.IsKind ip)
    {integer : String} {x : IPAddr w} (hinteger : (ip x).view integer = toString x.address.toNat)
    (hfirst : (IPFamily.firstUsable x).port = 0) (hlast : (IPFamily.lastUsable x).port = 0) :
    x.HasViews ip IPFamily.firstUsable IPFamily.lastUsable integer := by
  have hview {name s : String} (hlower : name.toLower = name) (h : x.sharedView? name = some s) :
      (ip x).view name = s := SocketAddress.view_eq hlower (hip.kindView?_eq h)
  constructor
  case hex =>
    rw [hview (by decide +kernel) rfl]
    exact isPadded_hex hip.byte_dvd hip.pos x.address
  case binary =>
    rw [hview (by decide +kernel) rfl]
    exact isPadded_binary hip.pos x.address
  case integer =>
    rw [hinteger]
    exact fun _ => isNumeral_toString_iff
  case octets =>
    rw [hview (by decide +kernel) rfl]
    exact x.exists_octets hip.byte_dvd hip.pos
  case netmask =>
    rw [hview (by decide +kernel) rfl]
    exact x.isPadded_maskHex hip.byte_dvd hip.pos
  case address =>
    rw [hview (by decide +kernel) rfl, hip.plainText_eq]
    exact hip.parseIP_text (written_of_port rfl)
  case host =>
    rw [hview (by decide +kernel) rfl]
    exact hip.parseIP_text (written_endpoint x.address x.port)
  case network =>
    rw [hview (by decide +kernel) rfl]
    exact hip.parseIP_text (written_of_port rfl)
  case firstUsable =>
    rw [hview (by decide +kernel) rfl]
    exact hip.parseIP_text (written_of_port hfirst)
  case lastUsable =>
    rw [hview (by decide +kernel) rfl]
    exact hip.parseIP_text (written_of_port hlast)

end IPAddr

/-- The views of every address of either family decode to what they show, the broadcast address of
an IPv4 network among them. -/
theorem views_decode :
    (∀ x : IPv4, x.HasViews .ipv4 IPv4.firstUsable IPv4.lastUsable "uint32" ∧
      SocketAddress.parseIP ((SocketAddress.ipv4 x).view "broadcast") =
        .ok (.ipv4 (IPAddr.bare x.lastAddress))) ∧
    (∀ x : IPv6, x.HasViews .ipv6 IPv6.firstUsable IPv6.lastUsable "uint128") := by
  constructor
  · intro x
    have hinteger : (SocketAddress.ipv4 x).view "uint32" = toString x.address.toNat :=
      SocketAddress.view_eq (by decide +kernel) rfl
    have hbroadcast : (SocketAddress.ipv4 x).view "broadcast" =
        IPv4.text (IPAddr.bare x.lastAddress) := SocketAddress.view_eq (by decide +kernel) rfl
    rw [hbroadcast]
    exact ⟨IPAddr.hasViews IPv4.isKind hinteger rfl rfl,
      IPv4.isKind.parseIP_text (IPAddr.written_of_port rfl)⟩
  · intro x
    have hinteger : (SocketAddress.ipv6 x).view "uint128" = toString x.address.toNat :=
      SocketAddress.view_eq (by decide +kernel) rfl
    exact IPAddr.hasViews IPv6.isKind hinteger rfl rfl

/-- The network of all addresses has a mask of zeros, and all its digits are shown. -/
example :
    let x : IPv4 := IPAddr.ofParts 0x00000a01 0 80
    let view (name : String) := (SocketAddress.ipv4 x).view name
    (view "netmask", view "hex", view "octets", view "host") =
      ("00000000", "00000a01", "0 0 10 1", "0.0.10.1:80") := by
  decide +kernel

end HostAddr
