import HostAddr.Proofs.AttributeNames
import HostAddr.Proofs.FilterReading
import HostAddr.Proofs.NestedNetworks
import HostAddr.Proofs.RecordSort

/-!
# Addresses of the default interface

The private and the public addresses of the default interface are its IP addresses, split by the
networks of RFC 6890 and put in order, and nothing else.
-/

namespace HostAddr

namespace SocketAddress

/-- No address lies in a network of the other family. -/
def LiesIn : SocketAddress → SocketAddress → Prop
  | ipv4 a, ipv4 net => a.LiesIn net
  | ipv6 a, ipv6 net => a.LiesIn net
  | _, _ => False

lemma contains_iff_liesIn {net a : SocketAddress} (hnet : net.isIP = true) :
    net.contains a = true ↔ a.LiesIn net := by
  cases net with
  | unix p => cases hnet
  | ipv4 net =>
    cases a with
    | ipv4 a => exact IPAddr.contains_iff_liesIn
    | _ => simp [contains, LiesIn]
  | ipv6 net =>
    cases a with
    | ipv6 a => exact IPAddr.contains_iff_liesIn
    | _ => simp [contains, LiesIn]

/-- Private addresses lie in a network of RFC 6890. -/
def IsPrivate (a : SocketAddress) : Prop :=
  ∃ nets, Registry.networks? 6890 = some nets ∧ ∃ net ∈ nets, a.LiesIn net

lemma holds_iff_isPrivate {a : SocketAddress} :
    Registry.holds Registry.privateRfc a = true ↔ a.IsPrivate := by
  obtain ⟨nets, hnets, hip⟩ :
      ∃ nets, Registry.networks? 6890 = some nets ∧ ∀ net ∈ nets, net.isIP = true :=
    ⟨_, rfl, by decide⟩
  rw [Registry.holds, Registry.privateRfc, hnets, Option.getD_some, List.any_eq_true, IsPrivate]
  constructor
  · rintro ⟨net, hmem, ha⟩
    exact ⟨nets, hnets, net, hmem, (contains_iff_liesIn (hip net hmem)).1 ha⟩
  · rintro ⟨nets', hnets', net, hmem, ha⟩
    obtain rfl : nets = nets' := Option.some.inj (hnets.symm.trans hnets')
    exact ⟨net, hmem, (contains_iff_liesIn (hip net hmem)).2 ha⟩

instance : DecidablePred IsPrivate := fun _ =>
  decidable_of_iff _ holds_iff_isPrivate

end SocketAddress

variable {engine : PatternEngine}

lemma includeBy_private (rs : List Record) :
    includeBy engine "rfc" (toString Registry.privateRfc) rs =
      .ok (rs.filter (·.address.IsPrivate)) := by
  rw [includeBy_rfc (by decide) rfl]
  refine congrArg Except.ok (List.filter_congr fun r _ => ?_)
  rw [Bool.eq_iff_iff, decide_eq_true_iff, SocketAddress.holds_iff_isPrivate]

lemma excludeBy_private (rs : List Record) :
    excludeBy engine "rfc" (toString Registry.privateRfc) rs =
      .ok (rs.filter (¬·.address.IsPrivate)) := by
  rw [excludeBy_rfc (by decide) rfl]
  refine congrArg Except.ok (List.filter_congr fun r _ => ?_)
  rw [Bool.eq_iff_iff, decide_eq_true_iff, Bool.not_eq_true', ← Bool.not_eq_true,
    SocketAddress.holds_iff_isPrivate]

/-- IPv4 addresses come before IPv6 addresses, and shorter prefixes first within a family. -/
def SocketAddress.compareNetworks : SocketAddress → SocketAddress → Ordering
  | ipv4 a, ipv4 b => compare a.prefixLen b.prefixLen
  | ipv6 a, ipv6 b => compare a.prefixLen b.prefixLen
  | ipv4 _, ipv6 _ => .lt
  | ipv6 _, ipv4 _ => .gt
  | _, _ => .eq

def Record.compareNetworks (r s : Record) : Ordering :=
  r.address.compareNetworks s.address

section

variable {rs : List Record}

lemma compare_type_size {r s : Record} (hr : r.address.isIP) (hs : s.address.isIP) :
    r.compareNetworks s = SortSpec.compare [⟨.type, false⟩, ⟨.size, false⟩] r s := by
  obtain ⟨a, i⟩ := r
  obtain ⟨b, j⟩ := s
  cases a with
  | unix p => cases hr
  | ipv4 a =>
    cases b with
    | unix p => cases hs
    | ipv4 b => rfl
    | ipv6 b => rfl
  | ipv6 a =>
    cases b with
    | unix p => cases hs
    | ipv4 b => rfl
    | ipv6 b => rfl

lemma preorderOn_type_size :
    PreorderOn (· ∈ rs) (SortSpec.compare [⟨.type, false⟩, ⟨.size, false⟩]) :=
  SortSpec.preorderOn_mem (.inr (.inr (by decide)))

lemma preorderOn_compareNetworks (hrs : ∀ r ∈ rs, r.address.isIP) :
    PreorderOn (· ∈ rs) Record.compareNetworks :=
  preorderOn_type_size.congr fun r s hr hs => compare_type_size (hrs r hr) (hrs s hs)

lemma sortBy_type_size (sorter : Sorter) (hrs : ∀ r ∈ rs, r.address.isIP) :
    ∃ sorted, sortBy sorter "type,size" rs = .ok sorted ∧
      IsStableSort Record.compareNetworks rs sorted := by
  have hspec : SortSpec.parse "type,size" = .ok [⟨.type, false⟩, ⟨.size, false⟩] := by
    decide +kernel
  refine ⟨_, SortSpec.sortBy_eq_ok sorter hspec preorderOn_type_size, ?_⟩
  exact (SortSpec.isStableSort_sorted preorderOn_type_size).congr fun r hr s hs =>
    compare_type_size (hrs r hr) (hrs s hs)

end

/-- The address alone, without its prefix and port. -/
def SocketAddress.bareText : SocketAddress → String
  | ipv4 a => IPv4.text (IPAddr.bare a.address)
  | ipv6 a => IPv6.text (IPAddr.bare a.address)
  | unix _ => ""

lemma Record.view_address (r : Record) : r.view "address" = r.address.bareText := by
  have hlower : "address".toLower = "address" := by decide +kernel
  rw [r.view_of_ne (by rw [hlower]; decide) (by rw [hlower]; decide)]
  cases r.address with
  | unix p =>
    rw [SocketAddress.view, hlower]
    rfl
  | ipv4 a => exact (SocketAddress.view_eq hlower rfl).trans (IPv4.isKind.plainText_eq a)
  | ipv6 a => exact (SocketAddress.view_eq hlower rfl).trans (IPv6.isKind.plainText_eq a)

lemma joinBy_address (separator : String) (rs : List Record) :
    joinBy "address" separator rs =
      .ok (separator.intercalate (rs.map (·.address.bareText))) := by
  rw [joinBy_of_isKnown (by decide +kernel)]
  exact congrArg (fun texts => Except.ok (separator.intercalate texts))
    (List.map_congr_left fun r _ => r.view_address)

namespace Host

lemma firstAddress_eq (rs : List Record) :
    firstAddress rs = (rs.head?.map (·.address.bareText)).getD "" := by
  cases rs with
  | nil => rfl
  | cons r rs => exact r.view_address

/-- The IP addresses of the interface of that name, in the order of the listing. -/
def ipRecords (name : String) (all : List Record) : List Record :=
  all.filter fun r => r.interface.name = name ∧ r.address.isIP

lemma isIP_of_mem_ipRecords {name : String} {all : List Record} :
    ∀ r ∈ ipRecords name all, r.address.isIP := by
  intro r hr
  have hboth : r.interface.name = name ∧ r.address.isIP := by
    simpa using (List.mem_filter.1 hr).2
  exact hboth.2

lemma defaultIPs_eq_ok {h : Host} {name : String} {all : List Record}
    (hname : h.defaultName = .ok name) (hall : h.listing = .ok all) :
    ∃ ips, h.defaultIPs = .ok ips ∧
      IsStableSort Record.compareNetworks (ipRecords name all) ips := by
  have hips : (all.filter fun r => r.interface.name == name).filter (·.address.isIP) =
      ipRecords name all := by
    rw [List.filter_filter, ipRecords]
    refine List.filter_congr fun r _ => ?_
    rw [Bool.eq_iff_iff]
    simp [and_comm]
  have hall_ip : ∀ r ∈ ipRecords name all, r.address.isIP := isIP_of_mem_ipRecords
  obtain ⟨ips, hsort, hstable⟩ := sortBy_type_size h.sorter hall_ip
  refine ⟨ips, ?_, hstable⟩
  simp only [defaultIPs, defaultInterfaces, hname, hall, ok_bind, pure, Except.pure,
    includeBy_ip, hips, hsort]

lemma defaultIPs_eq_error {h : Host} {e : Error}
    (he : h.defaultName = .error e ∨ (∃ name, h.defaultName = .ok name) ∧ h.listing = .error e) :
    h.defaultIPs = .error e := by
  rcases he with hname | ⟨⟨name, hname⟩, hall⟩
  · simp only [defaultIPs, defaultInterfaces, hname, error_bind]
  · simp only [defaultIPs, defaultInterfaces, hname, hall, ok_bind, error_bind]

section

variable {selected : Except Error (List Record)} {rs : List Record} {e : Error}

/-- The texts of records that were selected. -/
lemma texts_eq_ok (h : selected = .ok rs) :
    selected.map firstAddress = .ok ((rs.head?.map (·.address.bareText)).getD "") ∧
      selected >>= joinBy "address" " " =
        .ok (" ".intercalate (rs.map (·.address.bareText))) := by
  subst h
  exact ⟨congrArg Except.ok (firstAddress_eq rs), joinBy_address " " rs⟩

lemma texts_eq_error (h : selected = .error e) :
    selected.map firstAddress = .error e ∧ selected >>= joinBy "address" " " = .error e := by
  subst h
  exact ⟨rfl, rfl⟩

end

/-- The private and the public interfaces share out the IP addresses of the default interface, both
in order, and their texts are the bare addresses. Without a listing or a default name all of them
fail alike. -/
theorem defaultAddresses_split (h : Host) :
    (∀ name all, h.defaultName = .ok name → h.listing = .ok all →
      ∃ priv pub, h.privateInterfaces = .ok priv ∧ h.publicInterfaces = .ok pub ∧
        (priv ++ pub).Perm (ipRecords name all) ∧
        IsStableSort Record.compareNetworks
          ((ipRecords name all).filter (·.address.IsPrivate)) priv ∧
        IsStableSort Record.compareNetworks
          ((ipRecords name all).filter (¬·.address.IsPrivate)) pub ∧
        h.privateIP = .ok ((priv.head?.map (·.address.bareText)).getD "") ∧
        h.publicIP = .ok ((pub.head?.map (·.address.bareText)).getD "") ∧
        h.privateIPs = .ok (" ".intercalate (priv.map (·.address.bareText))) ∧
        h.publicIPs = .ok (" ".intercalate (pub.map (·.address.bareText)))) ∧
    (∀ e, (h.defaultName = .error e ∨ (∃ name, h.defaultName = .ok name) ∧ h.listing = .error e) →
      h.privateInterfaces = .error e ∧ h.publicInterfaces = .error e ∧
        h.privateIP = .error e ∧ h.publicIP = .error e ∧
        h.privateIPs = .error e ∧ h.publicIPs = .error e) := by
  constructor
  · intro name all hname hall
    obtain ⟨ips, hips, hstable⟩ := defaultIPs_eq_ok hname hall
    have hpriv : h.privateInterfaces = .ok (ips.filter (·.address.IsPrivate)) := by
      rw [privateInterfaces, hips, ok_bind, includeBy_private]
    have hpub : h.publicInterfaces = .ok (ips.filter (¬·.address.IsPrivate)) := by
      rw [publicInterfaces, hips, ok_bind, excludeBy_private]
    have hperm : (ips.filter (·.address.IsPrivate) ++ ips.filter (¬·.address.IsPrivate)).Perm
        (ipRecords name all) := by
      simp only [decide_not]
      exact (List.filter_append_perm _ ips).trans hstable.perm
    obtain ⟨hprivIP, hprivIPs⟩ := texts_eq_ok hpriv
    obtain ⟨hpubIP, hpubIPs⟩ := texts_eq_ok hpub
    exact ⟨_, _, hpriv, hpub, hperm, hstable.filter _, hstable.filter _, hprivIP, hpubIP, hprivIPs,
      hpubIPs⟩
  · intro e he
    have hips : h.defaultIPs = .error e := defaultIPs_eq_error he
    have hpriv : h.privateInterfaces = .error e := by
      rw [privateInterfaces, hips, error_bind]
    have hpub : h.publicInterfaces = .error e := by
      rw [publicInterfaces, hips, error_bind]
    obtain ⟨hprivIP, hprivIPs⟩ := texts_eq_error hpriv
    obtain ⟨hpubIP, hpubIPs⟩ := texts_eq_error hpub
    exact ⟨hpriv, hpub, hprivIP, hpubIP, hprivIPs, hpubIPs⟩

open Registry (v4 v6)

def loopback : Interface :=
  ⟨1, "lo0", 0, .ofBits 5, none⟩

def wired : Interface :=
  ⟨2, "en0", 1500, .ofBits 3, none⟩

/-- A host whose default interface has addresses of every kind. -/
def mixed : Host where
  listing := .ok [⟨v4 127 0 0 1 8, loopback⟩, ⟨v6 [0x2001, 0x4860, 5] 64, wired⟩,
    ⟨v4 192 168 1 10 24, wired⟩, ⟨.unix ⟨"/run/a", by decide⟩, wired⟩, ⟨v4 10 0 0 5 8, wired⟩,
    ⟨v4 8 8 4 4 24, wired⟩, ⟨v6 [0xfe80, 1] 64, wired⟩, ⟨v4 192 168 1 9 24, wired⟩]
  defaultName := .ok "en0"
  engine := Regex.engine
  sorter := .merging

theorem defaultAddresses_split_mixed :
    mixed.privateInterfaces = .ok [⟨v4 10 0 0 5 8, wired⟩, ⟨v4 192 168 1 10 24, wired⟩,
      ⟨v4 192 168 1 9 24, wired⟩, ⟨v6 [0xfe80, 1] 64, wired⟩] ∧
    mixed.privateIP = .ok "10.0.0.5" ∧
    mixed.publicIPs = .ok "8.8.4.4 2001:4860:5::" ∧
    Host.empty.publicIPs = .error noDefaultRoute := by
  obtain ⟨priv, pub, hpriv, -, -, hprivSort, hpubSort, hprivIP, -, -, hpubIPs⟩ :=
    (defaultAddresses_split mixed).1 "en0" _ rfl rfl
  have hprivEq : priv = [⟨v4 10 0 0 5 8, wired⟩, ⟨v4 192 168 1 10 24, wired⟩,
      ⟨v4 192 168 1 9 24, wired⟩, ⟨v6 [0xfe80, 1] 64, wired⟩] :=
    hprivSort.unique (preorderOn_compareNetworks (by decide +kernel))
      ⟨by decide +kernel, by decide +kernel, by decide +kernel⟩
  have hpubEq : pub = [⟨v4 8 8 4 4 24, wired⟩, ⟨v6 [0x2001, 0x4860, 5] 64, wired⟩] :=
    hpubSort.unique (preorderOn_compareNetworks (by decide +kernel))
      ⟨by decide +kernel, by decide +kernel, by decide +kernel⟩
  subst hprivEq hpubEq
  have hfail := (defaultAddresses_split Host.empty).2 noDefaultRoute (.inl rfl)
  exact ⟨hpriv, hprivIP.trans (by decide +kernel), hpubIPs.trans (by decide +kernel),
    hfail.2.2.2.2.2⟩

end Host

end HostAddr
