import HostAddr.Proofs.FilterReading
import HostAddr.Runtime

/-!
# Ways to classify an address

The special-purpose networks of an RFC are asked for in three ways: by the RFCs of an address, by
a filter on the number of the RFC, and by a filter on the texts of its networks. The three agree,
and whether an address is forwarded is a filter on networks as well. What they say of an address
depends on its kind and its bits alone.
-/

namespace HostAddr

variable {engine : PatternEngine}

namespace Registry

variable {n : Nat} {nets : List SocketAddress} {a : SocketAddress}

lemma pairwise_specialNetworks : specialNetworks.Pairwise fun e f => e.1 < f.1 := by
  decide

/-- Each entry can be written as the parameter of a filter. -/
lemma specialNetworks_written (h : (n, nets) ∈ specialNetworks) :
    n ≤ 4294967295 ∧ nets ≠ [] ∧ ∀ net ∈ nets, net.port? = some 0 := by
  have hall : ∀ e ∈ specialNetworks,
      e.1 ≤ 4294967295 ∧ e.2 ≠ [] ∧ ∀ net ∈ e.2, net.port? = some 0 := by decide
  exact hall (n, nets) h

lemma networks?_eq_some_iff : networks? n = some nets ↔ (n, nets) ∈ specialNetworks := by
  rw [networks?, List.lookup_eq_some_iff]
  constructor
  · rintro ⟨before, after, htable, -⟩
    rw [htable]
    exact List.mem_append_right before List.mem_cons_self
  · intro hmem
    obtain ⟨before, after, htable⟩ := List.append_of_mem hmem
    have hsorted := pairwise_specialNetworks
    rw [htable, List.pairwise_append] at hsorted
    refine ⟨before, after, htable, fun e he => ?_⟩
    have hlt := hsorted.2.2 e he (n, nets) List.mem_cons_self
    simp only [bne_iff_ne]
    omega

lemma networks?_eq_none_iff : networks? n = none ↔ n ∉ specialNetworks.map Prod.fst := by
  rw [networks?, List.lookup_eq_none_iff, List.mem_map]
  constructor
  · rintro h ⟨e, he, rfl⟩
    exact bne_iff_ne.1 (h e he) rfl
  · intro h e he
    refine bne_iff_ne.2 ?_
    rintro rfl
    exact h ⟨e, he, rfl⟩

theorem pairwise_rfcsOf (a : SocketAddress) : (rfcsOf a).Pairwise (· < ·) := by
  rw [rfcsOf, List.pairwise_map]
  exact pairwise_specialNetworks.filter _

lemma mem_rfcsOf_iff :
    n ∈ rfcsOf a ↔ ∃ nets, networks? n = some nets ∧ nets.any (·.contains a) := by
  simp only [networks?_eq_some_iff, rfcsOf, List.mem_map, List.mem_filter]
  constructor
  · rintro ⟨⟨m, nets⟩, ⟨hmem, ha⟩, rfl⟩
    exact ⟨nets, hmem, ha⟩
  · rintro ⟨nets, hmem, ha⟩
    exact ⟨(n, nets), ⟨hmem, ha⟩, rfl⟩

lemma holds_iff_mem_rfcsOf : holds n a = true ↔ n ∈ rfcsOf a := by
  rw [holds, mem_rfcsOf_iff]
  cases networks? n <;> simp

theorem isIn_eq_true_iff : isIn n a = .ok true ↔ n ∈ rfcsOf a := by
  rw [isIn, mem_rfcsOf_iff]
  cases networks? n <;> simp

theorem isIn_eq_error_iff {e : Error} :
    isIn n a = .error e ↔ e = .unknownRfc n ∧ n ∉ specialNetworks.map Prod.fst := by
  rw [isIn, ← networks?_eq_none_iff]
  cases networks? n <;> simp [eq_comm]

end Registry

section

variable {n : Nat} {nets : List SocketAddress}

theorem includeBy_rfcsOf (h : (n, nets) ∈ Registry.specialNetworks) (rs : List Record) :
    includeBy engine "rfc" (toString n) rs = .ok (rs.filter (n ∈ Registry.rfcsOf ·.address)) := by
  have hnets := Registry.networks?_eq_some_iff.2 h
  have hn := (Registry.specialNetworks_written h).1
  rw [includeBy_rfc hn (by rw [hnets]; rfl)]
  refine congrArg Except.ok (List.filter_congr fun r _ => ?_)
  rw [Bool.eq_iff_iff, decide_eq_true_iff, Registry.holds_iff_mem_rfcsOf]

theorem includeBy_network_rfcsOf (h : (n, nets) ∈ Registry.specialNetworks) (rs : List Record) :
    includeBy engine "network" (networkParam nets) rs =
      .ok (rs.filter (n ∈ Registry.rfcsOf ·.address)) := by
  have hnets := Registry.networks?_eq_some_iff.2 h
  obtain ⟨-, hne, hports⟩ := Registry.specialNetworks_written h
  rw [includeBy_network hne hports]
  refine congrArg Except.ok (List.filter_congr fun r _ => ?_)
  rw [Bool.eq_iff_iff, decide_eq_true_iff, Registry.mem_rfcsOf_iff, hnets]
  simp

/-- The forwarded addresses are the IP addresses in no network of the list. -/
theorem excludeBy_unforwarded (rs : List Record) :
    (includeBy engine "type" "ip" rs >>=
      excludeBy engine "network" (networkParam Registry.unforwardedNetworks)) =
      .ok (rs.filter (Registry.isForwardable ·.address)) := by
  have hne : Registry.unforwardedNetworks ≠ [] := List.cons_ne_nil _ _
  have hports : ∀ net ∈ Registry.unforwardedNetworks, net.port? = some 0 := by decide
  rw [includeBy_ip, ok_bind, excludeBy_network hne hports, List.filter_filter]
  refine congrArg Except.ok (List.filter_congr fun r _ => ?_)
  rw [Registry.isForwardable, Bool.and_comm]

end

namespace SocketAddress

/-- The kind and the bits of an address, or its path. -/
def bare : SocketAddress → SocketAddress
  | ipv4 a => ipv4 (IPAddr.bare a.address)
  | ipv6 a => ipv6 (IPAddr.bare a.address)
  | unix p => unix p

variable {a : SocketAddress}

lemma contains_bare (net : SocketAddress) : net.contains a.bare = net.contains a := by
  cases net <;> cases a <;> rfl

lemma isIP_bare : a.bare.isIP = a.isIP := by
  cases a <;> rfl

end SocketAddress

namespace Registry

variable {a : SocketAddress}

lemma rfcsOf_bare : rfcsOf a.bare = rfcsOf a := by
  simp only [rfcsOf, SocketAddress.contains_bare]

lemma isIn_bare (n : Nat) : isIn n a.bare = isIn n a := by
  simp only [isIn, SocketAddress.contains_bare]

lemma holds_bare (n : Nat) : holds n a.bare = holds n a := by
  simp only [holds, SocketAddress.contains_bare]

lemma isForwardable_bare : isForwardable a.bare = isForwardable a := by
  simp only [isForwardable, SocketAddress.contains_bare, SocketAddress.isIP_bare]

end Registry

def Record.bare (r : Record) : Record :=
  { r with address := r.address.bare }

lemma Flag.holds_bare (flag : Flag) (r : Record) : flag.holds r.bare = flag.holds r := by
  obtain ⟨a, i⟩ := r
  cases flag with
  | forwardable => exact Registry.isForwardable_bare
  | _ => cases a <;> rfl

lemma TypeFilter.holds_bare (t : TypeFilter) (a : SocketAddress) : t.holds a.bare = t.holds a := by
  cases a <;> rfl

/-- The filters that look at no prefix length and no port. -/
def Selector.seesBareOnly : Selector → Bool
  | rfc | network | flag | type => true
  | address | name | port | size => false

namespace Filter

variable {s : Selector} {param : String} {f : Filter}

lemma holds_bare (hs : s.seesBareOnly) (hf : compile engine s param = .ok f) (r : Record) :
    f.holds r.bare = f.holds r ∧ f.refusal? r = none := by
  cases s with
  | address | name | port | size => cases hs
  | rfc =>
    obtain ⟨numbers, -, rfl⟩ := map_eq_ok_iff.1 hf
    simp [holds, refusal?, Record.bare, Registry.holds_bare]
  | network =>
    obtain ⟨nets, -, rfl⟩ := map_eq_ok_iff.1 hf
    simp [holds, refusal?, Record.bare, SocketAddress.contains_bare]
  | flag =>
    obtain ⟨flags, -, rfl⟩ := map_eq_ok_iff.1 hf
    simp [holds, refusal?, Flag.holds_bare]
  | type =>
    obtain ⟨kinds, -, rfl⟩ := map_eq_ok_iff.1 hf
    simp [holds, refusal?, Record.bare, TypeFilter.holds_bare]

end Filter

/-- Such a filter splits records as it splits them without prefix lengths and ports. -/
theorem partitionBy_bare {selector : String} {s : Selector} (hs : Selector.parse selector = .ok s)
    (hbare : s.seesBareOnly) (param : String) (rs : List Record) :
    partitionBy engine selector param (rs.map Record.bare) =
      (partitionBy engine selector param rs).map
        fun (met, others) => (met.map Record.bare, others.map Record.bare) := by
  cases hf : Filter.compile engine s param with
  | error e =>
    rw [partitionBy_eq_error hs hf, partitionBy_eq_error hs hf]
    rfl
  | ok f =>
    have hholds : f.holds ∘ Record.bare = f.holds :=
      funext fun r => (Filter.holds_bare hbare hf r).1
    have hothers : (fun r => !f.holds r) ∘ Record.bare = fun r => !f.holds r :=
      funext fun r => congrArg _ (Filter.holds_bare hbare hf r).1
    rw [partitionBy_eq_ok hs hf fun r _ => (Filter.holds_bare hbare hf r).2,
      partitionBy_eq_ok hs hf fun r _ => (Filter.holds_bare hbare hf r).2,
      List.filter_map, List.filter_map, hholds, hothers]
    rfl

/-- The RFCs of an address, the filter on the number of an RFC and the filter on its networks agree,
as do the filter on forwarded addresses and the one on the networks that are not forwarded. None of
them tells addresses of one kind and the same bits apart. -/
theorem classifiers_agree (engine : PatternEngine) :
    (∀ n nets, (n, nets) ∈ Registry.specialNetworks → ∀ rs,
      includeBy engine "rfc" (toString n) rs = .ok (rs.filter (n ∈ Registry.rfcsOf ·.address)) ∧
      includeBy engine "rfc" (toString n) rs = includeBy engine "network" (networkParam nets) rs) ∧
    (∀ rs, includeBy engine "flag" "forwardable" rs =
        .ok (rs.filter (Registry.isForwardable ·.address)) ∧
      includeBy engine "flag" "forwardable" rs =
        (includeBy engine "type" "ip" rs >>=
          excludeBy engine "network" (networkParam Registry.unforwardedNetworks))) ∧
    (∀ a, (Registry.rfcsOf a).Pairwise (· < ·) ∧
      ∀ n, (n ∈ Registry.rfcsOf a ↔ Registry.isIn n a = .ok true) ∧
        ∀ e, Registry.isIn n a = .error e ↔
          e = .unknownRfc n ∧ n ∉ Registry.specialNetworks.map Prod.fst) ∧
    (∀ a b : SocketAddress, a.bare = b.bare → Registry.rfcsOf a = Registry.rfcsOf b ∧
      Registry.isForwardable a = Registry.isForwardable b ∧
      ∀ n, Registry.isIn n a = Registry.isIn n b) ∧
    (∀ selector s, Selector.parse selector = .ok s → s.seesBareOnly → ∀ param rs,
      partitionBy engine selector param (rs.map Record.bare) =
        (partitionBy engine selector param rs).map
          fun (met, others) => (met.map Record.bare, others.map Record.bare)) := by
  refine ⟨fun n nets h rs => ?_, fun rs => ?_, fun a => ⟨Registry.pairwise_rfcsOf a, fun n => ?_⟩,
    fun a b hab => ?_, fun selector s hs hbare => partitionBy_bare hs hbare⟩
  · rw [includeBy_network_rfcsOf h]
    exact ⟨includeBy_rfcsOf h rs, includeBy_rfcsOf h rs⟩
  · rw [excludeBy_unforwarded]
    exact ⟨includeBy_forwardable rs, includeBy_forwardable rs⟩
  · exact ⟨Registry.isIn_eq_true_iff.symm, fun e => Registry.isIn_eq_error_iff⟩
  · refine ⟨?_, ?_, fun n => ?_⟩
    · rw [← Registry.rfcsOf_bare, hab, Registry.rfcsOf_bare]
    · rw [← Registry.isForwardable_bare, hab, Registry.isForwardable_bare]
    · rw [← Registry.isIn_bare, hab, Registry.isIn_bare]

/-- Private addresses among addresses of each kind, with a prefix length, a port or neither. -/
theorem classifiers_agree_private :
    let engine := Regex.engine
    ∃ (nets : List SocketAddress) (rs : List Record), (1918, nets) ∈ Registry.specialNetworks ∧
      networkParam nets = "10.0.0.0/8|172.16.0.0/12|192.168.0.0/16" ∧
      rs.map (·.address.text) =
        ["10.1.2.3/8", "[fc00::1]:53", "192.168.0.1:80", "8.8.8.8", "\"/run/bus\""] ∧
      includeBy engine "rfc" "1918" rs = includeBy engine "network" (networkParam nets) rs ∧
      (includeBy engine "rfc" "1918" rs).map (·.map (·.address.text)) =
        .ok ["10.1.2.3/8", "192.168.0.1:80"] ∧
      (partitionBy engine " RFCs" "1918|3927" (rs.map Record.bare)).map (·.1.map (·.address.text)) =
        .ok ["10.1.2.3", "192.168.0.1"] ∧
      ∀ a ∈ rs.map Record.address, Registry.isForwardable a.bare = Registry.isForwardable a := by
  intro engine
  obtain ⟨hrfc, -, -, hkind, hfilter⟩ := classifiers_agree engine
  let i : Interface := ⟨1, "en0", 1500, .ofBits 1, none⟩
  let rs : List Record := [⟨.ipv4 (IPAddr.ofParts 0x0a010203 8 0), i⟩,
    ⟨.ipv6 ((IPAddr.bare 0xfc000000000000000000000000000001).withPort 53), i⟩,
    ⟨.ipv4 ((IPAddr.bare 0xc0a80001).withPort 80), i⟩, ⟨.ipv4 (IPAddr.bare 0x08080808), i⟩,
    ⟨.unix ⟨"/run/bus", by decide⟩, i⟩]
  have hmem : (1918, [Registry.v4 10 0 0 0 8, Registry.v4 172 16 0 0 12,
      Registry.v4 192 168 0 0 16]) ∈ Registry.specialNetworks := by decide
  have hselector : Selector.parse " RFCs" = .ok .rfc := by decide +kernel
  obtain ⟨hfilterRfc, hagree⟩ := hrfc _ _ hmem rs
  have hincluded : includeBy engine "rfc" "1918" rs =
    .ok (rs.filter (1918 ∈ Registry.rfcsOf ·.address)) := hfilterRfc
  refine ⟨_, rs, hmem, by decide +kernel, by decide +kernel, hagree, ?_, ?_, fun a _ => ?_⟩
  · rw [hincluded]
    decide +kernel
  · rw [hfilter _ _ hselector rfl]
    decide +kernel
  · exact (hkind a.bare a (by cases a <;> rfl)).2.1

end HostAddr
