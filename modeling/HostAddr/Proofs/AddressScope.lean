import HostAddr.Address.Scope
import HostAddr.Proofs.NestedNetworks
import HostAddr.Registry

/-!
# The networks of a scope

The tests of the scope of an address, which mask its first bits, are the networks that the scope
is documented by. Only the two multicast scopes of IPv6 hold more: they leave the four flag bits
out of the test.
-/

namespace HostAddr

open Registry (v4 v6)

/-- A test of the bits above the lowest `k` is a test for a block of addresses. -/
lemma and_beq_iff {w k : Nat} {x m v : BitVec w} (hm : m = BitVec.allOnes w <<< k)
    (hv : v &&& m = v) : (x &&& m == v) = true ↔ x.toNat / 2 ^ k = v.toNat / 2 ^ k := by
  rw [beq_iff_eq, ← IPAddr.and_allOnes_shiftLeft_eq_iff, ← hm, hv]

namespace IPAddr

variable {w : Nat} {net : BitVec w} {x : IPAddr w}

lemma contains_ofParts_iff {p n : Nat} (hp : p ≤ w) (hn : net.toNat / 2 ^ (w - p) = n) :
    (ofParts net p 0).contains x = true ↔ x.address.toNat / 2 ^ (w - p) = n := by
  rw [ofParts, dif_pos hp, contains_iff_div, ← hn]

/-- The network of a full prefix is a single address. -/
lemma contains_host_iff : (ofParts net w 0).contains x = true ↔ x.address = net := by
  rw [contains_ofParts_iff (Nat.le_refl w) rfl, Nat.sub_self, Nat.pow_zero, Nat.div_one,
    Nat.div_one, BitVec.toNat_inj]

end IPAddr

namespace IPv4

lemma toNat_octet (i : Nat) (a : BitVec 32) :
    (octet i a).toNat = a.toNat / 2 ^ (24 - 8 * i) % 256 := by
  rw [octet, BitVec.extractLsb'_toNat, Nat.shiftRight_eq_div_pow]

lemma octet_beq_iff {i : Nat} {a : BitVec 32} {v : BitVec 8} :
    (octet i a == v) = true ↔ a.toNat / 2 ^ (24 - 8 * i) % 256 = v.toNat := by
  rw [beq_iff_eq, ← BitVec.toNat_inj, toNat_octet]

section

variable {x : IPv4}

lemma contains_v4_iff {a b c d p n : Nat} (hp : p ≤ 32)
    (hn : (ofOctets a b c d).toNat / 2 ^ (32 - p) = n) :
    (v4 a b c d p).contains (.ipv4 x) = true ↔ x.address.toNat / 2 ^ (32 - p) = n :=
  IPAddr.contains_ofParts_iff hp hn

lemma isUnspecified_iff : isUnspecified x.address ↔ (v4 0 0 0 0 32).contains (.ipv4 x) :=
  beq_iff_eq.trans IPAddr.contains_host_iff.symm

lemma isBroadcast_iff : isBroadcast x.address ↔ (v4 255 255 255 255 32).contains (.ipv4 x) :=
  beq_iff_eq.trans IPAddr.contains_host_iff.symm

lemma isLoopback_iff : isLoopback x.address ↔ (v4 127 0 0 0 8).contains (.ipv4 x) := by
  rw [contains_v4_iff (n := 127) (by decide) (by decide), isLoopback, octet_beq_iff]
  have hlt := x.address.isLt
  show x.address.toNat / 2 ^ 24 % 256 = 127 ↔ x.address.toNat / 2 ^ 24 = 127
  omega

lemma isMulticast_iff : isMulticast x.address ↔ (v4 224 0 0 0 4).contains (.ipv4 x) := by
  rw [contains_v4_iff (n := 14) (by decide) (by decide), isMulticast,
    and_beq_iff (k := 4) (by decide) (by decide), toNat_octet]
  have hlt := x.address.isLt
  show x.address.toNat / 2 ^ 24 % 256 / 2 ^ 4 = 14 ↔ x.address.toNat / 2 ^ 28 = 14
  omega

lemma isLinkLocalUnicast_iff :
    isLinkLocalUnicast x.address ↔ (v4 169 254 0 0 16).contains (.ipv4 x) := by
  rw [contains_v4_iff (n := 169 * 256 + 254) (by decide) (by decide), isLinkLocalUnicast,
    Bool.and_eq_true, octet_beq_iff, octet_beq_iff]
  have hlt := x.address.isLt
  show x.address.toNat / 2 ^ 24 % 256 = 169 ∧ x.address.toNat / 2 ^ 16 % 256 = 254 ↔
    x.address.toNat / 2 ^ 16 = 169 * 256 + 254
  omega

lemma isLinkLocalMulticast_iff :
    isLinkLocalMulticast x.address ↔ (v4 224 0 0 0 24).contains (.ipv4 x) := by
  rw [contains_v4_iff (n := 224 * 65536) (by decide) (by decide), isLinkLocalMulticast,
    Bool.and_eq_true, Bool.and_eq_true, octet_beq_iff, octet_beq_iff, octet_beq_iff]
  have hlt := x.address.isLt
  show (x.address.toNat / 2 ^ 24 % 256 = 224 ∧ x.address.toNat / 2 ^ 16 % 256 = 0) ∧
    x.address.toNat / 2 ^ 8 % 256 = 0 ↔ x.address.toNat / 2 ^ 8 = 224 * 65536
  omega

end

end IPv4

namespace IPv6

lemma toNat_firstGroup (a : BitVec 128) : (firstGroup a).toNat = a.toNat / 2 ^ 112 := by
  have hlt := a.isLt
  rw [firstGroup, BitVec.extractLsb'_toNat, Nat.shiftRight_eq_div_pow]
  omega

section

variable {x : IPv6}

lemma toNat_ofGroups_head {g : Nat} (hg : g < 65536) :
    (ofGroups [g, 0, 0, 0, 0, 0, 0, 0]).toNat = g * 2 ^ 112 := by
  have hdigits : ofDigits 65536 [g, 0, 0, 0, 0, 0, 0, 0] = g * 2 ^ 112 := by
    simp [ofDigits, Nat.mul_assoc]
  rw [ofGroups, BitVec.toNat_ofNat, hdigits, Nat.mod_eq_of_lt (by omega)]

/-- A network of a prefix within the first group. -/
lemma contains_head_iff {g p : Nat} (hg : g < 65536) (hp : p ≤ 16) :
    (v6 [g] p).contains (.ipv6 x) = true ↔
      (firstGroup x.address).toNat / 2 ^ (16 - p) = g / 2 ^ (16 - p) := by
  have hzeros : [g] ++ List.replicate (8 - [g].length) 0 = [g, 0, 0, 0, 0, 0, 0, 0] := rfl
  have hpow : 2 ^ (128 - p) = 2 ^ 112 * 2 ^ (16 - p) := by
    rw [← Nat.pow_add, ← Nat.add_sub_assoc hp]
  have hnet : (ofGroups ([g] ++ List.replicate (8 - [g].length) 0)).toNat / 2 ^ (128 - p) =
      g / 2 ^ (16 - p) := by
    rw [hzeros, toNat_ofGroups_head hg, hpow, ← Nat.div_div_eq_div_mul,
      Nat.mul_div_cancel g (Nat.two_pow_pos 112)]
  rw [toNat_firstGroup, Nat.div_div_eq_div_mul, ← hpow]
  exact IPAddr.contains_ofParts_iff (by omega) hnet

lemma contains_group_iff {g : Nat} (hg : g < 65536) :
    (v6 [g] 16).contains (.ipv6 x) = true ↔ (firstGroup x.address).toNat = g := by
  rw [contains_head_iff hg (Nat.le_refl 16), Nat.sub_self, Nat.pow_zero, Nat.div_one, Nat.div_one]

lemma isUnspecified_iff : isUnspecified x.address ↔ (v6 [0] 128).contains (.ipv6 x) :=
  beq_iff_eq.trans IPAddr.contains_host_iff.symm

lemma isLoopback_iff :
    isLoopback x.address ↔ (v6 [0, 0, 0, 0, 0, 0, 0, 1] 128).contains (.ipv6 x) :=
  beq_iff_eq.trans IPAddr.contains_host_iff.symm

lemma isMulticast_iff : isMulticast x.address ↔ (v6 [0xff00] 8).contains (.ipv6 x) := by
  rw [contains_head_iff (by decide) (by decide), isMulticast,
    and_beq_iff (k := 8) (by decide) (by decide)]
  rfl

lemma isLinkLocalUnicast_iff :
    isLinkLocalUnicast x.address ↔ (v6 [0xfe80] 10).contains (.ipv6 x) := by
  rw [contains_head_iff (by decide) (by decide), isLinkLocalUnicast,
    and_beq_iff (k := 6) (by decide) (by decide)]
  rfl

/-- The test of the scope bits passes over the flag bits between them and the leading ones. -/
lemma and_scope_beq_iff {g v : BitVec 16} (hv : v &&& 0xff0f = v) :
    (g &&& 0xff0f == v) = true ↔ g.toNat / 256 = v.toNat / 256 ∧ g.toNat % 16 = v.toNat % 16 := by
  have hmod (z : BitVec 16) : (z &&& 0x000f).toNat = z.toNat % 16 :=
    (BitVec.toNat_and z 0x000f).trans (Nat.and_two_pow_sub_one_eq_mod z.toNat 4)
  have hhigh : g &&& 0xff00 = v &&& 0xff00 ↔ g.toNat / 256 = v.toNat / 256 :=
    IPAddr.and_allOnes_shiftLeft_eq_iff (k := 8)
  have hlow : g &&& 0x000f = v &&& 0x000f ↔ g.toNat % 16 = v.toNat % 16 := by
    rw [← BitVec.toNat_inj, hmod, hmod]
  rw [beq_iff_eq, ← hhigh, ← hlow]
  constructor
  · intro h
    rw [← h, BitVec.and_assoc, BitVec.and_assoc]
    exact ⟨rfl, rfl⟩
  · rintro ⟨hh, hl⟩
    have hmask : (0xff0f : BitVec 16) = 0xff00 ||| 0x000f := by decide
    have hsplit (z : BitVec 16) : z &&& 0xff0f = z &&& 0xff00 ||| z &&& 0x000f := by
      rw [hmask, BitVec.and_or_distrib_left]
    rw [hsplit, hh, hl, ← hsplit, hv]

end

end IPv6

/-- The multicast networks of a scope, one for each way to set one of the flag bits or more. -/
def flaggedNetworks (scope : Nat) : List SocketAddress :=
  (List.range' 1 15).map fun flags => v6 [0xff00 + 16 * flags + scope] 16

/-- The networks whose addresses are no global unicast ones. -/
def localNetworks : List SocketAddress :=
  [v4 0 0 0 0 32, v4 127 0 0 0 8, v4 224 0 0 0 4, v4 169 254 0 0 16, v4 255 255 255 255 32,
   v6 [0] 128, v6 [0, 0, 0, 0, 0, 0, 0, 1] 128, v6 [0xff00] 8, v6 [0xfe80] 10]

namespace SocketAddress

def LiesInSome (nets : List SocketAddress) (a : SocketAddress) : Prop :=
  ∃ net ∈ nets, net.contains a

instance (nets : List SocketAddress) (a : SocketAddress) : Decidable (a.LiesInSome nets) :=
  inferInstanceAs (Decidable (∃ net ∈ nets, net.contains a))

@[simp]
lemma liesInSome_cons {net a : SocketAddress} {nets : List SocketAddress} :
    a.LiesInSome (net :: nets) ↔ net.contains a ∨ a.LiesInSome nets := by
  simp [LiesInSome]

@[simp]
lemma liesInSome_nil {a : SocketAddress} : ¬a.LiesInSome [] := by
  simp [LiesInSome]

/-- Each test of the scope holds for the addresses of its networks, where the networks of the two
multicast scopes are left open. -/
structure HasScopes (interfaceLocal linkLocal : List SocketAddress) (a : SocketAddress) : Prop where
  interfaceLocalMulticast : a.isInterfaceLocalMulticast ↔ a.LiesInSome interfaceLocal
  linkLocalMulticast : a.isLinkLocalMulticast ↔ a.LiesInSome linkLocal
  linkLocalUnicast : a.isLinkLocalUnicast ↔ a.LiesInSome [v4 169 254 0 0 16, v6 [0xfe80] 10]
  unspecified : a.isUnspecified ↔ a.LiesInSome [v4 0 0 0 0 32, v6 [0] 128]
  globalUnicast : a.isGlobalUnicast ↔ ¬a.LiesInSome localNetworks

@[simp]
lemma not_contains_v6_ipv4 {groups : List Nat} {p : Nat} {x : IPv4} :
    ¬(v6 groups p).contains (ipv4 x) :=
  Bool.false_ne_true

@[simp]
lemma not_contains_v4_ipv6 {a b c d p : Nat} {x : IPv6} : ¬(v4 a b c d p).contains (ipv6 x) :=
  Bool.false_ne_true

@[simp]
lemma not_liesInSome_flaggedNetworks {s : Nat} {x : IPv4} :
    ¬(ipv4 x).LiesInSome (flaggedNetworks s) := by
  simp [LiesInSome, flaggedNetworks]

/-- The first group of a flagged address: all ones, then flags that are not all zero, then the
scope. -/
lemma liesInSome_flaggedNetworks_iff {s : Nat} (hs : s < 16) {x : IPv6} :
    (ipv6 x).LiesInSome (flaggedNetworks s) ↔
      ∃ flags, 1 ≤ flags ∧ flags < 16 ∧
        (IPv6.firstGroup x.address).toNat = 0xff00 + 16 * flags + s := by
  simp only [LiesInSome, flaggedNetworks, List.mem_map, List.mem_range'_1, exists_exists_and_eq_and]
  refine exists_congr fun flags => ?_
  rw [and_assoc]
  refine and_congr_right fun _ => and_congr_right fun hflags => ?_
  exact IPv6.contains_group_iff (by omega)

lemma ipv4_hasScopes (x : IPv4) :
    (ipv4 x).HasScopes (v6 [0xff01] 16 :: flaggedNetworks 1)
      (v4 224 0 0 0 24 :: v6 [0xff02] 16 :: flaggedNetworks 2) where
  interfaceLocalMulticast := by simp [isInterfaceLocalMulticast]
  linkLocalMulticast := by simp [isLinkLocalMulticast, IPv4.isLinkLocalMulticast_iff]
  linkLocalUnicast := by simp [isLinkLocalUnicast, IPv4.isLinkLocalUnicast_iff]
  unspecified := by simp [isUnspecified, IPv4.isUnspecified_iff]
  globalUnicast := by
    simp [isGlobalUnicast, IPv4.isGlobalUnicast, localNetworks, ← IPv4.isUnspecified_iff,
      ← IPv4.isLoopback_iff, ← IPv4.isMulticast_iff, ← IPv4.isLinkLocalUnicast_iff,
      ← IPv4.isBroadcast_iff, and_assoc]

/-- With the network of no flags, the flagged ones are all the addresses of a scope. -/
lemma liesInSome_scope_iff {s : Nat} (hs : s < 16) {x : IPv6} :
    (v6 [0xff00 + s] 16).contains (ipv6 x) ∨ (ipv6 x).LiesInSome (flaggedNetworks s) ↔
      (IPv6.firstGroup x.address).toNat / 256 = 255 ∧
        (IPv6.firstGroup x.address).toNat % 16 = s := by
  rw [IPv6.contains_group_iff (by omega), liesInSome_flaggedNetworks_iff hs]
  generalize (IPv6.firstGroup x.address).toNat = g
  constructor
  · rintro (hg | ⟨flags, -, hflags, hg⟩) <;> omega
  · rintro ⟨hhigh, hlow⟩
    by_cases hflags : g / 16 % 16 = 0
    · exact .inl (by omega)
    · exact .inr ⟨g / 16 % 16, by omega, by omega, by omega⟩

lemma ipv6_hasScopes (x : IPv6) :
    (ipv6 x).HasScopes (v6 [0xff01] 16 :: flaggedNetworks 1)
      (v4 224 0 0 0 24 :: v6 [0xff02] 16 :: flaggedNetworks 2) where
  interfaceLocalMulticast := by
    rw [liesInSome_cons, liesInSome_scope_iff (s := 1) (by decide)]
    exact IPv6.and_scope_beq_iff (by decide)
  linkLocalMulticast := by
    rw [liesInSome_cons, or_iff_right not_contains_v4_ipv6, liesInSome_cons,
      liesInSome_scope_iff (s := 2) (by decide)]
    exact IPv6.and_scope_beq_iff (by decide)
  linkLocalUnicast := by simp [isLinkLocalUnicast, IPv6.isLinkLocalUnicast_iff]
  unspecified := by simp [isUnspecified, IPv6.isUnspecified_iff]
  globalUnicast := by
    simp [isGlobalUnicast, IPv6.isGlobalUnicast, localNetworks, ← IPv6.isUnspecified_iff,
      ← IPv6.isLoopback_iff, ← IPv6.isMulticast_iff, ← IPv6.isLinkLocalUnicast_iff, and_assoc]

lemma exists_ipv6_of_flagged {s : Nat} {a : SocketAddress}
    (ha : a.LiesInSome (flaggedNetworks s)) : ∃ x, a = ipv6 x := by
  cases a with
  | ipv4 x => exact absurd ha not_liesInSome_flaggedNetworks
  | ipv6 x => exact ⟨x, rfl⟩
  | unix p => simp [LiesInSome, flaggedNetworks, v6, contains] at ha

lemma not_contains_of_flagged {s : Nat} (hs : s < 16) {x : IPv6}
    (hx : (ipv6 x).LiesInSome (flaggedNetworks s)) : ¬(v6 [0xff00 + s] 16).contains (ipv6 x) := by
  rw [liesInSome_flaggedNetworks_iff hs] at hx
  rw [IPv6.contains_group_iff (by omega)]
  omega

/-- The tests of the scope of an IP address are tests for networks: the documented ones and, for
the two multicast scopes, the IPv6 networks with a flag set. So the documented networks tell all
the scopes of an address except in the flagged networks. -/
theorem scopes_are_networks (a : SocketAddress) (hip : a.isIP) :
    a.HasScopes (v6 [0xff01] 16 :: flaggedNetworks 1)
      (v4 224 0 0 0 24 :: v6 [0xff02] 16 :: flaggedNetworks 2) ∧
    (a.HasScopes [v6 [0xff01] 16] [v4 224 0 0 0 24, v6 [0xff02] 16] ↔
      ¬a.LiesInSome (flaggedNetworks 1) ∧ ¬a.LiesInSome (flaggedNetworks 2)) := by
  have hscopes : a.HasScopes (v6 [0xff01] 16 :: flaggedNetworks 1)
      (v4 224 0 0 0 24 :: v6 [0xff02] 16 :: flaggedNetworks 2) := by
    cases a with
    | ipv4 x => exact ipv4_hasScopes x
    | ipv6 x => exact ipv6_hasScopes x
    | unix p => cases hip
  refine ⟨hscopes, fun hdoc => ⟨fun hflag => ?_, fun hflag => ?_⟩, fun ⟨hone, htwo⟩ => ?_⟩
  · obtain ⟨x, rfl⟩ := exists_ipv6_of_flagged hflag
    have hin := hdoc.interfaceLocalMulticast.1
      (hscopes.interfaceLocalMulticast.2 (liesInSome_cons.2 (.inr hflag)))
    simp [not_contains_of_flagged (s := 1) (by decide) hflag] at hin
  · obtain ⟨x, rfl⟩ := exists_ipv6_of_flagged hflag
    have hin := hdoc.linkLocalMulticast.1
      (hscopes.linkLocalMulticast.2 (liesInSome_cons.2 (.inr (liesInSome_cons.2 (.inr hflag)))))
    simp [not_contains_of_flagged (s := 2) (by decide) hflag] at hin
  · exact { hscopes with
      interfaceLocalMulticast := by simpa [hone] using hscopes.interfaceLocalMulticast
      linkLocalMulticast := by simpa [htwo] using hscopes.linkLocalMulticast }

theorem scopes_are_networks_unflagged :
    (v6 [0xff02, 0, 0, 0, 0, 0, 0, 0xfb] 128).HasScopes [v6 [0xff01] 16]
      [v4 224 0 0 0 24, v6 [0xff02] 16] ∧
    (v6 [0xff02, 0, 0, 0, 0, 0, 0, 0xfb] 128).isLinkLocalMulticast := by
  obtain ⟨hscopes, hdoc⟩ := scopes_are_networks (v6 [0xff02, 0, 0, 0, 0, 0, 0, 0xfb] 128) rfl
  have hunflagged := hdoc.2 ⟨by decide, by decide⟩
  exact ⟨hunflagged, hunflagged.linkLocalMulticast.2 (by decide)⟩

/-- A transient multicast address within an interface is in no documented network. -/
theorem not_forall_hasScopes :
    ¬∀ a : SocketAddress, a.isIP →
      a.HasScopes [v6 [0xff01] 16] [v4 224 0 0 0 24, v6 [0xff02] 16] := by
  intro h
  have hscopes := h (v6 [0xff11, 0, 0, 0, 0, 0, 0, 1] 128) rfl
  have htest : (v6 [0xff11, 0, 0, 0, 0, 0, 0, 1] 128).isInterfaceLocalMulticast := by decide
  exact absurd (hscopes.interfaceLocalMulticast.1 htest) (by decide)

end SocketAddress

end HostAddr
