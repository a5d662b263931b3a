import HostAddr.Proofs.AddressBlocks

/-!
# Usable addresses

A host may take the addresses of its network from the first usable one to the last. An IPv4
network of more than two addresses keeps both its ends for itself, every other network keeps none.
The step from an end to the address beside it stays among the numbers of 32 bits, since there are
host bits to step over.
-/

namespace HostAddr

namespace IPv4

variable {x : IPv4}

/-- How many addresses a network keeps for itself at either end. -/
def reserved (x : IPv4) : Nat :=
  if x.prefixLen < 31 then 1 else 0

lemma reserved_cases (x : IPv4) :
    x.prefixLen < 31 ∧ reserved x = 1 ∨ ¬x.prefixLen < 31 ∧ reserved x = 0 := by
  by_cases h : x.prefixLen < 31
  · exact .inl ⟨h, if_pos h⟩
  · exact .inr ⟨h, if_neg h⟩

lemma four_le_networkSize (h : x.prefixLen < 31) : 4 ≤ (networkSize x).toNat := by
  have hbits : 2 ≤ 32 - x.prefixLen := by omega
  rw [toNat_networkSize]
  exact Nat.pow_le_pow_right (n := 2) (by decide) hbits

lemma lastAddress_eq_size (x : IPv4) :
    x.lastAddress.toNat = x.networkAddress.toNat + (networkSize x).toNat - 1 := by
  rw [toNat_networkSize]
  exact x.toNat_lastAddress

/-- Past the network address and before the last one there is another address of the network. -/
lemma not_overflow (h : x.prefixLen < 31) :
    x.networkAddress.uaddOverflow 1 = false ∧ x.lastAddress.usubOverflow 1 = false := by
  have hsize := four_le_networkSize h
  have hlast := lastAddress_eq_size x
  have hlt := x.lastAddress.isLt
  have hone : (1 : BitVec 32).toNat = 1 := rfl
  rw [BitVec.uaddOverflow, BitVec.usubOverflow, hone, decide_eq_false_iff_not,
    decide_eq_false_iff_not]
  omega

lemma two_mul_reserved_lt (x : IPv4) : 2 * reserved x < (networkSize x).toNat := by
  rcases reserved_cases x with ⟨h, hone⟩ | ⟨-, hzero⟩
  · have hsize := four_le_networkSize h
    omega
  · rw [hzero, toNat_networkSize]
    exact Nat.two_pow_pos _

lemma toNat_firstUsable (x : IPv4) :
    (firstUsable x).address.toNat = x.networkAddress.toNat + reserved x := by
  by_cases h : x.prefixLen < 31
  · have hadd := BitVec.toNat_add_of_not_uaddOverflow (Bool.eq_false_iff.1 (not_overflow h).1)
    rw [firstUsable, reserved, if_pos h, if_pos h]
    exact hadd
  · rw [firstUsable, reserved, if_neg h, if_neg h]
    rfl

lemma toNat_lastUsable (x : IPv4) :
    (lastUsable x).address.toNat = x.lastAddress.toNat - reserved x := by
  by_cases h : x.prefixLen < 31
  · have hsub := BitVec.toNat_sub_of_not_usubOverflow (Bool.eq_false_iff.1 (not_overflow h).2)
    rw [lastUsable, reserved, if_pos h, if_pos h]
    exact hsub
  · rw [lastUsable, reserved, if_neg h, if_neg h]
    rfl

/-- The usable addresses of an IPv4 network lie in order between its ends, and are all of its
addresses but the ends that it keeps for itself. -/
structure HasUsableRange (x : IPv4) : Prop where
  not_overflow : x.prefixLen < 31 →
    x.networkAddress.uaddOverflow 1 = false ∧ x.lastAddress.usubOverflow 1 = false
  network_le_first : x.networkAddress.toNat ≤ (firstUsable x).address.toNat
  first_le_last : (firstUsable x).address.toNat ≤ (lastUsable x).address.toNat
  last_le_broadcast : (lastUsable x).address.toNat ≤ x.lastAddress.toNat
  first_bare : firstUsable x = IPAddr.bare (firstUsable x).address
  last_bare : lastUsable x = IPAddr.bare (lastUsable x).address
  contains_first : x.contains (firstUsable x)
  contains_last : x.contains (lastUsable x)
  length : (lastUsable x).address.toNat - (firstUsable x).address.toNat + 1 =
    if x.prefixLen < 31 then (networkSize x).toNat - 2 else (networkSize x).toNat
  between_iff : ∀ y : IPv4,
    (firstUsable x).address.toNat ≤ y.address.toNat ∧
      y.address.toNat ≤ (lastUsable x).address.toNat ↔
    x.contains y ∧
      (x.prefixLen < 31 → y.address ≠ x.networkAddress ∧ y.address ≠ x.lastAddress)

lemma hasUsableRange (x : IPv4) : HasUsableRange x := by
  have hfirst := toNat_firstUsable x
  have hlast := toNat_lastUsable x
  have hend := lastAddress_eq_size x
  have hreserved := two_mul_reserved_lt x
  have hcases := reserved_cases x
  constructor
  case not_overflow => exact not_overflow
  case network_le_first => omega
  case first_le_last => omega
  case last_le_broadcast => omega
  case first_bare => rfl
  case last_bare => rfl
  case contains_first =>
    rw [IPAddr.contains_iff_le_lastAddress]
    omega
  case contains_last =>
    rw [IPAddr.contains_iff_le_lastAddress]
    omega
  case length =>
    split
    · omega
    · omega
  case between_iff =>
    intro y
    rw [IPAddr.contains_iff_le_lastAddress, Ne, Ne, ← BitVec.toNat_inj, ← BitVec.toNat_inj]
    omega

/-- Host bits and ports make no difference to the usable addresses. -/
lemma usable_network (x : IPv4) :
    firstUsable x.network = firstUsable x ∧ lastUsable x.network = lastUsable x := by
  have hprefix : x.network.prefixLen = x.prefixLen := rfl
  simp [firstUsable, lastUsable, hprefix]

end IPv4

lemma IPv6.usable_network (x : IPv6) :
    firstUsable x.network = firstUsable x ∧ lastUsable x.network = lastUsable x := by
  simp [firstUsable, lastUsable]

/-- The usable addresses of an IPv4 network are a range within it, and those of an IPv6 network are
all that it contains. They are the same for all addresses of a network, whatever their ports. -/
theorem usable_ranges :
    (∀ x : IPv4, x.HasUsableRange) ∧
    (∀ x y : IPv6, x.contains y ↔
      (IPv6.firstUsable x).address.toNat ≤ y.address.toNat ∧
        y.address.toNat ≤ (IPv6.lastUsable x).address.toNat) ∧
    (∀ x : IPv4, IPv4.firstUsable x.network = IPv4.firstUsable x ∧
      IPv4.lastUsable x.network = IPv4.lastUsable x) ∧
    (∀ x : IPv6, IPv6.firstUsable x.network = IPv6.firstUsable x ∧
      IPv6.lastUsable x.network = IPv6.lastUsable x) :=
  ⟨IPv4.hasUsableRange, fun _ _ => IPAddr.contains_iff_le_lastAddress, IPv4.usable_network,
    IPv6.usable_network⟩

/-- In a network of two addresses both are usable, in one of four the two in the middle. -/
example :
    let pair : IPv4 := IPAddr.ofParts 0x0a000001 31 0
    let four : IPv4 := IPAddr.ofParts 0xffffffff 30 0
    (pair.firstUsable.text, pair.lastUsable.text) = ("10.0.0.0", "10.0.0.1") ∧
      (four.firstUsable.text, four.lastUsable.text) = ("255.255.255.253", "255.255.255.254") := by
  decide +kernel

end HostAddr
