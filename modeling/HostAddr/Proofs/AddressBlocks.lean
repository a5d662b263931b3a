import HostAddr.Proofs.AttributeNames
import HostAddr.Proofs.NestedNetworks
import Mathlib.SetTheory.Cardinal.Finite

/-!
# Networks as blocks of addresses

The addresses of a network follow one another, from the network address, where the host bits are
all zeros, to the last address, where they are all ones. So the size of the network, two to the
power of the host bits, is the number of its addresses.
-/

namespace HostAddr

namespace IPAddr

variable {w : Nat} {x y : IPAddr w}

/-- What the mask leaves out are the lowest bits, one for each bit that the prefix lacks. -/
lemma not_mask (x : IPAddr w) : ~~~x.mask = (BitVec.allOnes (w - x.prefixLen)).setWidth w := by
  refine BitVec.eq_of_getLsbD_eq fun i hi => ?_
  simp [mask, hi]

lemma toNat_not_mask (x : IPAddr w) : (~~~x.mask).toNat = 2 ^ (w - x.prefixLen) - 1 := by
  have hlt : 2 ^ (w - x.prefixLen) - 1 < 2 ^ w :=
    Nat.sub_one_lt_of_le (Nat.two_pow_pos _) (Nat.pow_le_pow_right (by decide) (Nat.sub_le w _))
  rw [not_mask, BitVec.toNat_setWidth, BitVec.toNat_allOnes, Nat.mod_eq_of_lt hlt]

lemma prefixLen_add_cpop (x : IPAddr w) : x.prefixLen + (~~~x.mask).cpop.toNat = w := by
  rw [not_mask, BitVec.toNat_cpop_setWidth_eq_of_le (Nat.sub_le w _), BitVec.cpop_allOnes,
    BitVec.toNat_ofNat, Nat.mod_eq_of_lt Nat.lt_two_pow_self, Nat.add_sub_cancel' x.prefixLen_le]

lemma toNat_networkAddress (x : IPAddr w) :
    x.networkAddress.toNat =
      x.address.toNat / 2 ^ (w - x.prefixLen) * 2 ^ (w - x.prefixLen) :=
  toNat_and_allOnes_shiftLeft x.address (w - x.prefixLen)

lemma lastAddress_eq_or (x : IPAddr w) : x.lastAddress = x.networkAddress ||| ~~~x.mask := by
  ext i hi
  cases hbit : x.mask[i] <;> simp [lastAddress, networkAddress, hbit]

/-- The host bits of the network address are zeros, so setting all of them adds their value. -/
theorem toNat_lastAddress (x : IPAddr w) :
    x.lastAddress.toNat = x.networkAddress.toNat + 2 ^ (w - x.prefixLen) - 1 := by
  have hpos := Nat.two_pow_pos (w - x.prefixLen)
  have hlt : 2 ^ (w - x.prefixLen) - 1 < 2 ^ (w - x.prefixLen) := Nat.sub_one_lt hpos.ne'
  rw [lastAddress_eq_or, BitVec.toNat_or, toNat_not_mask, toNat_networkAddress, Nat.mul_comm,
    ← Nat.two_pow_add_eq_or_of_lt hlt, Nat.add_sub_assoc hpos]

/-- A network contains the addresses between its ends. -/
theorem contains_iff_between :
    x.contains y = true ↔ x.networkAddress.toNat ≤ y.address.toNat ∧
      y.address.toNat ≤ x.networkAddress.toNat + 2 ^ (w - x.prefixLen) - 1 := by
  rw [contains_iff_div, Nat.div_eq_iff (Nat.two_pow_pos _), toNat_networkAddress]

lemma contains_iff_le_lastAddress :
    x.contains y = true ↔ x.networkAddress.toNat ≤ y.address.toNat ∧
      y.address.toNat ≤ x.lastAddress.toNat := by
  rw [contains_iff_between, toNat_lastAddress]

lemma contains_bare_iff {a : BitVec w} :
    x.contains (bare a) = true ↔ x.networkAddress.toNat ≤ a.toNat ∧
      a.toNat ≤ x.networkAddress.toNat + 2 ^ (w - x.prefixLen) - 1 :=
  contains_iff_between

lemma toNat_ofNat_host (x : IPAddr w) {i : Nat} (hi : i < 2 ^ (w - x.prefixLen)) :
    (BitVec.ofNat w (x.networkAddress.toNat + i)).toNat = x.networkAddress.toNat + i := by
  have hlast := x.lastAddress.isLt
  rw [toNat_lastAddress] at hlast
  rw [BitVec.toNat_ofNat, Nat.mod_eq_of_lt (by omega)]

/-- The addresses of a network are numbered by their host bits. -/
def blockEquiv (x : IPAddr w) :
    {a : BitVec w // x.contains (bare a)} ≃ Fin (2 ^ (w - x.prefixLen)) where
  toFun a := ⟨a.1.toNat - x.networkAddress.toNat, by
    have hpos := Nat.two_pow_pos (w - x.prefixLen)
    have hblock := contains_bare_iff.1 a.2
    omega⟩
  invFun i := ⟨BitVec.ofNat w (x.networkAddress.toNat + i), by
    rw [contains_bare_iff, x.toNat_ofNat_host i.isLt]
    omega⟩
  left_inv a := by
    refine Subtype.ext (BitVec.eq_of_toNat_eq ?_)
    rw [BitVec.toNat_ofNat, Nat.add_sub_cancel' (contains_bare_iff.1 a.2).1,
      Nat.mod_eq_of_lt a.1.isLt]
  right_inv i := by
    refine Fin.ext ?_
    show (BitVec.ofNat w (x.networkAddress.toNat + i)).toNat - x.networkAddress.toNat = i
    rw [x.toNat_ofNat_host i.isLt, Nat.add_sub_cancel_left]

theorem card_contains (x : IPAddr w) :
    Nat.card {a : BitVec w // x.contains (bare a)} = 2 ^ (w - x.prefixLen) := by
  rw [Nat.card_congr x.blockEquiv, Nat.card_fin]

lemma readDecimal?_two_pow (x : IPAddr w) :
    readDecimal? (2 ^ w) (toString (2 ^ (w - x.prefixLen))).toList =
      some (2 ^ (w - x.prefixLen)) := by
  rw [toList_toString]
  exact readDecimal?_decimal (Nat.pow_le_pow_right (by decide) (Nat.sub_le w _))

@[simp]
lemma networkAddress_network (x : IPAddr w) : x.network.networkAddress = x.networkAddress := by
  have hmask : x.network.mask = x.mask := rfl
  rw [networkAddress, hmask, network, networkAddress, BitVec.and_assoc, BitVec.and_self]

@[simp]
lemma lastAddress_network (x : IPAddr w) : x.network.lastAddress = x.lastAddress := by
  rw [lastAddress_eq_or, lastAddress_eq_or, networkAddress_network]
  rfl

lemma network_network (x : IPAddr w) : x.network.network = x.network := by
  rw [network, networkAddress_network]
  rfl

lemma network_contains (x : IPAddr w) : x.network.contains x = true :=
  beq_iff_eq.2 x.networkAddress_network

/-- The addresses in the network of `x` are a block: those from the network address on, two to the
power of the host bits. The network address stands for the block, without a host and a port. -/
structure IsBlock (x : IPAddr w) : Prop where
  contains_iff : ∀ y : IPAddr w, x.contains y ↔
    x.networkAddress.toNat ≤ y.address.toNat ∧
      y.address.toNat ≤ x.networkAddress.toNat + 2 ^ (w - x.prefixLen) - 1
  lastAddress_eq : x.lastAddress.toNat = x.networkAddress.toNat + 2 ^ (w - x.prefixLen) - 1
  card_eq : Nat.card {a : BitVec w // x.contains (bare a)} = 2 ^ (w - x.prefixLen)
  prefixLen_add_hostBits : x.prefixLen + (~~~x.mask).cpop.toNat = w
  network_contains : x.network.contains x
  network_port : x.network.port = 0
  network_network : x.network.network = x.network

lemma isBlock (x : IPAddr w) : x.IsBlock where
  contains_iff _ := contains_iff_between
  lastAddress_eq := x.toNat_lastAddress
  card_eq := x.card_contains
  prefixLen_add_hostBits := x.prefixLen_add_cpop
  network_contains := x.network_contains
  network_port := rfl
  network_network := x.network_network

end IPAddr

/-- All host bits fit into the word that is shifted. -/
lemma IPv4.toNat_networkSize (x : IPv4) : (networkSize x).toNat = 2 ^ (32 - x.prefixLen) := by
  have hbits : (UInt64.ofNat (32 - x.prefixLen)).toNat % 64 = 32 - x.prefixLen := by
    rw [UInt64.toNat_ofNat', Nat.mod_mod_of_dvd _ (by decide), Nat.mod_eq_of_lt (by omega)]
  have hfits : 2 ^ (32 - x.prefixLen) < 2 ^ 64 := Nat.pow_lt_pow_right (by decide) (by omega)
  rw [networkSize, UInt64.toNat_shiftLeft, hbits, UInt64.toNat_one, Nat.one_shiftLeft,
    Nat.mod_eq_of_lt hfits]

/-- Only the network of all addresses is shifted out of the word. -/
lemma IPv6.networkSize_eq (x : IPv6) : networkSize x = toString (2 ^ (128 - x.prefixLen)) := by
  rw [networkSize, checkedShiftLeft]
  by_cases h : 128 - x.prefixLen < 128
  · have hfits : 2 ^ (128 - x.prefixLen) < 2 ^ 128 := Nat.pow_lt_pow_right (by decide) h
    have hone : (1 : BitVec 128).toNat = 1 := rfl
    have hsize : ((1 : BitVec 128) <<< (128 - x.prefixLen)).toNat = 2 ^ (128 - x.prefixLen) := by
      rw [BitVec.toNat_shiftLeft, hone, Nat.one_shiftLeft, Nat.mod_eq_of_lt hfits]
    rw [if_pos h]
    exact congrArg toString hsize
  · have hfull : 128 - x.prefixLen = 128 := by omega
    rw [if_neg h, hfull]
    decide +kernel

/-- The networks of both families are blocks, up to the broadcast address of IPv4 and the last
usable address of IPv6. The size of a network, as a number or read in decimal, is the number of its
addresses, also where it is one more than the bits can count. -/
theorem networks_are_blocks :
    (∀ x : IPv4, x.IsBlock ∧ (IPv4.networkSize x).toNat = 2 ^ (32 - x.prefixLen) ∧
      SocketAddress.parseIP ((SocketAddress.ipv4 x).view "broadcast") =
        .ok (.ipv4 (IPAddr.bare x.lastAddress)) ∧
      readDecimal? (2 ^ 32) ((SocketAddress.ipv4 x).view "size").toList =
        some (2 ^ (32 - x.prefixLen))) ∧
    (∀ x : IPv6, x.IsBlock ∧
      readDecimal? (2 ^ 128) (IPv6.networkSize x).toList = some (2 ^ (128 - x.prefixLen)) ∧
      (IPv6.lastUsable x).address = x.lastAddress ∧
      readDecimal? (2 ^ 128) ((SocketAddress.ipv6 x).view "size").toList =
        some (2 ^ (128 - x.prefixLen))) := by
  constructor
  · intro x
    have hbroadcast : (SocketAddress.ipv4 x).view "broadcast" =
        IPv4.text (IPAddr.bare x.lastAddress) := SocketAddress.view_eq (by decide +kernel) rfl
    have hsize : (SocketAddress.ipv4 x).view "size" = toString (2 ^ (32 - x.prefixLen)) := by
      rw [← IPv4.toNat_networkSize]
      exact SocketAddress.view_eq (by decide +kernel) rfl
    rw [hbroadcast, hsize]
    exact ⟨x.isBlock, x.toNat_networkSize,
      SocketAddress.parseIP_text_of_port (a := .ipv4 (IPAddr.bare x.lastAddress)) rfl,
      x.readDecimal?_two_pow⟩
  · intro x
    have hsize : (SocketAddress.ipv6 x).view "size" = IPv6.networkSize x :=
      SocketAddress.view_eq (by decide +kernel) rfl
    rw [hsize, x.networkSize_eq]
    exact ⟨x.isBlock, x.readDecimal?_two_pow, rfl, x.readDecimal?_two_pow⟩

/-- The network of all addresses has one more than 128 bits can count. -/
example : IPv6.networkSize (IPAddr.ofParts 1 0 0) =
    "340282366920938463463374607431768211456" := by
  decide +kernel

end HostAddr
