import HostAddr.Address.Socket
import Mathlib.Algebra.Group.Nat.Defs
import Mathlib.Tactic.Common

/-!
# Nested networks

An address lies in a network when their leading bits agree, as many as the network names. So of two
networks with an address in common the one with the shorter prefix contains the other.
-/

namespace HostAddr

namespace IPAddr

variable {w : Nat}

/-- The leading bits, as many as the network names, are those of the network. -/
def LiesIn (a net : IPAddr w) : Prop :=
  ∀ i < net.prefixLen, a.address.getMsbD i = net.address.getMsbD i

lemma getMsbD_mask (a : IPAddr w) (i : Nat) : a.mask.getMsbD i = decide (i < a.prefixLen) := by
  have hle := a.prefixLen_le
  rw [mask, BitVec.getMsbD_shiftLeft, BitVec.getMsbD_allOnes, decide_eq_decide]
  omega

lemma contains_iff_liesIn {net a : IPAddr w} : net.contains a = true ↔ a.LiesIn net := by
  rw [contains, beq_iff_eq]
  constructor
  · intro h i hi
    have hbit := congrArg (fun v => v.getMsbD i) h
    simpa [getMsbD_mask, hi] using hbit.symm
  · intro h
    refine BitVec.eq_of_getMsbD_eq fun i _ => ?_
    by_cases hi : i < net.prefixLen
    · simp [getMsbD_mask, hi, h i hi]
    · simp [getMsbD_mask, hi]

lemma toNat_and_allOnes_shiftLeft (x : BitVec w) (k : Nat) :
    (x &&& BitVec.allOnes w <<< k).toNat = x.toNat / 2 ^ k * 2 ^ k := by
  have hlt := Nat.lt_of_le_of_lt (Nat.div_mul_le_self x.toNat (2 ^ k)) x.isLt
  rw [← BitVec.shiftLeft_ushiftRight, BitVec.toNat_shiftLeft, BitVec.toNat_ushiftRight,
    Nat.shiftLeft_eq, Nat.shiftRight_eq_div_pow, Nat.mod_eq_of_lt hlt]

/-- Addresses agree above their lowest `k` bits when they are in one block of `2 ^ k` addresses. -/
lemma and_allOnes_shiftLeft_eq_iff {k : Nat} {x y : BitVec w} :
    x &&& BitVec.allOnes w <<< k = y &&& BitVec.allOnes w <<< k ↔
      x.toNat / 2 ^ k = y.toNat / 2 ^ k := by
  rw [← BitVec.toNat_inj, toNat_and_allOnes_shiftLeft, toNat_and_allOnes_shiftLeft]
  exact Nat.mul_right_cancel_iff (Nat.two_pow_pos k)

/-- A network is a block of as many addresses as it has host bits for. -/
theorem contains_iff_div {net a : IPAddr w} :
    net.contains a = true ↔
      a.address.toNat / 2 ^ (w - net.prefixLen) = net.address.toNat / 2 ^ (w - net.prefixLen) := by
  rw [contains, beq_iff_eq, mask, and_allOnes_shiftLeft_eq_iff]
  exact eq_comm

end IPAddr

namespace SocketAddress

/-- The bit of an IP address at a place counted from the first. -/
def bit : SocketAddress → Nat → Bool
  | ipv4 a, i => a.address.getMsbD i
  | ipv6 a, i => a.address.getMsbD i
  | unix _, _ => false

theorem contains_iff_bit {a b : SocketAddress} {p : Nat} (h : a.prefixLen? = some p) :
    a.contains b = true ↔ a.kind = b.kind ∧ ∀ i < p, a.bit i = b.bit i := by
  cases a with
  | unix x => cases h
  | ipv4 a =>
    cases h
    cases b with
    | ipv4 b =>
      rw [contains, IPAddr.contains_iff_liesIn]
      exact ⟨fun h => ⟨rfl, fun i hi => (h i hi).symm⟩, fun h i hi => (h.2 i hi).symm⟩
    | ipv6 b => simp [contains, kind]
    | unix y => simp [contains, kind]
  | ipv6 a =>
    cases h
    cases b with
    | ipv6 b =>
      rw [contains, IPAddr.contains_iff_liesIn]
      exact ⟨fun h => ⟨rfl, fun i hi => (h i hi).symm⟩, fun h i hi => (h.2 i hi).symm⟩
    | ipv4 b => simp [contains, kind]
    | unix y => simp [contains, kind]

lemma contains_refl (a : SocketAddress) : a.contains a = true := by
  cases a with
  | unix x => exact beq_self_eq_true x
  | ipv4 a => exact (contains_iff_bit rfl).2 ⟨rfl, fun _ _ => rfl⟩
  | ipv6 a => exact (contains_iff_bit rfl).2 ⟨rfl, fun _ _ => rfl⟩

lemma contains_of_kind_ne {a b : SocketAddress} (h : a.kind ≠ b.kind) : a.contains b = false := by
  cases a <;> cases b <;> first | rfl | exact absurd rfl h

section

variable {a b c : SocketAddress} {p q : Nat} (ha : a.prefixLen? = some p)
  (hb : b.prefixLen? = some q) (hle : p ≤ q)
include ha hb hle

/-- What lies in a network lies in every wider network that contains it. -/
theorem contains_trans (hab : a.contains b = true) (hbc : b.contains c = true) :
    a.contains c = true := by
  rw [contains_iff_bit ha] at hab ⊢
  rw [contains_iff_bit hb] at hbc
  exact ⟨hab.1.trans hbc.1, fun i hi => (hab.2 i hi).trans (hbc.2 i (Nat.lt_of_lt_of_le hi hle))⟩

/-- Of two networks with an address in common the wider one contains the other. -/
theorem contains_of_common (hac : a.contains c = true) (hbc : b.contains c = true) :
    a.contains b = true := by
  rw [contains_iff_bit ha] at hac ⊢
  rw [contains_iff_bit hb] at hbc
  exact ⟨hac.1.trans hbc.1.symm,
    fun i hi => (hac.2 i hi).trans (hbc.2 i (Nat.lt_of_lt_of_le hi hle)).symm⟩

end

/-- Containment is an equivalence of the networks of one prefix length. -/
lemma contains_equivalence (p : Nat) :
    Equivalence fun a b : {a : SocketAddress // a.prefixLen? = some p} =>
      a.1.contains b.1 = true where
  refl a := contains_refl a.1
  symm {a b} hab := contains_of_common b.2 a.2 (Nat.le_refl p) (contains_refl b.1) hab
  trans {a b _} hab hbc := contains_trans a.2 b.2 (Nat.le_refl p) hab hbc

/-- Two networks are nested or have no address in common, so containment is reflexive, transitive
where prefixes get no shorter, and an equivalence of networks of one prefix length. No address
contains one of another kind. -/
theorem contains_nested_or_disjoint :
    (∀ (a b : SocketAddress) (p q : Nat), a.prefixLen? = some p → b.prefixLen? = some q → p ≤ q →
      (a.contains b → ∀ c, b.contains c → a.contains c) ∧
      (¬a.contains b → ∀ c, ¬(a.contains c ∧ b.contains c))) ∧
    (∀ a : SocketAddress, a.contains a) ∧
    (∀ (a b c : SocketAddress) (p q : Nat), a.prefixLen? = some p → b.prefixLen? = some q → p ≤ q →
      a.contains b → b.contains c → a.contains c) ∧
    (∀ p, Equivalence fun a b : {a : SocketAddress // a.prefixLen? = some p} =>
      a.1.contains b.1 = true) ∧
    (∀ a b : SocketAddress, a.kind ≠ b.kind → a.contains b = false ∧ b.contains a = false) := by
  refine ⟨fun a b p q ha hb hle => ⟨fun hab c => contains_trans ha hb hle hab, ?_⟩, contains_refl,
    fun a b c p q ha hb hle => contains_trans ha hb hle, contains_equivalence, fun a b h => ?_⟩
  · rintro hab c ⟨hac, hbc⟩
    exact hab (contains_of_common ha hb hle hac hbc)
  · exact ⟨contains_of_kind_ne h, contains_of_kind_ne h.symm⟩

/-- A chain of three networks that keep their host bits, one beside it and one that is all. -/
theorem contains_nested_or_disjoint_chain :
    ∃ wide middle narrow other all : IPv4,
      (ipv4 wide).contains (ipv4 middle) ∧ (ipv4 middle).contains (ipv4 narrow) ∧
      (ipv4 wide).contains (ipv4 narrow) ∧
      (∀ c, ¬((ipv4 middle).contains c ∧ (ipv4 other).contains c)) ∧
      (ipv4 all).contains (ipv4 wide) ∧ (ipv4 all).contains (ipv4 narrow) ∧
      (ipv4 all).contains (ipv6 (IPAddr.ofParts 0 0 0)) = false := by
  obtain ⟨hnested, -, htrans, -, hkinds⟩ := contains_nested_or_disjoint
  have hmiddle : (ipv4 (IPAddr.ofParts 0x0a090909 8 0)).contains
      (ipv4 (IPAddr.ofParts 0x0a010203 16 80)) = true := by decide
  have hnarrow : (ipv4 (IPAddr.ofParts 0x0a010203 16 80)).contains
      (ipv4 (IPAddr.ofParts 0x0a01ff00 32 0)) = true := by decide
  have hall : (ipv4 (IPAddr.ofParts 0xffffffff 0 0)).contains
      (ipv4 (IPAddr.ofParts 0x0a090909 8 0)) = true := by decide
  have hwide := htrans _ _ _ 8 16 rfl rfl (by decide) hmiddle hnarrow
  exact ⟨_, _, _, IPAddr.ofParts 0x0a020203 16 0, _, hmiddle, hnarrow, hwide,
    (hnested _ _ 16 16 rfl rfl (Nat.le_refl 16)).2 (by decide), hall,
    (hnested _ _ 0 8 rfl rfl (by decide)).1 hall _ hwide, (hkinds _ _ (by decide)).1⟩

end SocketAddress

end HostAddr
