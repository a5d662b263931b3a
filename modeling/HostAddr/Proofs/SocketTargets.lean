import HostAddr.Address.Endpoint
import HostAddr.Proofs.AddressReading

/-!
# Targets read back

The target of an IP address is written by a rule of its own, with a port always and brackets around
an IPv6 address always, and still it is of the grammar of addresses. So a target that is not empty
is read as the host it names, and it is the same one whatever the socket is opened for.
-/

namespace HostAddr

namespace IPAddr

variable {w : Nat} {x : IPAddr w} {host : List Char} {use : SocketUse}

lemma targetWith_eq_empty_iff :
    x.targetWith host use = "" ↔ x.prefixLen ≠ w ∨ use.listens = false ∧ x.port = 0 := by
  rw [targetWith]
  split
  · rename_i h
    obtain ⟨hhost, hport⟩ := h
    have hfull : x.prefixLen = w := by simpa [isHost] using hhost
    have hne : String.ofList (host ++ ':' :: decimal x.port.toNat) ≠ "" := by
      intro hempty
      have hnil : host ++ ':' :: decimal x.port.toNat = [] := String.ofList_injective hempty
      simp at hnil
    refine iff_of_false hne ?_
    rintro (hpartial | ⟨hdial, hzero⟩)
    · exact hpartial hfull
    · rcases hport with hport | hlisten
      · exact hport hzero
      · simp [hdial] at hlisten
  · rename_i h
    refine iff_of_true rfl ?_
    by_cases hfull : x.prefixLen = w
    · right
      by_contra hneither
      refine h ⟨by simpa [isHost] using hfull, ?_⟩
      cases hlisten : use.listens with
      | true => exact .inr rfl
      | false => exact .inl fun hzero => hneither ⟨hlisten, hzero⟩
    · exact .inl hfull

/-- A target that is not empty is written in one way only. -/
lemma targetWith_of_ne (h : x.targetWith host use ≠ "") :
    x.targetWith host use = String.ofList (host ++ ':' :: decimal x.port.toNat) := by
  rw [targetWith] at h ⊢
  split at h
  · rename_i hboth
    rw [if_pos hboth]
  · exact absurd rfl h

end IPAddr

/-- The targets of an address, which `ip` makes a socket address: where they are not empty they are
read as its host, with its address and its port, and do not differ from one another. -/
structure IPAddr.HasTargets {w : Nat} (ip : IPAddr w → SocketAddress) (x : IPAddr w) : Prop where
  eq_empty_iff : ∀ use, ((ip x).endpoint use).target = "" ↔
    x.prefixLen ≠ w ∨ use.listens = false ∧ x.port = 0
  parseIP_target : ∀ use, ((ip x).endpoint use).target ≠ "" →
    SocketAddress.parseIP ((ip x).endpoint use).target = .ok (ip x.host) ∧
      x.host.address = x.address ∧ x.host.port = x.port
  eq_of_ne : ∀ use use', ((ip x).endpoint use).target ≠ "" → ((ip x).endpoint use').target ≠ "" →
    ((ip x).endpoint use).target = ((ip x).endpoint use').target

/-- It takes no more than a form before the port that is read back with it. -/
lemma IPAddr.hasTargets {w : Nat} {ip : IPAddr w → SocketAddress} {x : IPAddr w}
    {host : List Char} (htarget : ∀ use, (ip x).target use = x.targetWith host use)
    (hread : SocketAddress.parseIP (String.ofList (host ++ ':' :: decimal x.port.toNat)) =
      .ok (ip x.host)) : x.HasTargets ip := by
  have hendpoint (use : SocketUse) : ((ip x).endpoint use).target = x.targetWith host use :=
    htarget use
  constructor
  case eq_empty_iff =>
    intro use
    rw [hendpoint]
    exact targetWith_eq_empty_iff
  case parseIP_target =>
    intro use h
    rw [hendpoint] at h ⊢
    rw [targetWith_of_ne h]
    exact ⟨hread, rfl, rfl⟩
  case eq_of_ne =>
    intro use use' h h'
    rw [hendpoint] at h h' ⊢
    rw [hendpoint, targetWith_of_ne h, targetWith_of_ne h']

/-- Every address of either family has targets that denote it. -/
theorem targets_denote :
    (∀ x : IPv4, x.HasTargets .ipv4) ∧ (∀ x : IPv6, x.HasTargets .ipv6) := by
  constructor
  · intro x
    apply IPAddr.hasTargets (fun _ => rfl)
    apply SocketAddress.parseIP_of_parse_ipv4
    apply IPv4.isFamily.parse_of_isText
    exact .endpoint (IPv4.isPlain_plainChars x.address) (isNumeral_decimal x.port.toNat)
  · intro x
    apply IPAddr.hasTargets (fun _ => rfl)
    rw [IPv6.bracketed, List.append_assoc]
    apply SocketAddress.parseIP_of_parse_ipv6
    apply IPv6.isFamily.parse_of_isText
    exact .endpoint (IPv6.isPlain_plainChars x.address) (isNumeral_decimal x.port.toNat)

/-- A host without a port is listened on at port zero and not dialled. -/
example :
    let x : IPv6 := IPAddr.ofParts 0xffff7f000001 128 0
    ((SocketAddress.ipv6 x).target .listenStream, (SocketAddress.ipv6 x).target .dialStream) =
      ("[::ffff:127.0.0.1]:0", "") := by
  decide +kernel

end HostAddr
