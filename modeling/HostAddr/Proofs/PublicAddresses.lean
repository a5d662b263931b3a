import HostAddr.Proofs.DefaultAddresses

/-!
# Public addresses are forwarded

Every network that is not forwarded lies within a network of RFC 6890. So an IP address outside
the networks of that RFC is forwarded, and the filter on forwarded addresses leaves the public
addresses of the default interface as they are.
-/

namespace HostAddr

namespace SocketAddress

/-- A network within another: it is no wider, and its own address is in the other one. -/
def Encloses (wide net : SocketAddress) : Prop :=
  wide.contains net ∧ ∃ p ∈ wide.prefixLen?, ∃ q ∈ net.prefixLen?, p ≤ q

instance (wide net : SocketAddress) : Decidable (wide.Encloses net) :=
  inferInstanceAs (Decidable (_ ∧ _))

variable {wide net a : SocketAddress}

lemma Encloses.contains (h : wide.Encloses net) (ha : net.contains a = true) :
    wide.contains a = true := by
  obtain ⟨hnet, p, hp, q, hq, hle⟩ := h
  exact contains_trans hp hq hle hnet ha

end SocketAddress

namespace Registry

variable {a : SocketAddress}

/-- The networks whose addresses count as private. -/
def privateNetworks : List SocketAddress :=
  (networks? privateRfc).getD []

theorem unforwarded_enclosed :
    ∀ net ∈ unforwardedNetworks, ∃ wide ∈ privateNetworks, wide.Encloses net := by
  decide

/-- An address of a network that is not forwarded lies in the private network around it. -/
theorem isForwardable_of_public (hip : a.isIP)
    (hpublic : privateNetworks.any (·.contains a) = false) : isForwardable a = true := by
  have houtside : unforwardedNetworks.any (·.contains a) = false := by
    rw [List.any_eq_false] at hpublic ⊢
    intro net hnet ha
    obtain ⟨wide, hwide, henclosed⟩ := unforwarded_enclosed net hnet
    exact hpublic wide hwide (henclosed.contains ha)
  rw [isForwardable, hip, houtside]
  rfl

end Registry

namespace Host

variable {h : Host} {rs : List Record}

lemma isIP_of_defaultIPs (hrs : h.defaultIPs = .ok rs) : ∀ r ∈ rs, r.address.isIP := by
  obtain ⟨defaults, -, hips⟩ := bind_eq_ok_iff.1 hrs
  have hall : ∀ r ∈ defaults.filter (·.address.isIP), r.address.isIP :=
    fun r hr => (List.mem_filter.1 hr).2
  obtain ⟨sorted, hsort, hstable⟩ := sortBy_type_size h.sorter hall
  rw [includeBy_ip, ok_bind, hsort] at hips
  cases hips
  exact fun r hr => hall r (hstable.perm.mem_iff.1 hr)

theorem isForwardable_of_publicInterfaces (hrs : h.publicInterfaces = .ok rs) :
    ∀ r ∈ rs, Registry.isForwardable r.address := by
  obtain ⟨ips, hips, hpublic⟩ := bind_eq_ok_iff.1 hrs
  rw [excludeBy_rfc (by decide) rfl] at hpublic
  cases hpublic
  intro r hr
  obtain ⟨hmem, houtside⟩ := List.mem_filter.1 hr
  have hpublic : Registry.holds Registry.privateRfc r.address = false := by simpa using houtside
  exact Registry.isForwardable_of_public (isIP_of_defaultIPs hips r hmem) hpublic

end Host

/-- IP addresses outside the networks of RFC 6890 are forwarded, so all the public interfaces of a
host pass the filter on forwarded addresses. -/
theorem public_isForwardable :
    (∀ a : SocketAddress, a.isIP → Registry.isIn 6890 a = .ok false → Registry.isForwardable a) ∧
    ∀ h : Host,
      h.publicInterfaces >>= includeBy h.engine "flag" "forwardable" = h.publicInterfaces := by
  constructor
  · intro a hip hpublic
    exact Registry.isForwardable_of_public hip (Except.ok.inj hpublic)
  · intro h
    cases hrs : h.publicInterfaces with
    | error e => rfl
    | ok rs =>
      rw [ok_bind, includeBy_forwardable,
        List.filter_eq_self.2 (Host.isForwardable_of_publicInterfaces hrs)]

open Registry (v4 v6) in
/-- Addresses right beside networks that are not forwarded, and a host with addresses of every
kind. -/
theorem public_isForwardable_beside :
    Registry.isForwardable (v4 192 0 1 0 32) ∧ Registry.isForwardable (v4 239 255 255 255 4) ∧
    Registry.isForwardable (v6 [0x2001, 0xdb9] 16) ∧
    Host.mixed.publicInterfaces >>= includeBy Host.mixed.engine "flag" "forwardable" =
      Host.mixed.publicInterfaces := by
  obtain ⟨hforwarded, hkept⟩ := public_isForwardable
  exact ⟨hforwarded _ rfl rfl, hforwarded _ rfl rfl, hforwarded _ rfl rfl, hkept Host.mixed⟩

/-- Private addresses may be forwarded too. -/
example : Registry.isIn 6890 (Registry.v4 10 1 2 3 8) = .ok true ∧
    Registry.isForwardable (Registry.v4 10 1 2 3 8) := by
  decide

end HostAddr
