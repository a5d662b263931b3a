import HostAddr.Proofs.DefaultAddresses
import HostAddr.Proofs.SpeltSources

/-!
# The order of a listing

A host may list its records in any order. What is selected from them then changes by the order of
records of one family and one prefix length at most, and the address that is picked from a
selection does not change where one record alone comes first.
-/

namespace HostAddr

namespace Record

/-- The family and the prefix length, by which records are put in order. -/
def networkKey (r : Record) : AddressKind × Option Nat :=
  (r.address.kind, r.address.prefixLen?)

/-- The order of families, and of prefix lengths within a family. -/
def KeyLE (k l : AddressKind × Option Nat) : Prop :=
  k.1.rank < l.1.rank ∨ k.1 = l.1 ∧ ∃ p q, k.2 = some p ∧ l.2 = some q ∧ p ≤ q

lemma KeyLE.antisymm {k l : AddressKind × Option Nat} (hkl : KeyLE k l) (hlk : KeyLE l k) :
    k = l := by
  rcases hkl with hlt | ⟨hkind, p, q, hp, hq, hpq⟩
  · rcases hlk with hlt' | ⟨hkind, -⟩
    · exact absurd hlt' hlt.asymm
    · exact absurd (hkind ▸ hlt) (lt_irrefl _)
  · rcases hlk with hlt | ⟨-, q', p', hq', hp', hqp⟩
    · exact absurd (hkind ▸ hlt) (lt_irrefl _)
    · obtain rfl := Option.some.inj (hp.symm.trans hp')
      obtain rfl := Option.some.inj (hq.symm.trans hq')
      obtain rfl := le_antisymm hpq hqp
      exact Prod.ext hkind (hp.trans hq.symm)

lemma keyLE_of_compareNetworks {r s : Record} (hr : r.address.isIP) (hs : s.address.isIP)
    (h : (r.compareNetworks s).isLE) : KeyLE r.networkKey s.networkKey := by
  obtain ⟨a, i⟩ := r
  obtain ⟨b, j⟩ := s
  cases a with
  | unix p => cases hr
  | ipv4 a =>
    cases b with
    | unix p => cases hs
    | ipv4 b => exact .inr ⟨rfl, _, _, rfl, rfl, Nat.isLE_compare.1 h⟩
    | ipv6 b => exact .inl (Nat.lt_succ_self 1)
  | ipv6 a =>
    cases b with
    | unix p => cases hs
    | ipv4 b => cases h
    | ipv6 b => exact .inr ⟨rfl, _, _, rfl, rfl, Nat.isLE_compare.1 h⟩

/-- A record of a list that no other comes before. -/
def AttainsLeast (rs : List Record) (r : Record) : Prop :=
  r ∈ rs ∧ ∀ s ∈ rs, (r.compareNetworks s).isLE

instance (rs : List Record) : DecidablePred (AttainsLeast rs) :=
  fun _ => inferInstanceAs (Decidable (_ ∧ _))

lemma AttainsLeast.iff_eq {rs : List Record} {r : Record} (hr : AttainsLeast rs r)
    (honly : ∀ s ∈ rs, AttainsLeast rs s → s = r) (s : Record) : AttainsLeast rs s ↔ s = r :=
  ⟨fun hs => honly s hs.1 hs, fun hs => hs ▸ hr⟩

end Record

section

variable {records records' rs rs' : List Record}

/-- Two listings of the same records agree, once in order, on the key at every place. -/
theorem map_networkKey_eq (hip : ∀ r ∈ records, r.address.isIP) (hperm : rs.Perm records)
    (hperm' : rs'.Perm records) (hsorted : rs.Pairwise fun r s => (r.compareNetworks s).isLE)
    (hsorted' : rs'.Pairwise fun r s => (r.compareNetworks s).isLE) :
    rs.map Record.networkKey = rs'.map Record.networkKey := by
  have hkeys : ∀ {ts : List Record}, ts.Perm records →
      (ts.Pairwise fun r s => (r.compareNetworks s).isLE) →
      (ts.map Record.networkKey).Pairwise Record.KeyLE := by
    intro ts hts hle
    refine List.pairwise_map.2 (hle.imp_of_mem fun hr hs hrs => ?_)
    exact Record.keyLE_of_compareNetworks (hip _ (hts.subset hr)) (hip _ (hts.subset hs)) hrs
  have hmap : (rs.map Record.networkKey).Perm (rs'.map Record.networkKey) :=
    (hperm.trans hperm'.symm).map _
  exact hmap.eq_of_pairwise (fun _ _ _ _ => Record.KeyLE.antisymm) (hkeys hperm hsorted)
    (hkeys hperm' hsorted')

/-- The first record of a list in order is the one that comes first, where that is one alone. -/
theorem head?_eq_of_attainsLeast (hip : ∀ r ∈ records, r.address.isIP) (hperm : rs.Perm records)
    (hsorted : rs.Pairwise fun r s => (r.compareNetworks s).isLE) {r : Record}
    (honly : ∀ s, Record.AttainsLeast records s ↔ s = r) : rs.head? = some r := by
  have hmem : r ∈ rs := hperm.symm.subset ((honly r).2 rfl).1
  obtain ⟨x, xs, rfl⟩ := List.exists_cons_of_ne_nil (List.ne_nil_of_mem hmem)
  have hx : x ∈ records := hperm.subset List.mem_cons_self
  have hleast : Record.AttainsLeast records x := by
    refine ⟨hx, fun s hs => ?_⟩
    rcases List.mem_cons.1 (hperm.symm.subset hs) with rfl | hs
    · rw [(preorderOn_compareNetworks hip).refl s hx]
      rfl
    · exact (List.pairwise_cons.1 hsorted).1 s hs
  rw [(honly x).1 hleast]
  rfl

end

/-- Two selections, each with the text of an address picked from it, that hold `records` in order,
with the same keys, and pick the address of the record that comes first, where that is one
alone. -/
structure AgreeUpToTies (records : List Record) (selected selected' : Except Error (List Record))
    (address address' : Except Error String) : Prop where
  selected : ∃ rs rs', selected = .ok rs ∧ selected' = .ok rs' ∧ rs.Perm records ∧
    rs'.Perm records ∧ rs.Perm rs' ∧ rs.map Record.networkKey = rs'.map Record.networkKey
  address : ∀ r, (∀ s, Record.AttainsLeast records s ↔ s = r) →
    address = .ok r.address.bareText ∧ address' = .ok r.address.bareText

namespace Host

lemma agreeUpToTies_of_sort {records records' rs rs' : List Record}
    (hip : ∀ r ∈ records, r.address.isIP) (hperm : records.Perm records')
    (hsort : IsStableSort Record.compareNetworks records rs)
    (hsort' : IsStableSort Record.compareNetworks records' rs') :
    AgreeUpToTies records (.ok rs) (.ok rs') (.ok (firstAddress rs)) (.ok (firstAddress rs')) := by
  have hrs' : rs'.Perm records := hsort'.perm.trans hperm.symm
  refine ⟨⟨rs, rs', rfl, rfl, hsort.perm, hrs', hsort.perm.trans hrs'.symm,
    map_networkKey_eq hip hsort.perm hrs' hsort.sorted hsort'.sorted⟩, fun r honly => ?_⟩
  rw [firstAddress_eq, firstAddress_eq,
    head?_eq_of_attainsLeast hip hsort.perm hsort.sorted honly,
    head?_eq_of_attainsLeast hip hrs' hsort'.sorted honly]
  exact ⟨rfl, rfl⟩

section

variable {engine : PatternEngine} {pattern : String} {isMatch : String → Bool}

lemma includeBy_name (hpattern : engine.compile? pattern = some isMatch) (rs : List Record) :
    includeBy engine "name" pattern rs = .ok (rs.filter fun r => isMatch r.interface.name) := by
  have hs : Selector.parse "name" = .ok .name := by decide +kernel
  have hf : Filter.compile engine .name pattern = .ok (.name isMatch) := by
    rw [Filter.compile, Filter.compilePattern, hpattern]
    rfl
  exact includeBy_eq_ok hs hf fun _ _ => rfl

/-- The forwardable IP addresses of the interfaces whose name matches, as they are listed. -/
def matchingRecords (isMatch : String → Bool) (all : List Record) : List Record :=
  all.filter fun r =>
    isMatch r.interface.name ∧ r.address.isIP ∧ Registry.isForwardable r.address

lemma isIP_of_mem_matchingRecords {all : List Record} :
    ∀ r ∈ matchingRecords isMatch all, r.address.isIP := by
  intro r hr
  have hparts : isMatch r.interface.name ∧ r.address.isIP ∧
      Registry.isForwardable r.address := by
    simpa using (List.mem_filter.1 hr).2
  exact hparts.2.1

lemma interfaceRecords_eq_ok {h : Host} {all : List Record} (hall : h.listing = .ok all)
    (hpattern : h.engine.compile? pattern = some isMatch) :
    ∃ rs, h.interfaceRecords pattern = .ok rs ∧
      IsStableSort Record.compareNetworks (matchingRecords isMatch all) rs := by
  have hfilters : (((all.filter fun r => isMatch r.interface.name).filter (·.address.isIP)).filter
      (Registry.isForwardable ·.address)) = matchingRecords isMatch all := by
    rw [List.filter_filter, List.filter_filter, matchingRecords]
    refine List.filter_congr fun r _ => ?_
    rw [Bool.eq_iff_iff]
    simp only [Bool.and_eq_true, decide_eq_true_eq]
    tauto
  have hip : ∀ r ∈ matchingRecords isMatch all, r.address.isIP := isIP_of_mem_matchingRecords
  obtain ⟨rs, hsort, hstable⟩ := sortBy_type_size h.sorter hip
  refine ⟨rs, ?_, hstable⟩
  simp only [interfaceRecords, hall, ok_bind, includeBy_name hpattern, includeBy_ip,
    includeBy_forwardable, hfilters, hsort]

end

/-- Hosts that list the same records, in whatever order, have the same private and the same public
interfaces, and the same addresses of the interfaces whose name matches, but for the order of
records with one key. Where one record comes first, its address is the one picked on both. The
hosts need not sort alike. -/
theorem agreeUpToTies_of_perm {h h' : Host} {all all' : List Record}
    (hname : h.defaultName = h'.defaultName) (hengine : h.engine = h'.engine)
    (hall : h.listing = .ok all) (hall' : h'.listing = .ok all') (hperm : all.Perm all') :
    (∀ name, h.defaultName = .ok name →
      AgreeUpToTies ((ipRecords name all).filter (·.address.IsPrivate))
        h.privateInterfaces h'.privateInterfaces h.privateIP h'.privateIP ∧
      AgreeUpToTies ((ipRecords name all).filter (¬·.address.IsPrivate))
        h.publicInterfaces h'.publicInterfaces h.publicIP h'.publicIP) ∧
    ∀ pattern isMatch, h.engine.compile? pattern = some isMatch →
      AgreeUpToTies (matchingRecords isMatch all) (h.interfaceRecords pattern)
        (h'.interfaceRecords pattern) (h.interfaceIP pattern) (h'.interfaceIP pattern) := by
  constructor
  · intro name hok
    obtain ⟨ips, hips, hsort⟩ := defaultIPs_eq_ok hok hall
    obtain ⟨ips', hips', hsort'⟩ := defaultIPs_eq_ok (hname ▸ hok) hall'
    have hperm' : (ipRecords name all).Perm (ipRecords name all') := hperm.filter _
    have hip : ∀ (p : Record → Bool), ∀ r ∈ (ipRecords name all).filter p, r.address.isIP :=
      fun p r hr => isIP_of_mem_ipRecords r (List.mem_filter.1 hr).1
    constructor
    · simp only [privateIP, privateInterfaces, hips, hips', ok_bind, includeBy_private]
      exact agreeUpToTies_of_sort (hip _) (hperm'.filter _) (hsort.filter _) (hsort'.filter _)
    · simp only [publicIP, publicInterfaces, hips, hips', ok_bind, excludeBy_private]
      exact agreeUpToTies_of_sort (hip _) (hperm'.filter _) (hsort.filter _) (hsort'.filter _)
  · intro pattern isMatch hpattern
    obtain ⟨rs, hrs, hsort⟩ := interfaceRecords_eq_ok hall hpattern
    obtain ⟨rs', hrs', hsort'⟩ := interfaceRecords_eq_ok hall' (hengine ▸ hpattern)
    simp only [interfaceIP_eq, hrs, hrs']
    exact agreeUpToTies_of_sort isIP_of_mem_matchingRecords (hperm.filter _) hsort hsort'

open Registry (v4)

/-- The same host, which lists its records the other way round. -/
def reversed (h : Host) : Host :=
  { h with listing := h.listing.map List.reverse }

/-- Two private addresses of one key change places, and the first address is the same. -/
theorem agreeUpToTies_of_perm_reversed :
    mixed.privateIP = .ok "10.0.0.5" ∧ mixed.reversed.privateIP = .ok "10.0.0.5" ∧
      mixed.interfaceIP "^en" = .ok "10.0.0.5" ∧
      mixed.reversed.interfaceIP "^en" = .ok "10.0.0.5" := by
  have hparse : Regex.parse? "^en" = some (.seq (.look .textStart) (.literal ['e', 'n'])) := by
    decide +kernel
  have hpattern : mixed.engine.compile? "^en" =
      some (Regex.isMatch (.seq (.look .textStart) (.literal ['e', 'n']))) := by
    show (Regex.parse? "^en").map Regex.isMatch = _
    rw [hparse]
    rfl
  have hname : mixed.defaultName = mixed.reversed.defaultName := rfl
  obtain ⟨hdefault, hnamed⟩ := agreeUpToTies_of_perm hname rfl rfl rfl
    (List.reverse_perm _).symm
  have hpriv := (hdefault "en0" rfl).1.address ⟨v4 10 0 0 5 8, wired⟩
    (Record.AttainsLeast.iff_eq (by decide +kernel) (by decide +kernel))
  have hlan := (hnamed "^en" _ hpattern).address ⟨v4 10 0 0 5 8, wired⟩
    (Record.AttainsLeast.iff_eq (by decide +kernel) (by decide +kernel))
  have htext : (v4 10 0 0 5 8).bareText = "10.0.0.5" := by decide +kernel
  simp only [htext] at hpriv hlan
  exact ⟨hpriv.1, hpriv.2, hlan.1, hlan.2⟩

end Host

end HostAddr
