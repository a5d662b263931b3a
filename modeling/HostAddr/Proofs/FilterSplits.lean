import HostAddr.Proofs.FilterReading
import HostAddr.Runtime

/-!
# Filters split lists

A filter that its words name splits every list by one predicate on single records, and both parts
keep the order of the list. It fails before it has looked at any record, or on a record that has no
mask of the wanted size. So filters that succeed on a list can change places.
-/

namespace HostAddr

variable {engine : PatternEngine}

/-- The third list is the first two merged, each in its own order. -/
inductive Merges {α : Type} : List α → List α → List α → Prop
  | nil : Merges [] [] []
  | left {a : α} {as bs cs : List α} : Merges as bs cs → Merges (a :: as) bs (a :: cs)
  | right {b : α} {as bs cs : List α} : Merges as bs cs → Merges as (b :: bs) (b :: cs)

lemma merges_filter {α : Type} (p : α → Bool) (as : List α) :
    Merges (as.filter p) (as.filter (!p ·)) as := by
  induction as with
  | nil => exact .nil
  | cons a as ih =>
    cases ha : p a with
    | true => simpa [ha] using ih.left
    | false => simpa [ha] using ih.right

/-- The words for a selector. -/
def Selector.words : List String :=
  ["address", "flag", "flags", "name", "network", "port", "rfc", "rfcs", "size", "type"]

lemma Selector.exists_parse_eq_error_iff {s : String} :
    (∃ e, Selector.parse s = .error e) ↔ keyword s ∉ Selector.words := by
  rw [Selector.parse]
  split <;> simp_all [Selector.words]

/-- The address is of a kind that has no mask of so many bits. -/
def Record.LacksMask (bits : Nat) (r : Record) : Prop :=
  r.address.kind = .ipv4 ∧ 32 < bits ∨ r.address.kind = .ipv6 ∧ 128 < bits

instance (bits : Nat) (r : Record) : Decidable (r.LacksMask bits) :=
  inferInstanceAs (Decidable (_ ∨ _))

namespace Filter

variable {selector param : String} {s : Selector} {f : Filter} {r : Record} {rs : List Record}
  {e : Error}

def read (engine : PatternEngine) (selector param : String) : Except Error Filter := do
  let s ← Selector.parse selector
  compile engine s param

lemma read_eq_ok_iff :
    read engine selector param = .ok f ↔
      ∃ s, Selector.parse selector = .ok s ∧ compile engine s param = .ok f :=
  bind_eq_ok_iff

lemma exists_read_eq_error_iff :
    (∃ e, read engine selector param = .error e) ↔
      keyword selector ∉ Selector.words ∨
        ∃ s, Selector.parse selector = .ok s ∧ ∃ e, compile engine s param = .error e := by
  rw [← Selector.exists_parse_eq_error_iff]
  simp only [read, bind_eq_error_iff, exists_or]
  refine or_congr_right ?_
  rw [exists_comm]
  exact exists_congr fun s => exists_and_left

lemma partitionBy_eq_bind :
    partitionBy engine selector param rs = read engine selector param >>= fun f => f.split rs :=
  (bind_assoc _ _ _).symm

lemma lacksMask_iff {bits : Nat} : r.LacksMask bits ↔ r.address.width?.any (· < bits) = true := by
  obtain ⟨a, i⟩ := r
  cases a <;> simp [Record.LacksMask, SocketAddress.kind, SocketAddress.width?]

/-- Only a filter on the size of the network refuses records. -/
lemma refusal?_eq_some_iff :
    f.refusal? r = some e ↔
      ∃ bits, f = size bits ∧ r.LacksMask bits ∧ e = .maskSizeOutOfBounds bits r.address := by
  cases f with
  | size bits =>
    rw [refusal?, Option.ite_none_right_eq_some, ← lacksMask_iff]
    constructor
    · rintro ⟨hlacks, ⟨⟩⟩
      exact ⟨bits, rfl, hlacks, rfl⟩
    · rintro ⟨_, ⟨⟩, hlacks, rfl⟩
      exact ⟨hlacks, rfl⟩
  | _ => simp [refusal?]

lemma compile_eq_size_iff {bits : Nat} :
    compile engine s param = .ok (size bits) ↔ s = .size ∧ parseSize param = .ok bits := by
  cases s <;> simp [compile, map_eq_ok_iff]

lemma exists_split_eq_error_iff :
    (∃ e, f.split rs = .error e) ↔ ∃ bits, f = size bits ∧ ∃ r ∈ rs, r.LacksMask bits := by
  have hrefused : (∃ e, f.split rs = .error e) ↔ ∃ r ∈ rs, ∃ e, f.refusal? r = some e := by
    simp only [← Option.isSome_iff_exists, ← List.findSome?_isSome_iff, split]
    cases rs.findSome? f.refusal? <;> simp
  rw [hrefused]
  constructor
  · rintro ⟨r, hr, e, he⟩
    obtain ⟨bits, hf, hlacks, -⟩ := refusal?_eq_some_iff.1 he
    exact ⟨bits, hf, r, hr, hlacks⟩
  · rintro ⟨bits, hf, r, hr, hlacks⟩
    exact ⟨r, hr, _, refusal?_eq_some_iff.2 ⟨bits, hf, hlacks, rfl⟩⟩

end Filter

section

variable {selector param : String} {rs : List Record}

/-- The words name no filter, or the filter refuses one of the records. -/
def Refuses (engine : PatternEngine) (selector param : String) (rs : List Record) : Prop :=
  keyword selector ∉ Selector.words ∨
  (∃ s, Selector.parse selector = .ok s ∧ ∃ e, Filter.compile engine s param = .error e) ∨
  ∃ bits, Selector.parse selector = .ok .size ∧ Filter.parseSize param = .ok bits ∧
    ∃ r ∈ rs, r.LacksMask bits

theorem partitionBy_fails_iff :
    (∃ e, partitionBy engine selector param rs = .error e) ↔ Refuses engine selector param rs := by
  rw [Refuses, ← or_assoc, ← Filter.exists_read_eq_error_iff]
  simp only [Filter.partitionBy_eq_bind, bind_eq_error_iff, exists_or]
  refine or_congr_right ?_
  constructor
  · rintro ⟨e, f, hf, hsplit⟩
    obtain ⟨bits, rfl, hrefused⟩ := Filter.exists_split_eq_error_iff.1 ⟨e, hsplit⟩
    obtain ⟨s, hs, hcompile⟩ := Filter.read_eq_ok_iff.1 hf
    obtain ⟨rfl, hbits⟩ := Filter.compile_eq_size_iff.1 hcompile
    exact ⟨bits, hs, hbits, hrefused⟩
  · rintro ⟨bits, hs, hbits, hrefused⟩
    have hf : Filter.read engine selector param = .ok (.size bits) :=
      Filter.read_eq_ok_iff.2 ⟨_, hs, Filter.compile_eq_size_iff.2 ⟨rfl, hbits⟩⟩
    obtain ⟨e, he⟩ := Filter.exists_split_eq_error_iff.2 ⟨bits, rfl, hrefused⟩
    exact ⟨e, _, hf, he⟩

lemma partitionBy_eq_ok_iff {parts : List Record × List Record} :
    partitionBy engine selector param rs = .ok parts ↔
      ∃ f, Filter.read engine selector param = .ok f ∧ (∀ r ∈ rs, f.refusal? r = none) ∧
        (rs.filter f.holds, rs.filter (!f.holds ·)) = parts := by
  simp only [Filter.partitionBy_eq_bind, bind_eq_ok_iff, Filter.split_eq_ok_iff]

/-- One predicate, that of the filter the words name, splits all the lists that they split, and with
a list any of its records. -/
theorem exists_predicate (engine : PatternEngine) (selector param : String) :
    ∃ p : Record → Bool,
      (∀ s f, Selector.parse selector = .ok s → Filter.compile engine s param = .ok f →
        f.holds = p) ∧
      ∀ rs parts, partitionBy engine selector param rs = .ok parts →
        parts = (rs.filter p, rs.filter (!p ·)) ∧
          ∀ qs ⊆ rs,
            partitionBy engine selector param qs = .ok (qs.filter p, qs.filter (!p ·)) := by
  rcases exists_ok_or_error (Filter.read engine selector param) with ⟨f, hf⟩ | ⟨e, he⟩
  · refine ⟨f.holds, fun s g hs hg => ?_, fun rs parts hparts => ?_⟩
    · have hread := Filter.read_eq_ok_iff.2 ⟨s, hs, hg⟩
      rw [Except.ok.inj (hread.symm.trans hf)]
    · obtain ⟨g, hg, hfits, rfl⟩ := partitionBy_eq_ok_iff.1 hparts
      obtain rfl : f = g := Except.ok.inj (hf.symm.trans hg)
      exact ⟨rfl, fun qs hqs => partitionBy_eq_ok_iff.2 ⟨f, hf, fun r hr => hfits r (hqs hr), rfl⟩⟩
  · have hnone : ∀ f, Filter.read engine selector param ≠ .ok f := exists_eq_error_iff.1 ⟨e, he⟩
    refine ⟨fun _ => true, fun s f hs hf => ?_, fun rs parts hparts => ?_⟩
    · exact absurd (Filter.read_eq_ok_iff.2 ⟨s, hs, hf⟩) (hnone f)
    · obtain ⟨f, hf, -⟩ := partitionBy_eq_ok_iff.1 hparts
      exact absurd hf (hnone f)

lemma partitionBy_halves {met others : List Record} :
    partitionBy engine selector param rs = .ok (met, others) ↔
      includeBy engine selector param rs = .ok met ∧
        excludeBy engine selector param rs = .ok others := by
  rw [includeBy, excludeBy]
  cases partitionBy engine selector param rs with
  | error e => simp [Except.map]
  | ok parts => simp [Except.map, Prod.ext_iff]

end

/-- The filters that keep the records which meet their words, and those that drop them. -/
inductive IsFilter (engine : PatternEngine) : (List Record → Except Error (List Record)) → Prop
  | keeping (selector param : String) : IsFilter engine (includeBy engine selector param)
  | dropping (selector param : String) : IsFilter engine (excludeBy engine selector param)

namespace IsFilter

variable {f g : List Record → Except Error (List Record)}

/-- What a filter keeps of a list it keeps of any of its records, by the same predicate. -/
theorem exists_keeps (hf : IsFilter engine f) :
    ∃ p : Record → Bool, ∀ rs kept, f rs = .ok kept →
      kept = rs.filter p ∧ ∀ qs ⊆ rs, f qs = .ok (qs.filter p) := by
  cases hf with
  | keeping selector param =>
    obtain ⟨p, -, hp⟩ := exists_predicate engine selector param
    refine ⟨p, fun rs kept hkept => ?_⟩
    obtain ⟨parts, hparts, rfl⟩ := map_eq_ok_iff.1 hkept
    obtain ⟨rfl, hsub⟩ := hp rs parts hparts
    exact ⟨rfl, fun qs hqs => map_eq_ok_iff.2 ⟨_, hsub qs hqs, rfl⟩⟩
  | dropping selector param =>
    obtain ⟨p, -, hp⟩ := exists_predicate engine selector param
    refine ⟨(!p ·), fun rs kept hkept => ?_⟩
    obtain ⟨parts, hparts, rfl⟩ := map_eq_ok_iff.1 hkept
    obtain ⟨rfl, hsub⟩ := hp rs parts hparts
    exact ⟨rfl, fun qs hqs => map_eq_ok_iff.2 ⟨_, hsub qs hqs, rfl⟩⟩

variable {rs fs gs : List Record}

theorem idempotent (hf : IsFilter engine f) (hfs : f rs = .ok fs) : f fs = .ok fs := by
  obtain ⟨p, hp⟩ := hf.exists_keeps
  obtain ⟨rfl, hsub⟩ := hp rs fs hfs
  have htwice : (rs.filter p).filter p = rs.filter p := by simp [List.filter_filter]
  rw [hsub _ List.filter_sublist.subset, htwice]

theorem commute (hf : IsFilter engine f) (hg : IsFilter engine g) (hfs : f rs = .ok fs)
    (hgs : g rs = .ok gs) : ∃ both, f gs = .ok both ∧ g fs = .ok both := by
  obtain ⟨p, hp⟩ := hf.exists_keeps
  obtain ⟨q, hq⟩ := hg.exists_keeps
  obtain ⟨rfl, hfsub⟩ := hp rs fs hfs
  obtain ⟨rfl, hgsub⟩ := hq rs gs hgs
  refine ⟨_, hfsub _ List.filter_sublist.subset, ?_⟩
  rw [hgsub _ List.filter_sublist.subset, List.filter_comm]

end IsFilter

/-- The words of a filter split a list, unless they name no filter or it holds a record that lacks
a mask, by a predicate that does not depend on the list. Including and excluding give the two
parts, and filters that succeed on a list can be applied to it in either order, and again. -/
theorem partitionBy_splits (engine : PatternEngine) :
    (∀ selector param : String,
      (∀ rs, (∃ e, partitionBy engine selector param rs = .error e) ↔
        Refuses engine selector param rs) ∧
      (∃ p : Record → Bool,
        (∀ s f, Selector.parse selector = .ok s → Filter.compile engine s param = .ok f →
          f.holds = p) ∧
        ∀ rs, ¬Refuses engine selector param rs →
          partitionBy engine selector param rs = .ok (rs.filter p, rs.filter (!p ·)) ∧
            Merges (rs.filter p) (rs.filter (!p ·)) rs) ∧
      ∀ rs, (∀ met others, partitionBy engine selector param rs = .ok (met, others) ↔
          includeBy engine selector param rs = .ok met ∧
            excludeBy engine selector param rs = .ok others) ∧
        ∀ e, (includeBy engine selector param rs = .error e ↔
            partitionBy engine selector param rs = .error e) ∧
          (excludeBy engine selector param rs = .error e ↔
            partitionBy engine selector param rs = .error e)) ∧
    (∀ f g, IsFilter engine f → IsFilter engine g → ∀ rs fs gs, f rs = .ok fs → g rs = .ok gs →
      f fs = .ok fs ∧ ∃ both, f gs = .ok both ∧ g fs = .ok both) := by
  constructor
  · intro selector param
    obtain ⟨p, hholds, hp⟩ := exists_predicate engine selector param
    refine ⟨fun rs => partitionBy_fails_iff, ⟨p, hholds, fun rs hrs => ?_⟩, fun rs => ?_⟩
    · rw [← partitionBy_fails_iff, exists_eq_error_iff, not_forall_not] at hrs
      obtain ⟨parts, hparts⟩ := hrs
      obtain ⟨rfl, -⟩ := hp rs parts hparts
      exact ⟨hparts, merges_filter p rs⟩
    · exact ⟨fun _ _ => partitionBy_halves, fun _ => ⟨map_eq_error_iff, map_eq_error_iff⟩⟩
  · intro f g hf hg rs fs gs hfs hgs
    exact ⟨hf.idempotent hfs, hf.commute hg hfs hgs⟩

open Registry (v4) in
/-- Records that have a mask of the wanted size or not, and one that the filter passes over. -/
theorem partitionBy_splits_sizes :
    let engine := Regex.engine
    ∃ rs : List Record, rs.map (·.address.text) = ["10.1.2.3/8", "\"/run/bus\"", "10.1.2.3/24"] ∧
      (∃ e, partitionBy engine " Size" "+33 " rs = .error e) ∧
      ¬Refuses engine " Size" "24" rs ∧
      (partitionBy engine " Size" "24" rs).map (fun parts => parts.1.map (·.address.text)) =
        .ok ["10.1.2.3/24"] ∧
      ∃ sized ips both, includeBy engine " Size" "24" rs = .ok sized ∧
        excludeBy engine "name" "^lo" rs = .ok ips ∧
        includeBy engine " Size" "24" sized = .ok sized ∧
        includeBy engine " Size" "24" ips = .ok both ∧
        excludeBy engine "name" "^lo" sized = .ok both := by
  intro engine
  let i : Interface := ⟨1, "en0", 1500, .ofBits 1, none⟩
  let rs : List Record := [⟨v4 10 1 2 3 8, i⟩,
    ⟨.unix ⟨"/run/bus", by decide⟩, { i with name := "lo" }⟩, ⟨v4 10 1 2 3 24, i⟩]
  have hselector : Selector.parse " Size" = .ok .size := by decide +kernel
  have hbits : Filter.parseSize "24" = .ok 24 := by decide +kernel
  have hsize : Filter.compile engine .size "24" = .ok (.size 24) := by
    rw [Filter.compile, hbits]
    rfl
  have hfine : ¬Refuses engine " Size" "24" rs := by
    rintro (hword | ⟨s, hs, e, he⟩ | ⟨bits, -, hbits', r, hr, hlacks⟩)
    · exact hword (by decide +kernel)
    · obtain rfl : Selector.size = s := Except.ok.inj (hselector.symm.trans hs)
      rw [hsize] at he
      cases he
    · obtain rfl : 24 = bits := Except.ok.inj (hbits.symm.trans hbits')
      have hall : ∀ r ∈ rs, ¬r.LacksMask 24 := by decide
      exact hall r hr hlacks
  have hsized : includeBy engine " Size" "24" rs = .ok [⟨v4 10 1 2 3 24, i⟩] := by decide +kernel
  have hips : excludeBy engine "name" "^lo" rs =
      .ok [⟨v4 10 1 2 3 8, i⟩, ⟨v4 10 1 2 3 24, i⟩] := by decide +kernel
  obtain ⟨hwords, hfilters⟩ := partitionBy_splits engine
  obtain ⟨hfails, -⟩ := hwords " Size" "+33 "
  obtain ⟨-, ⟨p, hholds, hsplit⟩, -⟩ := hwords " Size" "24"
  obtain ⟨hagain, both, hboth, hboth'⟩ :=
    hfilters _ _ (.keeping " Size" "24") (.dropping "name" "^lo") rs _ _ hsized hips
  refine ⟨rs, by decide +kernel, (hfails rs).2 ?_, hfine, ?_, _, _, both, hsized, hips, hagain,
    hboth, hboth'⟩
  · exact .inr (.inr ⟨33, hselector, by decide +kernel, _, List.mem_cons_self, by decide⟩)
  · rw [(hsplit rs hfine).1, ← hholds _ _ hselector hsize]
    decide +kernel

end HostAddr
