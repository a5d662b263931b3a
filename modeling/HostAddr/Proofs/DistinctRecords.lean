import HostAddr.Proofs.AddressReading
import HostAddr.Proofs.RecordSort
import HostAddr.Selection.Slice
import Mathlib.Data.List.Destutter

/-!
# Records without repetitions

Repetitions are dropped among neighbours, so a single record of every text is left exactly where
equal texts stand together. A stable sort brings them together, but records that it calls equal keep
their old order, whatever their texts are. So it is with addresses: the sort compares their bits,
and the text also tells the port or the prefix.
-/

namespace HostAddr

section

variable {α β : Type*} {xs ys : List α} {f : α → β}

/-- No other element stands between two that are equal. -/
def Contiguous (ys : List β) : Prop :=
  ∀ s t, [s, t, s].Sublist ys → t = s

lemma contiguous_map_iff :
    Contiguous (xs.map f) ↔ ∀ a b c, [a, b, c].Sublist xs → f a = f c → f b = f a := by
  constructor
  · intro h a b c hsub hac
    refine h (f a) (f b) ?_
    simpa [hac] using hsub.map f
  · intro h s t hsub
    obtain ⟨l, hl, hst⟩ := List.sublist_map_iff.1 hsub
    obtain ⟨a, b, c, rfl⟩ := List.length_eq_three.1 (by simpa using (congrArg List.length hst).symm)
    simp only [List.map_cons, List.map_nil, List.cons.injEq, and_true] at hst
    obtain ⟨rfl, rfl, hc⟩ := hst
    exact h a b c hl hc

section

variable {s t : β} {ts : List β}

lemma contiguous_cons_self : Contiguous (t :: t :: ts) ↔ Contiguous (t :: ts) := by
  constructor
  · intro h a b hsub
    exact h a b (hsub.cons t)
  · intro h a b hsub
    rcases List.sublist_cons_iff.1 hsub with hsub | ⟨r, hr, hsub⟩
    · exact h a b hsub
    · obtain ⟨rfl, rfl⟩ := List.cons.inj hr
      rcases List.sublist_cons_iff.1 hsub with hsub | ⟨r, hr, hsub⟩
      · exact h a b (hsub.cons_cons a)
      · exact (List.cons.inj hr).1

lemma contiguous_cons_of_ne (hne : s ≠ t) :
    Contiguous (s :: t :: ts) ↔ s ∉ ts ∧ Contiguous (t :: ts) := by
  constructor
  · intro h
    refine ⟨fun hmem => ?_, fun a b hsub => h a b (hsub.cons s)⟩
    exact hne (h s t (((List.singleton_sublist.2 hmem).cons_cons t).cons_cons s)).symm
  · rintro ⟨hs, h⟩ a b hsub
    rcases List.sublist_cons_iff.1 hsub with hsub | ⟨r, hr, hsub⟩
    · exact h a b hsub
    · obtain ⟨rfl, rfl⟩ := List.cons.inj hr
      have hmem : a ∈ t :: ts := hsub.subset (by simp)
      exact absurd hmem (by simp [hne, hs])

variable [DecidableEq β]

lemma mem_destutter' : s ∈ ts.destutter' (· ≠ ·) t ↔ s ∈ t :: ts := by
  induction ts generalizing t with
  | nil => simp
  | cons u ts ih =>
    by_cases h : t = u
    · subst h
      rw [List.destutter'_cons_neg _ (by simp), ih]
      simp
    · rw [List.destutter'_cons_pos _ h, List.mem_cons, ih, List.mem_cons (a := s) (b := t)]

lemma nodup_destutter' : (ts.destutter' (· ≠ ·) t).Nodup ↔ Contiguous (t :: ts) := by
  induction ts generalizing t with
  | nil =>
    refine iff_of_true (by simp) fun a b hsub => ?_
    have hlength := hsub.length_le
    simp at hlength
  | cons u ts ih =>
    by_cases h : t = u
    · subst h
      rw [List.destutter'_cons_neg _ (by simp), ih, contiguous_cons_self]
    · rw [List.destutter'_cons_pos _ h, List.nodup_cons, ih, contiguous_cons_of_ne h,
        mem_destutter', List.mem_cons, not_or]
      simp [h]

/-- Dropping repetitions leaves every element once where equal elements stand together. -/
theorem nodup_destutter : (ts.destutter (· ≠ ·)).Nodup ↔ Contiguous ts := by
  cases ts with
  | nil => exact iff_of_true List.nodup_nil fun a b h => by cases h
  | cons t ts => exact nodup_destutter'

lemma mem_destutter : s ∈ ts.destutter (· ≠ ·) ↔ s ∈ ts := by
  cases ts with
  | nil => exact Iff.rfl
  | cons t ts => exact mem_destutter'

end

/-- Between two elements of one key there is none of their class with another key. -/
def Uninterrupted (cmp : α → α → Ordering) (f : α → β) (xs : List α) : Prop :=
  ∀ a b c, [a, b, c].Sublist xs → cmp a b = .eq → f a = f c → f b = f a

variable {S : α → Prop} {cmp : α → α → Ordering}

/-- What stands between two equal elements of a sorted list is equal to them. -/
lemma PreorderOn.eq_of_between (h : PreorderOn S cmp) {a b c : α} (ha : S a) (hb : S b) (hc : S c)
    (hab : (cmp a b).isLE) (hbc : (cmp b c).isLE) (hac : cmp a c = .eq) : cmp a b = .eq := by
  refine h.antisymm ha hb hab (h.trans b c a hb hc ha hbc ?_)
  rw [h.swap a c ha hc, hac]
  rfl

lemma sublist_filter_iff {a b c : α} (haa : cmp a a = .eq) (hab : cmp a b = .eq)
    (hac : cmp a c = .eq) :
    [a, b, c].Sublist (xs.filter (cmp a · == .eq)) ↔ [a, b, c].Sublist xs := by
  constructor
  · intro hsub
    exact hsub.trans List.filter_sublist
  · intro hsub
    simpa [haa, hab, hac] using hsub.filter (cmp a · == .eq)

/-- Three equal elements follow each other as they did before a stable sort. -/
lemma IsStableSort.sublist_iff (h : IsStableSort cmp xs ys) {a b c : α} (ha : a ∈ xs)
    (haa : cmp a a = .eq) (hab : cmp a b = .eq) (hac : cmp a c = .eq) :
    [a, b, c].Sublist ys ↔ [a, b, c].Sublist xs := by
  rw [← sublist_filter_iff haa hab hac, h.stable a ha, sublist_filter_iff haa hab hac]

/-- A stable sort brings equal keys together where they only have their own class between them. -/
theorem IsStableSort.contiguous_map_iff (h : IsStableSort cmp xs ys)
    (hcmp : PreorderOn (· ∈ xs) cmp) (hf : ∀ a ∈ xs, ∀ b ∈ xs, f a = f b → cmp a b = .eq) :
    Contiguous (ys.map f) ↔ Uninterrupted cmp f xs := by
  rw [HostAddr.contiguous_map_iff]
  constructor
  · intro hys a b c hsub hab hac
    have ha : a ∈ xs := hsub.subset (by simp)
    have hc : c ∈ xs := hsub.subset (by simp)
    exact hys a b c ((h.sublist_iff ha (hcmp.refl a ha) hab (hf a ha c hc hac)).2 hsub) hac
  · intro hxs a b c hsub hac
    have ha : a ∈ xs := h.perm.subset (hsub.subset (by simp))
    have hb : b ∈ xs := h.perm.subset (hsub.subset (by simp))
    have hc : c ∈ xs := h.perm.subset (hsub.subset (by simp))
    have hsorted : (cmp a b).isLE ∧ (cmp b c).isLE := by
      have hpair := h.sorted.sublist hsub
      simp only [List.pairwise_cons, List.mem_cons, forall_eq_or_imp] at hpair
      exact ⟨hpair.1.1, hpair.2.1.1⟩
    have hac' := hf a ha c hc hac
    have hab := hcmp.eq_of_between ha hb hc hsorted.1 hsorted.2 hac'
    exact hxs a b c ((h.sublist_iff ha (hcmp.refl a ha) hab hac').1 hsub) hab hac

end

/-- A list with exactly one record of every key text of `xs`, all of them from `xs`. -/
structure OneOfEach (key : UniqueKey) (xs ys : List Record) : Prop where
  subset : ∀ r ∈ ys, r ∈ xs
  distinct : ys.Pairwise fun r s => key.text r ≠ key.text s
  once : ∀ r ∈ xs, (ys.map key.text).count (key.text r) = 1

lemma cons_dropRepeats (key : UniqueKey) (r : Record) (rs : List Record) :
    r :: dropRepeats key (some (key.text r)) rs = rs.destutter' (key.text · ≠ key.text ·) r := by
  induction rs generalizing r with
  | nil => rfl
  | cons s rs ih =>
    rw [dropRepeats]
    by_cases h : key.text r = key.text s
    · rw [if_pos (congrArg some h), ih, List.destutter'_cons_neg _ (by simp [h])]
    · rw [if_neg (by simpa using h), ih, List.destutter'_cons_pos _ h]

/-- A record is kept where its key text is not that of the record kept before it. -/
lemma dropRepeats_eq_destutter (key : UniqueKey) (rs : List Record) :
    dropRepeats key none rs = rs.destutter (key.text · ≠ key.text ·) := by
  cases rs with
  | nil => rfl
  | cons r rs =>
    rw [dropRepeats, if_neg (by simp), cons_dropRepeats]
    rfl

lemma map_dropRepeats (key : UniqueKey) (rs : List Record) :
    (dropRepeats key none rs).map key.text = (rs.map key.text).destutter (· ≠ ·) := by
  rw [dropRepeats_eq_destutter]
  exact List.map_destutter fun _ _ _ _ => Iff.rfl

lemma isChain_dropRepeats (key : UniqueKey) (rs : List Record) :
    (dropRepeats key none rs).IsChain (key.text · ≠ key.text ·) := by
  rw [dropRepeats_eq_destutter]
  exact List.isChain_destutter _ rs

lemma exists_mem_dropRepeats (key : UniqueKey) {r : Record} {rs : List Record} (hr : r ∈ rs) :
    ∃ s ∈ dropRepeats key none rs, key.text s = key.text r := by
  refine List.mem_map.1 ?_
  rw [map_dropRepeats, mem_destutter]
  exact List.mem_map_of_mem hr

lemma dropRepeats_sublist (key : UniqueKey) (last : Option String) (rs : List Record) :
    (dropRepeats key last rs).Sublist rs := by
  induction rs generalizing last with
  | nil => exact List.Sublist.refl []
  | cons r rs ih =>
    rw [dropRepeats]
    split
    · exact (ih last).cons r
    · exact (ih _).cons_cons r

theorem oneOfEach_dropRepeats_iff {key : UniqueKey} {xs rs : List Record} (h : rs.Perm xs) :
    OneOfEach key xs (dropRepeats key none rs) ↔ Contiguous (rs.map key.text) := by
  rw [← nodup_destutter, ← map_dropRepeats]
  constructor
  · intro hone
    exact List.pairwise_map.2 hone.distinct
  · intro hnodup
    refine ⟨fun r hr => h.subset ((dropRepeats_sublist key none rs).subset hr),
      List.pairwise_map.1 hnodup, fun r hr => ?_⟩
    refine List.count_eq_one_of_mem hnodup ?_
    rw [map_dropRepeats, mem_destutter]
    exact List.mem_map_of_mem (h.symm.subset hr)

namespace UniqueKey

/-- The sort key of the same name. -/
def sortKey : UniqueKey → SortKey
  | address => .address
  | name => .name

/-- The word for a key, in lower case. -/
def word (key : UniqueKey) : String :=
  key.sortKey.word

lemma parse_word (key : UniqueKey) : parse key.word = .ok key := by
  cases key <;> decide +kernel

lemma parse_sortSpec (key : UniqueKey) : SortSpec.parse key.word = .ok [⟨key.sortKey, false⟩] := by
  cases key <;> decide +kernel

end UniqueKey

/-- Addresses of one kind with the same text compare equal. -/
theorem SocketAddress.compareAddress_of_text : ∀ {x y : SocketAddress}, x.kind = y.kind →
    x.text = y.text → x.compareAddress y = .eq
  | ipv4 _, ipv4 _, _, h => by
    rw [compareAddress, IPv4.isFamily.address_eq_of_text h]
    exact Std.ReflCmp.compare_self
  | ipv6 _, ipv6 _, _, h => by
    rw [compareAddress, IPv6.isFamily.address_eq_of_text h]
    exact Std.ReflCmp.compare_self
  | unix _, unix _, _, h => by
    rw [compareAddress, quote_injective h]
    exact Std.ReflCmp.compare_self

/-- Paths that compare equal have the same text. -/
lemma SocketAddress.text_of_compareAddress_unix : ∀ {x y : SocketAddress}, x.kind = .unix →
    y.kind = .unix → x.compareAddress y = .eq → x.text = y.text
  | unix p, unix q, _, _, h => by
    have hpath : p.text = q.text := by
      rw [compareAddress] at h
      exact Std.LawfulEqCmp.compare_eq_iff_eq.1 h
    rw [text, text, hpath]

namespace UniqueKey

variable {key : UniqueKey} {xs : List Record}

lemma preorderOn_mem (h : key = .address → ∃ k, ∀ r ∈ xs, r.address.kind = k) :
    PreorderOn (· ∈ xs) key.sortKey.compare := by
  cases key with
  | address =>
    obtain ⟨k, hk⟩ := h rfl
    exact (SortKey.address.preorderOn_kind k).mono hk
  | name => exact SortKey.preorderOn_of_not_withinKind rfl _

lemma compare_of_text (h : key = .address → ∃ k, ∀ r ∈ xs, r.address.kind = k) :
    ∀ r ∈ xs, ∀ s ∈ xs, key.text r = key.text s → key.sortKey.compare r s = .eq := by
  intro r hr s hs htext
  cases key with
  | address =>
    obtain ⟨k, hk⟩ := h rfl
    exact SocketAddress.compareAddress_of_text ((hk r hr).trans (hk s hs).symm) htext
  | name =>
    have hname : r.interface.name = s.interface.name := htext
    rw [sortKey, SortKey.compare, hname]
    exact Std.ReflCmp.compare_self

end UniqueKey

/-- Sorting by a key and dropping repetitions by it leaves records of every text, and a single one
of each exactly where no record that compares equal but has another text stood between two of one
text. -/
theorem uniqueBy_sortBy_word (sorter : Sorter) (key : UniqueKey) (xs : List Record)
    (h : key = .address → ∃ k, ∀ r ∈ xs, r.address.kind = k) :
    ∃ ys, (sortBy sorter key.word xs >>= uniqueBy key.word) = .ok ys ∧
      (∀ r ∈ ys, r ∈ xs) ∧ (∀ r ∈ xs, ∃ s ∈ ys, key.text s = key.text r) ∧
      ys.IsChain (key.text · ≠ key.text ·) ∧
      (OneOfEach key xs ys ↔ Uninterrupted key.sortKey.compare key.text xs) := by
  let spec : SortSpec := [⟨key.sortKey, false⟩]
  have hcmp := UniqueKey.preorderOn_mem h
  have hsort : IsStableSort key.sortKey.compare xs (spec.sorted xs) := isStableSort_mergeSort hcmp
  refine ⟨dropRepeats key none (spec.sorted xs), ?_, ?_, ?_, ?_, ?_⟩
  · rw [SortSpec.sortBy_eq_ok sorter key.parse_sortSpec hcmp, ok_bind, uniqueBy, key.parse_word]
    rfl
  · intro r hr
    exact hsort.perm.subset ((dropRepeats_sublist key none _).subset hr)
  · intro r hr
    exact exists_mem_dropRepeats key (hsort.perm.symm.subset hr)
  · exact isChain_dropRepeats key _
  · rw [oneOfEach_dropRepeats_iff hsort.perm]
    exact hsort.contiguous_map_iff hcmp (UniqueKey.compare_of_text h)

/-- By name, one record of every name is left. By address, records of one family are left of every
text, and one of each exactly where none with another text for the same address stood between two of
one text, which never happens to paths. -/
theorem uniqueBy_sortBy (sorter : Sorter) (xs : List Record) :
    (∃ ys, (sortBy sorter "name" xs >>= uniqueBy "name") = .ok ys ∧ OneOfEach .name xs ys) ∧
    ((∃ k, ∀ r ∈ xs, r.address.kind = k) →
      ∃ ys, (sortBy sorter "address" xs >>= uniqueBy "address") = .ok ys ∧
        (∀ r ∈ ys, r ∈ xs) ∧ (∀ r ∈ xs, ∃ s ∈ ys, s.address.text = r.address.text) ∧
        ys.IsChain (·.address.text ≠ ·.address.text) ∧
        (OneOfEach .address xs ys ↔
          ∀ r s t, [r, s, t].Sublist xs → r.address.compareAddress s.address = .eq →
            r.address.text = t.address.text → s.address.text = r.address.text)) ∧
    ((∀ r ∈ xs, r.address.kind = .unix) →
      ∃ ys, (sortBy sorter "address" xs >>= uniqueBy "address") = .ok ys ∧
        OneOfEach .address xs ys) := by
  refine ⟨?_, fun hk => ?_, fun hunix => ?_⟩
  · obtain ⟨ys, hys, -, -, -, hone⟩ := uniqueBy_sortBy_word sorter .name xs (by simp)
    refine ⟨ys, hys, hone.2 fun r s t _ hrs _ => ?_⟩
    have hnames : compare r.interface.name s.interface.name = .eq := hrs
    exact (Std.LawfulEqCmp.compare_eq_iff_eq.1 hnames).symm
  · exact uniqueBy_sortBy_word sorter .address xs fun _ => hk
  · obtain ⟨ys, hys, -, -, -, hone⟩ := uniqueBy_sortBy_word sorter .address xs fun _ => ⟨_, hunix⟩
    refine ⟨ys, hys, hone.2 fun r s t hsub hrs _ => ?_⟩
    have hr := hunix r (hsub.subset (by simp))
    have hs := hunix s (hsub.subset (by simp))
    exact (SocketAddress.text_of_compareAddress_unix hr hs hrs).symm

/-- A network and a path, each of them listed again after another. -/
theorem uniqueBy_sortBy_listedAgain :
    let sorter := Sorter.merging
    (∃ xs ys, xs.map (·.address.text) = ["10.0.0.1/8", "10.0.0.2/8", "10.0.0.1/8"] ∧
      (sortBy sorter "address" xs >>= uniqueBy "address") = .ok ys ∧ OneOfEach .address xs ys) ∧
    ∃ xs ys, xs.map (·.address.text) = ["/a", "/b", "/a"].map quote ∧
      (sortBy sorter "address" xs >>= uniqueBy "address") = .ok ys ∧ OneOfEach .address xs ys := by
  intro sorter
  constructor
  · let xs := Device.records ⟨"en0", 1, 1, none, 1500, [.inl (IPAddr.ofParts 0x0a000001 8 0),
      .inl (IPAddr.ofParts 0x0a000002 8 0), .inl (IPAddr.ofParts 0x0a000001 8 0)]⟩
    obtain ⟨ys, hys, -, -, -, hone⟩ := (uniqueBy_sortBy sorter xs).2.1 ⟨.ipv4, by decide⟩
    refine ⟨xs, ys, rfl, hys, hone.2 fun r s t hsub hrs _ => ?_⟩
    have hlist : [r, s, t] = xs := hsub.eq_of_length rfl
    obtain ⟨rfl, hst⟩ := List.cons.inj hlist
    obtain ⟨rfl, -⟩ := List.cons.inj hst
    exact absurd hrs (by decide)
  · let i : Interface := ⟨1, "en0", 1500, .ofBits 1, none⟩
    let xs : List Record := [⟨.unix ⟨"/a", by decide⟩, i⟩, ⟨.unix ⟨"/b", by decide⟩, i⟩,
      ⟨.unix ⟨"/a", by decide⟩, i⟩]
    obtain ⟨ys, hys, hone⟩ := (uniqueBy_sortBy sorter xs).2.2 (by decide)
    exact ⟨xs, ys, rfl, hys, hone⟩

/-- A network with the address alone between its two records, whatever the sort. -/
theorem not_forall_oneOfEach : ¬∃ sorter : Sorter, ∀ (key : UniqueKey) (xs : List Record),
    (key = .address → ∃ k, ∀ r ∈ xs, r.address.kind = k) →
      ∃ ys, (sortBy sorter key.word xs >>= uniqueBy key.word) = .ok ys ∧ OneOfEach key xs ys := by
  rintro ⟨sorter, h⟩
  let xs := Device.records ⟨"en0", 1, 1, none, 1500, [.inl (IPAddr.ofParts 0x0a000001 8 0),
    .inl (IPAddr.bare 0x0a000001), .inl (IPAddr.ofParts 0x0a000001 8 0)]⟩
  have hkind : UniqueKey.address = .address → ∃ k, ∀ r ∈ xs, r.address.kind = k :=
    fun _ => ⟨.ipv4, by decide⟩
  obtain ⟨ys, hys, hone⟩ := h .address xs hkind
  obtain ⟨zs, hzs, -, -, -, hiff⟩ := uniqueBy_sortBy_word sorter .address xs hkind
  obtain rfl : ys = zs := Except.ok.inj (hys.symm.trans hzs)
  have htext := hiff.1 hone _ _ _ (List.Sublist.refl xs) (by decide) rfl
  exact absurd htext (by decide)

end HostAddr
