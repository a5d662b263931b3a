import HostAddr.Selection.Sort
import Mathlib.Data.List.Basic
import Mathlib.Order.Compare
import Mathlib.Tactic.Common

/-!
# Stable sorts

A comparison may order some elements only, such as those of one list. Where it orders the elements
of a list, the list has one stable sort, and merging finds it. Stable sorts follow each other as
their comparisons do, and stable sorts of one list in two arrangements differ in ties only.
-/

namespace HostAddr

variable {α β : Type*} {S : α → Prop} {cmp first second : α → α → Ordering} {xs ys zs : List α}

namespace PreorderOn

theorem mono {T : α → Prop} (h : PreorderOn S cmp) (hST : ∀ a, T a → S a) : PreorderOn T cmp where
  refl a ha := h.refl a (hST a ha)
  swap a b ha hb := h.swap a b (hST a ha) (hST b hb)
  trans a b c ha hb hc := h.trans a b c (hST a ha) (hST b hb) (hST c hc)

theorem congr (h : PreorderOn S first) (heq : ∀ a b, S a → S b → second a b = first a b) :
    PreorderOn S second where
  refl a ha := by rw [heq a a ha ha, h.refl a ha]
  swap a b ha hb := by rw [heq b a hb ha, heq a b ha hb, h.swap a b ha hb]
  trans a b c ha hb hc hab hbc := by
    rw [heq a b ha hb] at hab
    rw [heq b c hb hc] at hbc
    rw [heq a c ha hc]
    exact h.trans a b c ha hb hc hab hbc

theorem of_key [Ord β] [Std.TransOrd β] (key : α → β)
    (h : ∀ a b, S a → S b → cmp a b = compare (key a) (key b)) : PreorderOn S cmp where
  refl a ha := (h a a ha ha).trans Std.ReflCmp.compare_self
  swap a b ha hb := by
    rw [h b a hb ha, h a b ha hb]
    exact Std.OrientedCmp.eq_swap
  trans a b c ha hb hc hab hbc := by
    rw [h a b ha hb] at hab
    rw [h b c hb hc] at hbc
    rw [h a c ha hc]
    exact Std.TransCmp.isLE_trans hab hbc

theorem opposite (h : PreorderOn S cmp) : PreorderOn S fun a b => (cmp a b).swap where
  refl a ha := by rw [h.refl a ha, Ordering.swap_eq]
  swap a b ha hb := by rw [h.swap a b ha hb]
  trans a b c ha hb hc hab hbc := by
    rw [← h.swap a b ha hb] at hab
    rw [← h.swap b c hb hc] at hbc
    rw [← h.swap a c ha hc]
    exact h.trans c b a hc hb ha hbc hab

lemma isLE_total (h : PreorderOn S cmp) {a b : α} (ha : S a) (hb : S b) :
    (cmp a b).isLE ∨ (cmp b a).isLE := by
  rw [h.swap a b ha hb]
  cases cmp a b <;> simp

theorem antisymm (h : PreorderOn S cmp) {a b : α} (ha : S a) (hb : S b) (hab : (cmp a b).isLE)
    (hba : (cmp b a).isLE) : cmp a b = .eq := by
  rw [h.swap a b ha hb] at hba
  revert hab hba
  cases cmp a b <;> decide

/-- Elements that compare equal compare alike. -/
theorem congr_left (h : PreorderOn S cmp) {a b c : α} (ha : S a) (hb : S b) (hc : S c)
    (hab : cmp a b = .eq) : cmp a c = cmp b c := by
  have hba : cmp b a = .eq := by rw [h.swap a b ha hb, hab, Ordering.swap_eq]
  have hle : (cmp a c).isLE ↔ (cmp b c).isLE :=
    ⟨h.trans b a c hb ha hc (by rw [hba]; rfl), h.trans a b c ha hb hc (by rw [hab]; rfl)⟩
  have hge : (cmp c a).isLE ↔ (cmp c b).isLE :=
    ⟨fun hca => h.trans c a b hc ha hb hca (by rw [hab]; rfl),
      fun hcb => h.trans c b a hc hb ha hcb (by rw [hba]; rfl)⟩
  rw [h.swap a c ha hc, h.swap b c hb hc] at hge
  revert hle hge
  cases cmp a c <;> cases cmp b c <;> simp

theorem lt_of_lt_of_isLE (h : PreorderOn S cmp) {a b c : α} (ha : S a) (hb : S b) (hc : S c)
    (hab : cmp a b = .lt) (hbc : (cmp b c).isLE) : cmp a c = .lt := by
  have hac := h.trans a b c ha hb hc (by rw [hab]; rfl) hbc
  cases hcase : cmp a c with
  | lt => rfl
  | gt => simp [hcase] at hac
  | eq =>
    have hcb := h.congr_left ha hc hb hcase
    rw [h.swap b c hb hc, hab] at hcb
    rw [Ordering.swap_eq_iff_eq_swap.1 hcb.symm] at hbc
    cases hbc

/-- A second comparison has to order only what the first does not tell apart. -/
theorem andThen (hfirst : PreorderOn S first)
    (hsecond : ∀ a, S a → PreorderOn (fun b => S b ∧ first a b = .eq) second) :
    PreorderOn S fun a b => (first a b).then (second a b) where
  refl a ha := by
    rw [hfirst.refl a ha, (hsecond a ha).refl a ⟨ha, hfirst.refl a ha⟩, Ordering.then_eq]
  swap a b ha hb := by
    rw [hfirst.swap a b ha hb]
    cases hab : first a b with
    | lt => rfl
    | gt => rfl
    | eq => exact (hsecond a ha).swap a b ⟨ha, hfirst.refl a ha⟩ ⟨hb, hab⟩
  trans a b c ha hb hc hab hbc := by
    obtain ⟨hab₁, _⟩ := Ordering.isLE_then_iff_and.1 hab
    obtain ⟨hbc₁, _⟩ := Ordering.isLE_then_iff_and.1 hbc
    rw [Ordering.isLE_then_iff_or] at hab hbc ⊢
    rcases hab with hlt | ⟨heq, hab₂⟩
    · exact .inl (hfirst.lt_of_lt_of_isLE ha hb hc hlt hbc₁)
    · rw [hfirst.congr_left ha hb hc heq]
      rcases hbc with hlt | ⟨heq', hbc₂⟩
      · exact .inl hlt
      · have hac : first a c = .eq := by rw [hfirst.congr_left ha hb hc heq, heq']
        have htrans := (hsecond a ha).trans a b c ⟨ha, hfirst.refl a ha⟩ ⟨hb, heq⟩ ⟨hc, hac⟩
        exact .inr ⟨heq', htrans hab₂ hbc₂⟩

theorem comap {f : β → α} (h : PreorderOn S cmp) :
    PreorderOn (fun b => S (f b)) fun a b => cmp (f a) (f b) where
  refl a ha := h.refl (f a) ha
  swap a b ha hb := h.swap (f a) (f b) ha hb
  trans a b c ha hb hc := h.trans (f a) (f b) (f c) ha hb hc

end PreorderOn

lemma swap_beq_eq (o : Ordering) : (o.swap == .eq) = (o == .eq) := by
  cases o <;> rfl

/-- A list sorted without exchanging elements that compare equal. -/
structure IsStableSort (cmp : α → α → Ordering) (xs ys : List α) : Prop where
  perm : ys.Perm xs
  sorted : ys.Pairwise fun a b => (cmp a b).isLE
  stable : ∀ a ∈ xs, ys.filter (cmp a · == .eq) = xs.filter (cmp a · == .eq)

/-- Sorted lists agree when they hold the same elements of every class in the same order. -/
theorem eq_of_sorted_of_classes (hcmp : PreorderOn S cmp) (hS : ∀ a ∈ ys, S a)
    (hperm : ys.Perm zs) (hy : ys.Pairwise fun a b => (cmp a b).isLE)
    (hz : zs.Pairwise fun a b => (cmp a b).isLE)
    (hclass : ∀ a ∈ ys, ys.filter (cmp a · == .eq) = zs.filter (cmp a · == .eq)) : ys = zs := by
  induction ys generalizing zs with
  | nil => exact hperm.nil_eq
  | cons y ys ih =>
    have hne : zs ≠ [] := by
      rintro rfl
      exact List.cons_ne_nil y ys hperm.eq_nil
    obtain ⟨z, zs, rfl⟩ := List.exists_cons_of_ne_nil hne
    obtain ⟨hyle, hys⟩ := List.pairwise_cons.1 hy
    obtain ⟨hzle, hzs⟩ := List.pairwise_cons.1 hz
    have hmem : z ∈ y :: ys := hperm.symm.subset List.mem_cons_self
    have hSy : S y := hS y List.mem_cons_self
    have hyy : cmp y y = .eq := hcmp.refl y hSy
    have hyz : cmp y z = .eq := by
      rcases List.mem_cons.1 hmem with rfl | hz'
      · exact hyy
      · rcases List.mem_cons.1 (hperm.subset List.mem_cons_self) with rfl | hy'
        · exact hyy
        · exact hcmp.antisymm hSy (hS z hmem) (hyle z hz') (hzle y hy')
    obtain rfl : y = z := by
      have hhead := hclass y List.mem_cons_self
      rw [List.filter_cons_of_pos (by simp [hyy]), List.filter_cons_of_pos (by simp [hyz])] at hhead
      exact (List.cons.inj hhead).1
    have htail : ∀ a ∈ ys, ys.filter (cmp a · == .eq) = zs.filter (cmp a · == .eq) := by
      intro a ha
      have heq := hclass a (List.mem_cons_of_mem y ha)
      by_cases hay : cmp a y = .eq
      · rw [List.filter_cons_of_pos (by simp [hay]), List.filter_cons_of_pos (by simp [hay])] at heq
        exact (List.cons.inj heq).2
      · rwa [List.filter_cons_of_neg (by simp [hay]),
          List.filter_cons_of_neg (by simp [hay])] at heq
    rw [ih (fun a ha => hS a (List.mem_cons_of_mem y ha)) hperm.cons_inv hys hzs htail]

/-- The first element of a sorted list comes before whatever compares equal to one of its
elements. -/
lemma PreorderOn.isLE_of_sorted_cons (hcmp : PreorderOn S cmp) {a b : α} (hS : ∀ c ∈ a :: ys, S c)
    (hb : S b) (hsorted : (a :: ys).Pairwise fun a b => (cmp a b).isLE)
    (hclass : 0 < (a :: ys).countP (cmp b · == .eq)) : (cmp a b).isLE := by
  obtain ⟨c, hc, hbc⟩ := List.countP_pos_iff.1 hclass
  have hSa : S a := hS a List.mem_cons_self
  have hcb : cmp c b = .eq := by rw [hcmp.swap b c hb (hS c hc), beq_iff_eq.1 hbc, Ordering.swap_eq]
  have hac : (cmp a c).isLE := by
    rcases List.mem_cons.1 hc with rfl | hc'
    · rw [hcmp.refl c hSa]
      rfl
    · exact (List.pairwise_cons.1 hsorted).1 c hc'
  exact hcmp.trans a c b hSa (hS c hc) hb hac (by rw [hcb]; rfl)

/-- Sorted lists with as many elements of every class compare equal place by place. -/
theorem forall₂_of_sorted_of_countP (hcmp : PreorderOn S cmp) (hyS : ∀ y ∈ ys, S y)
    (hzS : ∀ z ∈ zs, S z) (hy : ys.Pairwise fun a b => (cmp a b).isLE)
    (hz : zs.Pairwise fun a b => (cmp a b).isLE)
    (hcount : ∀ a, S a → ys.countP (cmp a · == .eq) = zs.countP (cmp a · == .eq)) :
    List.Forall₂ (fun a b => cmp a b = .eq) ys zs := by
  have hpos : ∀ (w : α) (ws : List α), S w → 0 < (w :: ws).countP (cmp w · == .eq) :=
    fun w ws hw => List.countP_pos_iff.2 ⟨w, List.mem_cons_self, by simp [hcmp.refl w hw]⟩
  induction ys generalizing zs with
  | nil =>
    cases zs with
    | nil => exact .nil
    | cons z zs =>
      have hSz := hzS z List.mem_cons_self
      exact absurd (hcount z hSz) (Nat.ne_of_lt (hpos z zs hSz))
  | cons y ys ih =>
    have hSy := hyS y List.mem_cons_self
    cases zs with
    | nil => exact absurd (hcount y hSy) (Nat.ne_of_gt (hpos y ys hSy))
    | cons z zs =>
      have hSz := hzS z List.mem_cons_self
      have hyz : cmp y z = .eq := hcmp.antisymm hSy hSz
        (hcmp.isLE_of_sorted_cons hyS hSz hy (by rw [hcount z hSz]; exact hpos z zs hSz))
        (hcmp.isLE_of_sorted_cons hzS hSy hz (by rw [← hcount y hSy]; exact hpos y ys hSy))
      refine .cons hyz (ih (fun w hw => hyS w (List.mem_cons_of_mem y hw))
        (fun w hw => hzS w (List.mem_cons_of_mem z hw)) hy.of_cons hz.of_cons fun a ha => ?_)
      have heq : cmp a y = cmp a z := by
        rw [hcmp.swap y a hSy ha, hcmp.swap z a hSz ha, hcmp.congr_left hSy hSz ha hyz]
      have hcons := hcount a ha
      rw [List.countP_cons, List.countP_cons, heq] at hcons
      exact Nat.add_right_cancel hcons

namespace IsStableSort

theorem unique (hcmp : PreorderOn (· ∈ xs) cmp) (hy : IsStableSort cmp xs ys)
    (hz : IsStableSort cmp xs zs) : ys = zs := by
  have hmem : ∀ a ∈ ys, a ∈ xs := fun a ha => hy.perm.subset ha
  refine eq_of_sorted_of_classes hcmp hmem (hy.perm.trans hz.perm.symm) hy.sorted hz.sorted ?_
  intro a ha
  rw [hy.stable a (hmem a ha), hz.stable a (hmem a ha)]

/-- Only the comparison of elements of the list matters. -/
theorem congr (h : IsStableSort first xs ys) (heq : ∀ a ∈ xs, ∀ b ∈ xs, second a b = first a b) :
    IsStableSort second xs ys where
  perm := h.perm
  sorted := by
    have hmem : ∀ a ∈ ys, a ∈ xs := fun a ha => h.perm.subset ha
    refine h.sorted.imp_of_mem fun ha hb hab => ?_
    rwa [heq _ (hmem _ ha) _ (hmem _ hb)]
  stable a ha := by
    have hxs : xs.filter (second a · == .eq) = xs.filter (first a · == .eq) :=
      List.filter_congr fun b hb => by rw [heq a ha b hb]
    have hys : ys.filter (second a · == .eq) = ys.filter (first a · == .eq) :=
      List.filter_congr fun b hb => by rw [heq a ha b (h.perm.subset hb)]
    rw [hxs, hys, h.stable a ha]

/-- A part of a sorted list is the sorted part of the list. -/
theorem filter (h : IsStableSort cmp xs ys) (p : α → Bool) :
    IsStableSort cmp (xs.filter p) (ys.filter p) where
  perm := h.perm.filter p
  sorted := h.sorted.filter p
  stable a ha := by
    have hstable := congrArg (List.filter p) (h.stable a (List.mem_filter.1 ha).1)
    rw [List.filter_filter, List.filter_filter] at hstable ⊢
    simpa only [List.filter_filter, Bool.and_comm] using hstable

theorem map {f : β → α} {us vs : List β} (h : IsStableSort (fun a b => cmp (f a) (f b)) us vs) :
    IsStableSort cmp (us.map f) (vs.map f) where
  perm := h.perm.map f
  sorted := List.pairwise_map.2 h.sorted
  stable a ha := by
    obtain ⟨u, hu, rfl⟩ := List.mem_map.1 ha
    have hstable := congrArg (List.map f) (h.stable u hu)
    rw [List.filter_map, List.filter_map]
    exact hstable

/-- A stable sort by one comparison after another leaves ties of the last to the one before. -/
theorem andThen (hfirst : PreorderOn (· ∈ xs) first) (hy : IsStableSort second xs ys)
    (hz : IsStableSort first ys zs) :
    IsStableSort (fun a b => (first a b).then (second a b)) xs zs where
  perm := hz.perm.trans hy.perm
  sorted := by
    refine List.pairwise_iff_forall_sublist.2 fun {a b} hsub => ?_
    have hay : a ∈ ys := hz.perm.subset (hsub.subset (by simp))
    have haa : first a a = .eq := hfirst.refl a (hy.perm.subset hay)
    have hle : (first a b).isLE := List.pairwise_iff_forall_sublist.1 hz.sorted hsub
    rw [Ordering.isLE_then_iff_and]
    refine ⟨hle, ?_⟩
    rcases Ordering.isLE_iff_eq_lt_or_eq_eq.1 hle with hab | hab
    · exact .inl hab
    · have hclass : [a, b].Sublist (zs.filter (first a · == .eq)) := by
        simpa [haa, hab] using hsub.filter (first a · == .eq)
      rw [hz.stable a hay] at hclass
      exact .inr (List.pairwise_iff_forall_sublist.1 hy.sorted (hclass.trans List.filter_sublist))
  stable a ha := by
    have hclass : ∀ ws : List α, ws.filter (fun b => (first a b).then (second a b) == .eq) =
        (ws.filter (first a · == .eq)).filter (second a · == .eq) := by
      intro ws
      rw [List.filter_filter]
      refine List.filter_congr fun b _ => ?_
      rw [Bool.eq_iff_iff]
      simp [Ordering.then_eq_eq, and_comm]
    rw [hclass, hclass, hz.stable a (hy.perm.symm.subset ha), List.filter_comm, hy.stable a ha,
      List.filter_comm]

/-- Read backwards, a stable sort is one of the list read backwards, by the opposite comparison. -/
theorem reverse (hcmp : PreorderOn (· ∈ xs) cmp) (h : IsStableSort cmp xs ys) :
    IsStableSort (fun a b => (cmp a b).swap) xs.reverse ys.reverse where
  perm := ((List.reverse_perm ys).trans h.perm).trans (List.reverse_perm xs).symm
  sorted := by
    refine List.pairwise_reverse.2 (h.sorted.imp_of_mem fun {a b} ha hb hab => ?_)
    rwa [← hcmp.swap b a (h.perm.subset hb) (h.perm.subset ha)]
  stable a ha := by
    simp only [swap_beq_eq, List.filter_reverse, h.stable a (List.mem_reverse.1 ha)]

section

variable {xs' : List α}

/-- Stable sorts of a list in two arrangements compare equal place by place. -/
theorem forall₂ (hcmp : PreorderOn (· ∈ xs) cmp) (hperm : xs'.Perm xs) (hy : IsStableSort cmp xs ys)
    (hz : IsStableSort cmp xs' zs) : List.Forall₂ (fun a b => cmp a b = .eq) ys zs := by
  have hzs : zs.Perm xs := hz.perm.trans hperm
  exact forall₂_of_sorted_of_countP hcmp (fun _ ha => hy.perm.subset ha)
    (fun _ ha => hzs.subset ha) hy.sorted hz.sorted
    fun a _ => (hy.perm.trans hzs.symm).countP_eq _

/-- They are the same exactly when ties stand in the same order in both arrangements. -/
theorem eq_iff (hcmp : PreorderOn (· ∈ xs) cmp) (hperm : xs'.Perm xs) (hy : IsStableSort cmp xs ys)
    (hz : IsStableSort cmp xs' zs) :
    ys = zs ↔ ∀ a ∈ xs, xs'.filter (cmp a · == .eq) = xs.filter (cmp a · == .eq) := by
  have hmem : ∀ a ∈ ys, a ∈ xs := fun _ ha => hy.perm.subset ha
  constructor
  · rintro rfl a ha
    rw [← hy.stable a ha, ← hz.stable a (hperm.symm.subset ha)]
  · intro hties
    refine eq_of_sorted_of_classes hcmp hmem (hy.perm.trans (hz.perm.trans hperm).symm) hy.sorted
      hz.sorted fun a ha => ?_
    rw [hy.stable a (hmem a ha), hz.stable a (hperm.symm.subset (hmem a ha)), hties a (hmem a ha)]

end

end IsStableSort

/-- A class of the list is sorted, so merging keeps it as a sublist. -/
lemma filter_mergeSort (hcmp : PreorderOn (fun _ => True) cmp) (xs : List α) (a : α) :
    (xs.mergeSort fun b c => (cmp b c).isLE).filter (cmp a · == .eq) =
      xs.filter (cmp a · == .eq) := by
  have htrans : ∀ b c d, (cmp b c).isLE → (cmp c d).isLE → (cmp b d).isLE :=
    fun b c d => hcmp.trans b c d trivial trivial trivial
  have htotal : ∀ b c, (cmp b c).isLE || (cmp c b).isLE := by
    intro b c
    rw [Bool.or_eq_true]
    exact hcmp.isLE_total trivial trivial
  have hclass : (xs.filter (cmp a · == .eq)).Pairwise fun b c => (cmp b c).isLE := by
    refine List.pairwise_of_forall_mem_list fun b hb c hc => ?_
    have hab : cmp a b = .eq := by simpa using (List.mem_filter.1 hb).2
    have hac : cmp a c = .eq := by simpa using (List.mem_filter.1 hc).2
    rw [← hcmp.congr_left trivial trivial trivial hab, hac]
    rfl
  have hsub := (List.sublist_mergeSort htrans htotal hclass List.filter_sublist).filter
    (cmp a · == .eq)
  simp only [List.filter_filter, Bool.and_self] at hsub
  have hlength := ((List.mergeSort_perm xs fun b c => (cmp b c).isLE).filter
    (cmp a · == .eq)).length_eq
  exact (hsub.eq_of_length hlength.symm).symm

/-- Merging sorts a list stably where the comparison orders its elements. -/
theorem isStableSort_mergeSort (hcmp : PreorderOn (· ∈ xs) cmp) :
    IsStableSort cmp xs (xs.mergeSort fun a b => (cmp a b).isLE) := by
  have hcmp' : PreorderOn (fun _ : {a // a ∈ xs} => True) fun a b => cmp a.1 b.1 :=
    hcmp.comap.mono fun a _ => a.2
  have hsort : IsStableSort (fun a b => cmp a.1 b.1) xs.attach
      (xs.attach.mergeSort fun a b => (cmp a.1 b.1).isLE) :=
    ⟨List.mergeSort_perm _ _, List.pairwise_mergeSort
      (fun a b c => hcmp'.trans a b c trivial trivial trivial)
      (fun a b => by
        rw [Bool.or_eq_true]
        exact hcmp'.isLE_total trivial trivial) _,
      fun a _ => filter_mergeSort hcmp' xs.attach a⟩
  have hvals : (xs.attach.mergeSort fun a b => (cmp a.1 b.1).isLE).map Subtype.val =
      xs.mergeSort fun a b => (cmp a b).isLE := by
    rw [List.map_mergeSort (s := fun a b => (cmp a b).isLE) fun _ _ _ _ => rfl,
      List.attach_map_subtype_val]
  have hmap := hsort.map
  rwa [List.attach_map_subtype_val, hvals] at hmap

end HostAddr
