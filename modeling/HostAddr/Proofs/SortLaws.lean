import HostAddr.Proofs.FilterSplits
import HostAddr.Proofs.RecordSort

/-!
# Laws of sorting

Where the clauses order the records of a list, the sort by them is determined by what a stable sort
is. So clauses that are joined by a comma sort as the later clauses and then the earlier ones do,
clauses with all their signs changed sort the other way round except for ties, and it makes no
difference whether records are filtered before they are sorted or after.
-/

namespace HostAddr

namespace SortSpec

variable {sorter : Sorter} {spec first second : SortSpec} {xs ys : List Record}

lemma parse_comma (major minor : String) :
    SortSpec.parse (major ++ "," ++ minor) = (do
      let first ← SortSpec.parse major
      let second ← SortSpec.parse minor
      return first ++ second) := by
  rw [SortSpec.parse, splitOn_append_mark rfl, List.mapM_append]
  rfl

lemma preorderOn_append (hfirst : PreorderOn (· ∈ xs) first.compare)
    (hsecond : PreorderOn (· ∈ xs) second.compare) :
    PreorderOn (· ∈ xs) (SortSpec.compare (first ++ second)) :=
  (hfirst.andThen fun _ _ => hsecond.mono fun _ hb => hb.1).congr
    fun a b _ _ => compare_append first second a b

/-- Later clauses only have to be sorted by before the earlier ones. -/
theorem sorted_append (hfirst : PreorderOn (· ∈ xs) first.compare)
    (hsecond : PreorderOn (· ∈ xs) second.compare) :
    SortSpec.sorted (first ++ second) xs = first.sorted (second.sorted xs) := by
  have hys := isStableSort_sorted hsecond
  have hfirst' : PreorderOn (· ∈ second.sorted xs) first.compare :=
    hfirst.mono fun _ ha => hys.perm.subset ha
  refine sorted_eq (preorderOn_append hfirst hsecond) ?_
  exact (hys.andThen hfirst (isStableSort_sorted hfirst')).congr
    fun a _ b _ => compare_append first second a b

/-- Clauses may be sorted by one at a time, from the last one to the first. -/
theorem foldr_sort (h : ∀ c ∈ spec, PreorderOn (· ∈ xs) c.key.compare) :
    spec.foldr (fun c ys => ys >>= SortSpec.sort sorter [c]) (.ok xs) = .ok (spec.sorted xs) := by
  induction spec with
  | nil =>
    exact congrArg Except.ok
      (List.mergeSort_of_pairwise (List.pairwise_of_forall fun _ _ => rfl)).symm
  | cons c spec ih =>
    have hspec : ∀ d ∈ spec, PreorderOn (· ∈ xs) d.key.compare :=
      fun d hd => h d (List.mem_cons_of_mem c hd)
    have hcmp : PreorderOn (· ∈ xs) (SortSpec.compare [c]) :=
      preorderOn_of_forall (List.forall_mem_singleton.2 (h c List.mem_cons_self))
    have hperm := (isStableSort_sorted (preorderOn_of_forall hspec)).perm
    rw [List.foldr_cons, ih hspec, ok_bind,
      sort_eq_ok sorter (hcmp.mono fun _ ha => hperm.subset ha)]
    exact congrArg Except.ok (sorted_append hcmp (preorderOn_of_forall hspec)).symm

end SortSpec

/-- Two texts with a comma in between are read as the clauses of both, and sort as the second text
and then the first do. Unless a sort panics, both ways fail or neither does. Addresses of one kind
are ordered by any clauses, and sorted by one clause at a time. -/
theorem sortBy_comma (sorter : Sorter) (major minor : String) (xs : List Record) :
    SortSpec.parse (major ++ "," ++ minor) = (do
      let first ← SortSpec.parse major
      let second ← SortSpec.parse minor
      return first ++ second) ∧
    (sortBy sorter (major ++ "," ++ minor) xs ≠ .error .sortPanic →
      (sortBy sorter minor xs >>= sortBy sorter major) ≠ .error .sortPanic →
      ((∃ e, sortBy sorter (major ++ "," ++ minor) xs = .error e) ↔
        ∃ e, (sortBy sorter minor xs >>= sortBy sorter major) = .error e)) ∧
    (∀ first second, SortSpec.parse major = .ok first → SortSpec.parse minor = .ok second →
      PreorderOn (· ∈ xs) first.compare → PreorderOn (· ∈ xs) second.compare →
      ∃ ys, sortBy sorter (major ++ "," ++ minor) xs = .ok ys ∧
        (sortBy sorter minor xs >>= sortBy sorter major) = .ok ys ∧
        IsStableSort (SortSpec.compare (first ++ second)) xs ys) ∧
    ∀ k, (∀ r ∈ xs, r.address.kind = k) → ∀ spec : SortSpec, PreorderOn (· ∈ xs) spec.compare ∧
      ∃ ys, spec.sort sorter xs = .ok ys ∧
        spec.foldr (fun c ys => ys >>= SortSpec.sort sorter [c]) (.ok xs) = .ok ys := by
  refine ⟨SortSpec.parse_comma major minor, fun hjoined hchained => ?_,
    fun first second hfirst hsecond hcmp hcmp' => ?_, fun k hk spec => ?_⟩
  · rcases exists_ok_or_error (SortSpec.parse minor) with ⟨second, hsecond⟩ | ⟨e, he⟩
    · rw [SortSpec.sortBy_eq_sort sorter hsecond] at hchained ⊢
      obtain ⟨ys, hys, -⟩ := SortSpec.exists_sort_eq_ok fun hpanic => by
        rw [hpanic] at hchained
        exact hchained rfl
      rw [hys, ok_bind] at hchained ⊢
      rcases exists_ok_or_error (SortSpec.parse major) with ⟨first, hfirst⟩ | ⟨e, he⟩
      · have hparse : SortSpec.parse (major ++ "," ++ minor) = .ok (first ++ second) := by
          rw [SortSpec.parse_comma, hfirst, hsecond]
          rfl
        rw [SortSpec.sortBy_eq_sort sorter hparse] at hjoined ⊢
        rw [SortSpec.sortBy_eq_sort sorter hfirst] at hchained ⊢
        obtain ⟨zs, hzs, -⟩ := SortSpec.exists_sort_eq_ok hjoined
        obtain ⟨zs', hzs', -⟩ := SortSpec.exists_sort_eq_ok hchained
        simp [hzs, hzs']
      · have hparse : SortSpec.parse (major ++ "," ++ minor) = .error e := by
          rw [SortSpec.parse_comma, he, error_bind]
        simp [SortSpec.sortBy_eq_error sorter hparse, SortSpec.sortBy_eq_error sorter he]
    · rw [SortSpec.sortBy_eq_error sorter he]
      rcases exists_ok_or_error (SortSpec.parse major) with ⟨first, hfirst⟩ | ⟨d, hd⟩
      · have hparse : SortSpec.parse (major ++ "," ++ minor) = .error e := by
          rw [SortSpec.parse_comma, hfirst, he]
          rfl
        simp [SortSpec.sortBy_eq_error sorter hparse]
      · have hparse : SortSpec.parse (major ++ "," ++ minor) = .error d := by
          rw [SortSpec.parse_comma, hd, error_bind]
        simp [SortSpec.sortBy_eq_error sorter hparse]
  · have hparse : SortSpec.parse (major ++ "," ++ minor) = .ok (first ++ second) := by
      rw [SortSpec.parse_comma, hfirst, hsecond]
      rfl
    have hboth := SortSpec.preorderOn_append hcmp hcmp'
    have hperm := (SortSpec.isStableSort_sorted hcmp').perm
    refine ⟨_, SortSpec.sortBy_eq_ok sorter hparse hboth, ?_, SortSpec.isStableSort_sorted hboth⟩
    rw [SortSpec.sortBy_eq_ok sorter hsecond hcmp', ok_bind,
      SortSpec.sortBy_eq_ok sorter hfirst (hcmp.mono fun _ ha => hperm.subset ha),
      SortSpec.sorted_append hcmp hcmp']
  · have hcmp : PreorderOn (· ∈ xs) spec.compare := SortSpec.preorderOn_mem (.inl ⟨k, hk⟩)
    exact ⟨hcmp, _, SortSpec.sort_eq_ok sorter hcmp,
      SortSpec.foldr_sort fun c _ => (c.key.preorderOn_kind k).mono hk⟩

open Registry (v4) in
/-- Kinds are told apart by the first text, and names only tell networks of one size apart. -/
theorem sortBy_comma_kinds :
    let sorter := Sorter.merging
    ∃ xs ys : List Record, xs.map (·.address.text) =
        ["10.1.0.1/24", "\"/run/bus\"", "10.2.0.1/24", "10.3.0.1/8", "10.4.0.1/24"] ∧
      sortBy sorter ("Type, size" ++ "," ++ "-name ") xs = .ok ys ∧
      (sortBy sorter "-name " xs >>= sortBy sorter "Type, size") = .ok ys ∧
      ys.map (·.address.text) =
        ["\"/run/bus\"", "10.3.0.1/8", "10.2.0.1/24", "10.1.0.1/24", "10.4.0.1/24"] := by
  intro sorter
  let i (name : String) : Interface := ⟨1, name, 1500, .ofBits 1, none⟩
  let bus : SocketAddress := .unix ⟨"/run/bus", by decide⟩
  let xs : List Record := [⟨v4 10 1 0 1 24, i "en0"⟩, ⟨bus, i "en1"⟩, ⟨v4 10 2 0 1 24, i "en1"⟩,
    ⟨v4 10 3 0 1 8, i "en0"⟩, ⟨v4 10 4 0 1 24, i "en0"⟩]
  let zs : List Record := [⟨bus, i "en1"⟩, ⟨v4 10 3 0 1 8, i "en0"⟩, ⟨v4 10 2 0 1 24, i "en1"⟩,
    ⟨v4 10 1 0 1 24, i "en0"⟩, ⟨v4 10 4 0 1 24, i "en0"⟩]
  let first : SortSpec := [⟨.type, false⟩, ⟨.size, false⟩]
  let second : SortSpec := [⟨.name, true⟩]
  have hfirst : SortSpec.parse "Type, size" = .ok first := by decide +kernel
  have hsecond : SortSpec.parse "-name " = .ok second := by decide +kernel
  obtain ⟨-, -, hsort, -⟩ := sortBy_comma sorter "Type, size" "-name " xs
  obtain ⟨ys, hjoined, hchained, hys⟩ := hsort first second hfirst hsecond
    (SortSpec.preorderOn_mem (.inr (.inr (by decide))))
    (SortSpec.preorderOn_mem (.inr (.inl (by decide))))
  have hzs : IsStableSort (SortSpec.compare (first ++ second)) xs zs :=
    ⟨by decide +kernel, by decide +kernel, by decide +kernel⟩
  obtain rfl : ys = zs := hys.unique (SortSpec.preorderOn_mem (.inr (.inr (by decide)))) hzs
  exact ⟨xs, _, by decide +kernel, hjoined, hchained, by decide +kernel⟩

namespace SortClause

/-- The same key in the other direction. -/
def opposite (c : SortClause) : SortClause :=
  ⟨c.key, !c.descending⟩

lemma compare_opposite (c : SortClause) (a b : Record) :
    c.opposite.compare a b = (c.compare a b).swap := by
  obtain ⟨key, descending⟩ := c
  cases descending with
  | false => rfl
  | true => exact Ordering.swap_swap.symm

/-- Whether a sign is a minus, and what follows it. No sign stands for a plus. -/
def readSign : List Char → Bool × List Char
  | '-' :: key => (true, key)
  | '+' :: key => (false, key)
  | key => (false, key)

lemma parse_eq_readSign (s : String) :
    SortClause.parse s = (SortKey.parse (String.ofList (readSign (trim s.toList)).2)).map
      (⟨·, (readSign (trim s.toList)).1⟩) := by
  rw [SortClause.parse]
  split
  · rename_i key h
    rw [h]
    rfl
  · rename_i key h
    rw [h]
    rfl
  · rename_i hminus hplus
    rw [readSign]
    · exact hminus
    · exact hplus

lemma trimEnd_readSign (cs : List Char) :
    trimEnd (readSign (trim cs)).2 = (readSign (trim cs)).2 := by
  unfold readSign
  split
  · rename_i key h
    exact trimEnd_of_trim (by decide) h
  · rename_i key h
    exact trimEnd_of_trim (by decide) h
  · exact trimEnd_trim cs

/-- The words of a clause with the other sign. -/
def oppositeWords (cs : List Char) : List Char :=
  let (descending, key) := readSign (trim cs)
  (if descending then '+' else '-') :: key

/-- Words that are no clause are none with the other sign either, for the same reason. -/
lemma parse_oppositeWords (cs : List Char) :
    SortClause.parse (String.ofList (oppositeWords cs)) =
      (SortClause.parse (String.ofList cs)).map opposite := by
  have hkey := trimEnd_readSign cs
  simp only [parse_eq_readSign, String.toList_ofList, oppositeWords]
  generalize readSign (trim cs) = read at hkey ⊢
  obtain ⟨descending, key⟩ := read
  have htrim : ∀ sign, isBlank sign = false → trim (sign :: key) = sign :: key := by
    intro sign hsign
    rw [trim_cons hsign, hkey]
  cases descending with
  | false =>
    rw [if_neg Bool.false_ne_true, htrim '-' (by decide), readSign]
    cases SortKey.parse (String.ofList key) <;> rfl
  | true =>
    rw [if_pos rfl, htrim '+' (by decide), readSign]
    cases SortKey.parse (String.ofList key) <;> rfl

lemma comma_notMem_oppositeWords {cs : List Char} (h : ',' ∉ cs) : ',' ∉ oppositeWords cs := by
  have hread : ∀ ds : List Char, (readSign ds).2 ⊆ ds := by
    intro ds
    unfold readSign
    split
    · exact List.subset_cons_self _ _
    · exact List.subset_cons_self _ _
    · exact List.Subset.refl _
  have hkey := hread (trim cs)
  rw [oppositeWords]
  generalize readSign (trim cs) = read at hkey ⊢
  obtain ⟨descending, key⟩ := read
  refine List.not_mem_cons_of_ne_of_not_mem ?_ fun hmem => h (mem_of_mem_trim (hkey hmem))
  cases descending <;> decide

end SortClause

namespace SortSpec

variable {text : String} {spec : SortSpec} {xs ys : List Record}

/-- The same clauses, each in the other direction. -/
def opposite (spec : SortSpec) : SortSpec :=
  spec.map SortClause.opposite

lemma compare_opposite (spec : SortSpec) (a b : Record) :
    spec.opposite.compare a b = (spec.compare a b).swap := by
  induction spec with
  | nil => rfl
  | cons c spec ih =>
    rw [compare_cons, Ordering.swap_then, ← ih, ← SortClause.compare_opposite, ← compare_cons]
    rfl

/-- The text of the same clauses, each with the other sign. -/
def oppositeText (text : String) : String :=
  String.ofList ([','].intercalate ((text.toList.splitOn ',').map SortClause.oppositeWords))

theorem parse_oppositeText (text : String) :
    SortSpec.parse (oppositeText text) = (SortSpec.parse text).map opposite := by
  have hcomma : ∀ clause ∈ (text.toList.splitOn ',').map SortClause.oppositeWords,
      ',' ∉ clause := by
    intro clause hclause
    obtain ⟨cs, hcs, rfl⟩ := List.mem_map.1 hclause
    exact SortClause.comma_notMem_oppositeWords (notMem_of_mem_splitOn hcs)
  have hne : (text.toList.splitOn ',').map SortClause.oppositeWords ≠ [] := by
    simp [List.splitOn_ne_nil]
  rw [SortSpec.parse, oppositeText, String.toList_ofList, List.splitOn_intercalate ',' hcomma hne]
  exact mapM_map_eq_map_mapM (g := fun clause => SortClause.parse (String.ofList clause))
    SortClause.parse_oppositeWords (text.toList.splitOn ',')

lemma isStableSort_opposite (hcmp : PreorderOn (· ∈ xs) spec.compare)
    (hys : IsStableSort spec.compare xs ys) :
    IsStableSort spec.opposite.compare xs.reverse ys.reverse :=
  (hys.reverse hcmp).congr fun a _ b _ => spec.compare_opposite a b

lemma preorderOn_opposite (hcmp : PreorderOn (· ∈ xs) spec.compare) :
    PreorderOn (· ∈ xs) spec.opposite.compare :=
  hcmp.opposite.congr fun a b _ _ => spec.compare_opposite a b

/-- Sorted the other way round, a list is the sort of the list read backwards, read backwards. -/
theorem sorted_opposite (hcmp : PreorderOn (· ∈ xs) spec.compare) :
    spec.opposite.sorted xs = (spec.sorted xs.reverse).reverse := by
  have hback : PreorderOn (· ∈ xs.reverse) spec.compare :=
    hcmp.mono fun _ ha => List.mem_reverse.1 ha
  have hsort := isStableSort_opposite hback (isStableSort_sorted hback)
  rw [List.reverse_reverse] at hsort
  exact sorted_eq (preorderOn_opposite hcmp) hsort

end SortSpec

/-- With all its signs changed, a text is read as the same clauses in the other directions, and
sorts a list as the text itself sorts the list read backwards. The outcome is a stable sort. Place
by place it ties with the sort by the text itself read backwards, and is equal to it exactly when
ties read the same in both directions. -/
theorem sortBy_opposite (sorter : Sorter) (text : String) (xs : List Record) :
    SortSpec.parse (SortSpec.oppositeText text) = (SortSpec.parse text).map SortSpec.opposite ∧
    ∀ spec text', SortSpec.parse text = .ok spec → SortSpec.parse text' = .ok spec.opposite →
      PreorderOn (· ∈ xs) spec.compare →
      sortBy sorter text' xs = (sortBy sorter text xs.reverse).map List.reverse ∧
      ∃ ups downs, sortBy sorter text xs = .ok ups ∧ sortBy sorter text' xs = .ok downs ∧
        IsStableSort (fun r s => (spec.compare r s).swap) xs downs ∧
        List.Forall₂ (fun r s => spec.compare r s = .eq) downs ups.reverse ∧
        (downs = ups.reverse ↔ ∀ r ∈ xs, (xs.filter (spec.compare r · == .eq)).reverse =
          xs.filter (spec.compare r · == .eq)) := by
  refine ⟨SortSpec.parse_oppositeText text, fun spec text' hspec hspec' hcmp => ?_⟩
  have hback : PreorderOn (· ∈ xs.reverse) spec.compare :=
    hcmp.mono fun _ ha => List.mem_reverse.1 ha
  have hdowns := (SortSpec.isStableSort_sorted hback).reverse hback
  rw [List.reverse_reverse, ← SortSpec.sorted_opposite hcmp] at hdowns
  have hups := (SortSpec.isStableSort_sorted hcmp).reverse hcmp
  have hsort := SortSpec.sortBy_eq_ok sorter hspec' (SortSpec.preorderOn_opposite hcmp)
  constructor
  · rw [hsort, SortSpec.sortBy_eq_ok sorter hspec hback, SortSpec.sorted_opposite hcmp]
    rfl
  refine ⟨_, _, SortSpec.sortBy_eq_ok sorter hspec hcmp, hsort, hdowns, ?_, ?_⟩
  · refine (hdowns.forall₂ hcmp.opposite (List.reverse_perm xs) hups).imp fun r s hrs => ?_
    exact Ordering.swap_eq_iff_eq_swap.1 hrs
  · simp only [hdowns.eq_iff hcmp.opposite (List.reverse_perm xs) hups, swap_beq_eq,
      List.filter_reverse]

open Registry (v4) in
/-- Two networks of one size keep their order, where the sort the other way round turns it. -/
theorem sortBy_opposite_sizes :
    let sorter := Sorter.merging
    ∃ xs ups downs : List Record,
      xs.map (·.address.text) = ["10.1.0.1/8", "10.2.0.1/24", "10.3.0.1/8"] ∧
      SortSpec.oppositeText " +Size" = "-Size" ∧
      sortBy sorter " +Size" xs = .ok ups ∧ sortBy sorter "-Size" xs = .ok downs ∧
      sortBy sorter "-Size" xs = (sortBy sorter " +Size" xs.reverse).map List.reverse ∧
      downs.map (·.address.text) = ["10.2.0.1/24", "10.1.0.1/8", "10.3.0.1/8"] ∧
      downs ≠ ups.reverse := by
  intro sorter
  let i : Interface := ⟨1, "en0", 1500, .ofBits 1, none⟩
  let xs : List Record := [⟨v4 10 1 0 1 8, i⟩, ⟨v4 10 2 0 1 24, i⟩, ⟨v4 10 3 0 1 8, i⟩]
  let zs : List Record := [⟨v4 10 2 0 1 24, i⟩, ⟨v4 10 1 0 1 8, i⟩, ⟨v4 10 3 0 1 8, i⟩]
  let spec : SortSpec := [⟨.size, false⟩]
  have hspec : SortSpec.parse " +Size" = .ok spec := by decide +kernel
  have hspec' : SortSpec.parse "-Size" = .ok spec.opposite := by decide +kernel
  have hcmp : PreorderOn (· ∈ xs) spec.compare := SortSpec.preorderOn_mem (.inl ⟨.ipv4, by decide⟩)
  obtain ⟨hback, ups, downs, hups, hdowns, hsort, -, hties⟩ :=
    (sortBy_opposite sorter " +Size" xs).2 spec "-Size" hspec hspec' hcmp
  have hzs : IsStableSort (fun r s => (spec.compare r s).swap) xs zs :=
    ⟨by decide +kernel, by decide +kernel, by decide +kernel⟩
  obtain rfl : downs = zs := hsort.unique hcmp.opposite hzs
  refine ⟨xs, ups, _, by decide +kernel, by decide +kernel, hups, hdowns, hback,
    by decide +kernel, ?_⟩
  rw [ne_eq, hties]
  decide +kernel

lemma SortSpec.sorted_filter {spec : SortSpec} {xs : List Record}
    (hcmp : PreorderOn (· ∈ xs) spec.compare) (p : Record → Bool) :
    spec.sorted (xs.filter p) = (spec.sorted xs).filter p :=
  sorted_eq (hcmp.mono fun _ ha => List.mem_of_mem_filter ha) ((isStableSort_sorted hcmp).filter p)

section

variable {engine : PatternEngine} {f : List Record → Except Error (List Record)}

/-- Whether a filter fails depends on which records it is put to, and not on their order. -/
lemma IsFilter.exists_eq_error_iff_of_perm (hf : IsFilter engine f) {xs ys : List Record}
    (hperm : ys.Perm xs) : (∃ e, f ys = .error e) ↔ ∃ e, f xs = .error e := by
  obtain ⟨p, hp⟩ := hf.exists_keeps
  simp only [exists_eq_error_iff]
  constructor
  · intro hys kept hkept
    exact hys _ ((hp xs kept hkept).2 ys hperm.subset)
  · intro hxs kept hkept
    exact hxs _ ((hp ys kept hkept).2 xs hperm.symm.subset)

/-- A filter and a sort may follow each other in either order: unless the sort panics they fail in
both or in none, and where the clauses order the records, both orders come to the same list, ties
included. -/
theorem sortBy_filter_comm (hf : IsFilter engine f) (sorter : Sorter) (text : String)
    (xs : List Record) :
    ((sortBy sorter text xs >>= f) ≠ .error .sortPanic →
      (f xs >>= sortBy sorter text) ≠ .error .sortPanic →
      ((∃ e, (sortBy sorter text xs >>= f) = .error e) ↔
        ∃ e, (f xs >>= sortBy sorter text) = .error e)) ∧
    ∀ spec kept, SortSpec.parse text = .ok spec → PreorderOn (· ∈ xs) spec.compare →
      f xs = .ok kept →
      ∃ ys, (sortBy sorter text xs >>= f) = .ok ys ∧ (f xs >>= sortBy sorter text) = .ok ys ∧
        IsStableSort spec.compare kept ys := by
  constructor
  · intro hbefore hafter
    rcases exists_ok_or_error (SortSpec.parse text) with ⟨spec, hspec⟩ | ⟨e, he⟩
    · rw [SortSpec.sortBy_eq_sort sorter hspec] at hbefore ⊢
      obtain ⟨ys, hys, hperm⟩ := SortSpec.exists_sort_eq_ok fun hpanic => by
        rw [hpanic] at hbefore
        exact hbefore rfl
      rw [hys, ok_bind, hf.exists_eq_error_iff_of_perm hperm]
      cases hkept : f xs with
      | error e => simp
      | ok kept =>
        rw [hkept, ok_bind, SortSpec.sortBy_eq_sort sorter hspec] at hafter
        obtain ⟨zs, hzs, -⟩ := SortSpec.exists_sort_eq_ok hafter
        simp [SortSpec.sortBy_eq_sort sorter hspec, hzs]
    · cases f xs <;> simp [SortSpec.sortBy_eq_error sorter he]
  · intro spec kept hspec hcmp hkept
    obtain ⟨p, hp⟩ := hf.exists_keeps
    obtain ⟨rfl, -⟩ := hp xs kept hkept
    have hsort := SortSpec.isStableSort_sorted hcmp
    have hcmp' : PreorderOn (· ∈ xs.filter p) spec.compare :=
      hcmp.mono fun _ ha => List.mem_of_mem_filter ha
    have hsorted : f (spec.sorted xs) = .ok ((spec.sorted xs).filter p) :=
      (hp xs _ hkept).2 _ hsort.perm.subset
    refine ⟨(spec.sorted xs).filter p, ?_, ?_, hsort.filter p⟩
    · rw [SortSpec.sortBy_eq_ok sorter hspec hcmp, ok_bind, hsorted]
    · rw [hkept, ok_bind, SortSpec.sortBy_eq_ok sorter hspec hcmp', SortSpec.sorted_filter hcmp]

end

open Registry (v4) in
/-- Two records whose name matches a pattern are dropped, with a path in front of one of them. -/
theorem sortBy_filter_comm_names :
    let sorter := Sorter.merging
    let exclude := excludeBy Regex.engine "name" "1$"
    ∃ xs kept ys : List Record, xs.map (·.address.text) =
        ["10.1.0.1/24", "10.2.0.1/8", "\"/run/bus\"", "10.3.0.1/16"] ∧
      exclude xs = .ok kept ∧
      (sortBy sorter "-name" xs >>= exclude) = .ok ys ∧
      (exclude xs >>= sortBy sorter "-name") = .ok ys ∧
      ys.map (·.address.text) = ["\"/run/bus\"", "10.1.0.1/24", "10.3.0.1/16"] := by
  intro sorter exclude
  let i (name : String) : Interface := ⟨1, name, 1500, .ofBits 1, none⟩
  let bus : SocketAddress := .unix ⟨"/run/bus", by decide⟩
  let xs : List Record := [⟨v4 10 1 0 1 24, i "en0"⟩, ⟨v4 10 2 0 1 8, i "en1"⟩, ⟨bus, i "lo"⟩,
    ⟨v4 10 3 0 1 16, i "en0"⟩]
  let kept : List Record := [⟨v4 10 1 0 1 24, i "en0"⟩, ⟨bus, i "lo"⟩, ⟨v4 10 3 0 1 16, i "en0"⟩]
  let zs : List Record := [⟨bus, i "lo"⟩, ⟨v4 10 1 0 1 24, i "en0"⟩, ⟨v4 10 3 0 1 16, i "en0"⟩]
  let spec : SortSpec := [⟨.name, true⟩]
  have hspec : SortSpec.parse "-name" = .ok spec := by decide +kernel
  have hcmp : ∀ rs : List Record, PreorderOn (· ∈ rs) spec.compare :=
    fun _ => SortSpec.preorderOn_mem (.inr (.inl (by decide)))
  have hkept : exclude xs = .ok kept := by decide +kernel
  have hfilter : IsFilter Regex.engine exclude := .dropping "name" "1$"
  obtain ⟨ys, hbefore, hafter, hys⟩ :=
    (sortBy_filter_comm hfilter sorter "-name" xs).2 spec kept hspec (hcmp xs) hkept
  have hzs : IsStableSort spec.compare kept zs :=
    ⟨by decide +kernel, by decide +kernel, by decide +kernel⟩
  obtain rfl : ys = zs := hys.unique (hcmp kept) hzs
  exact ⟨xs, kept, _, by decide +kernel, hkept, hbefore, hafter, by decide +kernel⟩

end HostAddr
