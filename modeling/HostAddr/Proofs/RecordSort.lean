import HostAddr.Proofs.Outcome
import HostAddr.Proofs.StableSort
import HostAddr.Runtime
import Mathlib.Data.List.TakeWhile

/-!
# Sorting records

Address, port, privacy and size compare records of one kind of address and call all others equal,
so a list of clauses orders records of several kinds only when a type clause tells the kinds apart
in time. Where it does, the sort is the one stable sort by it.
-/

namespace HostAddr

namespace SocketAddress

def number : SocketAddress → Nat
  | ipv4 a => a.address.toNat
  | ipv6 a => a.address.toNat
  | unix _ => 0

def path : SocketAddress → String
  | unix p => p.text
  | ipv4 _ | ipv6 _ => ""

lemma compareAddress_of_kind_eq : ∀ {x y : SocketAddress}, x.kind = y.kind →
    x.compareAddress y = (compare x.number y.number).then (compare x.path y.path)
  | ipv4 _, ipv4 _, _ => Ordering.then_eq.symm
  | ipv6 _, ipv6 _, _ => Ordering.then_eq.symm
  | unix _, unix _, _ => rfl

lemma comparePort_of_kind_eq : ∀ {x y : SocketAddress}, x.kind = y.kind →
    x.comparePort y = compare (x.port?.elim 0 UInt16.toNat) (y.port?.elim 0 UInt16.toNat)
  | ipv4 _, ipv4 _, _ => rfl
  | ipv6 _, ipv6 _, _ => rfl
  | unix _, unix _, _ => rfl

lemma compareNetworkSize_of_kind_eq : ∀ {x y : SocketAddress}, x.kind = y.kind →
    x.compareNetworkSize y = compare (x.prefixLen?.getD 0) (y.prefixLen?.getD 0)
  | ipv4 _, ipv4 _, _ => rfl
  | ipv6 _, ipv6 _, _ => rfl
  | unix _, unix _, _ => rfl

lemma isIP_of_kind_eq : ∀ {x y : SocketAddress}, x.kind = y.kind → x.isIP = y.isIP
  | ipv4 _, ipv4 _, _ => rfl
  | ipv6 _, ipv6 _, _ => rfl
  | unix _, unix _, _ => rfl

end SocketAddress

/-- Whether an IP address is outside the networks of the RFC, as 0 or 1. -/
def Registry.outside (rfc : Nat) (x : SocketAddress) : Nat :=
  (x.isIP && !holds rfc x).toNat

lemma Registry.compareMembership_of_kind_eq {rfc : Nat} {x y : SocketAddress}
    (h : x.kind = y.kind) :
    compareMembership rfc x y = compare (outside rfc x) (outside rfc y) := by
  have hip := SocketAddress.isIP_of_kind_eq h
  rw [compareMembership, outside, outside, ← hip]
  cases x.isIP with
  | false => simp
  | true =>
    simp only [h, and_self, if_true, Bool.true_and]
    cases holds rfc x <;> cases holds rfc y <;> rfl

namespace SortKey

/-- Keys that compare only records of one kind of address. -/
def withinKind : SortKey → Bool
  | address | port | privacy | size => true
  | name | type => false

lemma withinKind_of_ne {key : SortKey} (hname : key ≠ .name) (htype : key ≠ .type) :
    key.withinKind := by
  cases key with
  | name => exact absurd rfl hname
  | type => exact absurd rfl htype
  | address => rfl
  | port => rfl
  | privacy => rfl
  | size => rfl

lemma compare_of_kind_ne {key : SortKey} (hkey : key.withinKind) {a b : Record}
    (h : a.address.kind ≠ b.address.kind) : key.compare a b = .eq := by
  obtain ⟨x, i⟩ := a
  obtain ⟨y, j⟩ := b
  cases key with
  | name => cases hkey
  | type => cases hkey
  | privacy => exact if_neg fun hsame => h hsame.1
  | address => cases x <;> cases y <;> simp_all [compare, SocketAddress.compareAddress,
      SocketAddress.kind]
  | port => cases x <;> cases y <;> simp_all [compare, SocketAddress.comparePort,
      SocketAddress.kind]
  | size => cases x <;> cases y <;> simp_all [compare, SocketAddress.compareNetworkSize,
      SocketAddress.kind]

theorem preorderOn_of_not_withinKind {key : SortKey} (h : key.withinKind = false)
    (S : Record → Prop) : PreorderOn S key.compare := by
  cases key with
  | name => exact .of_key (fun r => r.interface.name) fun _ _ _ _ => rfl
  | type => exact .of_key (fun r => r.address.kind.rank) fun _ _ _ _ => rfl
  | address => cases h
  | port => cases h
  | privacy => cases h
  | size => cases h

/-- Every key orders the records of one kind. -/
theorem preorderOn_kind (key : SortKey) (k : AddressKind) :
    PreorderOn (fun r => r.address.kind = k) key.compare := by
  cases key with
  | name => exact preorderOn_of_not_withinKind rfl _
  | type => exact preorderOn_of_not_withinKind rfl _
  | address =>
    have hnumber : PreorderOn (fun r : Record => r.address.kind = k)
        fun a b => Ord.compare a.address.number b.address.number :=
      .of_key (fun r => r.address.number) fun _ _ _ _ => rfl
    have hpath : ∀ S, PreorderOn S
        fun a b : Record => Ord.compare a.address.path b.address.path :=
      fun _ => .of_key (fun r => r.address.path) fun _ _ _ _ => rfl
    exact (hnumber.andThen fun _ _ => hpath _).congr fun a b ha hb =>
      SocketAddress.compareAddress_of_kind_eq (ha.trans hb.symm)
  | port =>
    exact .of_key (fun r => r.address.port?.elim 0 UInt16.toNat) fun a b ha hb =>
      SocketAddress.comparePort_of_kind_eq (ha.trans hb.symm)
  | size =>
    exact .of_key (fun r => r.address.prefixLen?.getD 0) fun a b ha hb =>
      SocketAddress.compareNetworkSize_of_kind_eq (ha.trans hb.symm)
  | privacy =>
    exact .of_key (fun r => Registry.outside Registry.privateRfc r.address) fun a b ha hb =>
      Registry.compareMembership_of_kind_eq (ha.trans hb.symm)

end SortKey

theorem SortClause.preorderOn {c : SortClause} {S : Record → Prop}
    (h : PreorderOn S c.key.compare) : PreorderOn S c.compare := by
  by_cases hdesc : c.descending = true
  · refine h.opposite.congr fun a b _ _ => ?_
    rw [SortClause.compare, if_pos hdesc]
  · refine h.congr fun a b _ _ => ?_
    rw [SortClause.compare, if_neg hdesc]

namespace SortSpec

lemma foldl_then (spec : SortSpec) (a b : Record) (answer : Ordering) :
    spec.foldl (fun answer c => answer.then (c.compare a b)) answer =
      answer.then (spec.compare a b) := by
  induction spec generalizing answer with
  | nil => exact Ordering.then_eq.symm
  | cons c spec ih =>
    rw [compare, List.foldl_cons, List.foldl_cons, ih, ih, Ordering.then_assoc]
    rfl

lemma compare_cons (c : SortClause) (spec : SortSpec) (a b : Record) :
    compare (c :: spec) a b = (c.compare a b).then (spec.compare a b) := by
  rw [compare, List.foldl_cons, foldl_then]
  rfl

lemma compare_append (spec more : SortSpec) (a b : Record) :
    compare (spec ++ more) a b = (spec.compare a b).then (more.compare a b) := by
  rw [compare, List.foldl_append, foldl_then]
  rfl

theorem preorderOn_of_forall {spec : SortSpec} {S : Record → Prop}
    (h : ∀ c ∈ spec, PreorderOn S c.key.compare) : PreorderOn S spec.compare := by
  induction spec with
  | nil => exact .of_key (fun _ => 0) fun _ _ _ _ => rfl
  | cons c spec ih =>
    have hspec := ih fun d hd => h d (List.mem_cons_of_mem c hd)
    have hc := SortClause.preorderOn (h c List.mem_cons_self)
    refine (hc.andThen fun a ha => hspec.mono fun b hb => hb.1).congr fun a b _ _ => ?_
    rw [compare_cons]

theorem preorderOn_kind (spec : SortSpec) (k : AddressKind) :
    PreorderOn (fun r => r.address.kind = k) spec.compare :=
  preorderOn_of_forall fun c _ => c.key.preorderOn_kind k

lemma compare_of_kind_ne {block : SortSpec} (hblock : ∀ c ∈ block, c.key.withinKind)
    {a b : Record} (h : a.address.kind ≠ b.address.kind) : block.compare a b = .eq := by
  induction block with
  | nil => rfl
  | cons c block ih =>
    have hc : c.compare a b = .eq := by
      rw [SortClause.compare, SortKey.compare_of_kind_ne (hblock c List.mem_cons_self) h,
        Ordering.swap_eq, ite_self]
    rw [compare_cons, hc, ih fun d hd => hblock d (List.mem_cons_of_mem c hd)]
    rfl

/-- A type clause tells the kinds apart, and no name clause stands between the first clause that
compares within a kind and the first type clause. -/
def TellsKindsApart (spec : SortSpec) : Prop :=
  (∃ c ∈ spec, c.key = .type) ∧
    ∀ c ∈ (spec.takeWhile (·.key ≠ .type)).dropWhile (!·.key.withinKind), c.key ≠ .name

instance : DecidablePred TellsKindsApart :=
  fun _ => inferInstanceAs (Decidable (_ ∧ _))

lemma compareType_eq_eq_iff {c : SortClause} (hc : c.key = .type) {a b : Record} :
    c.compare a b = .eq ↔ a.address.kind = b.address.kind := by
  have hkey : c.key.compare a b = .eq ↔ a.address.kind = b.address.kind := by
    rw [hc, SortKey.compare, SocketAddress.compareKind, Std.LawfulEqCmp.compare_eq_iff_eq]
    cases a.address.kind <;> cases b.address.kind <;> decide
  rw [← hkey, SortClause.compare]
  split
  · exact Ordering.swap_eq_iff_eq_swap
  · rfl

/-- Clauses within kinds may change places with a type clause. -/
lemma compare_type_first {block tail : SortSpec} (hblock : ∀ c ∈ block, c.key.withinKind)
    {t : SortClause} (ht : t.key = .type) (a b : Record) :
    compare (block ++ t :: tail) a b = (t.compare a b).then (compare (block ++ tail) a b) := by
  rw [compare_append, compare_cons, compare_append]
  by_cases hkind : a.address.kind = b.address.kind
  · rw [(compareType_eq_eq_iff ht).2 hkind]
    rfl
  · have hne : t.compare a b ≠ .eq := mt (compareType_eq_eq_iff ht).1 hkind
    rw [compare_of_kind_ne hblock hkind]
    revert hne
    cases t.compare a b <;> simp

/-- Whatever follows a type clause orders the records that this clause calls equal. -/
lemma preorderOn_type_first {t : SortClause} (ht : t.key = .type) (spec : SortSpec) :
    PreorderOn (fun _ => True) fun a b => (t.compare a b).then (spec.compare a b) := by
  have htype : PreorderOn (fun _ => True) t.compare :=
    SortClause.preorderOn (SortKey.preorderOn_of_not_withinKind (by rw [ht]; rfl) _)
  refine htype.andThen fun a _ => (spec.preorderOn_kind a.address.kind).mono fun b hb => ?_
  exact ((compareType_eq_eq_iff ht).1 hb.2).symm

lemma exists_takeWhile_append {spec : SortSpec} (h : ∃ c ∈ spec, c.key = .type) :
    ∃ t tail, t.key = .type ∧ spec = spec.takeWhile (·.key ≠ .type) ++ t :: tail := by
  induction spec with
  | nil => simp at h
  | cons c spec ih =>
    by_cases hc : c.key = .type
    · exact ⟨c, spec, hc, by simp [hc]⟩
    · obtain ⟨t, tail, ht, hspec⟩ := ih (by simpa [hc] using h)
      refine ⟨t, tail, ht, ?_⟩
      rw [List.takeWhile_cons_of_pos (by simpa using hc), List.cons_append, ← hspec]

/-- Before the first type clause there are name clauses and then clauses within kinds. -/
theorem preorderOn_of_tellsKindsApart {spec : SortSpec} (h : spec.TellsKindsApart) :
    PreorderOn (fun _ => True) spec.compare := by
  induction spec with
  | nil => exact absurd h.1 (by simp)
  | cons c spec ih =>
    obtain ⟨htype, hname⟩ := h
    by_cases hctype : c.key = .type
    · exact (preorderOn_type_first hctype spec).congr fun a b _ _ => compare_cons c spec a b
    have htype' : ∃ d ∈ spec, d.key = .type := by simpa [hctype] using htype
    rw [List.takeWhile_cons_of_pos (by simpa using hctype)] at hname
    by_cases hwithin : c.key.withinKind = true
    · rw [List.dropWhile_cons_of_neg (by simp [hwithin])] at hname
      obtain ⟨t, tail, ht, hspec⟩ := exists_takeWhile_append htype'
      have hblock : ∀ d ∈ c :: spec.takeWhile (·.key ≠ .type), d.key.withinKind := by
        intro d hd
        refine SortKey.withinKind_of_ne (hname d hd) ?_
        rcases List.mem_cons.1 hd with rfl | hd
        · exact hctype
        · simpa using List.mem_takeWhile_imp hd
      refine (preorderOn_type_first ht (c :: spec.takeWhile (·.key ≠ .type) ++ tail)).congr
        fun a b _ _ => ?_
      conv_lhs => rw [hspec]
      exact compare_type_first hblock ht a b
    · rw [List.dropWhile_cons_of_pos (by simpa using hwithin)] at hname
      have hc := SortClause.preorderOn (c := c)
        (SortKey.preorderOn_of_not_withinKind (by simpa using hwithin) fun _ => True)
      refine (hc.andThen fun a _ => (ih ⟨htype', hname⟩).mono fun _ _ => trivial).congr ?_
      exact fun a b _ _ => compare_cons c spec a b

/-- The records of a list are ordered when they are of one kind, when no clause compares within a
kind, or when a type clause tells the kinds apart in time. -/
theorem preorderOn_mem {spec : SortSpec} {xs : List Record}
    (h : (∃ k, ∀ r ∈ xs, r.address.kind = k) ∨ (∀ c ∈ spec, c.key.withinKind = false) ∨
      spec.TellsKindsApart) : PreorderOn (· ∈ xs) spec.compare := by
  rcases h with ⟨k, hk⟩ | hspec | hspec
  · exact (spec.preorderOn_kind k).mono hk
  · exact preorderOn_of_forall fun c hc => SortKey.preorderOn_of_not_withinKind (hspec c hc) _
  · exact (preorderOn_of_tellsKindsApart hspec).mono fun _ _ => trivial

end SortSpec

/-- The word for a key, in lower case. -/
def SortKey.word : SortKey → String
  | address => "address"
  | name => "name"
  | port => "port"
  | privacy => "private"
  | size => "size"
  | type => "type"

theorem SortKey.parse_eq_ok_iff {s : String} {key : SortKey} :
    SortKey.parse s = .ok key ↔ s.toLower = key.word := by
  rw [SortKey.parse]
  constructor
  · intro h
    split at h <;> cases h <;> assumption
  · intro h
    rw [h]
    cases key <;> rfl

/-- A clause is a word for a key in any case, after at most one sign and between white space. -/
def IsSortClause (s : String) : Prop :=
  ∃ (key : SortKey) (sign word : List Char), trim s.toList = sign ++ word ∧
    sign ∈ [[], ['+'], ['-']] ∧ (String.ofList word).toLower = key.word

/-- No word for a key starts with a sign. -/
lemma SortKey.ne_sign_of_toLower {key : SortKey} {c : Char} {cs : List Char}
    (h : (String.ofList (c :: cs)).toLower = key.word) : c ≠ '-' ∧ c ≠ '+' := by
  have hlower : (String.ofList (c :: cs)).toLower.toList = c.toLower :: cs.map Char.toLower := by
    have hmap :
        (String.ofList (c :: cs)).toLower = (String.ofList (c :: cs)).map Char.toLower := rfl
    rw [hmap, String.toList_map, String.toList_ofList, List.map_cons]
  have hhead : some c.toLower = key.word.toList.head? := by rw [← h, hlower, List.head?_cons]
  constructor
  · rintro rfl
    revert hhead
    cases key <;> decide
  · rintro rfl
    revert hhead
    cases key <;> decide

theorem SortClause.exists_parse_iff {s : String} :
    (∃ c, SortClause.parse s = .ok c) ↔ IsSortClause s := by
  rw [SortClause.parse]
  constructor
  · rintro ⟨c, hc⟩
    split at hc
    · rename_i cs htrim
      obtain ⟨key, hkey, _⟩ := map_eq_ok_iff.1 hc
      exact ⟨key, ['-'], cs, htrim, by simp, SortKey.parse_eq_ok_iff.1 hkey⟩
    · rename_i cs htrim
      obtain ⟨key, hkey, _⟩ := map_eq_ok_iff.1 hc
      exact ⟨key, ['+'], cs, htrim, by simp, SortKey.parse_eq_ok_iff.1 hkey⟩
    · obtain ⟨key, hkey, _⟩ := map_eq_ok_iff.1 hc
      exact ⟨key, [], _, rfl, by simp, SortKey.parse_eq_ok_iff.1 hkey⟩
  · rintro ⟨key, sign, word, htrim, hsign, hword⟩
    have hkey := SortKey.parse_eq_ok_iff.2 hword
    rw [htrim]
    simp only [List.mem_cons, List.not_mem_nil, or_false] at hsign
    rcases hsign with rfl | rfl | rfl
    · rw [List.nil_append]
      split
      · exact absurd rfl (SortKey.ne_sign_of_toLower hword).1
      · exact absurd rfl (SortKey.ne_sign_of_toLower hword).2
      · exact ⟨_, map_eq_ok_iff.2 ⟨key, hkey, rfl⟩⟩
    · exact ⟨_, map_eq_ok_iff.2 ⟨key, hkey, rfl⟩⟩
    · exact ⟨_, map_eq_ok_iff.2 ⟨key, hkey, rfl⟩⟩

namespace SortSpec

lemma ne_sortPanic_of_parse {text : String} {e : Error} (h : SortSpec.parse text = .error e) :
    e ≠ .sortPanic := by
  obtain ⟨clause, -, hclause⟩ := exists_mem_of_mapM_eq_error h
  have hkey : ∀ s, SortKey.parse s ≠ .error .sortPanic := by
    intro s hs
    rw [SortKey.parse] at hs
    split at hs <;> cases hs
  rintro rfl
  rw [SortClause.parse] at hclause
  split at hclause <;> exact hkey _ (map_eq_error_iff.1 hclause)

/-- The records as merging puts them in order. -/
def sorted (spec : SortSpec) (xs : List Record) : List Record :=
  xs.mergeSort fun a b => (spec.compare a b).isLE

variable {sorter : Sorter} {text : String} {spec : SortSpec} {xs ys : List Record}

lemma isStableSort_sorted (hcmp : PreorderOn (· ∈ xs) spec.compare) :
    IsStableSort spec.compare xs (spec.sorted xs) :=
  isStableSort_mergeSort hcmp

lemma sorted_eq (hcmp : PreorderOn (· ∈ xs) spec.compare) (hys : IsStableSort spec.compare xs ys) :
    spec.sorted xs = ys :=
  (isStableSort_sorted hcmp).unique hcmp hys

lemma sort_eq_ok (sorter : Sorter) (hcmp : PreorderOn (· ∈ xs) spec.compare) :
    spec.sort sorter xs = .ok (spec.sorted xs) := by
  rw [sort, sorter.sort?_of_preorderOn hcmp]
  rfl

lemma perm_of_sort (h : spec.sort sorter xs = .ok ys) : ys.Perm xs := by
  rw [sort] at h
  split at h
  · rename_i hsorted
    cases h
    exact sorter.perm_of_sort? hsorted
  · cases h

lemma eq_sortPanic_of_sort {e : Error} (h : spec.sort sorter xs = .error e) : e = .sortPanic := by
  rw [sort] at h
  split at h
  · cases h
  · exact (Except.error.inj h).symm

/-- A sort that does not panic has all the records. -/
lemma exists_sort_eq_ok (h : spec.sort sorter xs ≠ .error .sortPanic) :
    ∃ ys, spec.sort sorter xs = .ok ys ∧ ys.Perm xs := by
  rcases exists_ok_or_error (spec.sort sorter xs) with ⟨ys, hys⟩ | ⟨e, he⟩
  · exact ⟨ys, hys, perm_of_sort hys⟩
  · exact absurd (eq_sortPanic_of_sort he ▸ he) h

lemma sortBy_eq_sort (sorter : Sorter) (hspec : SortSpec.parse text = .ok spec)
    (xs : List Record) : sortBy sorter text xs = spec.sort sorter xs := by
  rw [sortBy, hspec]
  rfl

lemma sortBy_eq_ok (sorter : Sorter) (hspec : SortSpec.parse text = .ok spec)
    (hcmp : PreorderOn (· ∈ xs) spec.compare) : sortBy sorter text xs = .ok (spec.sorted xs) := by
  rw [sortBy_eq_sort sorter hspec, sort_eq_ok sorter hcmp]

lemma sortBy_eq_error (sorter : Sorter) {e : Error} (h : SortSpec.parse text = .error e)
    (xs : List Record) : sortBy sorter text xs = .error e := by
  rw [sortBy, h, error_bind]

/-- Every error of a sort is one of its text, but for a panic. -/
lemma exists_sortBy_eq_error_iff :
    (∃ e, sortBy sorter text xs = .error e ∧ e ≠ .sortPanic) ↔
      ∃ e, SortSpec.parse text = .error e := by
  constructor
  · rintro ⟨e, he, hpanic⟩
    rcases bind_eq_error_iff.1 he with hparse | ⟨spec, -, hsort⟩
    · exact ⟨e, hparse⟩
    · exact absurd (eq_sortPanic_of_sort hsort) hpanic
  · rintro ⟨e, he⟩
    exact ⟨e, sortBy_eq_error sorter he xs, ne_sortPanic_of_parse he⟩

end SortSpec

/-- Sorting fails exactly on an unknown clause, whatever the records, unless the sort panics. -/
theorem sortBy_fails_iff (sorter : Sorter) (text : String) (xs : List Record) :
    (∃ e, sortBy sorter text xs = .error e ∧ e ≠ .sortPanic) ↔
      ∃ clause ∈ text.toList.splitOn ',', ¬IsSortClause (String.ofList clause) := by
  rw [SortSpec.exists_sortBy_eq_error_iff, SortSpec.parse, exists_mapM_eq_error_iff]
  refine exists_congr fun clause => and_congr_right fun _ => ?_
  rw [← SortClause.exists_parse_iff]
  rcases exists_ok_or_error (SortClause.parse (String.ofList clause)) with ⟨c, hc⟩ | ⟨e, he⟩
  · simp [hc]
  · simp [he]

end HostAddr
