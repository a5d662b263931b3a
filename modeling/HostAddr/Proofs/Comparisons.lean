import HostAddr.Proofs.Outcome
import HostAddr.Template.Apply

/-!
# Comparisons

Six functions of templates hold values against each other. All of them go back to one comparison of
two values of one kind, which is a linear order on numbers and on strings, so that no two of them
contradict each other. `eq` holds one value against several and lets none of them go unchecked.
-/

namespace HostAddr

namespace Value

/-- Both values are numbers, or both are strings. -/
def Comparable (a b : Value) : Prop :=
  a.kind = .int ∧ b.kind = .int ∨ a.kind = .str ∧ b.kind = .str

variable {equality : Bool} {a b c : Value} {o : Ordering}

/-- Which values have a comparison. -/
theorem compareWith_eq_ok (h : compareWith equality a b = .ok o) :
    (∃ m n : Int, a = .int m ∧ b = .int n ∧ o = compare m n) ∨
    (∃ s t : String, a = .str s ∧ b = .str t ∧ o = compare s t) ∨
    (equality = true ∧ ∃ p q : Bool, a = .bool p ∧ b = .bool q ∧ o = compare p.toNat q.toNat) ∨
    (equality = true ∧ a = .nil ∧ b = .nil ∧ o = .eq) := by
  unfold compareWith at h
  split at h
  case h_1 m n => exact .inl ⟨m, n, rfl, rfl, (Except.ok.inj h).symm⟩
  case h_2 s t => exact .inr (.inl ⟨s, t, rfl, rfl, (Except.ok.inj h).symm⟩)
  case h_3 p q =>
    split at h
    · rename_i hequality
      exact .inr (.inr (.inl ⟨hequality, p, q, rfl, rfl, (Except.ok.inj h).symm⟩))
    · cases h
  case h_4 =>
    split at h
    · rename_i hequality
      exact .inr (.inr (.inr ⟨hequality, rfl, rfl, (Except.ok.inj h).symm⟩))
    · cases h
  case h_5 => cases h

/-- Only numbers and strings have an order. -/
lemma compareWith_false_eq_ok (h : compareWith false a b = .ok o) :
    (∃ m n : Int, a = .int m ∧ b = .int n ∧ o = compare m n) ∨
    ∃ s t : String, a = .str s ∧ b = .str t ∧ o = compare s t := by
  rcases compareWith_eq_ok h with hint | hstr | ⟨hfalse, -⟩ | ⟨hfalse, -⟩
  · exact .inl hint
  · exact .inr hstr
  · cases hfalse
  · cases hfalse

lemma exists_compareWith_iff : (∃ o, compareWith false a b = .ok o) ↔ a.Comparable b := by
  constructor
  · rintro ⟨o, h⟩
    rcases compareWith_false_eq_ok h with ⟨m, n, rfl, rfl, -⟩ | ⟨s, t, rfl, rfl, -⟩
    · exact .inl ⟨rfl, rfl⟩
    · exact .inr ⟨rfl, rfl⟩
  · intro h
    cases a <;> cases b <;> simp_all [compareWith, Comparable, kind]

/-- What has an order can also be held equal, by the same comparison. -/
lemma compareWith_true_of_false (h : compareWith false a b = .ok o) :
    compareWith true a b = .ok o := by
  rcases compareWith_false_eq_ok h with ⟨m, n, rfl, rfl, rfl⟩ | ⟨s, t, rfl, rfl, rfl⟩
  · rfl
  · rfl

/-- A comparison turns round with its operands. -/
lemma compareWith_swap (h : compareWith equality a b = .ok o) :
    compareWith equality b a = .ok o.swap := by
  rcases compareWith_eq_ok h with ⟨m, n, rfl, rfl, rfl⟩ | ⟨s, t, rfl, rfl, rfl⟩ |
    ⟨rfl, p, q, rfl, rfl, rfl⟩ | ⟨rfl, rfl, rfl, rfl⟩
  · rw [← Std.OrientedOrd.eq_swap]
    rfl
  · rw [← Std.OrientedOrd.eq_swap]
    rfl
  · rw [← Std.OrientedOrd.eq_swap]
    rfl
  · rfl

lemma compareWith_trans (hab : compareWith false a b = .ok .lt)
    (hbc : compareWith false b c = .ok .lt) : compareWith false a c = .ok .lt := by
  rcases compareWith_false_eq_ok hab with ⟨m, n, rfl, rfl, hmn⟩ | ⟨s, t, rfl, rfl, hst⟩
  · rcases compareWith_false_eq_ok hbc with ⟨_, k, hn, rfl, hnk⟩ | ⟨_, _, hn, -⟩
    · cases hn
      exact congrArg Except.ok (Std.TransCmp.lt_trans hmn.symm hnk.symm)
    · cases hn
  · rcases compareWith_false_eq_ok hbc with ⟨_, _, ht, -⟩ | ⟨_, u, ht, rfl, htu⟩
    · cases ht
    · cases ht
      exact congrArg Except.ok (Std.TransCmp.lt_trans hst.symm htu.symm)

end Value

namespace Function

variable (h : Host)

/-- A call whose value is yes or no. -/
def Answers (f : Function) (vs : List Value) (answer : Bool) : Prop :=
  f.apply h vs = .ok (.bool answer)

def Succeeds (f : Function) (vs : List Value) : Prop :=
  ∃ v, f.apply h vs = .ok v

variable {h} {f : Function} {test : Ordering → Bool} {a b c : Value} {bs vs : List Value}
  {t : Bool}

lemma Answers.succeeds (hf : f.Answers h vs t) : f.Succeeds h vs :=
  ⟨_, hf⟩

lemma Answers.unique {u : Bool} (ht : f.Answers h vs t) (hu : f.Answers h vs u) : t = u := by
  cases ht.symm.trans hu
  rfl

/-- An order test holds two values against each other. -/
lemma orderTest_pair (f : Function) (test : Ordering → Bool) (a b : Value) :
    f.orderTest test [a, b] = (Value.compareWith false a b).map fun o => .bool (test o) :=
  rfl

lemma answers_of_orderTest (hf : f.apply h [a, b] = f.orderTest test [a, b]) :
    f.Answers h [a, b] t ↔ ∃ o, Value.compareWith false a b = .ok o ∧ test o = t := by
  simp only [Answers, hf, orderTest_pair, map_eq_ok_iff, Value.bool.injEq]

lemma succeeds_of_orderTest (hf : f.apply h [a, b] = f.orderTest test [a, b]) :
    f.Succeeds h [a, b] ↔ a.Comparable b := by
  rw [← Value.exists_compareWith_iff]
  simp only [Succeeds, hf, orderTest_pair, map_eq_ok_iff]
  constructor
  · rintro ⟨v, o, ho, -⟩
    exact ⟨o, ho⟩
  · rintro ⟨o, ho⟩
    exact ⟨_, o, ho, rfl⟩

lemma exists_answers_of_orderTest (hf : f.apply h vs = f.orderTest test vs) {v : Value}
    (hv : f.apply h vs = .ok v) : ∃ t, f.Answers h vs t := by
  obtain ⟨r, -, hr⟩ := bind_eq_ok_iff.1 (hf.symm.trans hv)
  obtain ⟨o, -, ho⟩ := bind_eq_ok_iff.1 hr
  cases ho
  exact ⟨test o, hv⟩

lemma isEqual_eq_ok_iff :
    a.isEqual b = .ok t ↔ ∃ o, Value.compareWith true a b = .ok o ∧ (o == .eq) = t :=
  map_eq_ok_iff

/-- Several values give as many answers, any of which may be the yes. -/
lemma equalsAny_eq_ok_iff :
    a.equalsAny bs = .ok t ↔ ∃ ts, List.Forall₂ (fun b t => a.isEqual b = .ok t) bs ts ∧
      ts.any id = t := by
  rw [Value.equalsAny, map_eq_ok_iff]
  simp only [mapM_eq_ok_iff]

lemma apply_eq_of_ne_nil (hbs : bs ≠ []) : eq.apply h (a :: bs) = (a.equalsAny bs).map .bool := by
  obtain ⟨b, bs, rfl⟩ := List.exists_cons_of_ne_nil hbs
  rfl

lemma answers_eq_of_ne_nil (hbs : bs ≠ []) :
    eq.Answers h (a :: bs) t ↔ a.equalsAny bs = .ok t := by
  rw [Answers, apply_eq_of_ne_nil hbs, map_eq_ok_iff]
  simp

lemma answers_eq_pair :
    eq.Answers h [a, b] t ↔ ∃ o, Value.compareWith true a b = .ok o ∧ (o == .eq) = t := by
  rw [answers_eq_of_ne_nil (List.cons_ne_nil b []), equalsAny_eq_ok_iff, ← isEqual_eq_ok_iff]
  constructor
  · rintro ⟨ts, hts, rfl⟩
    cases hts with
    | cons ht hrest =>
      cases hrest
      simpa using ht
  · intro ht
    exact ⟨[t], .cons ht .nil, by simp⟩

lemma answers_ne_pair :
    ne.Answers h [a, b] t ↔ ∃ o, Value.compareWith true a b = .ok o ∧ (o != .eq) = t := by
  have hne : ne.apply h [a, b] =
      (Value.compareWith true a b).map fun o => .bool (o != .eq) := by
    rw [apply]
    show (a.isEqual b).map _ = _
    rw [Value.isEqual]
    cases Value.compareWith true a b <;> rfl
  simp only [Answers, hne, map_eq_ok_iff, Value.bool.injEq]

/-- What a comparison succeeds with is an answer. -/
lemma Succeeds.exists_answers (hf : f ∈ [eq, ne, lt, le, gt, ge]) (hsucceeds : f.Succeeds h vs) :
    ∃ t, f.Answers h vs t := by
  obtain ⟨v, hv⟩ := hsucceeds
  simp only [List.mem_cons, List.not_mem_nil, or_false] at hf
  rcases hf with rfl | rfl | rfl | rfl | rfl | rfl
  · match vs, hv with
    | a :: b :: rest, hv =>
      obtain ⟨t, -, rfl⟩ := map_eq_ok_iff.1 hv
      exact ⟨t, hv⟩
  · obtain ⟨r, -, hr⟩ := bind_eq_ok_iff.1 hv
    obtain ⟨t, -, rfl⟩ := map_eq_ok_iff.1 hr
    exact ⟨!t, hv⟩
  · exact exists_answers_of_orderTest rfl hv
  · exact exists_answers_of_orderTest rfl hv
  · exact exists_answers_of_orderTest rfl hv
  · exact exists_answers_of_orderTest rfl hv

/-- Equality does not ask for the order of its operands. -/
lemma answers_eq_symm (h : Host) (a b : Value) (t : Bool) :
    eq.Answers h [a, b] t ↔ eq.Answers h [b, a] t := by
  have hswap (a b : Value) (hab : eq.Answers h [a, b] t) : eq.Answers h [b, a] t := by
    obtain ⟨o, ho, rfl⟩ := answers_eq_pair.1 hab
    refine answers_eq_pair.2 ⟨o.swap, Value.compareWith_swap ho, ?_⟩
    cases o <;> rfl
  exact ⟨hswap a b, hswap b a⟩

lemma answers_ne_iff (h : Host) (a b : Value) (t : Bool) :
    ne.Answers h [a, b] t ↔ eq.Answers h [a, b] !t := by
  rw [answers_ne_pair, answers_eq_pair]
  apply exists_congr
  intro o
  rw [bne, Bool.not_eq_eq_eq_not]

/-- Values that have an order are less, equal or greater. -/
lemma exists_order (hab : a.Comparable b) : ∃ l e g : Bool,
    [l, e, g].count true = 1 ∧ lt.Answers h [a, b] l ∧ eq.Answers h [a, b] e ∧
    gt.Answers h [a, b] g ∧ le.Answers h [a, b] (l || e) ∧ ge.Answers h [a, b] (g || e) := by
  obtain ⟨o, ho⟩ := Value.exists_compareWith_iff.2 hab
  refine ⟨o.isLT, o == .eq, o.isGT, ?_, ?_, ?_, ?_, ?_, ?_⟩
  · cases o <;> rfl
  · exact (answers_of_orderTest rfl).2 ⟨o, ho, rfl⟩
  · exact answers_eq_pair.2 ⟨o, Value.compareWith_true_of_false ho, rfl⟩
  · exact (answers_of_orderTest rfl).2 ⟨o, ho, rfl⟩
  · refine (answers_of_orderTest rfl).2 ⟨o, ho, ?_⟩
    cases o <;> rfl
  · refine (answers_of_orderTest rfl).2 ⟨o, ho, ?_⟩
    cases o <;> rfl

lemma answers_gt_iff (h : Host) (a b : Value) (t : Bool) :
    gt.Answers h [a, b] t ↔ lt.Answers h [b, a] t := by
  rw [answers_of_orderTest rfl, answers_of_orderTest rfl]
  constructor
  · rintro ⟨o, ho, rfl⟩
    exact ⟨o.swap, Value.compareWith_swap ho, by cases o <;> rfl⟩
  · rintro ⟨o, ho, rfl⟩
    exact ⟨o.swap, Value.compareWith_swap ho, by cases o <;> rfl⟩

lemma answers_lt_true_iff :
    lt.Answers h [a, b] true ↔ Value.compareWith false a b = .ok .lt := by
  rw [answers_of_orderTest rfl]
  constructor
  · rintro ⟨o, ho, hlt⟩
    rwa [Ordering.isLT_iff_eq_lt.1 hlt] at ho
  · intro hlt
    exact ⟨.lt, hlt, rfl⟩

lemma answers_lt_trans (hab : lt.Answers h [a, b] true) (hbc : lt.Answers h [b, c] true) :
    lt.Answers h [a, c] true :=
  answers_lt_true_iff.2
    (Value.compareWith_trans (answers_lt_true_iff.1 hab) (answers_lt_true_iff.1 hbc))

/-- `eq` has an answer for several values if it has one for each, and then says yes if it does so
for any of them. -/
lemma answers_eq_iff_forall₂ (hbs : bs ≠ []) :
    eq.Answers h (a :: bs) t ↔
      ∃ ts, List.Forall₂ (fun b t => eq.Answers h [a, b] t) bs ts ∧ ts.any id = t := by
  simp only [answers_eq_of_ne_nil hbs, equalsAny_eq_ok_iff, answers_eq_pair, isEqual_eq_ok_iff]

lemma exists_forall₂_answers_iff :
    (∃ ts, List.Forall₂ (fun b t => eq.Answers h [a, b] t) bs ts) ↔
      ∀ b ∈ bs, eq.Succeeds h [a, b] := by
  induction bs with
  | nil => exact iff_of_true ⟨[], .nil⟩ (by simp)
  | cons b bs ih =>
    rw [List.forall_mem_cons, ← ih]
    constructor
    · rintro ⟨_, hts⟩
      cases hts with
      | cons ht hts => exact ⟨ht.succeeds, _, hts⟩
    · rintro ⟨hb, ts, hts⟩
      obtain ⟨t, ht⟩ := hb.exists_answers (by simp)
      exact ⟨t :: ts, .cons ht hts⟩

lemma any_answers_iff {ts : List Bool}
    (hts : List.Forall₂ (fun b t => eq.Answers h [a, b] t) bs ts) :
    ts.any id = true ↔ ∃ b ∈ bs, eq.Answers h [a, b] true := by
  induction hts with
  | nil => simp
  | @cons b t bs ts ht _ ih =>
    have hb : t = true ↔ eq.Answers h [a, b] true := by
      constructor
      · rintro rfl
        exact ht
      · exact ht.unique
    rw [List.any_cons, Bool.or_eq_true, ih, id_eq, hb]
    simp only [List.mem_cons, exists_eq_or_imp]

lemma succeeds_eq_iff (hbs : bs ≠ []) :
    eq.Succeeds h (a :: bs) ↔ ∀ b ∈ bs, eq.Succeeds h [a, b] := by
  rw [← exists_forall₂_answers_iff]
  constructor
  · intro hsucceeds
    obtain ⟨t, ht⟩ := hsucceeds.exists_answers (by simp)
    obtain ⟨ts, hts, -⟩ := (answers_eq_iff_forall₂ hbs).1 ht
    exact ⟨ts, hts⟩
  · rintro ⟨ts, hts⟩
    exact ((answers_eq_iff_forall₂ hbs).2 ⟨ts, hts, rfl⟩).succeeds

lemma Answers.eq_true_iff (hbs : bs ≠ []) (ht : eq.Answers h (a :: bs) t) :
    t = true ↔ ∃ b ∈ bs, eq.Answers h [a, b] true := by
  obtain ⟨ts, hts, rfl⟩ := (answers_eq_iff_forall₂ hbs).1 ht
  exact any_answers_iff hts

end Function

/-- What the answers of the comparisons have to do with each other. -/
structure ComparisonLaws (h : Host) : Prop where
  /-- A comparison that does not fail says yes or no. -/
  exists_answers : ∀ f ∈ [Function.eq, .ne, .lt, .le, .gt, .ge], ∀ vs, f.Succeeds h vs →
    ∃ t, f.Answers h vs t
  eq_symm : ∀ a b t, Function.eq.Answers h [a, b] t ↔ Function.eq.Answers h [b, a] t
  ne_iff : ∀ a b t, Function.ne.Answers h [a, b] t ↔ Function.eq.Answers h [a, b] !t
  /-- Numbers and strings are ordered among themselves, and nothing else is. -/
  succeeds_iff : ∀ f ∈ [Function.lt, .le, .gt, .ge], ∀ a b,
    f.Succeeds h [a, b] ↔ a.Comparable b
  exists_order : ∀ a b : Value, a.Comparable b → ∃ l e g : Bool, [l, e, g].count true = 1 ∧
    Function.lt.Answers h [a, b] l ∧ Function.eq.Answers h [a, b] e ∧
    Function.gt.Answers h [a, b] g ∧ Function.le.Answers h [a, b] (l || e) ∧
    Function.ge.Answers h [a, b] (g || e)
  gt_iff : ∀ a b t, Function.gt.Answers h [a, b] t ↔ Function.lt.Answers h [b, a] t
  lt_trans : ∀ a b c, Function.lt.Answers h [a, b] true → Function.lt.Answers h [b, c] true →
    Function.lt.Answers h [a, c] true
  /-- No operand of `eq` goes unchecked, wherever an equal one stands. -/
  eq_succeeds_iff : ∀ a bs, bs ≠ [] →
    (Function.eq.Succeeds h (a :: bs) ↔ ∀ b ∈ bs, Function.eq.Succeeds h [a, b])
  eq_true_iff : ∀ a bs t, bs ≠ [] → Function.eq.Answers h (a :: bs) t →
    (t = true ↔ ∃ b ∈ bs, Function.eq.Answers h [a, b] true)

theorem comparisonLaws (h : Host) : ComparisonLaws h where
  exists_answers _ hf _ := Function.Succeeds.exists_answers hf
  eq_symm := Function.answers_eq_symm h
  ne_iff := Function.answers_ne_iff h
  succeeds_iff f hf a b := by
    simp only [List.mem_cons, List.not_mem_nil, or_false] at hf
    rcases hf with rfl | rfl | rfl | rfl
    · exact Function.succeeds_of_orderTest rfl
    · exact Function.succeeds_of_orderTest rfl
    · exact Function.succeeds_of_orderTest rfl
    · exact Function.succeeds_of_orderTest rfl
  exists_order _ _ := Function.exists_order
  gt_iff := Function.answers_gt_iff h
  lt_trans _ _ _ := Function.answers_lt_trans
  eq_succeeds_iff _ _ := Function.succeeds_eq_iff
  eq_true_iff _ _ _ := Function.Answers.eq_true_iff

/-- A string after the number that is equal is not overlooked. -/
example (h : Host) : ¬Function.eq.Succeeds h [.int 1, .int 1, .str "1"] := by
  rintro ⟨v, hv⟩
  cases hv

end HostAddr
