import Mathlib.Tactic.Common

/-!
# Outcomes

How the outcome of a chain of steps, each of which may fail, depends on those of the steps. A loop
that goes on only as long as its step succeeds keeps whatever the step keeps.
-/

namespace HostAddr

variable {ε α β σ : Type}

@[simp] lemma ok_bind (a : α) (f : α → Except ε β) : (Except.ok a >>= f) = f a := rfl

@[simp] lemma error_bind (e : ε) (f : α → Except ε β) : (Except.error e >>= f) = .error e := rfl

lemma bind_eq_ok_iff {x : Except ε α} {f : α → Except ε β} {b : β} :
    x >>= f = .ok b ↔ ∃ a, x = .ok a ∧ f a = .ok b := by
  cases x <;> simp

lemma bind_eq_error_iff {x : Except ε α} {f : α → Except ε β} {e : ε} :
    x >>= f = .error e ↔ x = .error e ∨ ∃ a, x = .ok a ∧ f a = .error e := by
  cases x <;> simp

lemma map_eq_error_iff {x : Except ε α} {f : α → β} {e : ε} :
    x.map f = .error e ↔ x = .error e := by
  cases x <;> simp [Except.map]

lemma mapError_eq_ok_iff {δ : Type} {x : Except ε α} {f : ε → δ} {a : α} :
    x.mapError f = .ok a ↔ x = .ok a := by
  cases x <;> simp [Except.mapError]

lemma exists_of_mapError_eq_error {δ : Type} {x : Except ε α} {f : ε → δ} {d : δ}
    (h : x.mapError f = .error d) : ∃ e, f e = d := by
  cases x with
  | error e => exact ⟨e, Except.error.inj h⟩
  | ok a => cases h

lemma exists_ok_or_error (x : Except ε α) : (∃ a, x = .ok a) ∨ ∃ e, x = .error e := by
  cases x with
  | ok a => exact .inl ⟨a, rfl⟩
  | error e => exact .inr ⟨e, rfl⟩

lemma exists_eq_error_iff {x : Except ε α} : (∃ e, x = .error e) ↔ ∀ a, x ≠ .ok a := by
  cases x <;> simp

/-- A traversal fails with the error of one of its steps. -/
lemma exists_mem_of_mapM_eq_error {f : α → Except ε β} {as : List α} {e : ε}
    (h : as.mapM f = .error e) : ∃ a ∈ as, f a = .error e := by
  induction as with
  | nil => cases h
  | cons a as ih =>
    rw [List.mapM_cons] at h
    rcases bind_eq_error_iff.1 h with ha | ⟨b, _, hb⟩
    · exact ⟨a, List.mem_cons_self, ha⟩
    · rcases bind_eq_error_iff.1 hb with has | ⟨bs, _, hbs⟩
      · obtain ⟨c, hc, hce⟩ := ih has
        exact ⟨c, List.mem_cons_of_mem a hc, hce⟩
      · cases hbs

/-- A traversal fails exactly when one of its steps does. -/
theorem exists_mapM_eq_error_iff {f : α → Except ε β} {as : List α} :
    (∃ e, as.mapM f = .error e) ↔ ∃ a ∈ as, ∃ e, f a = .error e := by
  constructor
  · rintro ⟨e, he⟩
    obtain ⟨a, ha, hae⟩ := exists_mem_of_mapM_eq_error he
    exact ⟨a, ha, e, hae⟩
  · rintro ⟨a, ha, e, he⟩
    rw [exists_eq_error_iff]
    intro bs hbs
    induction as generalizing bs with
    | nil => cases ha
    | cons c as ih =>
      rw [List.mapM_cons] at hbs
      obtain ⟨b, hb, hbs⟩ := bind_eq_ok_iff.1 hbs
      obtain ⟨bs', hbs', -⟩ := bind_eq_ok_iff.1 hbs
      rcases List.mem_cons.1 ha with rfl | ha
      · cases he.symm.trans hb
      · exact ih ha bs' hbs'

lemma mapM_cons_eq_ok_iff {f : α → Except ε β} {a : α} {as : List α} {bs : List β} :
    (a :: as).mapM f = .ok bs ↔ ∃ b bs', f a = .ok b ∧ as.mapM f = .ok bs' ∧ b :: bs' = bs := by
  rw [List.mapM_cons, bind_eq_ok_iff]
  constructor
  · rintro ⟨b, hb, h⟩
    obtain ⟨bs', hbs, h⟩ := bind_eq_ok_iff.1 h
    exact ⟨b, bs', hb, hbs, Except.ok.inj h⟩
  · rintro ⟨b, bs', hb, hbs, rfl⟩
    exact ⟨b, hb, bind_eq_ok_iff.2 ⟨bs', hbs, rfl⟩⟩

lemma mapM_append_eq_ok_iff {f : α → Except ε β} {as as' : List α} {bs : List β} :
    (as ++ as').mapM f = .ok bs ↔
      ∃ cs cs', as.mapM f = .ok cs ∧ as'.mapM f = .ok cs' ∧ cs ++ cs' = bs := by
  rw [List.mapM_append, bind_eq_ok_iff]
  constructor
  · rintro ⟨cs, hcs, h⟩
    obtain ⟨cs', hcs', h⟩ := bind_eq_ok_iff.1 h
    exact ⟨cs, cs', hcs, hcs', Except.ok.inj h⟩
  · rintro ⟨cs, cs', hcs, hcs', rfl⟩
    exact ⟨cs, hcs, bind_eq_ok_iff.2 ⟨cs', hcs', rfl⟩⟩

/-- A traversal that succeeds has made each of its steps. -/
theorem mapM_eq_ok_iff {f : α → Except ε β} {as : List α} {bs : List β} :
    as.mapM f = .ok bs ↔ List.Forall₂ (fun a b => f a = .ok b) as bs := by
  induction as generalizing bs with
  | nil =>
    constructor
    · rintro ⟨⟩
      exact .nil
    · rintro ⟨⟩
      rfl
  | cons a as ih =>
    rw [mapM_cons_eq_ok_iff]
    constructor
    · rintro ⟨b, bs', hb, hbs, rfl⟩
      exact .cons hb (ih.1 hbs)
    · rintro (_ | ⟨hb, hbs⟩)
      exact ⟨_, _, hb, ih.2 hbs, rfl⟩

/-- A traversal of changed elements has the changed values, where each step does. -/
lemma mapM_map_eq_map_mapM {γ δ : Type} {f : α → Except ε β} {g : γ → Except ε δ} {u : α → γ}
    {v : β → δ} (h : ∀ a, g (u a) = (f a).map v) (as : List α) :
    (as.map u).mapM g = (as.mapM f).map (List.map v) := by
  induction as with
  | nil => rfl
  | cons a as ih =>
    rw [List.map_cons, List.mapM_cons, List.mapM_cons, ih, h]
    cases f a with
    | error e => rfl
    | ok b => cases as.mapM f <;> rfl

/-- What every successful step keeps, a run of steps keeps. -/
theorem foldlM_preserves {step : σ → α → Except ε σ} (P : σ → Prop)
    (hstep : ∀ s a s', P s → step s a = .ok s' → P s') {as : List α} {s s' : σ} (hs : P s)
    (h : as.foldlM step s = .ok s') : P s' := by
  induction as generalizing s with
  | nil =>
    cases h
    exact hs
  | cons a as ih =>
    rw [List.foldlM_cons, bind_eq_ok_iff] at h
    obtain ⟨t, ht, h⟩ := h
    exact ih (hstep s a t hs ht) h

/-- What every successful step adds to a record of the run, in turn. -/
theorem foldlM_appends {step : σ → α → Except ε σ} (record : σ → List β) (adds : α → List β)
    (hstep : ∀ s a s', step s a = .ok s' → record s' = record s ++ adds a) {as : List α}
    {s s' : σ} (h : as.foldlM step s = .ok s') : record s' = record s ++ as.flatMap adds := by
  induction as generalizing s with
  | nil =>
    cases h
    simp
  | cons a as ih =>
    rw [List.foldlM_cons, bind_eq_ok_iff] at h
    obtain ⟨t, ht, h⟩ := h
    rw [ih h, hstep s a t ht, List.flatMap_cons, List.append_assoc]

/-- Where the first computation has a value, the second has one too, and `R` relates the two. -/
def Carries (R : α → β → Prop) (r : Except ε α) (r' : Except ε β) : Prop :=
  ∀ a, r = .ok a → ∃ b, r' = .ok b ∧ R a b

namespace Carries

variable {γ δ : Type} {R : α → β → Prop} {S : γ → δ → Prop} {r : Except ε α} {r' : Except ε β}

lemma refl (r : Except ε α) : Carries (· = ·) r r :=
  fun a ha => ⟨a, ha, rfl⟩

lemma ok {a : α} {b : β} (h : R a b) : Carries R (.ok a : Except ε α) (.ok b) := by
  intro a' ha'
  cases ha'
  exact ⟨b, rfl, h⟩

lemma bind {f : α → Except ε γ} {g : β → Except ε δ} (h : Carries R r r')
    (hfg : ∀ a b, R a b → Carries S (f a) (g b)) : Carries S (r >>= f) (r' >>= g) := by
  intro c hc
  obtain ⟨a, ha, hfa⟩ := bind_eq_ok_iff.1 hc
  obtain ⟨b, rfl, hab⟩ := h a ha
  exact hfg a b hab c hfa

lemma map {f : α → γ} {g : β → δ} (h : Carries R r r') (hfg : ∀ a b, R a b → S (f a) (g b)) :
    Carries S (r.map f) (r'.map g) := by
  intro c hc
  cases r with
  | error e => cases hc
  | ok a =>
    cases hc
    obtain ⟨b, rfl, hab⟩ := h a rfl
    exact ⟨g b, rfl, hfg a b hab⟩

/-- A loop carries what each round of it carries. -/
theorem foldlM {σ τ : Type} {I : σ → τ → Prop} {step : σ → α → Except ε σ}
    {step' : τ → α → Except ε τ} (hstep : ∀ s t a, I s t → Carries I (step s a) (step' t a))
    (as : List α) {s : σ} {t : τ} (hst : I s t) :
    Carries I (as.foldlM step s) (as.foldlM step' t) := by
  induction as generalizing s t with
  | nil => exact .ok hst
  | cons a as ih =>
    rw [List.foldlM_cons, List.foldlM_cons]
    exact (hstep s t a hst).bind fun s' t' hst' => ih hst'

end Carries

end HostAddr
