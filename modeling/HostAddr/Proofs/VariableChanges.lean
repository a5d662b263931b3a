import HostAddr.Proofs.VariableRuns

/-!
# Changes to variables

What a run may do to the variables: it declares new ones, and it gives other values to some of
those that were there, which keep their names and their places. An assignment sees only the latest
variable of its name, so a change composed of two leaves alone what the first has hidden.
-/

namespace HostAddr

namespace Vars

lemma get_cons (x y : String) (v : Value) (vars : Vars) :
    Vars.get ((y, v) :: vars) x = if x = y then .ok v else vars.get x := by
  by_cases h : x = y
  · simp [get, h]
  · have hbeq : (x == y) = false := by simpa using h
    simp [get, List.lookup_cons, h, hbeq]

/-- Variables that are newer and have other names are looked through. -/
lemma get_append {own : Vars} {x : String} (h : x ∉ own.names) (vars : Vars) :
    Vars.get (own ++ vars) x = vars.get x := by
  induction own with
  | nil => rfl
  | cons entry own ih =>
    obtain ⟨y, v⟩ := entry
    simp only [names_cons, List.mem_cons, not_or] at h
    rw [List.cons_append, get_cons, if_neg h.1, ih h.2]

lemma get_append_of_mem {own : Vars} {x : String} (h : x ∈ own.names) (vars : Vars) :
    Vars.get (own ++ vars) x = own.get x := by
  induction own with
  | nil => simp [names] at h
  | cons entry own ih =>
    obtain ⟨y, v⟩ := entry
    rw [List.cons_append, get_cons, get_cons]
    split
    · rfl
    · rename_i hxy
      exact ih (by simpa [hxy] using h)

lemma assign_append {own : Vars} {x : String} (h : x ∉ own.names) (v : Value) (vars : Vars) :
    Vars.assign x v (own ++ vars) = (vars.assign x v).map (own ++ ·) := by
  induction own with
  | nil =>
    rw [List.nil_append]
    cases vars.assign x v <;> rfl
  | cons entry own ih =>
    obtain ⟨y, w⟩ := entry
    simp only [names_cons, List.mem_cons, not_or] at h
    rw [List.cons_append, assign, if_neg (Ne.symm h.1), ih h.2]
    cases vars.assign x v <;> rfl

lemma assign_append_of_mem {own : Vars} {x : String} (h : x ∈ own.names) (v : Value)
    (vars : Vars) : Vars.assign x v (own ++ vars) = (own.assign x v).map (· ++ vars) := by
  induction own with
  | nil => simp [names] at h
  | cons entry own ih =>
    obtain ⟨y, w⟩ := entry
    rw [List.cons_append, assign, assign]
    split
    · rfl
    · rename_i hyx
      rw [ih (by simpa [Ne.symm hyx] using h)]
      cases Vars.assign x v own <;> rfl

lemma mem_names_of_get {vars : Vars} {x : String} {v : Value} (h : vars.get x = .ok v) :
    x ∈ vars.names := by
  by_contra hx
  cases (get_of_not_mem hx).symm.trans h

lemma mem_names_of_assign {vars vars' : Vars} {x : String} {v : Value}
    (h : vars.assign x v = .ok vars') : x ∈ vars.names := by
  by_contra hx
  cases (assign_of_not_mem v hx).symm.trans h

lemma names_append (own vars : Vars) : names (own ++ vars) = own.names ++ vars.names :=
  List.map_append

/-- The same variables in the same order. One may have another value only if its name satisfies
`p` and no newer one has its name. -/
inductive Assigned : (String → Prop) → Vars → Vars → Prop
  | nil {p : String → Prop} : Assigned p [] []
  | cons {p : String → Prop} {x : String} {v w : Value} {before after : Vars} :
    p x ∨ v = w → Assigned (fun y => p y ∧ y ≠ x) before after →
      Assigned p ((x, v) :: before) ((x, w) :: after)

namespace Assigned

variable {p q : String → Prop} {x : String} {a b c : Vars}

lemma refl (p : String → Prop) (a : Vars) : Assigned p a a := by
  induction a generalizing p with
  | nil => exact .nil
  | cons entry a ih => exact .cons (.inr rfl) (ih _)

lemma mono (h : Assigned p a b) (hpq : ∀ x, p x → q x) : Assigned q a b := by
  induction h generalizing q with
  | nil => exact .nil
  | cons hv _ ih => exact .cons (hv.imp_left (hpq _)) (ih fun y hy => ⟨hpq y hy.1, hy.2⟩)

lemma trans (h : Assigned p a b) (h' : Assigned p b c) : Assigned p a c := by
  induction h generalizing c with
  | nil => exact h'
  | cons hv _ ih =>
    cases h' with
    | cons hw htail =>
      refine .cons ?_ (ih htail)
      rcases hv with hp | rfl
      · exact .inl hp
      · exact hw

lemma names_eq (h : Assigned p a b) : b.names = a.names := by
  induction h with
  | nil => rfl
  | cons _ _ ih => rw [names_cons, names_cons, ih]

lemma length_eq (h : Assigned p a b) : b.length = a.length := by
  have := congrArg List.length h.names_eq
  simpa [names] using this

/-- What may not be assigned to keeps its value. -/
lemma get_eq (h : Assigned p a b) (hx : ¬p x) : b.get x = a.get x := by
  induction h with
  | nil => rfl
  | @cons p y v w before after hv _ ih =>
    rw [get_cons, get_cons]
    split
    · rename_i hxy
      obtain rfl : v = w := hv.resolve_left (hxy ▸ hx)
      rfl
    · exact ih fun hy => hx hy.1

/-- Newer variables hide older ones of their names. -/
lemma of_append {own : Vars} (h : Assigned p (own ++ a) b) :
    ∃ own' older, b = own' ++ older ∧ own'.names = own.names ∧
      Assigned (fun x => p x ∧ x ∉ own.names) a older := by
  induction own generalizing p b with
  | nil => exact ⟨[], b, rfl, rfl, h.mono fun x hx => ⟨hx, List.not_mem_nil⟩⟩
  | cons entry own ih =>
    cases h with
    | @cons _ y v w _ after _ htail =>
      obtain ⟨own', older, rfl, hnames, holder⟩ := ih htail
      refine ⟨(y, w) :: own', older, rfl, by rw [names_cons, names_cons, hnames], ?_⟩
      refine holder.mono fun x ⟨⟨hp, hne⟩, hx⟩ => ⟨hp, ?_⟩
      rw [names_cons, List.mem_cons, not_or]
      exact ⟨hne, hx⟩

lemma of_assign {v : Value} (h : a.assign x v = .ok b) : Assigned (· = x) a b := by
  induction a generalizing b with
  | nil => cases h
  | cons entry a ih =>
    obtain ⟨y, w⟩ := entry
    rw [assign] at h
    split at h
    · rename_i hyx
      cases h
      subst hyx
      exact .cons (.inl rfl) (refl _ _)
    · rename_i hyx
      obtain ⟨b', hb', rfl⟩ := map_eq_ok_iff.1 h
      exact .cons (.inr rfl) ((ih hb').mono fun z hz => ⟨hz, by rintro rfl; exact hyx hz⟩)

end Assigned

/-- The variables of before, of which those that satisfy `p` may have been assigned to, and newer
ones called `declared` in turn. -/
def Grown (declared : List String) (p : String → Prop) (before after : Vars) : Prop :=
  ∃ own older, after = own ++ older ∧ own.names = declared.reverse ∧ Assigned p before older

lemma Assigned.grown {p : String → Prop} {a b : Vars} (h : Assigned p a b) : Grown [] p a b :=
  ⟨[], b, rfl, rfl, h⟩

namespace Grown

variable {xs ys : List String} {p q : String → Prop} {x : String} {a b c : Vars}

lemma refl (p : String → Prop) (a : Vars) : Grown [] p a a :=
  (Assigned.refl p a).grown

lemma mono (h : Grown xs p a b) (hpq : ∀ x, p x → q x) : Grown xs q a b := by
  obtain ⟨own, older, hb, hnames, holder⟩ := h
  exact ⟨own, older, hb, hnames, holder.mono hpq⟩

/-- What the first change has declared hides older variables from the second. -/
lemma trans (h : Grown xs p a b) (h' : Grown ys q b c) :
    Grown (xs ++ ys) (fun x => p x ∨ q x ∧ x ∉ xs) a c := by
  obtain ⟨own, older, rfl, hnames, holder⟩ := h
  obtain ⟨own₂, older₂, rfl, hnames₂, holder₂⟩ := h'
  obtain ⟨own', older', rfl, hnames', holder'⟩ := holder₂.of_append
  refine ⟨own₂ ++ own', older', (List.append_assoc ..).symm, ?_, ?_⟩
  · rw [names_append, hnames₂, hnames', hnames, List.reverse_append]
  · refine (holder.mono fun x hx => .inl hx).trans (holder'.mono fun x hx => .inr ⟨hx.1, ?_⟩)
    simpa [hnames] using hx.2

/-- The end of a block forgets what has been declared in it. -/
lemma keep (h : Grown xs p a b) : Assigned p a (b.keep a.length) := by
  obtain ⟨own, older, rfl, -, holder⟩ := h
  have hlength : (own ++ older).length - a.length = own.length := by
    rw [List.length_append, holder.length_eq, Nat.add_sub_cancel]
  rwa [Vars.keep, hlength, List.drop_left]

/-- What is neither declared nor assigned to keeps its value. -/
lemma get_eq (h : Grown xs p a b) (hxs : x ∉ xs) (hp : ¬p x) : b.get x = a.get x := by
  obtain ⟨own, older, rfl, hnames, holder⟩ := h
  rw [get_append (by simpa [hnames] using hxs), holder.get_eq hp]

variable {assigns : Bool} {i v : Value}

lemma of_bind (h : a.bind assigns x v = .ok b) :
    Grown (if assigns then [] else [x]) (fun y => assigns = true ∧ y = x) a b := by
  cases assigns with
  | false =>
    cases h
    exact ⟨[(x, v)], a, rfl, rfl, .refl _ a⟩
  | true =>
    have hassign : a.assign x v = .ok b := h
    exact ((Assigned.of_assign hassign).mono fun y hy => ⟨rfl, hy⟩).grown

/-- One more binding by the same sign. -/
private lemma of_bind_cons
    (h : Grown (if assigns then [] else [x]) (fun y => assigns = true ∧ y = x) a b)
    (h' : Grown (if assigns then [] else xs) (fun y => assigns = true ∧ y ∈ xs) b c) :
    Grown (if assigns then [] else x :: xs) (fun y => assigns = true ∧ y ∈ x :: xs) a c := by
  have hall := (h.trans h').mono (q := fun y => assigns = true ∧ y ∈ x :: xs) fun y hy =>
    hy.elim (fun hx => ⟨hx.1, hx.2 ▸ List.mem_cons_self⟩)
      fun hxs => ⟨hxs.1.1, List.mem_cons_of_mem x hxs.1.2⟩
  cases assigns <;> exact hall

lemma of_bindAll (h : a.bindAll assigns v xs = .ok b) :
    Grown (if assigns then [] else xs) (fun y => assigns = true ∧ y ∈ xs) a b := by
  induction xs generalizing a with
  | nil =>
    cases h
    simpa using refl _ _
  | cons x xs ih =>
    obtain ⟨mid, hmid, h⟩ := bind_eq_ok_iff.1 h
    exact of_bind_cons (of_bind hmid) (ih h)

lemma of_bindRound (hlength : xs.length ≤ 2) (h : a.bindRound assigns xs i v = .ok b) :
    Grown (if assigns then [] else xs) (fun y => assigns = true ∧ y ∈ xs) a b := by
  match xs with
  | [] =>
    cases h
    simpa using refl _ _
  | [x] => exact of_bind_cons (of_bind h) (by simpa using refl _ _)
  | [x, y] =>
    obtain ⟨mid, hmid, h⟩ := bind_eq_ok_iff.1 h
    exact of_bind_cons (of_bind hmid) (of_bind_cons (of_bind h) (by simpa using refl _ _))
  | x :: y :: z :: xs => simp at hlength

end Grown

end Vars

end HostAddr
