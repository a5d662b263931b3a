import HostAddr.Proofs.Outcome
import HostAddr.Template.Apply

/-!
# Faults of functions

No function of a template fails for want of a variable: only looking one up and assigning to one
can. `WellBound` is how the proof goes through a computation: its rule for a sequence of steps
hands a property of each value on to the next step.
-/

namespace HostAddr

/-- The value of an outcome, if it has one, satisfies `P`; if it has none, that is not for want of
a variable. -/
def WellBound {α : Type} (P : α → Prop) : Except EvalFault α → Prop
  | .ok a => P a
  | .error e => ∀ x, e ≠ .undefinedVariable x

namespace WellBound

variable {α β σ : Type} {P : α → Prop} {Q : β → Prop}

@[simp] lemma ok_iff {a : α} : WellBound P (.ok a) ↔ P a := Iff.rfl

@[simp] lemma error_iff {e : EvalFault} :
    WellBound P (.error e) ↔ ∀ x, e ≠ .undefinedVariable x := Iff.rfl

lemma ne_error {r : Except EvalFault α} (h : WellBound P r) (x : String) :
    r ≠ .error (.undefinedVariable x) := by
  rintro rfl
  exact h x rfl

lemma of_ok {r : Except EvalFault α} {a : α} (h : WellBound P r) (hr : r = .ok a) : P a := by
  subst hr
  exact h

lemma bind {r : Except EvalFault α} {f : α → Except EvalFault β} (h : WellBound P r)
    (hf : ∀ a, P a → WellBound Q (f a)) : WellBound Q (r >>= f) := by
  cases r with
  | ok a => exact hf a h
  | error e => exact h

lemma map {r : Except EvalFault α} {f : α → β} (h : WellBound P r) (hf : ∀ a, P a → Q (f a)) :
    WellBound Q (r.map f) := by
  cases r with
  | ok a => exact hf a h
  | error e => exact h

/-- A loop keeps what each round of it keeps. -/
theorem foldlM {I : σ → Prop} {step : σ → α → Except EvalFault σ}
    (hstep : ∀ s a, I s → WellBound I (step s a)) (as : List α) {s : σ} (hs : I s) :
    WellBound I (as.foldlM step s) := by
  induction as generalizing s with
  | nil => exact hs
  | cons a as ih =>
    rw [List.foldlM_cons]
    exact (hstep s a hs).bind fun t ht => ih ht

theorem mapM {f : α → Except EvalFault β} (hf : ∀ a, WellBound (fun _ => True) (f a))
    (as : List α) : WellBound (fun _ => True) (as.mapM f) := by
  induction as with
  | nil => trivial
  | cons a as ih =>
    rw [List.mapM_cons]
    exact (hf a).bind fun b _ => ih.bind fun bs _ => trivial

end WellBound

/-- No step of the computation fails for want of a variable. -/
abbrev NeverUnbound {α : Type} (r : Except EvalFault α) : Prop :=
  WellBound (fun _ => True) r

lemma neverUnbound_lift {α : Type} (r : Except Error α) : NeverUnbound (lift r) := by
  cases r <;> simp [lift, NeverUnbound]

namespace Value

lemma neverUnbound_compareWith (equality : Bool) (a b : Value) :
    NeverUnbound (compareWith equality a b) := by
  unfold compareWith
  split
  case h_3 | h_4 | h_5 => split <;> simp [NeverUnbound]
  all_goals trivial

lemma neverUnbound_isEqual (a b : Value) : NeverUnbound (a.isEqual b) :=
  (neverUnbound_compareWith true a b).map fun _ _ => trivial

lemma neverUnbound_equalsAny (a : Value) (bs : List Value) : NeverUnbound (a.equalsAny bs) :=
  (WellBound.mapM a.neverUnbound_isEqual bs).map fun _ _ => trivial

lemma neverUnbound_index (v key : Value) : NeverUnbound (v.index key) := by
  unfold index
  split
  · split
    · split <;> simp [NeverUnbound]
    · split <;> simp [NeverUnbound]
    · simp [NeverUnbound]
  · simp [NeverUnbound]

lemma neverUnbound_length (v : Value) : NeverUnbound v.length := by
  cases v <;> simp [length, NeverUnbound]

lemma neverUnbound_field (name : String) (v : Value) : NeverUnbound (v.field name) := by
  cases v with
  | record r =>
    simp only [field]
    split <;> simp [NeverUnbound]
  | _ => simp [field, NeverUnbound]

lemma neverUnbound_fieldChain (v : Value) (names : List String) :
    NeverUnbound (v.fieldChain names) :=
  WellBound.foldlM (fun v name _ => v.neverUnbound_field name) names trivial

end Value

namespace Function

variable (f : Function)

lemma neverUnbound_noArg (vs : List Value) : NeverUnbound (f.noArg vs) := by
  unfold noArg
  split <;> simp [NeverUnbound]

lemma neverUnbound_oneArg (vs : List Value) : NeverUnbound (f.oneArg vs) := by
  unfold oneArg
  split <;> simp [NeverUnbound]

lemma neverUnbound_twoArgs (vs : List Value) : NeverUnbound (f.twoArgs vs) := by
  unfold twoArgs
  split <;> simp [NeverUnbound]

lemma neverUnbound_threeArgs (vs : List Value) : NeverUnbound (f.threeArgs vs) := by
  unfold threeArgs
  split <;> simp [NeverUnbound]

lemma neverUnbound_strArg (n : Nat) (v : Value) : NeverUnbound (f.strArg n v) := by
  cases v <;> simp [strArg, NeverUnbound]

lemma neverUnbound_intArg (n : Nat) (v : Value) : NeverUnbound (f.intArg n v) := by
  cases v <;> simp [intArg, NeverUnbound]

lemma neverUnbound_recordsArg (n : Nat) (v : Value) : NeverUnbound (f.recordsArg n v) := by
  cases v <;> simp [recordsArg, NeverUnbound]

lemma neverUnbound_select (op : String → String → List Record → Except Error Value)
    (args : List Value) : NeverUnbound (f.select op args) :=
  (f.neverUnbound_threeArgs args).bind fun (a, b, c) _ =>
    (f.neverUnbound_strArg 1 a).bind fun _ _ =>
      (f.neverUnbound_strArg 2 b).bind fun _ _ =>
        (f.neverUnbound_recordsArg 3 c).bind fun _ _ => neverUnbound_lift _

lemma neverUnbound_selectOne (op : String → List Record → Except Error Value)
    (args : List Value) : NeverUnbound (f.selectOne op args) :=
  (f.neverUnbound_twoArgs args).bind fun (a, b) _ =>
    (f.neverUnbound_strArg 1 a).bind fun _ _ =>
      (f.neverUnbound_recordsArg 2 b).bind fun _ _ => neverUnbound_lift _

lemma neverUnbound_orderTest (test : Ordering → Bool) (args : List Value) :
    NeverUnbound (f.orderTest test args) :=
  (f.neverUnbound_twoArgs args).bind fun (a, b) _ =>
    (Value.neverUnbound_compareWith false a b).bind fun _ _ => trivial

/-- A call never fails for want of a variable. -/
theorem neverUnbound_apply (h : Host) (args : List Value) : NeverUnbound (f.apply h args) := by
  cases f with
  | source s => exact (neverUnbound_noArg _ args).bind fun _ _ => neverUnbound_lift _
  | interfaceIP =>
    exact (neverUnbound_oneArg _ args).bind fun a _ =>
      (neverUnbound_strArg _ 1 a).bind fun _ _ => neverUnbound_lift _
  | includeBy => exact neverUnbound_select _ _ args
  | excludeBy => exact neverUnbound_select _ _ args
  | joinBy => exact neverUnbound_select _ _ args
  | sortBy => exact neverUnbound_selectOne _ _ args
  | uniqueBy => exact neverUnbound_selectOne _ _ args
  | limit =>
    refine (neverUnbound_twoArgs _ args).bind fun (a, b) _ =>
      (neverUnbound_intArg _ 1 a).bind fun n _ => ?_
    split
    · simp
    · exact (neverUnbound_recordsArg _ 2 b).bind fun _ _ => trivial
  | offset =>
    exact (neverUnbound_twoArgs _ args).bind fun (a, b) _ =>
      (neverUnbound_intArg _ 1 a).bind fun _ _ =>
        (neverUnbound_recordsArg _ 2 b).bind fun _ _ => neverUnbound_lift _
  | reverse =>
    exact (neverUnbound_oneArg _ args).bind fun a _ =>
      (neverUnbound_recordsArg _ 1 a).bind fun _ _ => trivial
  | attr =>
    exact (neverUnbound_twoArgs _ args).bind fun (a, b) _ =>
      (neverUnbound_strArg _ 1 a).bind fun _ _ =>
        (neverUnbound_lift _).bind fun _ _ =>
          (neverUnbound_recordsArg _ 2 b).bind fun _ _ => trivial
  | and => cases args <;> simp [apply, NeverUnbound]
  | or => cases args <;> simp [apply, NeverUnbound]
  | not => exact (neverUnbound_oneArg _ args).bind fun _ _ => trivial
  | len => exact (neverUnbound_oneArg _ args).bind fun a _ => a.neverUnbound_length
  | index =>
    cases args with
    | nil => simp [apply, NeverUnbound]
    | cons a keys =>
      exact WellBound.foldlM (fun v key _ => v.neverUnbound_index key) keys trivial
  | eq =>
    match args with
    | [] => simp [apply, NeverUnbound]
    | [a] => simp [apply, NeverUnbound]
    | a :: b :: rest => exact (a.neverUnbound_equalsAny (b :: rest)).map fun _ _ => trivial
  | ne =>
    exact (neverUnbound_twoArgs _ args).bind fun (a, b) _ =>
      (a.neverUnbound_isEqual b).map fun _ _ => trivial
  | lt => exact neverUnbound_orderTest _ _ args
  | le => exact neverUnbound_orderTest _ _ args
  | gt => exact neverUnbound_orderTest _ _ args
  | ge => exact neverUnbound_orderTest _ _ args
  | print => trivial
  | println => trivial
  | printf =>
    cases args with
    | nil => simp [apply, NeverUnbound]
    | cons a rest => exact (neverUnbound_strArg _ 1 a).bind fun _ _ => trivial

end Function

end HostAddr
