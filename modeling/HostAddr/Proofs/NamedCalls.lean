import HostAddr.Proofs.Outcome
import HostAddr.Template.Apply

/-!
# Functions called by name

A second account of what functions do, which relies on nothing that was found out before a call:
the name is looked for in tables, the number of arguments is checked, and each argument is then
taken by its position. Such a call may end where no call of a `Function` can, at a name that stands
in no table or at a position behind the last argument. With the name of a function it never does.
-/

namespace HostAddr

namespace Named

/-- How a run by name ends without a value: with a fault that a template may have, or at one of the
exits that are meant to be out of reach. -/
inductive Exit where
  | fault (message : String)
  | undefinedFunction (name : String)
  | argumentToNonFunction
  | noArgument (position : Nat)
deriving DecidableEq

variable {α β σ : Type}

/-- An outcome, with no more of its fault than the message. -/
def report (r : Except EvalFault α) : Except Exit α :=
  r.mapError fun e => .fault e.message

@[simp] lemma report_ok (a : α) : report (.ok a) = .ok a := rfl

@[simp] lemma report_error (e : EvalFault) :
    report (.error e : Except EvalFault α) = .error (.fault e.message) := rfl

lemma report_bind (r : Except EvalFault α) (f : α → Except EvalFault β) :
    report (r >>= f) = report r >>= fun a => report (f a) := by
  cases r <;> rfl

lemma report_map (f : α → β) (r : Except EvalFault α) : report (r.map f) = (report r).map f := by
  cases r <;> rfl

lemma report_foldlM (step : σ → α → Except EvalFault σ) (as : List α) (s : σ) :
    report (as.foldlM step s) = as.foldlM (fun s a => report (step s a)) s := by
  induction as generalizing s with
  | nil => rfl
  | cons a as ih =>
    rw [List.foldlM_cons, List.foldlM_cons, report_bind]
    exact congrArg _ (funext ih)

lemma exists_fault_of_report {r : Except EvalFault α} {e : Exit} (h : report r = .error e) :
    ∃ message, e = .fault message := by
  cases r with
  | ok a => cases h
  | error e' =>
    cases h
    exact ⟨_, rfl⟩

/-- The name of a function and the values that it is called with. -/
structure Args where
  func : String
  values : List Value

namespace Args

variable (a : Args)

/-- The argument at a position counted from 0. -/
def value (i : Nat) : Except Exit Value :=
  match a.values[i]? with
  | some v => .ok v
  | none => .error (.noArgument i)

/-- The arguments from a position on. -/
def valuesFrom (i : Nat) : Except Exit (List Value) :=
  if i ≤ a.values.length then .ok (a.values.drop i) else .error (.noArgument i)

def exactly (n : Nat) : Except Exit Unit :=
  if a.values.length = n then .ok ()
  else .error (.fault s!"wrong number of args for {a.func}: want {n} got {a.values.length}")

def atLeast (n : Nat) : Except Exit Unit :=
  if n ≤ a.values.length then .ok ()
  else .error (.fault
    s!"wrong number of args for {a.func}: want at least {n} got {a.values.length}")

def mismatch (i : Nat) (want : ValueKind) : Except Exit α := do
  let v ← a.value i
  .error (.fault
    s!"wrong type for argument {i + 1} of {a.func}: want {want.name} got {v.kind.name}")

def str (i : Nat) : Except Exit String := do
  match ← a.value i with
  | .str s => .ok s
  | _ => a.mismatch i .str

def int (i : Nat) : Except Exit Int := do
  match ← a.value i with
  | .int n => .ok n
  | _ => a.mismatch i .int

def records (i : Nat) : Except Exit (List Record) := do
  match ← a.value i with
  | .records rs => .ok rs
  | .record r => .ok [r]
  | _ => a.mismatch i .records

end Args

def sources : List String :=
  ["GetAllInterfaces", "GetDefaultInterfaces", "GetPrivateInterfaces", "GetPublicInterfaces",
    "GetPrivateIP", "GetPublicIP", "GetPrivateIPs", "GetPublicIPs", "GetInterfaceIP"]

def helpers : List String :=
  ["include", "exclude", "sort", "limit", "offset", "reverse", "unique", "join", "attr"]

def builtins : List String :=
  ["and", "or", "not", "len", "index", "eq", "ne", "lt", "le", "gt", "ge", "print", "printf",
    "println"]

/-- Whether a name stands in one of the tables. -/
def isDefined (name : String) : Bool :=
  [sources, helpers, builtins].any (·.contains name)

def source (h : Host) (a : Args) : Except Exit Value :=
  if a.func = "GetInterfaceIP" then do
    a.exactly 1
    let pattern ← a.str 0
    report (lift ((h.interfaceIP pattern).map .str))
  else do
    a.exactly 0
    match a.func with
    | "GetAllInterfaces" => report (lift (Source.allInterfaces.ask h))
    | "GetDefaultInterfaces" => report (lift (Source.defaultInterfaces.ask h))
    | "GetPrivateInterfaces" => report (lift (Source.privateInterfaces.ask h))
    | "GetPublicInterfaces" => report (lift (Source.publicInterfaces.ask h))
    | "GetPrivateIP" => report (lift (Source.privateIP.ask h))
    | "GetPublicIP" => report (lift (Source.publicIP.ask h))
    | "GetPrivateIPs" => report (lift (Source.privateIPs.ask h))
    | "GetPublicIPs" => report (lift (Source.publicIPs.ask h))
    | name => .error (.undefinedFunction name)

namespace Args

variable (a : Args)

/-- An operation on the records behind two strings. -/
def select (op : String → String → List Record → Except Error Value) : Except Exit Value := do
  a.exactly 3
  let s ← a.str 0
  let t ← a.str 1
  let rs ← a.records 2
  report (lift (op s t rs))

/-- An operation on the records behind one string. -/
def selectOne (op : String → List Record → Except Error Value) : Except Exit Value := do
  a.exactly 2
  let s ← a.str 0
  let rs ← a.records 1
  report (lift (op s rs))

def orderTest (test : Ordering → Bool) : Except Exit Value := do
  a.exactly 2
  let v ← a.value 0
  let w ← a.value 1
  let o ← report (Value.compareWith false v w)
  return .bool (test o)

/-- A text with one more argument, which looks back at the one before it unless it is a string. -/
def concatStep (out : String) : Value × Nat → Except Exit String
  | (v, i) =>
    if i = 0 ∨ v.isStr then .ok (out ++ v.text)
    else do
      let before ← a.value (i - 1)
      return out ++ (if before.isStr then "" else " ") ++ v.text

def concat : Except Exit String :=
  a.values.zipIdx.foldlM a.concatStep ""

/-- The first argument that decides, or else the last one. -/
def firstOrLast (decides : Value → Bool) : Except Exit Value := do
  a.atLeast 1
  let last ← a.value (a.values.length - 1)
  return (a.values.find? decides).getD last

end Args

def builtin (a : Args) : Except Exit Value :=
  match a.func with
  | "and" => a.firstOrLast (!·.isTrue)
  | "or" => a.firstOrLast (·.isTrue)
  | "not" => do
    a.exactly 1
    let v ← a.value 0
    return .bool !v.isTrue
  | "len" => do
    a.exactly 1
    let v ← a.value 0
    report v.length
  | "index" => do
    a.atLeast 1
    let keys ← a.valuesFrom 1
    let v ← a.value 0
    keys.foldlM (fun v key => report (v.index key)) v
  | "eq" => do
    a.atLeast 2
    let others ← a.valuesFrom 1
    let equal ← others.foldlM (fun equal other => do
      let v ← a.value 0
      let same ← report (v.isEqual other)
      return equal || same) false
    return .bool equal
  | "ne" => do
    a.exactly 2
    let v ← a.value 0
    let w ← a.value 1
    let same ← report (v.isEqual w)
    return .bool !same
  | "lt" => a.orderTest (·.isLT)
  | "le" => a.orderTest (·.isLE)
  | "gt" => a.orderTest (·.isGT)
  | "ge" => a.orderTest (·.isGE)
  | "print" => a.concat.map .str
  | "println" => .ok (.str (" ".intercalate (a.values.map Value.text) ++ "\n"))
  | "printf" => do
    a.atLeast 1
    let format ← a.str 0
    let rest ← a.valuesFrom 1
    return .str (Value.format format rest)
  | name => .error (.undefinedFunction name)

def call (h : Host) (name : String) (values : List Value) : Except Exit Value :=
  let a : Args := ⟨name, values⟩
  if sources.contains name then source h a
  else
    match name with
    | "include" => a.select fun s t rs => (includeBy h.engine s t rs).map .records
    | "exclude" => a.select fun s t rs => (excludeBy h.engine s t rs).map .records
    | "sort" => a.selectOne fun s rs => (sortBy h.sorter s rs).map .records
    | "limit" => do
      a.exactly 2
      let n ← a.int 0
      if n < 0 then .error (.fault "limit: count must not be negative")
      else
        let rs ← a.records 1
        return .records (rs.take n.toNat)
    | "offset" => do
      a.exactly 2
      let k ← a.int 0
      let rs ← a.records 1
      report (lift ((offset k rs).map .records))
    | "reverse" => do
      a.exactly 1
      let rs ← a.records 0
      return .records rs.reverse
    | "unique" => a.selectOne fun s rs => (uniqueBy s rs).map .records
    | "join" => a.select fun s t rs => (joinBy s t rs).map .str
    | "attr" => do
      a.exactly 2
      let name ← a.str 0
      report (lift (Attribute.ensureKnown name))
      let rs ← a.records 1
      return .str ((rs.head?.map (·.view name)).getD "")
    | _ => builtin a

lemma names_all : Function.all.map Function.name = [sources, helpers, builtins].flatten := rfl

lemma mem_all (f : Function) : f ∈ Function.all := by
  cases f with
  | source s => cases s <;> decide
  | _ => decide

/-- The tables list the names of the functions and no others. -/
theorem isDefined_iff {name : String} : isDefined name ↔ ∃ f : Function, f.name = name := by
  have hmem : isDefined name ↔ name ∈ [sources, helpers, builtins].flatten := by
    simp [isDefined]
  rw [hmem, ← names_all, List.mem_map]
  exact ⟨fun ⟨f, _, hf⟩ => ⟨f, hf⟩, fun ⟨f, hf⟩ => ⟨f, mem_all f, hf⟩⟩

/-! ### Calls with the names of functions -/

section

variable (f : Function) {vs : List Value}

lemma exactly_zero (vs : List Value) : Args.exactly ⟨f.name, vs⟩ 0 = report (f.noArg vs) := by
  cases vs <;> rfl

lemma exactly_one {k : Except Exit α} {g : Value → Except EvalFault α}
    (hk : ∀ v, vs = [v] → k = report (g v)) :
    (Args.exactly ⟨f.name, vs⟩ 1 >>= fun _ => k) = report (f.oneArg vs >>= g) := by
  match vs with
  | [v] => exact hk v rfl
  | [] => rfl
  | v :: w :: vs => rfl

lemma exactly_two {k : Except Exit α} {g : Value × Value → Except EvalFault α}
    (hk : ∀ v w, vs = [v, w] → k = report (g (v, w))) :
    (Args.exactly ⟨f.name, vs⟩ 2 >>= fun _ => k) = report (f.twoArgs vs >>= g) := by
  match vs with
  | [v, w] => exact hk v w rfl
  | [] | [_] => rfl
  | u :: v :: w :: vs => rfl

lemma exactly_three {k : Except Exit α} {g : Value × Value × Value → Except EvalFault α}
    (hk : ∀ u v w, vs = [u, v, w] → k = report (g (u, v, w))) :
    (Args.exactly ⟨f.name, vs⟩ 3 >>= fun _ => k) = report (f.threeArgs vs >>= g) := by
  match vs with
  | [u, v, w] => exact hk u v w rfl
  | [] | [_] | [_, _] => rfl
  | t :: u :: v :: w :: vs => rfl

section

variable {i : Nat} {v : Value} (h : vs[i]? = some v)

include h

lemma value_eq : Args.value ⟨f.name, vs⟩ i = .ok v := by
  rw [Args.value, h]

lemma mismatch_eq (want : ValueKind) :
    Args.mismatch ⟨f.name, vs⟩ i want =
      report (.error (.wrongKind f (i + 1) want v.kind) : Except EvalFault α) := by
  rw [Args.mismatch, value_eq f h]
  rfl

lemma str_eq : Args.str ⟨f.name, vs⟩ i = report (f.strArg (i + 1) v) := by
  rw [Args.str, value_eq f h, ok_bind]
  cases v with
  | str s => rfl
  | _ => exact mismatch_eq f h .str

lemma int_eq : Args.int ⟨f.name, vs⟩ i = report (f.intArg (i + 1) v) := by
  rw [Args.int, value_eq f h, ok_bind]
  cases v with
  | int n => rfl
  | _ => exact mismatch_eq f h .int

lemma records_eq : Args.records ⟨f.name, vs⟩ i = report (f.recordsArg (i + 1) v) := by
  rw [Args.records, value_eq f h, ok_bind]
  cases v with
  | records rs => rfl
  | record r => rfl
  | _ => exact mismatch_eq f h .records

end

lemma select_eq (op : String → String → List Record → Except Error Value) (vs : List Value) :
    Args.select ⟨f.name, vs⟩ op = report (f.select op vs) := by
  refine exactly_three f fun u v w hvs => ?_
  subst hvs
  rw [str_eq f (v := u) (i := 0) rfl, str_eq f (v := v) (i := 1) rfl,
    records_eq f (v := w) (i := 2) rfl]
  simp only [report_bind]

lemma selectOne_eq (op : String → List Record → Except Error Value) (vs : List Value) :
    Args.selectOne ⟨f.name, vs⟩ op = report (f.selectOne op vs) := by
  refine exactly_two f fun v w hvs => ?_
  subst hvs
  rw [str_eq f (v := v) (i := 0) rfl, records_eq f (v := w) (i := 1) rfl]
  simp only [report_bind]

lemma orderTest_eq (test : Ordering → Bool) (vs : List Value) :
    Args.orderTest ⟨f.name, vs⟩ test = report (f.orderTest test vs) := by
  refine exactly_two f fun v w hvs => ?_
  subst hvs
  rw [report_bind]
  rfl

lemma firstOrLast_cons (decides : Value → Bool) (v : Value) (vs : List Value) :
    Args.firstOrLast ⟨f.name, v :: vs⟩ decides =
      .ok (((v :: vs).find? decides).getD ((v :: vs).getLastD v)) := by
  have hlast : (v :: vs)[(v :: vs).length - 1]? = some ((v :: vs).getLastD v) := by
    rw [← List.getLast?_eq_getElem?, List.getLast?_cons, List.getLastD_cons,
      List.getLastD_eq_getLast?]
  rw [Args.firstOrLast, value_eq f hlast]
  rfl

/-- From one argument on, the text goes on with the arguments after it. -/
lemma foldlM_concatStep (before : List Value) {rest : List Value} {v : Value}
    (hvs : vs = before ++ v :: rest) (out : String) :
    (rest.zipIdx (before.length + 1)).foldlM (Args.concatStep ⟨f.name, vs⟩) (out ++ v.text) =
      .ok (out ++ Value.concat (v :: rest)) := by
  induction rest generalizing before v out with
  | nil => rfl
  | cons w rest ih =>
    have hbefore : Args.value ⟨f.name, vs⟩ before.length = .ok v := value_eq f (by simp [hvs])
    have hstep : Args.concatStep ⟨f.name, vs⟩ (out ++ v.text) (w, before.length + 1) =
        .ok (out ++ v.text ++ (if v.isStr || w.isStr then "" else " ") ++ w.text) := by
      rw [Args.concatStep]
      cases hw : w.isStr
      · rw [if_neg (by simp), Nat.add_sub_cancel, hbefore, Bool.or_false]
        rfl
      · simp
    have hrest := ih (before ++ [v]) (v := w) (by simp [hvs])
      (out ++ v.text ++ if v.isStr || w.isStr then "" else " ")
    rw [List.length_append, List.length_singleton] at hrest
    rw [List.zipIdx_cons, List.foldlM_cons, hstep, ok_bind, hrest, Value.concat]
    simp only [String.append_assoc]

lemma concat_eq (vs : List Value) : Args.concat ⟨f.name, vs⟩ = .ok (Value.concat vs) := by
  cases vs with
  | nil => rfl
  | cons v rest =>
    have hrest := foldlM_concatStep f [] (show v :: rest = [] ++ v :: rest from rfl) ""
    rw [String.empty_append, String.empty_append] at hrest
    rw [Args.concat, List.zipIdx_cons, List.foldlM_cons, ← hrest]
    simp [Args.concatStep]

/-- Values are held against one in turn, or all at once. -/
lemma foldlM_isEqual (v : Value) (others : List Value) (equal : Bool) :
    others.foldlM (fun equal other => do
      let same ← report (v.isEqual other)
      return equal || same) equal = report ((v.equalsAny others).map (equal || ·)) := by
  induction others generalizing equal with
  | nil => simp [Value.equalsAny, Except.map, pure, Except.pure]
  | cons other others ih =>
    rw [List.foldlM_cons, Value.equalsAny, List.mapM_cons]
    cases v.isEqual other with
    | error e => rfl
    | ok same =>
      have hrest := ih (equal || same)
      rw [Value.equalsAny] at hrest
      simp only [report_ok, ok_bind]
      refine hrest.trans (congrArg report ?_)
      cases others.mapM v.isEqual with
      | error e => rfl
      | ok sames => simp [Except.map, Bool.or_assoc]

end

/-- A call by the name of a function is a call of the function, and so never exits. -/
theorem call_name (h : Host) (f : Function) (vs : List Value) :
    call h f.name vs = report (f.apply h vs) := by
  cases f with
  | source s =>
    have hcall : call h (Function.source s).name vs =
        (Args.exactly ⟨(Function.source s).name, vs⟩ 0 >>= fun _ => report (lift (s.ask h))) := by
      cases s <;> rfl
    rw [hcall, exactly_zero, Function.apply, report_bind]
  | interfaceIP =>
    refine exactly_one .interfaceIP fun v hvs => ?_
    subst hvs
    rw [str_eq .interfaceIP (v := v) (i := 0) rfl, report_bind]
  | includeBy => exact select_eq .includeBy _ vs
  | excludeBy => exact select_eq .excludeBy _ vs
  | joinBy => exact select_eq .joinBy _ vs
  | sortBy => exact selectOne_eq .sortBy _ vs
  | uniqueBy => exact selectOne_eq .uniqueBy _ vs
  | limit =>
    refine exactly_two .limit fun v w hvs => ?_
    subst hvs
    rw [int_eq .limit (v := v) (i := 0) rfl, records_eq .limit (v := w) (i := 1) rfl, report_bind]
    refine congrArg _ (funext fun n => ?_)
    split
    · rfl
    · rw [report_bind]
      rfl
  | offset =>
    refine exactly_two .offset fun v w hvs => ?_
    subst hvs
    rw [int_eq .offset (v := v) (i := 0) rfl, records_eq .offset (v := w) (i := 1) rfl]
    simp only [report_bind]
  | reverse =>
    refine exactly_one .reverse fun v hvs => ?_
    subst hvs
    rw [records_eq .reverse (v := v) (i := 0) rfl, report_bind]
    rfl
  | attr =>
    refine exactly_two .attr fun v w hvs => ?_
    subst hvs
    rw [str_eq .attr (v := v) (i := 0) rfl, records_eq .attr (v := w) (i := 1) rfl]
    simp only [report_bind]
    rfl
  | and =>
    cases vs with
    | nil => rfl
    | cons v vs => exact firstOrLast_cons .and _ v vs
  | or =>
    cases vs with
    | nil => rfl
    | cons v vs => exact firstOrLast_cons .or _ v vs
  | not =>
    refine exactly_one .not fun v hvs => ?_
    subst hvs
    rfl
  | len =>
    refine exactly_one .len fun v hvs => ?_
    subst hvs
    rfl
  | index =>
    cases vs with
    | nil => rfl
    | cons v keys => exact (report_foldlM _ keys v).symm
  | eq =>
    match vs with
    | [] | [_] => rfl
    | v :: w :: rest =>
      have hothers := foldlM_isEqual v (w :: rest) false
      have hcall : call h Function.eq.name (v :: w :: rest) =
          ((w :: rest).foldlM (fun equal other => do
            let same ← report (v.isEqual other)
            return equal || same) false >>= fun equal => .ok (.bool equal)) := rfl
      rw [hcall, hothers, Function.apply]
      cases v.equalsAny (w :: rest) <;> rfl
  | ne =>
    refine exactly_two .ne fun v w hvs => ?_
    subst hvs
    dsimp only
    rw [report_map]
    rfl
  | lt => exact orderTest_eq .lt _ vs
  | le => exact orderTest_eq .le _ vs
  | gt => exact orderTest_eq .gt _ vs
  | ge => exact orderTest_eq .ge _ vs
  | print =>
    have hcall : call h Function.print.name vs =
        (Args.concat ⟨Function.print.name, vs⟩).map .str := rfl
    rw [hcall, concat_eq]
    rfl
  | println => rfl
  | printf =>
    cases vs with
    | nil => rfl
    | cons v rest =>
      have hcall : call h Function.printf.name (v :: rest) =
          (Args.str ⟨Function.printf.name, v :: rest⟩ 0 >>= fun format =>
            .ok (.str (Value.format format rest))) := rfl
      rw [hcall, str_eq .printf (v := v) (i := 0) rfl, Function.apply, report_bind]
      rfl

end Named

end HostAddr
