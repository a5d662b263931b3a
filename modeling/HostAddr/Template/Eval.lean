import HostAddr.Template.Apply

/-!
# Running a template

Nodes are run from left to right with a stack of variables, the latest first, and the first
failure ends the run. A pipeline looks variables up and changes none; only the binding of its value
does. A block forgets the variables declared in it, but not what it assigned to older ones.
-/

namespace HostAddr

/-- Variables with their values, the latest first. -/
abbrev Vars := List (String × Value)

namespace Vars

def get (vars : Vars) (name : String) : Except EvalFault Value :=
  match vars.lookup name with
  | some v => .ok v
  | none => .error (.undefinedVariable name)

def assign (name : String) (v : Value) : Vars → Except EvalFault Vars
  | [] => .error (.undefinedVariable name)
  | (x, w) :: vars =>
    if x = name then .ok ((x, v) :: vars) else (assign name v vars).map ((x, w) :: ·)

def bind (assigns : Bool) (name : String) (v : Value) (vars : Vars) : Except EvalFault Vars :=
  if assigns then vars.assign name v else .ok ((name, v) :: vars)

/-- Binds one value to each of several names in turn. -/
def bindAll (assigns : Bool) (v : Value) : List String → Vars → Except EvalFault Vars
  | [], vars => .ok vars
  | name :: names, vars => do
    let vars ← bind assigns name v vars
    bindAll assigns v names vars

/-- The variables of a round of a range: its value, or its index and its value. -/
def bindRound (assigns : Bool) (names : List String) (i v : Value) (vars : Vars) :
    Except EvalFault Vars :=
  match names with
  | [x] => vars.bind assigns x v
  | [x, y] => do
    let vars ← vars.bind assigns x i
    vars.bind assigns y v
  | _ => .ok vars

/-- Forgets all but the `n` oldest variables. -/
def keep (n : Nat) (vars : Vars) : Vars :=
  vars.drop (vars.length - n)

end Vars

namespace Eval

mutual

def operand (h : Host) (dot : Value) (vars : Vars) : Operand → Except EvalFault Value
  | .func f => f.apply h []
  | .dot => .ok dot
  | .field first more => dot.fieldChain (first :: more)
  | .var name fields => do
    let v ← vars.get name
    v.fieldChain fields
  | .str s => .ok (.str s)
  | .int n => .ok (.int n)
  | .bool b => .ok (.bool b)
  | .nil => .ok .nil
  | .group p => pipe h dot vars p

def operands (h : Host) (dot : Value) (vars : Vars) :
    List Operand → Except EvalFault (List Value)
  | [] => .ok []
  | o :: os => do
    let v ← operand h dot vars o
    let vs ← operands h dot vars os
    return v :: vs

/-- A call whose last arguments are those of `piped`. -/
def call (h : Host) (dot : Value) (vars : Vars) (piped : List Value) :
    Call → Except EvalFault Value
  | .mk f args => do
    let vs ← operands h dot vars args
    f.apply h (vs ++ piped)

def command (h : Host) (dot : Value) (vars : Vars) : Command → Except EvalFault Value
  | .call c => call h dot vars [] c
  | .value o => operand h dot vars o

def stages (h : Host) (dot : Value) (vars : Vars) (v : Value) :
    List Call → Except EvalFault Value
  | [] => .ok v
  | c :: cs => do
    let w ← call h dot vars [v] c
    stages h dot vars w cs

def pipe (h : Host) (dot : Value) (vars : Vars) : Pipe → Except EvalFault Value
  | .mk first rest => do
    let v ← command h dot vars first
    stages h dot vars v rest

end

/-- The value of a pipeline, and the variables with those that it binds. -/
def pipeline (h : Host) (dot : Value) (vars : Vars) (p : Pipeline) :
    Except EvalFault (Value × Vars) := do
  let v ← pipe h dot vars p.pipe
  let vars ← vars.bindAll p.assigns v p.names
  return (v, vars)

/-- What a range runs over: the records of a list, or the numbers below one. -/
inductive Rounds where
  | records (rs : List Record)
  | count (n : Nat)

namespace Rounds

def of : Value → Except EvalFault Rounds
  | .records rs => .ok (records rs)
  | .int n => .ok (count n.toNat)
  | .nil => .ok (records [])
  | v => .error (.notIterable v.kind)

def isEmpty : Rounds → Bool
  | records rs => rs.isEmpty
  | count n => n == 0

/-- Counts up from `i` for `n` rounds. -/
def countFrom {σ : Type} (round : Value → Value → σ → Except EvalFault σ) :
    Nat → Nat → σ → Except EvalFault σ
  | 0, _, s => .ok s
  | n + 1, i, s => do
    let s ← round (.int i) (.int i) s
    countFrom round n (i + 1) s

/-- Runs the rounds in turn, each with its index and its value. -/
def run {σ : Type} (round : Value → Value → σ → Except EvalFault σ) :
    Rounds → σ → Except EvalFault σ
  | records rs, s => rs.zipIdx.foldlM (fun s (r, i) => round (.int i) (.record r) s) s
  | count n, s => countFrom round n 0 s

end Rounds

mutual

/-- The output of a node, and the variables after it. -/
def node (h : Host) (dot : Value) (vars : Vars) : Node → Except EvalFault (String × Vars)
  | .text s => .ok (s, vars)
  | .action p => do
    let (v, vars) ← pipeline h dot vars p
    return (if p.names = [] then v.text else "", vars)
  | .block .ifBlock header body otherwise => do
    let (v, inner) ← pipeline h dot vars header
    let (out, inner) ←
      if v.isTrue then nodes h dot inner body else nodes h dot inner otherwise
    return (out, inner.keep vars.length)
  | .block .withBlock header body otherwise => do
    let (v, inner) ← pipeline h dot vars header
    let (out, inner) ←
      if v.isTrue then nodes h v inner body else nodes h dot inner otherwise
    return (out, inner.keep vars.length)
  | .block .rangeBlock header body otherwise => do
    let v ← pipe h dot vars header.pipe
    let rounds ← Rounds.of v
    if rounds.isEmpty then do
      let (out, inner) ← nodes h dot vars otherwise
      return (out, inner.keep vars.length)
    else
      rounds.run (fun i v (out, vars) => do
        let inner ← vars.bindRound header.assigns header.names i v
        let (more, inner) ← nodes h v inner body
        return (out ++ more, inner.keep vars.length)) ("", vars)

/-- The output of nodes in turn, and the variables after them. -/
def nodes (h : Host) (dot : Value) (vars : Vars) : List Node → Except EvalFault (String × Vars)
  | [] => .ok ("", vars)
  | n :: ns => do
    let (out, vars) ← node h dot vars n
    let (more, vars) ← nodes h dot vars ns
    return (out ++ more, vars)

end

end Eval

end HostAddr
