import HostAddr.Proofs.Outcome
import HostAddr.Template.Eval

/-!
# Runs of nodes

One equation for each way in which a node runs: `if` and `with` differ in the dot of their body
alone, and a range goes through the list of its rounds, each of which starts with the variables
that the one before it left.
-/

namespace HostAddr

/-- The dot in the body of a block, where `v` is the value of its header. -/
def BlockKind.bodyDot (dot v : Value) : BlockKind → Value
  | ifBlock => dot
  | withBlock => v
  | rangeBlock => dot

namespace Eval

namespace Rounds

/-- The index and the value of each round in turn. -/
def list : Rounds → List (Value × Value)
  | records rs => rs.zipIdx.map fun (r, i) => (.int i, .record r)
  | count n => (List.range n).map fun (i : Nat) => (.int i, .int i)

variable {σ : Type} (round : Value → Value → σ → Except EvalFault σ)

lemma countFrom_eq_foldlM (n i : Nat) (s : σ) :
    countFrom round n i s =
      (List.range' i n).foldlM (fun s (j : Nat) => round (.int j) (.int j) s) s := by
  induction n generalizing i s with
  | zero => rfl
  | succ n ih =>
    rw [countFrom, List.range'_succ, List.foldlM_cons]
    exact congrArg _ (funext fun t => ih (i + 1) t)

/-- A range runs through the list of its rounds. -/
theorem run_eq_foldlM (rounds : Rounds) (s : σ) :
    rounds.run round s = rounds.list.foldlM (fun s (i, v) => round i v s) s := by
  cases rounds with
  | records rs => rw [run, list, List.foldlM_map]
  | count n => rw [run, list, List.foldlM_map, List.range_eq_range', countFrom_eq_foldlM]

end Rounds

variable (h : Host)

/-- The end of a block: its output, and the variables that were there before it. -/
def endBlock (vars : Vars) (r : Except EvalFault (String × Vars)) :
    Except EvalFault (String × Vars) :=
  r.map fun (out, inner) => (out, inner.keep vars.length)

lemma node_branch {kind : BlockKind} (hkind : kind ≠ .rangeBlock) (dot : Value) (vars : Vars)
    (header : Pipeline) (body otherwise : List Node) :
    node h dot vars (.block kind header body otherwise) =
      (pipeline h dot vars header >>= fun (v, inner) => endBlock vars
        (if v.isTrue then nodes h (kind.bodyDot dot v) inner body
          else nodes h dot inner otherwise)) := by
  cases kind with
  | rangeBlock => exact absurd rfl hkind
  | ifBlock | withBlock =>
    rw [node]
    cases pipeline h dot vars header with
    | error e => rfl
    | ok r =>
      obtain ⟨v, inner⟩ := r
      cases hv : v.isTrue <;> simp only [ok_bind, hv] <;> rfl

/-- One round of a range, with the output so far and the variables before it. -/
def rangeRound (header : Pipeline) (body : List Node) (i v : Value) (s : String × Vars) :
    Except EvalFault (String × Vars) := do
  let inner ← s.2.bindRound header.assigns header.names i v
  let (more, inner) ← nodes h v inner body
  return (s.1 ++ more, inner.keep s.2.length)

lemma node_range (dot : Value) (vars : Vars) (header : Pipeline) (body otherwise : List Node) :
    node h dot vars (.block .rangeBlock header body otherwise) =
      (pipe h dot vars header.pipe >>= fun v => Rounds.of v >>= fun rounds =>
        if rounds.isEmpty then endBlock vars (nodes h dot vars otherwise)
        else rounds.list.foldlM (fun s (i, v) => rangeRound h header body i v s) ("", vars)) := by
  simp only [← Rounds.run_eq_foldlM]
  rw [node]
  rfl

lemma nodes_cons (dot : Value) (vars : Vars) (n : Node) (ns : List Node) :
    nodes h dot vars (n :: ns) = (node h dot vars n >>= fun (out, mid) =>
      (nodes h dot mid ns).map fun (more, last) => (out ++ more, last)) := by
  rw [nodes]
  rfl

lemma nodes_singleton (dot : Value) (vars : Vars) (n : Node) :
    nodes h dot vars [n] = node h dot vars n := by
  rw [nodes_cons]
  cases node h dot vars n with
  | error e => rfl
  | ok r => simp [nodes, Except.map]

/-- A list of nodes runs as its parts do, one after the other. -/
theorem nodes_append (dot : Value) (vars : Vars) (ns ms : List Node) :
    nodes h dot vars (ns ++ ms) = (nodes h dot vars ns >>= fun (out, mid) =>
      (nodes h dot mid ms).map fun (more, last) => (out ++ more, last)) := by
  induction ns generalizing vars with
  | nil =>
    rw [List.nil_append, nodes, ok_bind]
    dsimp only
    cases nodes h dot vars ms <;> simp [Except.map]
  | cons n ns ih =>
    rw [List.cons_append, nodes_cons, nodes_cons]
    cases node h dot vars n with
    | error e => rfl
    | ok r =>
      obtain ⟨out, mid⟩ := r
      simp only [ok_bind, ih]
      cases nodes h dot mid ns with
      | error e => rfl
      | ok r =>
        obtain ⟨more, last⟩ := r
        simp only [ok_bind, Except.map]
        cases nodes h dot last ms <;> simp [String.append_assoc]

end Eval

end HostAddr
