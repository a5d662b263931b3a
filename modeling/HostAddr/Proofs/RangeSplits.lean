import HostAddr.Proofs.BlockScoping

/-!
# Ranges in two halves

A range whose rounds do not see their index can stop after any of them and another one go on from
there: the second starts with the output and the variables that the first has left. Where both cut
their records from one variable, the rounds of the first must leave it alone.
-/

namespace HostAddr

/-- The value of a variable. -/
def Pipe.ofVar (x : String) : Pipe :=
  .mk (.value (.var x [])) []

/-- A function of a number and the value of a variable. -/
def Pipe.sliced (f : Function) (n : Nat) (x : String) : Pipe :=
  .mk (.call (.mk f [.int n, .var x []])) []

namespace Node

/-- A range that declares variables for its rounds and has no `else` part. -/
def rangeOver (names : List String) (p : Pipe) (body : List Node) : Node :=
  .block .rangeBlock ⟨names, false, p⟩ body []

example :
    listItems [rangeOver ["$e"] (.sliced .limit 2 "$l") [.text "x"]] =
      [.action [.ident "range", .var "$e" [], .declare, .ident "limit", .int 2, .var "$l" []],
        .text "x", .action [.ident "end"]] := rfl

/-- The lists of nodes in a tree: the tree itself and the parts of its blocks. -/
inductive IsPart (part : List Node) : List Node → Prop
  | whole : IsPart part part
  | body {kind : BlockKind} {header : Pipeline} {body otherwise ns : List Node} :
    .block kind header body otherwise ∈ ns → IsPart part body → IsPart part ns
  | otherwise {kind : BlockKind} {header : Pipeline} {body otherwise ns : List Node} :
    .block kind header body otherwise ∈ ns → IsPart part otherwise → IsPart part ns

lemma regular_of_mem {n : Node} {ns : List Node} (hr : ListRegular ns) (hn : n ∈ ns) :
    n.Regular := by
  induction ns with
  | nil => cases hn
  | cons m ns ih =>
    rcases List.mem_cons.1 hn with rfl | hn
    · exact hr.1
    · exact ih hr.2 hn

lemma IsPart.regular {part ns : List Node} (hpart : IsPart part ns) (hr : ListRegular ns) :
    ListRegular part := by
  induction hpart with
  | whole => exact hr
  | body hblock _ ih => exact ih (regular_of_mem hr hblock).2.1
  | otherwise hblock _ ih => exact ih (regular_of_mem hr hblock).2.2

end Node

/-- Without a variable for it, the index of a round makes no difference. -/
lemma Vars.bindRound_index {names : List String} (hnames : names.length ≤ 1) (assigns : Bool)
    (i j v : Value) (vars : Vars) :
    vars.bindRound assigns names i v = vars.bindRound assigns names j v := by
  match names with
  | [] => rfl
  | [_] => rfl
  | _ :: _ :: _ => simp at hnames

namespace Eval

variable {h : Host} {dot : Value} {vars : Vars} {x : String} {rs : List Record} {n : Nat}

lemma pipe_ofVar (hx : vars.get x = .ok (.records rs)) :
    pipe h dot vars (.ofVar x) = .ok (.records rs) := by
  simp only [Pipe.ofVar, pipe, command, operand, stages, hx, ok_bind, Value.fieldChain]
  rfl

lemma pipe_sliced (hx : vars.get x = .ok (.records rs)) (f : Function) (n : Nat) :
    pipe h dot vars (.sliced f n x) = f.apply h [.int n, .records rs] := by
  have hargs : operands h dot vars [.int n, .var x []] = .ok [.int n, .records rs] := by
    simp only [operands, operand, hx, ok_bind, Value.fieldChain]
    rfl
  simp only [Pipe.sliced, pipe, command, call, hargs, ok_bind, stages]
  exact bind_pure _

lemma pipe_limit (hx : vars.get x = .ok (.records rs)) (n : Nat) :
    pipe h dot vars (.sliced .limit n x) = .ok (.records (rs.take n)) := by
  rw [pipe_sliced hx]
  rfl

lemma pipe_offset (hx : vars.get x = .ok (.records rs)) (hn : n ≤ rs.length) :
    pipe h dot vars (.sliced .offset n x) = .ok (.records (rs.drop n)) := by
  have hoffset : HostAddr.offset n rs = .ok (rs.drop n) := by
    rw [HostAddr.offset, Int.natAbs_natCast, if_neg (by omega), if_neg (by omega)]
  have happly : Function.offset.apply h [.int n, .records rs] =
      lift ((HostAddr.offset n rs).map .records) := rfl
  rw [pipe_sliced hx, happly, hoffset]
  rfl

/-- One round of a range over records that declares no variable for the index. -/
def recordRound (h : Host) (names : List String) (body : List Node) (s : String × Vars)
    (r : Record) : Except EvalFault (String × Vars) := do
  let inner ← s.2.bindRound false names .nil (.record r)
  let (more, inner) ← nodes h (.record r) inner body
  return (s.1 ++ more, inner.keep s.2.length)

lemma rangeRound_record {names : List String} (hnames : names.length ≤ 1) (p : Pipe)
    (body : List Node) (i : Value) (r : Record) (s : String × Vars) :
    rangeRound h ⟨names, false, p⟩ body i (.record r) s = recordRound h names body s r := by
  rw [rangeRound, Vars.bindRound_index hnames false i .nil]
  rfl

/-- The output that a round finds is left before its own. -/
lemma recordRound_output (names : List String) (body : List Node) (out : String) (vars : Vars)
    (r : Record) :
    recordRound h names body (out, vars) r =
      (recordRound h names body ("", vars) r).map fun (more, last) => (out ++ more, last) := by
  unfold recordRound
  cases vars.bindRound false names .nil (.record r) with
  | error e => rfl
  | ok inner =>
    simp only [ok_bind]
    cases nodes h (.record r) inner body with
    | error e => rfl
    | ok t => simp [Except.map, pure, Except.pure]

lemma foldlM_recordRound_output (names : List String) (body : List Node) (out : String)
    (vars : Vars) (rs : List Record) :
    rs.foldlM (recordRound h names body) (out, vars) =
      (rs.foldlM (recordRound h names body) ("", vars)).map fun (more, last) =>
        (out ++ more, last) := by
  induction rs generalizing out vars with
  | nil => simp [Except.map, pure, Except.pure]
  | cons r rs ih =>
    rw [List.foldlM_cons, List.foldlM_cons, recordRound_output]
    cases recordRound h names body ("", vars) r with
    | error e => rfl
    | ok s =>
      obtain ⟨more, mid⟩ := s
      simp only [Except.map, ok_bind]
      rw [ih (out ++ more), ih more]
      cases rs.foldlM (recordRound h names body) ("", mid) <;>
        simp [Except.map, String.append_assoc]

/-- A range over records goes through them one by one. -/
theorem node_rangeOver {p : Pipe} (hp : pipe h dot vars p = .ok (.records rs))
    {names : List String} (hnames : names.length ≤ 1) (body : List Node) :
    node h dot vars (.rangeOver names p body) =
      rs.foldlM (recordRound h names body) ("", vars) := by
  rw [Node.rangeOver, node_range, hp, ok_bind, Rounds.of, ok_bind]
  cases rs with
  | nil => simp [Rounds.isEmpty, endBlock, nodes, Vars.keep, Except.map, pure, Except.pure]
  | cons r rs =>
    rw [if_neg (by simp [Rounds.isEmpty]), Rounds.list, List.foldlM_map]
    conv_rhs => rw [← List.zipIdx_map_fst 0 (r :: rs), List.foldlM_map]
    simp only [rangeRound_record hnames]

lemma regular_sliced (f : Function) (n : Nat) (x : String) : (Pipe.sliced f n x).Regular := by
  simp [Pipe.sliced, Pipe.Regular, Command.Regular, Call.Regular, Operand.ListRegular,
    Operand.Regular, Call.ListRegular]

lemma regular_rangeOver {p : Pipe} (hp : p.Regular) {names : List String}
    (hnames : names.length ≤ 1) {body : List Node} (hr : Node.ListRegular body) :
    (Node.rangeOver names p body).Regular :=
  ⟨⟨hp, .inl hnames, fun _ => rfl⟩, hr, trivial⟩

/-- A range leaves a variable alone that its body does not assign to, or only to one of the same
name that the range declares. -/
lemma get_after_rangeOver {p : Pipe} (hp : p.Regular) {names : List String}
    (hnames : names.length ≤ 1) {body : List Node} (hr : Node.ListRegular body)
    (hfree : x ∈ Node.listTargets body → x ∈ names) {out : String} {mid : Vars}
    (hrun : node h dot vars (.rangeOver names p body) = .ok (out, mid)) :
    mid.get x = vars.get x := by
  refine (node_grown _ (regular_rangeOver hp hnames hr) hrun).get_eq List.not_mem_nil ?_
  simpa [Node.rangeOver, Node.targets, Node.listTargets, Pipeline.targets, Pipeline.declared]
    using hfree

/-- A range over the records of a variable does what a range over the first of them does and then
one over the others, as long as the rounds do not assign to the variable from within. -/
theorem nodes_rangeOver_split (hx : vars.get x = .ok (.records rs)) (hn : n ≤ rs.length)
    {names : List String} (hnames : names.length ≤ 1) {body : List Node}
    (hr : Node.ListRegular body) (hfree : x ∈ Node.listTargets body → x ∈ names) :
    nodes h dot vars [.rangeOver names (.ofVar x) body] =
      nodes h dot vars [.rangeOver names (.sliced .limit n x) body,
        .rangeOver names (.sliced .offset n x) body] := by
  have hwhole : node h dot vars (.rangeOver names (.ofVar x) body) =
      rs.foldlM (recordRound h names body) ("", vars) :=
    node_rangeOver (pipe_ofVar hx) hnames body
  have hfirst : node h dot vars (.rangeOver names (.sliced .limit n x) body) =
      (rs.take n).foldlM (recordRound h names body) ("", vars) :=
    node_rangeOver (pipe_limit hx n) hnames body
  have hsplit : rs.foldlM (recordRound h names body) ("", vars) =
      (rs.take n).foldlM (recordRound h names body) ("", vars) >>=
        fun s => (rs.drop n).foldlM (recordRound h names body) s := by
    rw [← List.foldlM_append, List.take_append_drop]
  rw [nodes_singleton, nodes_cons, hwhole, hsplit, ← hfirst]
  cases hrun : node h dot vars (.rangeOver names (.sliced .limit n x) body) with
  | error e => rfl
  | ok r =>
    obtain ⟨out, mid⟩ := r
    have hmid : mid.get x = .ok (.records rs) :=
      (get_after_rangeOver (regular_sliced .limit n x) hnames hr hfree hrun).trans hx
    have hsecond : node h dot mid (.rangeOver names (.sliced .offset n x) body) =
        (rs.drop n).foldlM (recordRound h names body) ("", mid) :=
      node_rangeOver (pipe_offset hmid hn) hnames body
    simp only [ok_bind]
    rw [nodes_singleton, hsecond]
    exact foldlM_recordRound_output names body out mid (rs.drop n)

/-- Wherever the variable `x` holds a list, a range over it and a range over its first `n` records
followed by one over the others have the same output and leave the same variables, or fail in the
same way. The body is any part of a tree that is read, and may assign to every other variable. -/
theorem range_limit_offset {items : List Item} {ns body : List Node}
    (hparse : Node.parse items = .ok ns) (hbody : Node.IsPart body ns) {names : List String}
    (hnames : names.length ≤ 1) (hfree : x ∈ Node.listTargets body → x ∈ names)
    (hx : vars.get x = .ok (.records rs)) (hn : n ≤ rs.length) :
    nodes h dot vars [.rangeOver names (.ofVar x) body] =
      nodes h dot vars [.rangeOver names (.sliced .limit n x) body,
        .rangeOver names (.sliced .offset n x) body] :=
  nodes_rangeOver_split hx hn hnames (hbody.regular (Node.fits_of_parse hparse).1) hfree

/-- Two records, of which the body keeps the last in a variable from outside. -/
theorem range_limit_offset_kept :
    ∃ whole halves rest, ∃ rs : List Record, rs.length = 2 ∧
      Node.parse [.action [.var "$k" [], .declare, .int 0],
        .action [.ident "range", .var "$e" [], .declare, .var "$" []],
        .action [.var "$k" [], .assign, .var "$e" []], .text "x", .action [.ident "end"]] =
          .ok (rest :: whole) ∧
      Node.parse [.action [.var "$k" [], .declare, .int 0],
        .action [.ident "range", .var "$e" [], .declare, .ident "limit", .int 1, .var "$" []],
        .action [.var "$k" [], .assign, .var "$e" []], .text "x", .action [.ident "end"],
        .action [.ident "range", .var "$e" [], .declare, .ident "offset", .int 1, .var "$" []],
        .action [.var "$k" [], .assign, .var "$e" []], .text "x", .action [.ident "end"]] =
          .ok (rest :: halves) ∧
      nodes .empty .nil [("$k", .int 0), ("$", .records rs)] whole =
        nodes .empty .nil [("$k", .int 0), ("$", .records rs)] halves := by
  let i : Interface := Device.interface ⟨"eth0", 1, 0, none, 0, []⟩
  let rs : List Record := [⟨.unix ⟨"/a", by decide⟩, i⟩, ⟨.unix ⟨"/b", by decide⟩, i⟩]
  let body : List Node := [.action ⟨["$k"], true, .mk (.value (.var "$e" [])) []⟩, .text "x"]
  have hparse : Node.parse [.action [.var "$k" [], .declare, .int 0],
      .action [.ident "range", .var "$e" [], .declare, .var "$" []],
      .action [.var "$k" [], .assign, .var "$e" []], .text "x", .action [.ident "end"]] =
      .ok [.action ⟨["$k"], false, .mk (.value (.int 0)) []⟩,
        .rangeOver ["$e"] (.ofVar "$") body] := rfl
  have hbody : Node.IsPart body [.action ⟨["$k"], false, .mk (.value (.int 0)) []⟩,
      .rangeOver ["$e"] (.ofVar "$") body] := .body (.tail _ (.head _)) .whole
  have hx : Vars.get [("$k", .int 0), ("$", .records rs)] "$" = .ok (.records rs) := rfl
  refine ⟨_, _, _, rs, rfl, hparse, rfl, ?_⟩
  exact range_limit_offset hparse hbody (n := 1) (by decide) (by decide) hx (by decide)

end Eval

end HostAddr
