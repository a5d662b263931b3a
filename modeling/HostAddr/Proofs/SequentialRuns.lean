import HostAddr.Proofs.BlockScoping

/-!
# Runs in sequence

Nodes that run after others find more variables than they would alone: those that were left to
them, older than their own but newer than `$`. A run that succeeds without these looks up and
assigns to its own variables and `$` alone, so it does the same with them.
-/

namespace HostAddr

namespace Vars

/-- Two stacks that agree, except that the second has `left` before the `n` oldest variables, which
share no name with it. -/
def Inserted (left : Vars) (n : Nat) (a b : Vars) : Prop :=
  ∃ own base, base.length = n ∧ a = own ++ base ∧ b = own ++ (left ++ base) ∧
    ∀ x ∈ base.names, x ∉ left.names

/-- What is found in the first stack is found alike in the second. -/
def Refines (a b : Vars) : Prop :=
  ∀ x, Carries (· = ·) (a.get x) (b.get x)

namespace Inserted

variable {left a b inner inner' : Vars} {n : Nat}

lemma refines (h : Inserted left n a b) : a.Refines b := by
  intro x
  obtain ⟨own, base, -, rfl, rfl, hdisjoint⟩ := h
  by_cases hx : x ∈ own.names
  · rw [get_append_of_mem hx, get_append_of_mem hx]
    exact .refl _
  · rw [get_append hx, get_append hx]
    intro v hv
    rw [get_append (hdisjoint x (mem_names_of_get hv))]
    exact ⟨v, hv, rfl⟩

lemma assign (h : Inserted left n a b) (x : String) (v : Value) :
    Carries (Inserted left n) (a.assign x v) (b.assign x v) := by
  obtain ⟨own, base, rfl, rfl, rfl, hdisjoint⟩ := h
  by_cases hx : x ∈ own.names
  · rw [assign_append_of_mem hx, assign_append_of_mem hx]
    exact (Carries.refl _).map fun own' _ hown => ⟨own', base, rfl, rfl, hown ▸ rfl, hdisjoint⟩
  · rw [assign_append hx, assign_append hx]
    refine Carries.map (R := fun base' rest => Assigned (· = x) base base' ∧ rest = left ++ base')
      (fun base' hbase' => ?_) fun base' rest ⟨hchanged, hrest⟩ =>
        ⟨own, base', hchanged.length_eq, rfl, hrest ▸ rfl, hchanged.names_eq ▸ hdisjoint⟩
    rw [assign_append (hdisjoint x (mem_names_of_assign hbase')), hbase']
    exact ⟨_, rfl, .of_assign hbase', rfl⟩

lemma bind (h : Inserted left n a b) (assigns : Bool) (x : String) (v : Value) :
    Carries (Inserted left n) (a.bind assigns x v) (b.bind assigns x v) := by
  cases assigns with
  | true => exact h.assign x v
  | false =>
    obtain ⟨own, base, hlength, rfl, rfl, hdisjoint⟩ := h
    exact .ok ⟨(x, v) :: own, base, hlength, rfl, rfl, hdisjoint⟩

lemma bindAll (h : Inserted left n a b) (assigns : Bool) (v : Value) (xs : List String) :
    Carries (Inserted left n) (a.bindAll assigns v xs) (b.bindAll assigns v xs) := by
  induction xs generalizing a b with
  | nil => exact .ok h
  | cons x xs ih => exact (h.bind assigns x v).bind fun _ _ hmid => ih hmid

lemma bindRound (h : Inserted left n a b) (assigns : Bool) (xs : List String) (i v : Value) :
    Carries (Inserted left n) (a.bindRound assigns xs i v) (b.bindRound assigns xs i v) := by
  match xs with
  | [] => exact .ok h
  | [x] => exact h.bind assigns x v
  | [x, y] => exact (h.bind assigns x i).bind fun _ _ hmid => hmid.bind assigns y v
  | _ :: _ :: _ :: _ => exact .ok h

/-- The ends of a block agree, if its starts do. -/
lemma keep (h : Inserted left n a b) (hinner : Inserted left n inner inner') :
    Inserted left n (inner.keep a.length) (inner'.keep b.length) := by
  obtain ⟨own, base, hlength, rfl, rfl, -⟩ := h
  obtain ⟨own', base', hlength', rfl, rfl, hdisjoint⟩ := hinner
  refine ⟨own'.drop (own'.length - own.length), base', hlength', ?_, ?_, hdisjoint⟩
  · have hsurplus : (own' ++ base').length - (own ++ base).length = own'.length - own.length := by
      simp only [List.length_append]
      omega
    rw [Vars.keep, hsurplus, List.drop_append_of_le_length (Nat.sub_le _ _)]
  · have hsurplus : (own' ++ (left ++ base')).length - (own ++ (left ++ base)).length =
        own'.length - own.length := by
      simp only [List.length_append]
      omega
    rw [Vars.keep, hsurplus, List.drop_append_of_le_length (Nat.sub_le _ _)]

end Inserted

end Vars

namespace Eval

variable (h : Host) (dot : Value) {vars vars' : Vars}

mutual

theorem operand_carries (hvars : vars.Refines vars') (o : Operand) :
    Carries (· = ·) (operand h dot vars o) (operand h dot vars' o) := by
  match o with
  | .var name fields => exact (hvars name).bind fun v _ hv => hv ▸ .refl _
  | .group p => exact pipe_carries hvars p
  | .func _ | .dot | .field .. | .str _ | .int _ | .bool _ | .nil => exact .refl _

theorem operands_carries (hvars : vars.Refines vars') (os : List Operand) :
    Carries (· = ·) (operands h dot vars os) (operands h dot vars' os) := by
  match os with
  | [] => exact .refl _
  | o :: os =>
    refine (operand_carries hvars o).bind fun v _ hv =>
      (operands_carries hvars os).bind fun vs _ hvs => ?_
    subst hv hvs
    exact .refl _

theorem call_carries (hvars : vars.Refines vars') (piped : List Value) (c : Call) :
    Carries (· = ·) (call h dot vars piped c) (call h dot vars' piped c) := by
  match c with
  | .mk f args => exact (operands_carries hvars args).bind fun vs _ hvs => hvs ▸ .refl _

theorem command_carries (hvars : vars.Refines vars') (c : Command) :
    Carries (· = ·) (command h dot vars c) (command h dot vars' c) := by
  match c with
  | .call c => exact call_carries hvars [] c
  | .value o => exact operand_carries hvars o

theorem stages_carries (hvars : vars.Refines vars') (v : Value) (cs : List Call) :
    Carries (· = ·) (stages h dot vars v cs) (stages h dot vars' v cs) := by
  match cs with
  | [] => exact .refl _
  | c :: cs => exact (call_carries hvars [v] c).bind fun w _ hw => hw ▸ stages_carries hvars w cs

theorem pipe_carries (hvars : vars.Refines vars') (p : Pipe) :
    Carries (· = ·) (pipe h dot vars p) (pipe h dot vars' p) := by
  match p with
  | .mk first rest =>
    exact (command_carries hvars first).bind fun v _ hv => hv ▸ stages_carries hvars v rest

end

variable {left : Vars} {k : Nat}

/-- Two runs with the same result, a value or an output, and stacks that agree. -/
private abbrev Agree {α : Type} (left : Vars) (k : Nat) (r r' : α × Vars) : Prop :=
  r.1 = r'.1 ∧ Vars.Inserted left k r.2 r'.2

lemma pipeline_carries (hvars : Vars.Inserted left k vars vars') (p : Pipeline) :
    Carries (Agree left k) (pipeline h dot vars p) (pipeline h dot vars' p) := by
  refine (pipe_carries h dot hvars.refines p.pipe).bind fun v _ hv => ?_
  subst hv
  exact (hvars.bindAll p.assigns v p.names).bind fun _ _ hbound => .ok ⟨rfl, hbound⟩

lemma endBlock_carries (hvars : Vars.Inserted left k vars vars')
    {r r' : Except EvalFault (String × Vars)} (hr : Carries (Agree left k) r r') :
    Carries (Agree left k) (endBlock vars r) (endBlock vars' r') :=
  hr.map fun _ _ ⟨hout, hinner⟩ => ⟨hout, hvars.keep hinner⟩

mutual

/-- What a node does, it does with more variables below its own. -/
theorem node_carries (dot : Value) {vars vars' : Vars} (n : Node)
    (hvars : Vars.Inserted left k vars vars') :
    Carries (Agree left k) (node h dot vars n) (node h dot vars' n) := by
  match n with
  | .text t => exact .ok ⟨rfl, hvars⟩
  | .action p =>
    refine (pipeline_carries h dot hvars p).bind fun (v, mid) (w, mid') ⟨hv, hmid⟩ => ?_
    obtain rfl : v = w := hv
    exact .ok ⟨rfl, hmid⟩
  | .block kind header body otherwise =>
    by_cases hkind : kind = .rangeBlock
    · subst hkind
      rw [node_range, node_range]
      refine (pipe_carries h dot hvars.refines header.pipe).bind fun v _ hv => ?_
      subst hv
      refine (Carries.refl _).bind fun rounds _ hrounds => ?_
      subst hrounds
      split
      · exact endBlock_carries hvars (nodes_carries dot otherwise hvars)
      · refine Carries.foldlM (fun s t (i, w) ⟨hout, hnow⟩ => ?_) rounds.list ⟨rfl, hvars⟩
        refine (hnow.bindRound header.assigns header.names i w).bind fun _ _ hinner => ?_
        refine (nodes_carries w body hinner).bind fun (more, last) (more', last') hagree => ?_
        obtain ⟨hmore, hlast⟩ : more = more' ∧ Vars.Inserted left k last last' := hagree
        exact .ok ⟨congrArg₂ (· ++ ·) hout hmore, hnow.keep hlast⟩
    · rw [node_branch h hkind, node_branch h hkind]
      refine (pipeline_carries h dot hvars header).bind
        fun (v, inner) (w, inner') ⟨hv, hinner⟩ => ?_
      obtain rfl : v = w := hv
      dsimp only
      split
      · exact endBlock_carries hvars (nodes_carries _ body hinner)
      · exact endBlock_carries hvars (nodes_carries dot otherwise hinner)

theorem nodes_carries (dot : Value) {vars vars' : Vars} (ns : List Node)
    (hvars : Vars.Inserted left k vars vars') :
    Carries (Agree left k) (nodes h dot vars ns) (nodes h dot vars' ns) := by
  match ns with
  | [] => exact .ok ⟨rfl, hvars⟩
  | n :: ns =>
    rw [nodes_cons, nodes_cons]
    refine (node_carries dot n hvars).bind fun (out, mid) (out', mid') ⟨hout, hmid⟩ => ?_
    exact (nodes_carries dot ns hmid).map fun (more, last) (more', last') ⟨hmore, hlast⟩ =>
      ⟨congrArg₂ (· ++ ·) hout hmore, hlast⟩

end

end Eval

namespace Template

/-- Nodes that bind `$` nowhere leave it as it was, below what they declare. -/
lemma exists_left_of_run {ns : List Node} (hr : Node.ListRegular ns)
    (hroot : "$" ∉ Node.listBound ns) {h : Host} {dot : Value} {out : String} {vars : Vars}
    (hrun : Eval.nodes h dot [("$", dot)] ns = .ok (out, vars)) :
    ∃ left : Vars, vars = left ++ [("$", dot)] ∧ "$" ∉ left.names := by
  obtain ⟨left, older, rfl, hnames, holder⟩ := Eval.nodes_grown ns hr hrun
  refine ⟨left, ?_, ?_⟩
  · cases holder with
    | cons hvalue htail =>
      cases htail
      obtain rfl := hvalue.resolve_left fun htarget =>
        hroot (Node.listTargets_subset_bound ns htarget)
      rfl
  · rw [hnames, List.mem_reverse]
    exact fun hdeclared => hroot (Node.listDeclared_subset_bound ns hdeclared)

/-- Nodes that run after others give the output that they give alone, whatever variables the others
have left to them, as long as these bind `$` nowhere; and a failure of the others ends the run. -/
theorem run_append {items : List Item} {ns : List Node} (hparse : Node.parse items = .ok ns)
    (hroot : "$" ∉ Node.listBound ns) (h : Host) (dot : Value) (ms : List Node) :
    (∀ out more, run h dot ns = .ok out → run h dot ms = .ok more →
      run h dot (ns ++ ms) = .ok (out ++ more)) ∧
    ∀ e, run h dot ns = .error e → run h dot (ns ++ ms) = .error e := by
  obtain ⟨hregular, -⟩ := Node.fits_of_parse hparse
  constructor
  · intro out more hout hmore
    obtain ⟨⟨_, mid⟩, hns, rfl⟩ := map_eq_ok_iff.1 hout
    obtain ⟨⟨_, last⟩, hms, rfl⟩ := map_eq_ok_iff.1 hmore
    obtain ⟨left, rfl, hleft⟩ := exists_left_of_run hregular hroot hns
    have hinserted : Vars.Inserted left 1 [("$", dot)] (left ++ [("$", dot)]) :=
      ⟨[], [("$", dot)], rfl, rfl, rfl, by simpa [Vars.names] using hleft⟩
    obtain ⟨⟨_, last'⟩, hafter, rfl, -⟩ := Eval.nodes_carries h dot ms hinserted _ hms
    rw [run, Eval.nodes_append, hns, ok_bind]
    dsimp only
    rw [hafter]
    rfl
  · intro e he
    have hns : Eval.nodes h dot [("$", dot)] ns = .error e := map_eq_error_iff.1 he
    rw [run, Eval.nodes_append, hns, error_bind]
    rfl

/-- A variable that was left over has the name of one that is declared and assigned to. -/
theorem run_append_shadowed :
    ∃ ns ms, Node.parse [.action [.var "$x" [], .declare, .int 1], .text "a"] = .ok ns ∧
      run .empty .nil ns = .ok "a" ∧ run .empty .nil ms = .ok "3" ∧
      run .empty .nil (ns ++ ms) = .ok ("a" ++ "3") ∧
      ∃ ns', Node.parse [.action [.ident "len", .int 1]] = .ok ns' ∧
        run .empty .nil (ns' ++ ms) = .error (.noLength .int) := by
  let ms : List Node := [.action ⟨["$x"], false, .mk (.value (.int 2)) []⟩,
    .block .ifBlock ⟨[], false, .mk (.value (.var "$x" [])) []⟩
      [.action ⟨["$x"], true, .mk (.value (.int 3)) []⟩] [],
    .action ⟨[], false, .mk (.value (.var "$x" [])) []⟩]
  have hparse : Node.parse [.action [.var "$x" [], .declare, .int 1], .text "a"] =
      .ok [.action ⟨["$x"], false, .mk (.value (.int 1)) []⟩, .text "a"] := rfl
  have hfails : Node.parse [.action [.ident "len", .int 1]] =
      .ok [.action ⟨[], false, .mk (.call (.mk .len [.int 1])) []⟩] := rfl
  have hfirst : run .empty .nil [.action ⟨["$x"], false, .mk (.value (.int 1)) []⟩, .text "a"] =
      .ok "a" := by decide +kernel
  have hsecond : run .empty .nil ms = .ok "3" := by decide +kernel
  refine ⟨_, ms, hparse, hfirst, hsecond, ?_, _, hfails, ?_⟩
  · exact (run_append hparse (by decide) .empty .nil ms).1 _ _ hfirst hsecond
  · exact (run_append hfails (by decide) .empty .nil ms).2 _ (by decide +kernel)

end Template

end HostAddr
