import HostAddr.Proofs.FunctionFaults
import HostAddr.Proofs.NodeRuns
import HostAddr.Proofs.TreeScope
import HostAddr.Template.Render

/-!
# Variables of a run

The variables of a run carry the names that are in sight, in the same order: running a node leaves
the names that are in sight after it, and no lookup or assignment fails as long as the variables of
the tree are in sight where it runs. An `else` part runs without the variables of the body.
-/

namespace HostAddr

namespace Vars

def names (vars : Vars) : Scope :=
  vars.map Prod.fst

@[simp] lemma names_cons (x : String) (v : Value) (vars : Vars) :
    names ((x, v) :: vars) = x :: names vars := rfl

/-- A lookup fails exactly where the name is out of sight. -/
lemma get_of_mem {vars : Vars} {x : String} (h : x ∈ vars.names) : ∃ v, vars.get x = .ok v := by
  induction vars with
  | nil => simp [names] at h
  | cons entry vars ih =>
    obtain ⟨y, w⟩ := entry
    by_cases hxy : x = y
    · exact ⟨w, by simp [get, hxy]⟩
    · obtain ⟨v, hv⟩ := ih (by simpa [hxy] using h)
      have hbeq : (x == y) = false := by simpa using hxy
      refine ⟨v, ?_⟩
      rw [← hv]
      simp [get, List.lookup_cons, hbeq]

lemma get_of_not_mem {vars : Vars} {x : String} (h : x ∉ vars.names) :
    vars.get x = .error (.undefinedVariable x) := by
  have hlookup : vars.lookup x = none := by
    rw [List.lookup_eq_none_iff]
    intro entry hentry
    rw [bne_iff_ne]
    rintro rfl
    exact h (List.mem_map_of_mem hentry)
  simp [get, hlookup]

lemma assign_of_mem {vars : Vars} {x : String} (v : Value) (h : x ∈ vars.names) :
    ∃ vars', vars.assign x v = .ok vars' ∧ vars'.names = vars.names := by
  induction vars with
  | nil => simp [names] at h
  | cons entry vars ih =>
    obtain ⟨y, w⟩ := entry
    by_cases hyx : y = x
    · exact ⟨(x, v) :: vars, by simp [assign, hyx], by simp [hyx]⟩
    · obtain ⟨vars', hassign, hnames⟩ := ih (by simpa [Ne.symm hyx] using h)
      exact ⟨(y, w) :: vars', by simp [assign, hyx, hassign, Except.map], by simp [hnames]⟩

lemma assign_of_not_mem {vars : Vars} {x : String} (v : Value) (h : x ∉ vars.names) :
    vars.assign x v = .error (.undefinedVariable x) := by
  induction vars with
  | nil => rfl
  | cons entry vars ih =>
    obtain ⟨y, w⟩ := entry
    simp only [names_cons, List.mem_cons, not_or] at h
    simp [assign, Ne.symm h.1, ih h.2, Except.map]

/-- One binding adds its name, or changes no name when it assigns. -/
lemma bind_names {vars : Vars} (assigns : Bool) (x : String) (v : Value)
    (h : assigns = true → x ∈ vars.names) :
    ∃ vars', vars.bind assigns x v = .ok vars' ∧
      vars'.names = if assigns then vars.names else x :: vars.names := by
  cases assigns with
  | false => exact ⟨(x, v) :: vars, rfl, rfl⟩
  | true => exact assign_of_mem v (h rfl)

lemma bindAll_names (assigns : Bool) (v : Value) (xs : List String) {vars : Vars}
    (h : assigns = true → ∀ x ∈ xs, x ∈ vars.names) :
    ∃ vars', vars.bindAll assigns v xs = .ok vars' ∧
      vars'.names = if assigns then vars.names else xs.reverse ++ vars.names := by
  induction xs generalizing vars with
  | nil => exact ⟨vars, rfl, by simp⟩
  | cons x xs ih =>
    obtain ⟨mid, hmid, hnames⟩ := bind_names assigns x v fun ha => h ha x (by simp)
    have hrest : assigns = true → ∀ y ∈ xs, y ∈ mid.names := fun ha y hy => by
      rw [hnames, if_pos ha]
      exact h ha y (by simp [hy])
    obtain ⟨vars', hvars', hnames'⟩ := ih hrest
    refine ⟨vars', by rw [bindAll, hmid, ok_bind, hvars'], ?_⟩
    rw [hnames', hnames]
    cases assigns <;> simp

/-- A round binds all names of a header that has at most two. -/
lemma bindRound_names (assigns : Bool) {xs : List String} (i v : Value) (vars : Vars)
    (hlength : xs.length ≤ 2) (h : assigns = true → ∀ x ∈ xs, x ∈ vars.names) :
    ∃ vars', vars.bindRound assigns xs i v = .ok vars' ∧
      vars'.names = if assigns then vars.names else xs.reverse ++ vars.names := by
  match xs with
  | [] => exact ⟨vars, rfl, by simp⟩
  | [x] => exact bind_names assigns x v fun ha => h ha x (by simp)
  | [x, y] =>
    obtain ⟨mid, hmid, hnames⟩ := bind_names assigns x i fun ha => h ha x (by simp)
    have hrest : assigns = true → y ∈ mid.names := fun ha => by
      rw [hnames, if_pos ha]
      exact h ha y (by simp)
    obtain ⟨vars', hvars', hnames'⟩ := bind_names assigns y v hrest
    refine ⟨vars', by rw [bindRound, hmid, ok_bind, hvars'], ?_⟩
    rw [hnames', hnames]
    cases assigns <;> simp
  | x :: y :: z :: xs => simp at hlength

/-- The variables that were there before a block stay when its own are forgotten. -/
lemma keep_names {vars inner : Vars} (h : vars.names <:+ inner.names) :
    (inner.keep vars.length).names = vars.names := by
  obtain ⟨own, hown⟩ := h
  have hlength : inner.length - vars.length = own.length := by
    have := congrArg List.length hown
    simp only [names, List.length_append, List.length_map] at this
    omega
  rw [keep, hlength, names, List.map_drop]
  change inner.names.drop own.length = vars.names
  rw [← hown, List.drop_left]

end Vars

namespace Eval

variable (h : Host) (dot : Value) (vars : Vars)

mutual

theorem neverUnbound_operand (o : Operand) (hv : ∀ x ∈ o.vars, x ∈ vars.names) :
    NeverUnbound (operand h dot vars o) := by
  match o with
  | .func f => exact f.neverUnbound_apply h []
  | .field first more => exact dot.neverUnbound_fieldChain (first :: more)
  | .var name fields =>
    obtain ⟨v, hget⟩ := Vars.get_of_mem (hv name (by simp [Operand.vars]))
    rw [operand, hget, ok_bind]
    exact v.neverUnbound_fieldChain fields
  | .group p => exact neverUnbound_pipe p hv
  | .dot | .str _ | .int _ | .bool _ | .nil => trivial

theorem neverUnbound_operands (os : List Operand)
    (hv : ∀ x ∈ Operand.listVars os, x ∈ vars.names) :
    NeverUnbound (operands h dot vars os) := by
  match os with
  | [] => trivial
  | o :: os =>
    simp only [Operand.listVars, List.mem_append] at hv
    exact (neverUnbound_operand o fun x hx => hv x (.inl hx)).bind fun _ _ =>
      (neverUnbound_operands os fun x hx => hv x (.inr hx)).bind fun _ _ => trivial

theorem neverUnbound_call (piped : List Value) (c : Call) (hv : ∀ x ∈ c.vars, x ∈ vars.names) :
    NeverUnbound (call h dot vars piped c) := by
  match c with
  | .mk f args =>
    exact (neverUnbound_operands args hv).bind fun vs _ => f.neverUnbound_apply h (vs ++ piped)

theorem neverUnbound_command (c : Command) (hv : ∀ x ∈ c.vars, x ∈ vars.names) :
    NeverUnbound (command h dot vars c) := by
  match c with
  | .call c => exact neverUnbound_call [] c hv
  | .value o => exact neverUnbound_operand o hv

theorem neverUnbound_stages (v : Value) (cs : List Call)
    (hv : ∀ x ∈ Call.listVars cs, x ∈ vars.names) :
    NeverUnbound (stages h dot vars v cs) := by
  match cs with
  | [] => trivial
  | c :: cs =>
    simp only [Call.listVars, List.mem_append] at hv
    exact (neverUnbound_call [v] c fun x hx => hv x (.inl hx)).bind fun w _ =>
      neverUnbound_stages w cs fun x hx => hv x (.inr hx)

theorem neverUnbound_pipe (p : Pipe) (hv : ∀ x ∈ p.vars, x ∈ vars.names) :
    NeverUnbound (pipe h dot vars p) := by
  match p with
  | .mk first rest =>
    simp only [Pipe.vars, List.mem_append] at hv
    exact (neverUnbound_command first fun x hx => hv x (.inl hx)).bind fun v _ =>
      neverUnbound_stages v rest fun x hx => hv x (.inr hx)

end

variable {vars}

/-- A pipeline leaves the names that are in sight after it. -/
lemma wellBound_pipeline {p : Pipeline} (hp : p.Scoped vars.names) :
    WellBound (fun r => r.2.names = p.scopeAfter vars.names) (pipeline h dot vars p) := by
  refine (neverUnbound_pipe h dot vars p.pipe hp.vars).bind fun v _ => ?_
  obtain ⟨vars', hvars', hnames⟩ := Vars.bindAll_names p.assigns v p.names hp.targets
  rw [hvars', ok_bind]
  exact hnames

lemma Rounds.neverUnbound_of (v : Value) : NeverUnbound (Rounds.of v) := by
  cases v <;> simp [Rounds.of, NeverUnbound]

/-- The names that a node leaves are `scope`. -/
private abbrev Leaves (scope : Scope) (r : String × Vars) : Prop :=
  r.2.names = scope

/-- The end of a block forgets the variables of the part that ran. -/
private lemma leaves_endBlock {scope : Scope} {r : Except EvalFault (String × Vars)}
    (hsuffix : vars.names <:+ scope) (hr : WellBound (Leaves scope) r) :
    WellBound (Leaves vars.names) (endBlock vars r) := by
  refine hr.map fun (_, inner) hleaves => ?_
  have hinner : inner.names = scope := hleaves
  exact Vars.keep_names (hinner ▸ hsuffix)

/-- Every round of a range starts with the names before the range and leaves them. -/
private lemma leaves_rangeRound {header : Pipeline} {body : List Node}
    (hr : header.names.length ≤ 2) (hs : header.Scoped vars.names) (i v : Value) (s : String × Vars)
    (hbefore : Leaves vars.names s)
    (hbody : ∀ inner : Vars, inner.names = header.scopeAfter vars.names →
      WellBound (Leaves (Node.listScopeAfter inner.names body)) (nodes h v inner body)) :
    WellBound (Leaves vars.names) (rangeRound h header body i v s) := by
  obtain ⟨out, now⟩ := s
  have hnow : now.names = vars.names := hbefore
  obtain ⟨inner, hbind, hnames⟩ :=
    Vars.bindRound_names header.assigns i v now hr (hnow ▸ hs.targets)
  have hinner : inner.names = header.scopeAfter vars.names := by
    rw [hnames, hnow]
    rfl
  rw [rangeRound, hbind, ok_bind]
  refine (hbody inner hinner).bind fun (more, last) hleaves => ?_
  have hlast : last.names = Node.listScopeAfter (header.scopeAfter vars.names) body := by
    rw [← hinner]
    exact hleaves
  have hsuffix : now.names <:+ last.names := by
    rw [hnow, hlast]
    exact (header.suffix_scopeAfter vars.names).trans (Node.suffix_listScopeAfter _ body)
  exact (Vars.keep_names hsuffix).trans hnow

mutual

/-- A node whose variables are in sight where it runs leaves the names in sight after it. -/
theorem wellBound_node (dot : Value) {vars : Vars} (n : Node) (hr : n.Regular)
    (hs : n.Scoped .running vars.names) :
    WellBound (Leaves (n.scopeAfter vars.names)) (node h dot vars n) := by
  match n with
  | .text t => rfl
  | .action p => exact (wellBound_pipeline h dot hs).bind fun _ hnames => hnames
  | .block kind header body otherwise =>
    obtain ⟨hheader, hbody, helse⟩ := hs
    by_cases hkind : kind = .rangeBlock
    · subst hkind
      rw [node_range]
      refine (neverUnbound_pipe h dot vars header.pipe hheader.vars).bind fun v _ =>
        (Rounds.neverUnbound_of v).bind fun rounds _ => ?_
      split
      · exact leaves_endBlock (Node.suffix_listScopeAfter _ otherwise)
          (wellBound_nodes dot otherwise hr.2.2 helse)
      · refine WellBound.foldlM (fun s (i, v) hbefore => ?_) rounds.list rfl
        exact leaves_rangeRound h hr.1.length_names hheader i v s hbefore fun inner hinner =>
          wellBound_nodes v body hr.2.1 (hinner ▸ hbody)
    · have hsuffix := header.suffix_scopeAfter vars.names
      rw [ElseRule.running_of_ne hkind] at helse
      rw [node_branch h hkind]
      refine (wellBound_pipeline h dot hheader).bind fun (v, inner) hinner => ?_
      dsimp only at hinner ⊢
      split
      · exact leaves_endBlock (hsuffix.trans (Node.suffix_listScopeAfter _ body))
          (hinner ▸ wellBound_nodes _ body hr.2.1 (hinner ▸ hbody))
      · exact leaves_endBlock (hsuffix.trans (Node.suffix_listScopeAfter _ otherwise))
          (hinner ▸ wellBound_nodes dot otherwise hr.2.2 (hinner ▸ helse))

theorem wellBound_nodes (dot : Value) {vars : Vars} (ns : List Node) (hr : Node.ListRegular ns)
    (hs : Node.ListScoped .running vars.names ns) :
    WellBound (Leaves (Node.listScopeAfter vars.names ns)) (nodes h dot vars ns) := by
  match ns with
  | [] => rfl
  | n :: ns =>
    rw [nodes_cons]
    refine (wellBound_node dot n hr.1 hs.1).bind fun (out, mid) hleaves => ?_
    have hmid : mid.names = n.scopeAfter vars.names := hleaves
    have hs' : Node.ListScoped .running mid.names ns := hmid ▸ hs.2
    have htail := wellBound_nodes dot ns hr.2 hs'
    rw [hmid] at htail
    exact htail.map fun _ hnames => hnames

end

end Eval

/-- A regular tree whose variables are in sight where they are used never runs without one. -/
theorem Template.run_ne_undefinedVariable {ns : List Node} (hr : Node.ListRegular ns)
    (hs : Node.ListScoped .running ["$"] ns) (h : Host) (dot : Value) (x : String) :
    Template.run h dot ns ≠ .error (.undefinedVariable x) := by
  let start : Vars := [("$", dot)]
  have hs' : Node.ListScoped .running start.names ns := hs
  have hrun := Eval.wellBound_nodes h dot ns hr hs'
  exact (hrun.map (Q := fun _ => True) fun _ _ => trivial).ne_error x

end HostAddr
