import HostAddr.Proofs.TreeOutline

/-!
# Runs of steered trees

A steered tree runs to its end as long as its variables are in sight where it runs. Where they are
not, some tree of the same outline runs into the first variable that is missing, whatever the host
and the dot. Together these say when the variables of a template that was read are safe.
-/

namespace HostAddr

namespace Vars

/-- The first binding whose name is out of sight fails. -/
lemma bindAll_of_not_mem {scope : Scope} {xs : List String} (hx : ∃ x ∈ xs, x ∉ scope) :
    ∃ x, ∀ (v : Value) (vars : Vars), vars.names = scope →
      vars.bindAll true v xs = .error (.undefinedVariable x) := by
  induction xs with
  | nil => simp at hx
  | cons y ys ih =>
    by_cases hy : y ∈ scope
    · obtain ⟨x, hfail⟩ := ih (by simpa [hy] using hx)
      refine ⟨x, fun v vars hnames => ?_⟩
      obtain ⟨vars', hvars', hnames'⟩ := assign_of_mem v (hnames ▸ hy)
      have hbind : vars.bind true y v = .ok vars' := hvars'
      rw [bindAll, hbind, ok_bind, hfail v vars' (hnames'.trans hnames)]
    · refine ⟨y, fun v vars hnames => ?_⟩
      have hbind : vars.bind true y v = .error (.undefinedVariable y) :=
        assign_of_not_mem v (hnames ▸ hy)
      rw [bindAll, hbind, error_bind]

lemma bindRound_of_not_mem {scope : Scope} {xs : List String} (hlength : xs.length ≤ 2)
    (hx : ∃ x ∈ xs, x ∉ scope) :
    ∃ x, ∀ (i v : Value) (vars : Vars), vars.names = scope →
      vars.bindRound true xs i v = .error (.undefinedVariable x) := by
  match xs with
  | [] => simp at hx
  | [y] =>
    refine ⟨y, fun i v vars hnames => assign_of_not_mem v ?_⟩
    rw [hnames]
    simpa using hx
  | [y, z] =>
    by_cases hy : y ∈ scope
    · have hz : z ∉ scope := by simpa [hy] using hx
      refine ⟨z, fun i v vars hnames => ?_⟩
      obtain ⟨vars', hvars', hnames'⟩ := assign_of_mem i (hnames ▸ hy)
      have hbind : vars.bind true y i = .ok vars' := hvars'
      rw [bindRound, hbind, ok_bind]
      exact assign_of_not_mem v (by rwa [hnames', hnames])
    · refine ⟨y, fun i v vars hnames => ?_⟩
      have hbind : vars.bind true y i = .error (.undefinedVariable y) :=
        assign_of_not_mem i (hnames ▸ hy)
      rw [bindRound, hbind, error_bind]
  | y :: z :: w :: xs => simp at hlength

end Vars

namespace Eval

/-- The number that a steered pipeline comes to. -/
def steered (taken : Bool) : Value :=
  .int (if taken then 1 else 0)

@[simp] lemma isTrue_steered (taken : Bool) : (steered taken).isTrue = taken := by
  cases taken <;> rfl

section Pipelines

variable (h : Host) (dot : Value) {vars : Vars}

lemma operands_lookups {xs : List String} (hx : ∀ x ∈ xs, x ∈ vars.names) :
    ∃ vs, operands h dot vars (xs.map (.var · [])) = .ok vs := by
  induction xs with
  | nil => exact ⟨[], rfl⟩
  | cons x xs ih =>
    obtain ⟨v, hv⟩ := Vars.get_of_mem (hx x (by simp))
    obtain ⟨vs, hvs⟩ := ih fun y hy => hx y (by simp [hy])
    refine ⟨v :: vs, ?_⟩
    rw [List.map_cons, operands, operand, hv, hvs]
    rfl

lemma pipe_steer (taken : Bool) {p : Pipe} (hp : ∀ x ∈ p.vars, x ∈ vars.names) :
    pipe h dot vars (p.steer taken) = .ok (steered taken) := by
  obtain ⟨vs, hvs⟩ := operands_lookups h dot hp
  rw [Pipe.steer, pipe, Pipe.lookups, command, call, hvs]
  cases taken <;> rfl

lemma pipeline_steer (taken : Bool) {p : Pipeline} (hp : p.Scoped vars.names) :
    ∃ vars', pipeline h dot vars (p.steer taken) = .ok (steered taken, vars') ∧
      vars'.names = p.scopeAfter vars.names := by
  obtain ⟨vars', hvars', hnames⟩ :=
    Vars.bindAll_names p.assigns (steered taken) p.names hp.targets
  refine ⟨vars', ?_, hnames⟩
  have hpipe : pipe h dot vars (p.steer taken).pipe = .ok (steered taken) :=
    pipe_steer h dot taken hp.vars
  have hbind : vars.bindAll (p.steer taken).assigns (steered taken) (p.steer taken).names =
      .ok vars' := hvars'
  rw [pipeline, hpipe, ok_bind, hbind]
  rfl

end Pipelines

lemma operands_lookups_of_not_mem {scope : Scope} {xs : List String} (hx : ∃ x ∈ xs, x ∉ scope) :
    ∃ x, ∀ (h : Host) (dot : Value) (vars : Vars), vars.names = scope →
      operands h dot vars (xs.map (.var · [])) = .error (.undefinedVariable x) := by
  induction xs with
  | nil => simp at hx
  | cons y ys ih =>
    by_cases hy : y ∈ scope
    · obtain ⟨x, hfail⟩ := ih (by simpa [hy] using hx)
      refine ⟨x, fun h dot vars hnames => ?_⟩
      obtain ⟨v, hv⟩ := Vars.get_of_mem (hnames ▸ hy)
      rw [List.map_cons, operands, operand, hv, hfail h dot vars hnames]
      rfl
    · refine ⟨y, fun h dot vars hnames => ?_⟩
      have hget : vars.get y = .error (.undefinedVariable y) :=
        Vars.get_of_not_mem (hnames ▸ hy)
      rw [List.map_cons, operands, operand, hget]
      rfl

lemma pipe_steer_of_not_mem {scope : Scope} {p : Pipe} (hp : ∃ x ∈ p.vars, x ∉ scope) :
    ∃ x, ∀ (taken : Bool) (h : Host) (dot : Value) (vars : Vars), vars.names = scope →
      pipe h dot vars (p.steer taken) = .error (.undefinedVariable x) := by
  obtain ⟨x, hfail⟩ := operands_lookups_of_not_mem hp
  refine ⟨x, fun taken h dot vars hnames => ?_⟩
  rw [Pipe.steer, pipe, Pipe.lookups, command, call, hfail h dot vars hnames]
  rfl

lemma pipeline_steer_of_not_scoped {scope : Scope} {p : Pipeline} (hp : ¬ p.Scoped scope) :
    ∃ x, ∀ (taken : Bool) (h : Host) (dot : Value) (vars : Vars), vars.names = scope →
      pipeline h dot vars (p.steer taken) = .error (.undefinedVariable x) := by
  by_cases hvars : ∀ x ∈ p.pipe.vars, x ∈ scope
  · have htargets : ¬ (p.assigns = true → ∀ x ∈ p.names, x ∈ scope) := fun ht => hp ⟨hvars, ht⟩
    push Not at htargets
    obtain ⟨hassigns, htargets⟩ := htargets
    obtain ⟨x, hfail⟩ := Vars.bindAll_of_not_mem htargets
    refine ⟨x, fun taken h dot vars hnames => ?_⟩
    have hpipe : pipe h dot vars (p.steer taken).pipe = .ok (steered taken) :=
      pipe_steer h dot taken (hnames ▸ hvars)
    have hbind : vars.bindAll (p.steer taken).assigns (steered taken) (p.steer taken).names =
        .error (.undefinedVariable x) := by
      rw [← hfail (steered taken) vars hnames, ← hassigns]
      rfl
    rw [pipeline, hpipe, ok_bind, hbind]
    rfl
  · push Not at hvars
    obtain ⟨x, hfail⟩ := pipe_steer_of_not_mem hvars
    refine ⟨x, fun taken h dot vars hnames => ?_⟩
    have hpipe : pipe h dot vars (p.steer taken).pipe = .error (.undefinedVariable x) :=
      hfail taken h dot vars hnames
    rw [pipeline, hpipe]
    rfl

/-- A range that is taken has one round. -/
lemma node_range_taken (h : Host) (dot : Value) {vars : Vars} {header : Pipeline}
    {body otherwise : List Node} (hs : ∀ x ∈ header.pipe.vars, x ∈ vars.names) :
    node h dot vars (.block .rangeBlock (header.steer true) body otherwise) =
      rangeRound h header body (.int 0) (.int 0) ("", vars) := by
  have hpipe : pipe h dot vars (header.steer true).pipe = .ok (steered true) :=
    pipe_steer h dot true hs
  have hrounds : Rounds.of (steered true) = .ok (.count 1) := rfl
  rw [node_range, hpipe, ok_bind, hrounds, ok_bind, if_neg (by decide)]
  change (rangeRound h header body (.int 0) (.int 0) ("", vars) >>= pure) = _
  rw [bind_pure]

/-- A steered branch takes its body or not. -/
lemma node_branch_steer {h : Host} {dot : Value} {vars inner : Vars} {kind : BlockKind}
    (hkind : kind ≠ .rangeBlock) {taken : Bool} {header : Pipeline}
    (hheader : pipeline h dot vars (header.steer taken) = .ok (steered taken, inner))
    {body otherwise : List Node} :
    node h dot vars (.block kind (header.steer taken) body otherwise) =
      endBlock vars (if taken then nodes h (kind.bodyDot dot (steered taken)) inner body
        else nodes h dot inner otherwise) := by
  rw [node_branch h hkind, hheader, ok_bind]
  dsimp only
  rw [isTrue_steered]

mutual

/-- A steered node whose variables are in sight runs to its end. -/
theorem node_steer (h : Host) (dot : Value) {vars : Vars} (n : Node) (hr : n.Regular)
    (hs : n.Scoped .running vars.names) : ∃ r, node h dot vars n.steer = .ok r := by
  match n with
  | .text t => exact ⟨(t, vars), rfl⟩
  | .action p =>
    obtain ⟨vars', hp, -⟩ := pipeline_steer h dot true hs
    exact ⟨_, by rw [Node.steer, node, hp]; rfl⟩
  | .block kind header body otherwise =>
    by_cases hkind : kind = .rangeBlock
    · subst hkind
      obtain ⟨inner, hbind, hnames⟩ := Vars.bindRound_names header.assigns (.int 0) (.int 0) vars
        hr.1.length_names hs.1.targets
      have hinner : inner.names = header.scopeAfter vars.names := hnames
      obtain ⟨r, hbody⟩ := nodes_steer h (.int 0) body hr.2.1 (hinner ▸ hs.2.1)
      refine ⟨("" ++ r.1, r.2.keep vars.length), ?_⟩
      rw [Node.steer, node_range_taken h dot hs.1.vars, rangeRound, hbind, ok_bind, hbody]
      rfl
    · obtain ⟨inner, hheader, hinner⟩ := pipeline_steer h dot true hs.1
      obtain ⟨r, hbody⟩ := nodes_steer h (kind.bodyDot dot (steered true)) body hr.2.1
        (hinner ▸ hs.2.1)
      refine ⟨(r.1, r.2.keep vars.length), ?_⟩
      rw [Node.steer, node_branch_steer hkind hheader, if_pos rfl, hbody]
      rfl

theorem nodes_steer (h : Host) (dot : Value) {vars : Vars} (ns : List Node)
    (hr : Node.ListRegular ns) (hs : Node.ListScoped .running vars.names ns) :
    ∃ r, nodes h dot vars (Node.listSteer ns) = .ok r := by
  match ns with
  | [] => exact ⟨("", vars), rfl⟩
  | n :: ns =>
    obtain ⟨⟨out, mid⟩, hnode⟩ := node_steer h dot n hr.1 hs.1
    have hmid : mid.names = n.scopeAfter vars.names := by
      rw [← Node.scopeAfter_steer]
      exact (wellBound_node h dot n.steer hr.1.steer (Node.scoped_steer.2 hs.1)).of_ok hnode
    obtain ⟨r, hnodes⟩ := nodes_steer h dot ns hr.2 (hmid ▸ hs.2)
    refine ⟨(out ++ r.1, r.2), ?_⟩
    rw [Node.listSteer, nodes_cons, hnode, ok_bind]
    dsimp only
    rw [hnodes]
    rfl

end

/-- Wherever the names in sight are `scope`, running the nodes fails for want of `x`. -/
def Stuck (scope : Scope) (ns : List Node) (x : String) : Prop :=
  ∀ (h : Host) (dot : Value) (vars : Vars), vars.names = scope →
    nodes h dot vars ns = .error (.undefinedVariable x)

/-- The header of a block that looks a variable up, or assigns to one, out of sight. -/
lemma node_header_stuck {scope : Scope} {kind : BlockKind} {header : Pipeline}
    (body otherwise : List Node) (hr : header.Regular (.header kind))
    (hs : ¬ header.Scoped scope) :
    ∃ x, ∀ (h : Host) (dot : Value) (vars : Vars), vars.names = scope →
      node h dot vars (.block kind (header.steer true) body otherwise) =
        .error (.undefinedVariable x) := by
  by_cases hkind : kind = .rangeBlock
  · subst hkind
    by_cases hvars : ∀ x ∈ header.pipe.vars, x ∈ scope
    · have htargets : ¬ (header.assigns = true → ∀ x ∈ header.names, x ∈ scope) :=
        fun ht => hs ⟨hvars, ht⟩
      push Not at htargets
      obtain ⟨hassigns, htargets⟩ := htargets
      obtain ⟨x, hfail⟩ := Vars.bindRound_of_not_mem hr.length_names htargets
      refine ⟨x, fun h dot vars hnames => ?_⟩
      rw [node_range_taken h dot (hnames ▸ hvars), rangeRound, hassigns, hfail _ _ vars hnames,
        error_bind]
    · push Not at hvars
      obtain ⟨x, hfail⟩ := pipe_steer_of_not_mem hvars
      refine ⟨x, fun h dot vars hnames => ?_⟩
      have hpipe : pipe h dot vars (header.steer true).pipe = .error (.undefinedVariable x) :=
        hfail true h dot vars hnames
      rw [node_range, hpipe, error_bind]
  · obtain ⟨x, hfail⟩ := pipeline_steer_of_not_scoped hs
    refine ⟨x, fun h dot vars hnames => ?_⟩
    rw [node_branch h hkind, hfail true h dot vars hnames, error_bind]

/-- A block that takes its body gets stuck in it. -/
lemma node_body_stuck {scope : Scope} {kind : BlockKind} {header : Pipeline}
    {body otherwise : List Node} {x : String} (hr : header.Regular (.header kind))
    (hs : header.Scoped scope) (hbody : Stuck (header.scopeAfter scope) body x) (h : Host)
    (dot : Value) (vars : Vars) (hnames : vars.names = scope) :
    node h dot vars (.block kind (header.steer true) body otherwise) =
      .error (.undefinedVariable x) := by
  subst hnames
  by_cases hkind : kind = .rangeBlock
  · subst hkind
    obtain ⟨inner, hbind, hinner⟩ := Vars.bindRound_names header.assigns (.int 0) (.int 0) vars
      hr.length_names hs.targets
    rw [node_range_taken h dot hs.vars, rangeRound, hbind, ok_bind, hbody h _ inner hinner]
    rfl
  · obtain ⟨inner, hheader, hinner⟩ := pipeline_steer h dot true hs
    rw [node_branch_steer hkind hheader, if_pos rfl, hbody h _ inner hinner]
    rfl

/-- A block that does not take its body gets stuck in its `else` part. -/
lemma node_else_stuck {scope : Scope} {kind : BlockKind} {header : Pipeline}
    {body otherwise : List Node} {x : String} {afterBody : Scope} (hs : header.Scoped scope)
    (helse : Stuck (ElseRule.running kind scope (header.scopeAfter scope) afterBody) otherwise x)
    (h : Host) (dot : Value) (vars : Vars) (hnames : vars.names = scope) :
    node h dot vars (.block kind (header.steer false) body otherwise) =
      .error (.undefinedVariable x) := by
  subst hnames
  by_cases hkind : kind = .rangeBlock
  · subst hkind
    have hpipe : pipe h dot vars (header.steer false).pipe = .ok (steered false) :=
      pipe_steer h dot false hs.vars
    have hrounds : Rounds.of (steered false) = .ok (.count 0) := rfl
    rw [node_range, hpipe, ok_bind, hrounds, ok_bind, if_pos (by decide), helse h dot vars rfl]
    rfl
  · obtain ⟨inner, hheader, hinner⟩ := pipeline_steer h dot false hs
    rw [node_branch_steer hkind hheader, if_neg (by decide),
      helse h dot inner (by rw [ElseRule.running_of_ne hkind, hinner])]
    rfl

mutual

/-- A node with a variable out of sight shares its outline with one that always gets stuck. -/
theorem exists_stuck_node (scope : Scope) (n : Node) (hr : n.Regular)
    (hs : ¬ n.Scoped .running scope) :
    ∃ m x, m.outline = n.outline ∧ m.Regular ∧
      ∀ (h : Host) (dot : Value) (vars : Vars), vars.names = scope →
        node h dot vars m = .error (.undefinedVariable x) := by
  match n with
  | .text t => exact absurd trivial hs
  | .action p =>
    obtain ⟨x, hfail⟩ := pipeline_steer_of_not_scoped (p := p) hs
    refine ⟨.action (p.steer true), x, by simp [Node.outline], Pipeline.Regular.steer hr true,
      fun h dot vars hnames => ?_⟩
    rw [node, hfail true h dot vars hnames, error_bind]
  | .block kind header body otherwise =>
    obtain ⟨hrheader, hrbody, hrelse⟩ := hr
    by_cases hheader : header.Scoped scope
    · by_cases hbody : Node.ListScoped .running (header.scopeAfter scope) body
      · obtain ⟨ms, x, houtline, hregular, hstuck⟩ :=
          exists_stuck_nodes _ otherwise hrelse fun helse => hs ⟨hheader, hbody, helse⟩
        exact ⟨.block kind (header.steer false) body ms, x, by simp [Node.outline, houtline],
          ⟨hrheader.steer false, hrbody, hregular⟩, node_else_stuck hheader hstuck⟩
      · obtain ⟨ms, x, houtline, hregular, hstuck⟩ := exists_stuck_nodes _ body hrbody hbody
        exact ⟨.block kind (header.steer true) ms otherwise, x, by simp [Node.outline, houtline],
          ⟨hrheader.steer true, hregular, hrelse⟩, node_body_stuck hrheader hheader hstuck⟩
    · obtain ⟨x, hstuck⟩ := node_header_stuck body otherwise hrheader hheader
      exact ⟨.block kind (header.steer true) body otherwise, x, by simp [Node.outline],
        ⟨hrheader.steer true, hrbody, hrelse⟩, hstuck⟩

theorem exists_stuck_nodes (scope : Scope) (ns : List Node) (hr : Node.ListRegular ns)
    (hs : ¬ Node.ListScoped .running scope ns) :
    ∃ ms x, Node.listOutline ms = Node.listOutline ns ∧ Node.ListRegular ms ∧
      Stuck scope ms x := by
  match ns with
  | [] => exact absurd trivial hs
  | n :: ns =>
    by_cases hn : n.Scoped .running scope
    · obtain ⟨ms, x, houtline, hregular, hstuck⟩ :=
        exists_stuck_nodes (n.scopeAfter scope) ns hr.2 fun hns => hs ⟨hn, hns⟩
      refine ⟨n.steer :: ms, x, by simp [Node.listOutline, Node.outline_steer, houtline],
        ⟨hr.1.steer, hregular⟩, fun h dot vars hnames => ?_⟩
      subst hnames
      obtain ⟨⟨out, mid⟩, hnode⟩ := node_steer h dot n hr.1 hn
      have hmid : mid.names = n.scopeAfter vars.names := by
        rw [← Node.scopeAfter_steer]
        exact (wellBound_node h dot n.steer hr.1.steer (Node.scoped_steer.2 hn)).of_ok hnode
      rw [nodes_cons, hnode, ok_bind]
      dsimp only
      rw [hstuck h dot mid hmid]
      rfl
    · obtain ⟨m, x, houtline, hregular, hstuck⟩ := exists_stuck_node scope n hr.1 hn
      refine ⟨m :: ns, x, by simp [Node.listOutline, houtline], ⟨hregular, hr.2⟩,
        fun h dot vars hnames => ?_⟩
      rw [nodes_cons, hstuck h dot vars hnames, error_bind]

end

end Eval

end HostAddr
