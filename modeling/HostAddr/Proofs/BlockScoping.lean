import HostAddr.Proofs.TreeReading
import HostAddr.Proofs.VariableChanges
import HostAddr.Runtime

/-!
# Scoping of blocks

A run adds to the variables what its outermost actions declare, in this order, and nothing else: a
block forgets what is declared in it. Of the variables that were there it changes the values of
those alone that its nodes assign to from within. So a variable that no node binds has the same
value wherever the run comes to.
-/

namespace HostAddr

namespace Pipeline

/-- The variables that a pipeline declares. -/
def declared (p : Pipeline) : List String :=
  if p.assigns then [] else p.names

/-- The variables that a pipeline assigns to. -/
def targets (p : Pipeline) : List String :=
  if p.assigns then p.names else []

/-- The variables of a header that the `else` part of its block runs with: those of a range are
bound for its rounds alone. -/
def declaredInElse (header : Pipeline) : BlockKind → List String
  | .rangeBlock => []
  | _ => header.declared

lemma declaredInElse_of_ne {kind : BlockKind} (h : kind ≠ .rangeBlock) (header : Pipeline) :
    header.declaredInElse kind = header.declared := by
  cases kind with
  | rangeBlock => exact absurd rfl h
  | ifBlock | withBlock => rfl

lemma declared_subset (p : Pipeline) : p.declared ⊆ p.names := by
  unfold declared
  split <;> simp

lemma targets_subset (p : Pipeline) : p.targets ⊆ p.names := by
  unfold targets
  split <;> simp

lemma mem_targets_iff {p : Pipeline} {x : String} :
    x ∈ p.targets ↔ p.assigns = true ∧ x ∈ p.names := by
  unfold targets
  split <;> simp_all

end Pipeline

namespace Node

/-- The variables that a node declares for the nodes after it. -/
def declared : Node → List String
  | .action p => p.declared
  | _ => []

def listDeclared (ns : List Node) : List String :=
  ns.flatMap declared

mutual

/-- The variables from outside that a node assigns to: not those that the assignment finds declared
in the node itself. -/
def targets : Node → List String
  | .text _ => []
  | .action p => p.targets
  | .block kind header body otherwise =>
    header.targets ++ (listTargets body).filter (· ∉ header.declared) ++
      (listTargets otherwise).filter (· ∉ header.declaredInElse kind)

def listTargets : List Node → List String
  | [] => []
  | n :: ns => n.targets ++ (listTargets ns).filter (· ∉ n.declared)

end

mutual

/-- The variables that a node declares or assigns to anywhere in it. -/
def bound : Node → List String
  | .text _ => []
  | .action p => p.names
  | .block _ header body otherwise => header.names ++ listBound body ++ listBound otherwise

def listBound : List Node → List String
  | [] => []
  | n :: ns => n.bound ++ listBound ns

end

lemma declared_subset_bound (n : Node) : n.declared ⊆ n.bound := by
  cases n with
  | action p => exact p.declared_subset
  | text => exact List.nil_subset _
  | block => exact List.nil_subset _

mutual

theorem targets_subset_bound (n : Node) : n.targets ⊆ n.bound := by
  match n with
  | .text _ => exact List.nil_subset _
  | .action p => exact p.targets_subset
  | .block kind header body otherwise =>
    intro x hx
    simp only [targets, List.mem_append, List.mem_filter] at hx
    simp only [bound, List.mem_append]
    rcases hx with (hx | hx) | hx
    · exact .inl (.inl (header.targets_subset hx))
    · exact .inl (.inr (listTargets_subset_bound body hx.1))
    · exact .inr (listTargets_subset_bound otherwise hx.1)

theorem listTargets_subset_bound (ns : List Node) : listTargets ns ⊆ listBound ns := by
  match ns with
  | [] => exact List.nil_subset _
  | n :: ns =>
    intro x hx
    simp only [listTargets, List.mem_append, List.mem_filter] at hx
    simp only [listBound, List.mem_append]
    exact hx.imp (fun h => targets_subset_bound n h) fun h => listTargets_subset_bound ns h.1

end

lemma listDeclared_subset_bound (ns : List Node) : listDeclared ns ⊆ listBound ns := by
  induction ns with
  | nil => exact List.nil_subset _
  | cons n ns ih =>
    intro x hx
    rw [listDeclared, List.flatMap_cons, List.mem_append] at hx
    rw [listBound, List.mem_append]
    exact hx.imp (fun h => n.declared_subset_bound h) fun h => ih h

end Node

namespace Eval

variable {h : Host}

open Vars (Assigned Grown)

lemma pipeline_grown {dot v : Value} {vars vars' : Vars} {p : Pipeline}
    (hrun : pipeline h dot vars p = .ok (v, vars')) :
    Grown p.declared (· ∈ p.targets) vars vars' := by
  obtain ⟨w, -, hrun⟩ := bind_eq_ok_iff.1 hrun
  obtain ⟨mid, hmid, hrun⟩ := bind_eq_ok_iff.1 hrun
  cases hrun
  exact (Grown.of_bindAll hmid).mono fun x hx => Pipeline.mem_targets_iff.2 hx

/-- What is left of the variables at the end of a branch that ran after its header. -/
private lemma assigned_branch {header : Pipeline} {part : List Node} {vars inner last : Vars}
    (hheader : Grown header.declared (· ∈ header.targets) vars inner)
    (hpart : Grown (Node.listDeclared part) (· ∈ Node.listTargets part) inner last) :
    Assigned (fun x => x ∈ header.targets ∨ x ∈ Node.listTargets part ∧ x ∉ header.declared) vars
      (last.keep vars.length) :=
  (hheader.trans hpart).keep

/-- All rounds together leave the variables of before, if the body of each does what it may. -/
private lemma assigned_rounds {header : Pipeline} {body : List Node}
    (hlength : header.names.length ≤ 2)
    (hbody : ∀ {v vars out vars'}, nodes h v vars body = .ok (out, vars') →
      Grown (Node.listDeclared body) (· ∈ Node.listTargets body) vars vars')
    {rounds : List (Value × Value)} {vars vars' : Vars} {out : String}
    (hrun : rounds.foldlM (fun s (i, v) => rangeRound h header body i v s) ("", vars) =
      .ok (out, vars')) :
    Assigned (fun x => x ∈ header.targets ∨ x ∈ Node.listTargets body ∧ x ∉ header.declared) vars
      vars' := by
  refine foldlM_preserves (fun s => Assigned _ vars s.2) (fun s (i, v) s' hs hround => ?_)
    (Assigned.refl _ vars) hrun
  obtain ⟨inner, hinner, hround⟩ := bind_eq_ok_iff.1 hround
  obtain ⟨⟨more, last⟩, hlast, hround⟩ := bind_eq_ok_iff.1 hround
  cases hround
  have hheader : Grown header.declared (· ∈ header.targets) s.2 inner :=
    (Grown.of_bindRound hlength hinner).mono fun x hx => Pipeline.mem_targets_iff.2 hx
  exact hs.trans (assigned_branch hheader (hbody hlast))

mutual

/-- A node that ran has declared what it declares and assigned to what it assigns to. -/
theorem node_grown {dot : Value} {vars vars' : Vars} {out : String} (n : Node) (hr : n.Regular)
    (hrun : node h dot vars n = .ok (out, vars')) :
    Grown n.declared (· ∈ n.targets) vars vars' := by
  match n with
  | .text t =>
    cases hrun
    exact .refl _ _
  | .action p =>
    obtain ⟨⟨v, mid⟩, hp, hrun⟩ := bind_eq_ok_iff.1 hrun
    cases hrun
    exact pipeline_grown hp
  | .block kind header body otherwise =>
    obtain ⟨hrheader, hrbody, hrelse⟩ := hr
    refine Assigned.grown ?_
    by_cases hkind : kind = .rangeBlock
    · subst hkind
      rw [node_range] at hrun
      obtain ⟨v, -, hrun⟩ := bind_eq_ok_iff.1 hrun
      obtain ⟨rounds, -, hrun⟩ := bind_eq_ok_iff.1 hrun
      split at hrun
      · obtain ⟨⟨out, last⟩, hlast, hrun⟩ := map_eq_ok_iff.1 hrun
        cases hrun
        refine (nodes_grown otherwise hrelse hlast).keep.mono fun x hx => ?_
        simp [Node.targets, Pipeline.declaredInElse, hx]
      · refine (assigned_rounds hrheader.length_names
          (fun hrun => nodes_grown body hrbody hrun) hrun).mono fun x hx => ?_
        simp only [Node.targets, List.mem_append, List.mem_filter, decide_eq_true_eq]
        exact .inl hx
    · rw [node_branch h hkind] at hrun
      obtain ⟨⟨v, inner⟩, hheader, hrun⟩ := bind_eq_ok_iff.1 hrun
      obtain ⟨⟨out, last⟩, hlast, hrun⟩ := map_eq_ok_iff.1 hrun
      cases hrun
      simp only [Node.targets, Pipeline.declaredInElse_of_ne hkind, List.mem_append,
        List.mem_filter, decide_eq_true_eq]
      split at hlast
      · exact (assigned_branch (pipeline_grown hheader) (nodes_grown body hrbody hlast)).mono
          fun x hx => .inl hx
      · exact (assigned_branch (pipeline_grown hheader)
          (nodes_grown otherwise hrelse hlast)).mono fun x hx => hx.imp_left .inl

theorem nodes_grown {dot : Value} {vars vars' : Vars} {out : String} (ns : List Node)
    (hr : Node.ListRegular ns) (hrun : nodes h dot vars ns = .ok (out, vars')) :
    Grown (Node.listDeclared ns) (· ∈ Node.listTargets ns) vars vars' := by
  match ns with
  | [] =>
    cases hrun
    exact .refl _ _
  | n :: ns =>
    rw [nodes_cons] at hrun
    obtain ⟨⟨out, mid⟩, hn, hrun⟩ := bind_eq_ok_iff.1 hrun
    obtain ⟨⟨more, last⟩, hns, hrun⟩ := map_eq_ok_iff.1 hrun
    cases hrun
    refine ((node_grown n hr.1 hn).trans (nodes_grown ns hr.2 hns)).mono fun x hx => ?_
    simpa [Node.listTargets] using hx

end

/-- The parts of a node that a run comes to, with the dot and the variables that each starts with.
A range comes to its body once for each round, with what the rounds before have left. -/
inductive Enters (h : Host) (dot : Value) (vars : Vars) : Node → Value → Vars → List Node → Prop
  | taken {kind : BlockKind} {header : Pipeline} {body otherwise : List Node} {v : Value}
    {inner : Vars} : kind ≠ .rangeBlock → pipeline h dot vars header = .ok (v, inner) →
      v.isTrue = true →
        Enters h dot vars (.block kind header body otherwise) (kind.bodyDot dot v) inner body
  | notTaken {kind : BlockKind} {header : Pipeline} {body otherwise : List Node} {v : Value}
    {inner : Vars} : kind ≠ .rangeBlock → pipeline h dot vars header = .ok (v, inner) →
      v.isTrue = false → Enters h dot vars (.block kind header body otherwise) dot inner otherwise
  | round {header : Pipeline} {body otherwise : List Node} {v i w : Value} {rounds : Rounds}
    {before after : List (Value × Value)} {out : String} {now inner : Vars} :
      pipe h dot vars header.pipe = .ok v → Rounds.of v = .ok rounds →
      rounds.list = before ++ (i, w) :: after →
      before.foldlM (fun s (i, v) => rangeRound h header body i v s) ("", vars) = .ok (out, now) →
      now.bindRound header.assigns header.names i w = .ok inner →
        Enters h dot vars (.block .rangeBlock header body otherwise) w inner body
  | noRound {header : Pipeline} {body otherwise : List Node} {v : Value} {rounds : Rounds} :
      pipe h dot vars header.pipe = .ok v → Rounds.of v = .ok rounds → rounds.isEmpty = true →
        Enters h dot vars (.block .rangeBlock header body otherwise) dot vars otherwise

/-- A run of nodes comes to running a node, at any depth, with the dot and the variables that
stand before it. Whether the whole run succeeds does not matter. -/
inductive Reaches (h : Host) : Value → Vars → List Node → Value → Vars → Node → Prop
  | here {dot : Value} {vars : Vars} {n : Node} {ns : List Node} :
      Reaches h dot vars (n :: ns) dot vars n
  | later {dot dot' : Value} {vars mid vars' : Vars} {out : String} {n n' : Node}
    {ns : List Node} : node h dot vars n = .ok (out, mid) → Reaches h dot mid ns dot' vars' n' →
      Reaches h dot vars (n :: ns) dot' vars' n'
  | inside {dot dot' dot'' : Value} {vars inner vars' : Vars} {n n' : Node}
    {part ns : List Node} : Enters h dot vars n dot'' inner part →
      Reaches h dot'' inner part dot' vars' n' → Reaches h dot vars (n :: ns) dot' vars' n'

variable {dot dot' : Value} {vars vars' inner : Vars} {n n' : Node} {ns part : List Node}
  {x : String}

lemma Enters.regular (henters : Enters h dot vars n dot' inner part) (hr : n.Regular) :
    Node.ListRegular part := by
  cases henters with
  | taken | round => exact hr.2.1
  | notTaken | noRound => exact hr.2.2

lemma Enters.bound_subset (henters : Enters h dot vars n dot' inner part) :
    Node.listBound part ⊆ n.bound := by
  intro y hy
  cases henters with
  | taken | round =>
    rw [Node.bound, List.mem_append, List.mem_append]
    exact .inl (.inr hy)
  | notTaken | noRound =>
    rw [Node.bound, List.mem_append]
    exact .inr hy

/-- A part of a node starts with the variables before the node and those of the header. -/
lemma Enters.get_eq (henters : Enters h dot vars n dot' inner part) (hr : n.Regular)
    (hx : x ∉ n.bound) : inner.get x = vars.get x := by
  have hheader {header : Pipeline} (h : x ∉ header.names) :
      x ∉ header.declared ∧ x ∉ header.targets :=
    ⟨mt (@Pipeline.declared_subset header x) h, mt (@Pipeline.targets_subset header x) h⟩
  cases henters with
  | taken _ hpipeline _ | notTaken _ hpipeline _ =>
    simp only [Node.bound, List.mem_append, not_or] at hx
    exact (pipeline_grown hpipeline).get_eq (hheader hx.1.1).1 (hheader hx.1.1).2
  | @round header _ _ _ _ _ _ _ _ _ now _ _ _ _ hbefore hbind =>
    simp only [Node.bound, List.mem_append, not_or] at hx
    obtain ⟨hdeclared, htargets⟩ := hheader hx.1.1
    have hbody : x ∉ Node.listTargets part := fun h => hx.1.2 (Node.listTargets_subset_bound part h)
    have hnow : now.get x = vars.get x :=
      (assigned_rounds hr.1.length_names (fun hrun => nodes_grown part hr.2.1 hrun) hbefore).get_eq
        fun h => h.elim htargets fun h => hbody h.1
    rw [← hnow]
    refine (Grown.of_bindRound hr.1.length_names hbind).get_eq hdeclared fun h => htargets ?_
    exact Pipeline.mem_targets_iff.2 h
  | noRound => rfl

lemma Reaches.regular (hreaches : Reaches h dot vars ns dot' vars' n) (hr : Node.ListRegular ns) :
    n.Regular := by
  induction hreaches with
  | here => exact hr.1
  | later _ _ ih => exact ih hr.2
  | inside henters _ ih => exact ih (henters.regular hr.1)

/-- A variable that the nodes bind nowhere has the same value wherever their run comes to. -/
theorem Reaches.get_eq (hreaches : Reaches h dot vars ns dot' vars' n) (hr : Node.ListRegular ns)
    (hx : x ∉ Node.listBound ns) : vars'.get x = vars.get x := by
  induction hreaches with
  | here => rfl
  | @later _ _ _ _ _ _ n _ _ hn _ ih =>
    simp only [Node.listBound, List.mem_append, not_or] at hx
    rw [ih hr.2 hx.2]
    exact (node_grown n hr.1 hn).get_eq (fun h => hx.1 (n.declared_subset_bound h))
      fun h => hx.1 (n.targets_subset_bound h)
  | inside henters _ ih =>
    simp only [Node.listBound, List.mem_append, not_or] at hx
    rw [ih (henters.regular hr.1) fun h => hx.1 (henters.bound_subset h), henters.get_eq hr.1 hx.1]

end Eval

namespace Node

/-- A run leaves the variables of before, then those that the outermost actions declare, in turn.
Of those of before only the latest of its name may have another value, and only if the nodes assign
to it from within. A block leaves no variable. As long as `$` is bound nowhere, it is the first dot
wherever the run comes to. -/
theorem run_scoping {items : List Item} {ns : List Node} (hparse : Node.parse items = .ok ns)
    (h : Host) :
    (∀ dot vars out vars', Eval.nodes h dot vars ns = .ok (out, vars') →
      ∃ own older, vars' = own ++ older ∧ own.names = (listDeclared ns).reverse ∧
        older.names = vars.names ∧ Vars.Assigned (· ∈ listTargets ns) vars older) ∧
    (∀ dot vars dot' before kind header body otherwise out after,
      Eval.Reaches h dot vars ns dot' before (.block kind header body otherwise) →
      Eval.node h dot' before (.block kind header body otherwise) = .ok (out, after) →
        after.names = before.names) ∧
    ("$" ∉ listBound ns → ∀ dot dot' vars' n fields,
      Eval.Reaches h dot [("$", dot)] ns dot' vars' n →
        Eval.operand h dot' vars' (.var "$" fields) = dot.fieldChain fields) := by
  obtain ⟨hregular, -⟩ := fits_of_parse hparse
  refine ⟨fun dot vars out vars' hrun => ?_, ?_, ?_⟩
  · obtain ⟨own, older, hvars', hnames, holder⟩ := Eval.nodes_grown ns hregular hrun
    exact ⟨own, older, hvars', hnames, holder.names_eq, holder⟩
  · intro dot vars dot' before kind header body otherwise out after hreaches hrun
    obtain ⟨own, older, rfl, hnames, holder⟩ :=
      Eval.node_grown _ (hreaches.regular hregular) hrun
    obtain rfl : own = [] := List.map_eq_nil_iff.1 hnames
    exact holder.names_eq
  · intro hroot dot dot' vars' n fields hreaches
    have hget : vars'.get "$" = .ok dot := hreaches.get_eq hregular hroot
    rw [Eval.operand, hget, ok_bind]

/-- A `with` in a range that assigns to a variable from outside and declares one of its own. -/
theorem run_scoping_nested :
    ∃ ns, Node.parse [.action [.var "$x" [], .declare, .int 1],
        .action [.ident "range", .var "$i" [], .declare, .int 2],
        .action [.ident "with", .var "$x" []], .action [.var "$x" [], .assign, .var "$" []],
        .action [.var "$y" [], .declare, .dot], .action [.ident "end"],
        .action [.ident "end"]] = .ok ns ∧
      (∃ own older : Vars, [("$x", .int 5), ("$", .int 5)] = own ++ older ∧
        own.names = ["$x"] ∧ older.names = ["$"] ∧
        Vars.Assigned (· ∈ listTargets ns) [("$", .int 5)] older) ∧
      Vars.names [("$x", .int 5), ("$", .int 5)] = Vars.names [("$x", .int 1), ("$", .int 5)] ∧
      Eval.operand .empty (.int 1) [("$i", .int 0), ("$x", .int 1), ("$", .int 5)]
        (.var "$" []) = .ok (.int 5) := by
  let header : Pipeline := ⟨["$i"], false, .mk (.value (.int 2)) []⟩
  let body : List Node := [.action ⟨["$x"], true, .mk (.value (.var "$" [])) []⟩,
    .action ⟨["$y"], false, .mk (.value .dot) []⟩]
  let inner : Node := .block .withBlock ⟨[], false, .mk (.value (.var "$x" [])) []⟩ body []
  have hparse : Node.parse [.action [.var "$x" [], .declare, .int 1],
      .action [.ident "range", .var "$i" [], .declare, .int 2],
      .action [.ident "with", .var "$x" []], .action [.var "$x" [], .assign, .var "$" []],
      .action [.var "$y" [], .declare, .dot], .action [.ident "end"], .action [.ident "end"]] =
      .ok [.action ⟨["$x"], false, .mk (.value (.int 1)) []⟩,
        .block .rangeBlock header [inner] []] := rfl
  obtain ⟨hrun, hblock, hroot⟩ := run_scoping hparse .empty
  refine ⟨_, hparse, hrun (.int 5) [("$", .int 5)] "" _ rfl, ?_, ?_⟩
  · exact hblock (.int 5) [("$", .int 5)] (.int 5) [("$x", .int 1), ("$", .int 5)] .rangeBlock
      header [inner] [] "" _ (.later rfl .here) rfl
  · have hfirst : Eval.node .empty (.int 5) [("$", .int 5)]
        (.action ⟨["$x"], false, .mk (.value (.int 1)) []⟩) =
        .ok ("", [("$x", .int 1), ("$", .int 5)]) := rfl
    have hround : Eval.Enters .empty (.int 5) [("$x", .int 1), ("$", .int 5)]
        (.block .rangeBlock header [inner] []) (.int 0)
        [("$i", .int 0), ("$x", .int 1), ("$", .int 5)] [inner] := by
      have hheader : Eval.pipe .empty (.int 5) [("$x", .int 1), ("$", .int 5)] header.pipe =
          .ok (.int 2) := rfl
      have hlist : (Eval.Rounds.count 2).list =
          [] ++ (.int 0, .int 0) :: [(.int 1, .int 1)] := rfl
      exact .round hheader rfl hlist rfl rfl
    have hwith : Eval.Enters .empty (.int 0) [("$i", .int 0), ("$x", .int 1), ("$", .int 5)]
        inner (.int 1) [("$i", .int 0), ("$x", .int 1), ("$", .int 5)] body := by
      have hheader : Eval.pipeline .empty (.int 0) [("$i", .int 0), ("$x", .int 1), ("$", .int 5)]
          ⟨[], false, .mk (.value (.var "$x" [])) []⟩ = .ok (.int 1, _) := rfl
      exact .taken (by decide) hheader rfl
    exact hroot (by decide) (.int 5) _ _ _ []
      (.later hfirst (.inside hround (.inside hwith .here)))

end Node

end HostAddr
