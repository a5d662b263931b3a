import HostAddr.Proofs.TreeReading
import HostAddr.Proofs.VariableRuns

/-!
# Outlines of trees

The outline of a tree keeps its blocks, the names that it binds and the variables that each
pipeline looks up, and nothing else of its pipelines. A tree whose variables are in sight where it
runs never lacks one. Any other tree shares its outline with one whose every run fails for want of
a variable: its pipelines are steered, so that each looks up what it did before but comes to a
number that takes the run to the variable that is missing.
-/

namespace HostAddr

namespace Pipe

def lookups (xs : List String) : Command :=
  .call (.mk .print (xs.map (.var · [])))

/-- What a pipeline looks up, and nothing else of it. -/
def outline (p : Pipe) : Pipe :=
  .mk (lookups p.vars) []

/-- The lookups of a pipeline with the value 1, if a block with it in the header is to take its
body, or else 0. -/
def steer (taken : Bool) (p : Pipe) : Pipe :=
  .mk (lookups p.vars) [.mk (if taken then .or else .and) [.int (if taken then 1 else 0)]]

lemma listVars_map_var (xs : List String) : Operand.listVars (xs.map (.var · [])) = xs := by
  induction xs with
  | nil => rfl
  | cons x xs ih => simp [Operand.listVars, Operand.vars, ih]

lemma vars_lookups (xs : List String) : (lookups xs).vars = xs :=
  listVars_map_var xs

@[simp] lemma vars_outline (p : Pipe) : p.outline.vars = p.vars := by
  simp [outline, vars, vars_lookups, Call.listVars]

@[simp] lemma vars_steer (taken : Bool) (p : Pipe) : (p.steer taken).vars = p.vars := by
  simp [steer, vars, vars_lookups, Call.listVars, Call.vars, Operand.listVars, Operand.vars]

lemma regular_steer (taken : Bool) (p : Pipe) : (p.steer taken).Regular := by
  refine ⟨Operand.listRegular_iff.2 fun o ho => ?_, ⟨trivial, trivial⟩, trivial⟩
  obtain ⟨x, -, rfl⟩ := List.mem_map.1 ho
  trivial

end Pipe

namespace Pipeline

def outline (p : Pipeline) : Pipeline :=
  { p with pipe := p.pipe.outline }

def steer (taken : Bool) (p : Pipeline) : Pipeline :=
  { p with pipe := p.pipe.steer taken }

@[simp] lemma outline_steer (taken : Bool) (p : Pipeline) :
    (p.steer taken).outline = p.outline := by
  simp [outline, steer, Pipe.outline]

lemma scoped_outline {scope : Scope} {p : Pipeline} :
    p.outline.Scoped scope ↔ p.Scoped scope := by
  constructor
  · intro h
    exact ⟨by simpa [outline] using h.vars, h.targets⟩
  · intro h
    exact ⟨by simpa [outline] using h.vars, h.targets⟩

lemma Regular.steer {place : PipelinePlace} {p : Pipeline} (h : p.Regular place) (taken : Bool) :
    (p.steer taken).Regular place :=
  ⟨p.pipe.regular_steer taken, h.names, h.assigns⟩

end Pipeline

namespace Node

mutual

def outline : Node → Node
  | .text t => .text t
  | .action p => .action p.outline
  | .block kind header body otherwise =>
    .block kind header.outline (listOutline body) (listOutline otherwise)

def listOutline : List Node → List Node
  | [] => []
  | n :: ns => n.outline :: listOutline ns

end

mutual

/-- Every block takes its body. -/
def steer : Node → Node
  | .text t => .text t
  | .action p => .action (p.steer true)
  | .block kind header body otherwise =>
    .block kind (header.steer true) (listSteer body) otherwise

def listSteer : List Node → List Node
  | [] => []
  | n :: ns => n.steer :: listSteer ns

end

@[simp] lemma scopeAfter_outline (scope : Scope) (n : Node) :
    n.outline.scopeAfter scope = n.scopeAfter scope := by
  cases n <;> rfl

@[simp] lemma listScopeAfter_outline (scope : Scope) (ns : List Node) :
    listScopeAfter scope (listOutline ns) = listScopeAfter scope ns := by
  induction ns generalizing scope with
  | nil => rfl
  | cons n ns ih => simp [listOutline, ih]

mutual

/-- What is in sight shows in the outline. -/
theorem scoped_outline (rule : ElseRule) (scope : Scope) (n : Node) :
    n.outline.Scoped rule scope ↔ n.Scoped rule scope := by
  match n with
  | .text t => exact Iff.rfl
  | .action p => exact Pipeline.scoped_outline
  | .block kind header body otherwise =>
    have hscope : header.outline.scopeAfter scope = header.scopeAfter scope := rfl
    simp only [outline, Scoped, Pipeline.scoped_outline, hscope, listScopeAfter_outline,
      listScoped_outline]

theorem listScoped_outline (rule : ElseRule) (scope : Scope) (ns : List Node) :
    ListScoped rule scope (listOutline ns) ↔ ListScoped rule scope ns := by
  match ns with
  | [] => exact Iff.rfl
  | n :: ns =>
    simp only [listOutline, ListScoped, scopeAfter_outline, scoped_outline rule scope n,
      listScoped_outline rule _ ns]

end

lemma listScoped_congr {rule : ElseRule} {scope : Scope} {ns ms : List Node}
    (h : listOutline ns = listOutline ms) :
    ListScoped rule scope ns ↔ ListScoped rule scope ms := by
  rw [← listScoped_outline, h, listScoped_outline]

mutual

theorem outline_steer (n : Node) : n.steer.outline = n.outline := by
  match n with
  | .text t => rfl
  | .action p => simp [steer, outline]
  | .block kind header body otherwise => simp [steer, outline, listOutline_steer body]

theorem listOutline_steer (ns : List Node) : listOutline (listSteer ns) = listOutline ns := by
  match ns with
  | [] => rfl
  | n :: ns => simp [listSteer, listOutline, outline_steer n, listOutline_steer ns]

end

mutual

theorem Regular.steer {n : Node} (h : n.Regular) : n.steer.Regular := by
  match n with
  | .text t => trivial
  | .action p => exact Pipeline.Regular.steer h true
  | .block kind header body otherwise => exact ⟨h.1.steer true, ListRegular.steer h.2.1, h.2.2⟩

theorem ListRegular.steer {ns : List Node} (h : ListRegular ns) : ListRegular (listSteer ns) := by
  match ns with
  | [] => trivial
  | n :: ns => exact ⟨Regular.steer h.1, ListRegular.steer h.2⟩

end

lemma scopeAfter_steer (scope : Scope) (n : Node) :
    n.steer.scopeAfter scope = n.scopeAfter scope := by
  rw [← scopeAfter_outline, outline_steer, scopeAfter_outline]

lemma scoped_steer {rule : ElseRule} {scope : Scope} {n : Node} :
    n.steer.Scoped rule scope ↔ n.Scoped rule scope := by
  rw [← scoped_outline, outline_steer, scoped_outline]

end Node

end HostAddr
