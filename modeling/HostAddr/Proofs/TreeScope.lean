import HostAddr.Template.Grammar
import Mathlib.Tactic.Common

/-!
# Variables in a tree

Which variables a tree looks up, binds and assigns to, and what it takes for all of them to be in
sight. The rules for the two parts of a block agree but for one place, the start of the `else`
part: an `ElseRule` fixes it. Reading goes on with the variables of the body there, running has
forgotten them.
-/

namespace HostAddr

mutual

/-- The variables that an operand looks up, in turn. -/
def Operand.vars : Operand → List String
  | .var name _ => [name]
  | .group p => p.vars
  | _ => []

def Operand.listVars : List Operand → List String
  | [] => []
  | o :: os => o.vars ++ Operand.listVars os

def Call.vars : Call → List String
  | .mk _ args => Operand.listVars args

def Command.vars : Command → List String
  | .call c => c.vars
  | .value o => o.vars

def Call.listVars : List Call → List String
  | [] => []
  | c :: cs => c.vars ++ Call.listVars cs

def Pipe.vars : Pipe → List String
  | .mk first stages => first.vars ++ Call.listVars stages

end

/-- Whether an operand can stand alone: a function alone is a call, and `nil` is no command. -/
def Operand.isValue : Operand → Bool
  | .func _ => false
  | .nil => false
  | _ => true

mutual

/-- The lone values of an operand can stand alone. -/
def Operand.Regular : Operand → Prop
  | .group p => p.Regular
  | _ => True

def Operand.ListRegular : List Operand → Prop
  | [] => True
  | o :: os => o.Regular ∧ Operand.ListRegular os

def Call.Regular : Call → Prop
  | .mk _ args => Operand.ListRegular args

def Command.Regular : Command → Prop
  | .call c => c.Regular
  | .value o => o.isValue = true ∧ o.Regular

def Call.ListRegular : List Call → Prop
  | [] => True
  | c :: cs => c.Regular ∧ Call.ListRegular cs

def Pipe.Regular : Pipe → Prop
  | .mk first stages => first.Regular ∧ Call.ListRegular stages

end

namespace Pipeline

/-- A pipeline binds one variable at most, or two in the header of a range, and a pipeline that
binds none does not assign. -/
structure Regular (place : PipelinePlace) (p : Pipeline) : Prop where
  pipe : p.pipe.Regular
  names : p.names.length ≤ 1 ∨ p.names.length = 2 ∧ place = .header .rangeBlock
  assigns : p.names = [] → p.assigns = false

lemma Regular.length_names {place : PipelinePlace} {p : Pipeline} (h : p.Regular place) :
    p.names.length ≤ 2 := by
  rcases h.names with hone | ⟨htwo, -⟩ <;> omega

/-- All variables that a pipeline looks up or assigns to are in sight. -/
structure Scoped (scope : Scope) (p : Pipeline) : Prop where
  vars : ∀ x ∈ p.pipe.vars, x ∈ scope
  targets : p.assigns = true → ∀ x ∈ p.names, x ∈ scope

instance (scope : Scope) (p : Pipeline) : Decidable (p.Scoped scope) :=
  decidable_of_iff ((∀ x ∈ p.pipe.vars, x ∈ scope) ∧ (p.assigns = true → ∀ x ∈ p.names, x ∈ scope))
    ⟨fun h => ⟨h.1, h.2⟩, fun h => ⟨h.vars, h.targets⟩⟩

/-- The variables in sight after a pipeline. -/
def scopeAfter (p : Pipeline) (scope : Scope) : Scope :=
  if p.assigns then scope else p.names.reverse ++ scope

lemma suffix_scopeAfter (p : Pipeline) (scope : Scope) : scope <:+ p.scopeAfter scope := by
  unfold scopeAfter
  split
  · exact List.suffix_rfl
  · exact List.suffix_append _ _

end Pipeline

/-- The variables in sight at the start of an `else` part, by the kind of its block and those in
sight before the block, after its header and after its body. -/
abbrev ElseRule := BlockKind → Scope → Scope → Scope → Scope

namespace ElseRule

/-- The reader goes on with the variables of the header and the body. -/
def reading : ElseRule
  | _, _, _, afterBody => afterBody

/-- A run has no variables of the body and, where a range has no rounds, none of its header. -/
def running : ElseRule
  | .rangeBlock, before, _, _ => before
  | _, _, afterHeader, _ => afterHeader

lemma running_of_ne {kind : BlockKind} (h : kind ≠ .rangeBlock)
    (before afterHeader afterBody : Scope) :
    running kind before afterHeader afterBody = afterHeader := by
  cases kind with
  | rangeBlock => exact absurd rfl h
  | ifBlock | withBlock => rfl

end ElseRule

namespace Node

/-- A block takes its variables with it. -/
def scopeAfter (scope : Scope) : Node → Scope
  | .action p => p.scopeAfter scope
  | _ => scope

@[simp] lemma scopeAfter_text (scope : Scope) (t : String) :
    (text t).scopeAfter scope = scope := rfl

@[simp] lemma scopeAfter_action (scope : Scope) (p : Pipeline) :
    (action p).scopeAfter scope = p.scopeAfter scope := rfl

@[simp] lemma scopeAfter_block (scope : Scope) (kind : BlockKind) (header : Pipeline)
    (body otherwise : List Node) :
    (block kind header body otherwise).scopeAfter scope = scope := rfl

def listScopeAfter (scope : Scope) (ns : List Node) : Scope :=
  ns.foldl scopeAfter scope

mutual

/-- All pipelines are regular where they stand. -/
def Regular : Node → Prop
  | .text _ => True
  | .action p => p.Regular .command
  | .block kind header body otherwise =>
    header.Regular (.header kind) ∧ ListRegular body ∧ ListRegular otherwise

def ListRegular : List Node → Prop
  | [] => True
  | n :: ns => n.Regular ∧ ListRegular ns

end

mutual

/-- All variables that a node looks up or assigns to are in sight where it does. -/
def Scoped (rule : ElseRule) (scope : Scope) : Node → Prop
  | .text _ => True
  | .action p => p.Scoped scope
  | .block kind header body otherwise =>
    header.Scoped scope ∧ ListScoped rule (header.scopeAfter scope) body ∧
      ListScoped rule (rule kind scope (header.scopeAfter scope)
        (listScopeAfter (header.scopeAfter scope) body)) otherwise

def ListScoped (rule : ElseRule) (scope : Scope) : List Node → Prop
  | [] => True
  | n :: ns => n.Scoped rule scope ∧ ListScoped rule (n.scopeAfter scope) ns

end

mutual

instance decidableScoped (rule : ElseRule) (scope : Scope) :
    (n : Node) → Decidable (n.Scoped rule scope)
  | .text _ => isTrue trivial
  | .action p => inferInstanceAs (Decidable (p.Scoped scope))
  | .block kind header body otherwise =>
    have := decidableListScoped rule (header.scopeAfter scope) body
    have := decidableListScoped rule (rule kind scope (header.scopeAfter scope)
      (listScopeAfter (header.scopeAfter scope) body)) otherwise
    inferInstanceAs (Decidable (header.Scoped scope ∧ ListScoped rule _ body ∧
      ListScoped rule _ otherwise))

instance decidableListScoped (rule : ElseRule) (scope : Scope) :
    (ns : List Node) → Decidable (ListScoped rule scope ns)
  | [] => isTrue trivial
  | n :: ns =>
    have := decidableScoped rule scope n
    have := decidableListScoped rule (n.scopeAfter scope) ns
    inferInstanceAs (Decidable (n.Scoped rule scope ∧ ListScoped rule _ ns))

end

@[simp] lemma listScopeAfter_nil (scope : Scope) : listScopeAfter scope [] = scope := rfl

@[simp] lemma listScopeAfter_cons (scope : Scope) (n : Node) (ns : List Node) :
    listScopeAfter scope (n :: ns) = listScopeAfter (n.scopeAfter scope) ns := rfl

@[simp] lemma listScopeAfter_append (scope : Scope) (ns ms : List Node) :
    listScopeAfter scope (ns ++ ms) = listScopeAfter (listScopeAfter scope ns) ms :=
  List.foldl_append

lemma suffix_scopeAfter (scope : Scope) (n : Node) : scope <:+ n.scopeAfter scope := by
  cases n with
  | action p => exact p.suffix_scopeAfter scope
  | text => exact List.suffix_rfl
  | block => exact List.suffix_rfl

/-- Older variables stay where they are. -/
lemma suffix_listScopeAfter (scope : Scope) (ns : List Node) :
    scope <:+ listScopeAfter scope ns := by
  induction ns generalizing scope with
  | nil => exact List.suffix_rfl
  | cons n ns ih => exact (n.suffix_scopeAfter scope).trans (ih _)

lemma listRegular_append (ns ms : List Node) :
    ListRegular (ns ++ ms) ↔ ListRegular ns ∧ ListRegular ms := by
  induction ns with
  | nil => simp [ListRegular]
  | cons n ns ih => simp [ListRegular, ih, and_assoc]

lemma listScoped_append (rule : ElseRule) (scope : Scope) (ns ms : List Node) :
    ListScoped rule scope (ns ++ ms) ↔
      ListScoped rule scope ns ∧ ListScoped rule (listScopeAfter scope ns) ms := by
  induction ns generalizing scope with
  | nil => simp [ListScoped]
  | cons n ns ih => simp [ListScoped, ih, and_assoc]

end Node

end HostAddr
