import HostAddr.Proofs.Outcome
import HostAddr.Proofs.TreeScope

/-!
# Reading pipelines

A pipeline that is read is regular and looks up only variables in sight; and the tokens of such a
pipeline are read as the pipeline again. The stack of open pipelines carries both proofs: each
token keeps every pipeline on it regular, and the tokens of an operand leave the stack as it was
but for that operand.
-/

namespace HostAddr

/-- An operand, a command or a pipeline that can be read where `scope` is in sight. -/
structure Operand.Fits (scope : Scope) (o : Operand) : Prop where
  regular : o.Regular
  vars : ∀ x ∈ o.vars, x ∈ scope

structure Pipe.Fits (scope : Scope) (p : Pipe) : Prop where
  regular : p.Regular
  vars : ∀ x ∈ p.vars, x ∈ scope

structure Pipeline.Fits (place : PipelinePlace) (scope : Scope) (p : Pipeline) : Prop where
  regular : p.Regular place
  inSight : p.Scoped scope

lemma Operand.listRegular_iff {os : List Operand} :
    Operand.ListRegular os ↔ ∀ o ∈ os, o.Regular := by
  induction os with
  | nil => simp [Operand.ListRegular]
  | cons o os ih => simp [Operand.ListRegular, ih]

lemma Operand.mem_listVars {os : List Operand} {x : String} :
    x ∈ Operand.listVars os ↔ ∃ o ∈ os, x ∈ o.vars := by
  induction os with
  | nil => simp [Operand.listVars]
  | cons o os ih => simp [Operand.listVars, ih]

lemma Call.listRegular_append (cs ds : List Call) :
    Call.ListRegular (cs ++ ds) ↔ Call.ListRegular cs ∧ Call.ListRegular ds := by
  induction cs with
  | nil => simp [Call.ListRegular]
  | cons c cs ih => simp [Call.ListRegular, ih, and_assoc]

lemma Call.listVars_append (cs ds : List Call) :
    Call.listVars (cs ++ ds) = Call.listVars cs ++ Call.listVars ds := by
  induction cs with
  | nil => rfl
  | cons c cs ih => simp [Call.listVars, ih]

namespace Grammar

lemma fits_of_operand {scope : Scope} {t : Token} {o : Operand}
    (h : operand scope t = .ok o) : o.Fits scope := by
  unfold operand at h
  split at h
  case h_4 =>
    split at h
    · cases h
      exact ⟨trivial, by simp [Operand.vars]⟩
    · cases h
  case h_7 =>
    split at h
    · rename_i hx
      cases h
      exact ⟨trivial, by simpa [Operand.vars] using hx⟩
    · cases h
  case h_10 => cases h
  all_goals
    cases h
    exact ⟨trivial, by simp [Operand.vars]⟩

namespace OpenPipe

/-- The complete commands and the operands of an open pipeline fit. -/
structure Fits (scope : Scope) (p : OpenPipe) : Prop where
  done : ∀ q ∈ p.done, q.Fits scope
  operands : ∀ o ∈ p.operands, o.Fits scope

lemma fits_start (scope : Scope) : OpenPipe.start.Fits scope :=
  ⟨by simp [start], by simp [start]⟩

lemma Fits.push {scope : Scope} {p : OpenPipe} {o : Operand} (hp : p.Fits scope)
    (ho : o.Fits scope) : (p.push o).Fits scope :=
  ⟨hp.done, by simpa [OpenPipe.push] using ⟨ho, hp.operands⟩⟩

/-- The command of operands that fit. -/
lemma fits_of_commandOf {scope : Scope} {os : List Operand} {c : Command}
    (hos : ∀ o ∈ os, o.Fits scope) (h : commandOf os = .ok c) :
    c.Regular ∧ ∀ x ∈ c.vars, x ∈ scope := by
  unfold commandOf at h
  split at h
  · cases h
  · cases h
    simp only [List.mem_cons, forall_eq_or_imp] at hos
    refine ⟨Operand.listRegular_iff.2 fun o ho => (hos.2 o ho).regular, fun x hx => ?_⟩
    obtain ⟨o, ho, hx⟩ := Operand.mem_listVars.1 hx
    exact (hos.2 o ho).vars x hx
  · cases h
  · rename_i o hfunc hnil
    cases h
    have ho := hos o (by simp)
    refine ⟨⟨?_, ho.regular⟩, ho.vars⟩
    cases o <;> simp_all [Operand.isValue]
  · cases h

lemma Fits.close {scope : Scope} {p : OpenPipe} {q : Pipe} (hp : p.Fits scope)
    (h : p.close = .ok q) : q.Fits scope := by
  obtain ⟨c, hc, h⟩ := bind_eq_ok_iff.1 h
  obtain ⟨hregular, hinSight⟩ := fits_of_commandOf
    (fun o ho => hp.operands o (List.mem_reverse.1 ho)) hc
  split at h
  · cases h
    exact ⟨⟨hregular, trivial⟩, by simpa [Pipe.vars, Call.listVars] using hinSight⟩
  · rename_i first stages call hdone
    cases h
    have hq := hp.done _ hdone
    refine ⟨⟨hq.regular.1, (Call.listRegular_append _ _).2 ⟨hq.regular.2, hregular, trivial⟩⟩, ?_⟩
    have hvars := hq.vars
    simp only [Pipe.vars, Call.listVars_append, Call.listVars, List.append_nil,
      List.mem_append] at hvars ⊢
    rintro x (hx | hx | hx)
    · exact hvars x (.inl hx)
    · exact hvars x (.inr hx)
    · exact hinSight x hx
  · cases h

end OpenPipe

namespace PipeReader

/-- All open pipelines fit. -/
structure Fits (scope : Scope) (s : PipeReader) : Prop where
  inner : s.inner.Fits scope
  outer : ∀ p ∈ s.outer, p.Fits scope

lemma fits_start (scope : Scope) : PipeReader.start.Fits scope :=
  ⟨OpenPipe.fits_start scope, by simp [start]⟩

/-- One token keeps all open pipelines fitting. -/
lemma Fits.step {place : PipelinePlace} {scope : Scope} {s s' : PipeReader} {t : Token}
    (hs : s.Fits scope) (h : s.step place scope t = .ok s') : s'.Fits scope := by
  unfold PipeReader.step at h
  split at h
  · obtain ⟨p, hp, h⟩ := bind_eq_ok_iff.1 h
    cases h
    exact ⟨⟨by simpa using hs.inner.close hp, by simp⟩, hs.outer⟩
  · cases h
    exact ⟨OpenPipe.fits_start scope, by simpa using ⟨hs.inner, hs.outer⟩⟩
  · obtain ⟨p, hp, h⟩ := bind_eq_ok_iff.1 h
    have hgroup := hs.inner.close hp
    split at h
    · cases h
    · rename_i o outer houter
      cases h
      have hout : o.Fits scope ∧ ∀ p ∈ outer, p.Fits scope := by simpa [houter] using hs.outer
      exact ⟨hout.1.push ⟨hgroup.regular, hgroup.vars⟩, hout.2⟩
  · obtain ⟨o, ho, h⟩ := bind_eq_ok_iff.1 h
    cases h
    exact ⟨hs.inner.push (fits_of_operand ho), hs.outer⟩

end PipeReader

theorem fits_of_pipe {place : PipelinePlace} {scope : Scope} {tokens : List Token} {p : Pipe}
    (h : pipe place scope tokens = .ok p) : p.Fits scope := by
  obtain ⟨s, hs, h⟩ := bind_eq_ok_iff.1 h
  have hfits : s.Fits scope :=
    foldlM_preserves (PipeReader.Fits scope) (fun _ _ _ => PipeReader.Fits.step)
      (PipeReader.fits_start scope) hs
  obtain ⟨q, hq, h⟩ := bind_eq_ok_iff.1 h
  split at h
  · cases h
    exact hfits.inner.close hq
  · cases h

/-! ### What fits is read -/

lemma operand_name (scope : Scope) (f : Function) :
    operand scope (.ident f.name) = .ok (.func f) := by
  cases f with
  | source s => cases s <;> rfl
  | _ => rfl

end Grammar

/-- The operands that a call is read from, its function included. -/
def Call.operands : Call → List Operand
  | .mk f args => .func f :: args

def Command.operands : Command → List Operand
  | .call c => c.operands
  | .value o => [o]

namespace Grammar

open OpenPipe (commandOf)

lemma commandOf_operands {c : Command} (hc : c.Regular) : commandOf c.operands = .ok c := by
  cases c with
  | call c =>
    obtain ⟨f, args⟩ := c
    rfl
  | value o =>
    have hvalue : o.isValue = true := hc.1
    cases o <;> first | rfl | simp [Operand.isValue] at hvalue

variable (place : PipelinePlace) (scope : Scope)

mutual

/-- The tokens of an operand add it to the innermost pipeline and leave the others alone. -/
theorem read_operand (o : Operand) (s : PipeReader) (hr : o.Regular)
    (hv : ∀ x ∈ o.vars, x ∈ scope) :
    o.tokens.foldlM (PipeReader.step place scope) s = .ok ⟨s.inner.push o, s.outer⟩ := by
  match o with
  | .group p =>
    obtain ⟨inner, hread, hclose⟩ := read_pipe p (s.inner :: s.outer) hr hv
    simp only [Operand.tokens, List.cons_append, List.foldlM_cons, List.foldlM_append,
      PipeReader.step, ok_bind, hread, hclose, List.foldlM_nil]
    rfl
  | .func f =>
    simp only [Operand.tokens, List.foldlM_cons, List.foldlM_nil, PipeReader.step, operand_name,
      ok_bind]
    rfl
  | .var name fields =>
    have hname : scope.contains name = true := by simpa [Operand.vars] using hv
    simp only [Operand.tokens, List.foldlM_cons, List.foldlM_nil, PipeReader.step, operand, hname,
      if_true, ok_bind]
    rfl
  | .bool b => cases b <;> rfl
  | .dot | .field .. | .str _ | .int _ | .nil => rfl

theorem read_operands (os : List Operand) (inner : OpenPipe) (outer : List OpenPipe)
    (hr : Operand.ListRegular os) (hv : ∀ x ∈ Operand.listVars os, x ∈ scope) :
    (Operand.listTokens os).foldlM (PipeReader.step place scope) ⟨inner, outer⟩ =
      .ok ⟨⟨inner.done, os.reverse ++ inner.operands⟩, outer⟩ := by
  match os with
  | [] => rfl
  | o :: os =>
    simp only [Operand.listVars, List.mem_append] at hv
    rw [Operand.listTokens, List.foldlM_append,
      read_operand o _ hr.1 fun x hx => hv x (.inl hx), ok_bind,
      read_operands os _ _ hr.2 fun x hx => hv x (.inr hx)]
    simp [OpenPipe.push]

theorem read_call (c : Call) (done : Option Pipe) (outer : List OpenPipe) (hr : c.Regular)
    (hv : ∀ x ∈ c.vars, x ∈ scope) :
    c.tokens.foldlM (PipeReader.step place scope) ⟨⟨done, []⟩, outer⟩ =
      .ok ⟨⟨done, c.operands.reverse⟩, outer⟩ := by
  match c with
  | .mk f args =>
    simp only [Call.tokens, List.foldlM_cons, PipeReader.step, operand_name, ok_bind]
    change (Operand.listTokens args).foldlM (PipeReader.step place scope)
      ⟨⟨done, [.func f]⟩, outer⟩ = _
    rw [read_operands args _ _ hr hv]
    simp [Call.operands]

theorem read_command (c : Command) (done : Option Pipe) (outer : List OpenPipe) (hr : c.Regular)
    (hv : ∀ x ∈ c.vars, x ∈ scope) :
    c.tokens.foldlM (PipeReader.step place scope) ⟨⟨done, []⟩, outer⟩ =
      .ok ⟨⟨done, c.operands.reverse⟩, outer⟩ := by
  match c with
  | .call c => exact read_call c done outer hr hv
  | .value o => exact read_operand o _ hr.2 hv

/-- The tokens of stages add them to a pipeline that could be closed before. -/
theorem read_stages (cs : List Call) (inner : OpenPipe) (outer : List OpenPipe) (first : Command)
    (stages : List Call) (hclose : inner.close = .ok (.mk first stages))
    (hr : Call.ListRegular cs) (hv : ∀ x ∈ Call.listVars cs, x ∈ scope) :
    ∃ inner', (Call.stageTokens cs).foldlM (PipeReader.step place scope) ⟨inner, outer⟩ =
      .ok ⟨inner', outer⟩ ∧ inner'.close = .ok (.mk first (stages ++ cs)) := by
  match cs with
  | [] => exact ⟨inner, rfl, by rw [List.append_nil, hclose]⟩
  | c :: cs =>
    simp only [Call.listVars, List.mem_append] at hv
    have hnext : (⟨some (.mk first stages), c.operands.reverse⟩ : OpenPipe).close =
        .ok (.mk first (stages ++ [c])) := by
      obtain ⟨f, args⟩ := c
      simp [OpenPipe.close, Call.operands, commandOf]
    obtain ⟨inner', hread, hlast⟩ := read_stages cs _ outer first (stages ++ [c]) hnext hr.2
      fun x hx => hv x (.inr hx)
    refine ⟨inner', ?_, by rw [hlast, List.append_assoc, List.singleton_append]⟩
    simp only [Call.stageTokens, List.cons_append, List.foldlM_cons, PipeReader.step, hclose,
      ok_bind]
    change (c.tokens ++ Call.stageTokens cs).foldlM (PipeReader.step place scope)
      ⟨⟨some (.mk first stages), []⟩, outer⟩ = _
    rw [List.foldlM_append, read_call c _ _ hr.1 fun x hx => hv x (.inl hx), ok_bind, hread]

/-- The tokens of a pipeline leave the pipelines around it alone. -/
theorem read_pipe (p : Pipe) (outer : List OpenPipe) (hr : p.Regular)
    (hv : ∀ x ∈ p.vars, x ∈ scope) :
    ∃ inner, p.tokens.foldlM (PipeReader.step place scope) ⟨.start, outer⟩ = .ok ⟨inner, outer⟩ ∧
      inner.close = .ok p := by
  match p with
  | .mk first stages =>
    simp only [Pipe.vars, List.mem_append] at hv
    have hfirst : (⟨none, first.operands.reverse⟩ : OpenPipe).close = .ok (.mk first []) := by
      simp [OpenPipe.close, commandOf_operands hr.1]
    obtain ⟨inner, hread, hclose⟩ := read_stages stages _ outer first [] hfirst hr.2
      fun x hx => hv x (.inr hx)
    refine ⟨inner, ?_, hclose⟩
    rw [Pipe.tokens, List.foldlM_append]
    change (first.tokens.foldlM (PipeReader.step place scope) ⟨⟨none, []⟩, outer⟩ >>= _) = _
    rw [read_command first none outer hr.1 fun x hx => hv x (.inl hx), ok_bind, hread]

end

/-- The tokens of a pipeline that fits are read as that pipeline. -/
theorem pipe_tokens {p : Pipe} (h : p.Fits scope) : pipe place scope p.tokens = .ok p := by
  obtain ⟨inner, hread, hclose⟩ := read_pipe place scope p [] h.regular h.vars
  simp only [pipe, PipeReader.start, hread, ok_bind, PipeReader.finish, hclose]
  rfl

variable {place scope}

/-- No token of a pipeline that is read declares or assigns. -/
lemma assigns?_eq_none_of_pipe {tokens : List Token} {p : Pipe}
    (h : pipe place scope tokens = .ok p) : ∀ t ∈ tokens, assigns? t = none := by
  obtain ⟨s', hs, -⟩ := bind_eq_ok_iff.1 h
  clear h
  generalize PipeReader.start = s at hs
  induction tokens generalizing s with
  | nil => simp
  | cons t tokens ih =>
    rw [List.foldlM_cons, bind_eq_ok_iff] at hs
    obtain ⟨m, hm, hs⟩ := hs
    refine List.forall_mem_cons.2 ⟨?_, ih m hs⟩
    cases t <;> first | rfl | simp [PipeReader.step, operand] at hm

lemma splitBinding_of_pipe {tokens : List Token} {p : Pipe}
    (h : pipe place scope tokens = .ok p) :
    splitBinding place tokens = ([], false, tokens) := by
  have hnone := assigns?_eq_none_of_pipe h
  unfold splitBinding
  split <;> simp_all

lemma ne_nil_of_pipe {tokens : List Token} {p : Pipe} (h : pipe place scope tokens = .ok p) :
    tokens ≠ [] := by
  rintro rfl
  cases h

/-- What a binding at the front of a pipeline may be. -/
lemma splitBinding_names (place : PipelinePlace) (tokens : List Token) :
    ((splitBinding place tokens).1.length ≤ 1 ∨
      (splitBinding place tokens).1.length = 2 ∧ place = .header .rangeBlock) ∧
    ((splitBinding place tokens).1 = [] → (splitBinding place tokens).2.1 = false) := by
  unfold splitBinding
  split
  · split <;> simp
  · split <;> simp
  · simp

/-- The binding of a regular pipeline is split off. -/
lemma splitBinding_tokens {p : Pipeline} (h : p.Fits place scope) :
    splitBinding place p.tokens = (p.names, p.assigns, p.pipe.tokens) := by
  obtain ⟨names, assigns, q⟩ := p
  have hread : pipe place scope q.tokens = .ok q :=
    pipe_tokens place scope ⟨h.regular.pipe, h.inSight.vars⟩
  have hnames := h.regular.names
  match names with
  | [] =>
    obtain rfl : assigns = false := h.regular.assigns rfl
    exact splitBinding_of_pipe hread
  | [x] => cases assigns <;> rfl
  | [x, y] =>
    obtain rfl : place = .header .rangeBlock := by simpa using hnames
    cases assigns <;> rfl
  | x :: y :: z :: names => simp at hnames

theorem fits_of_pipeline {tokens : List Token} {p : Pipeline} {scope' : Scope}
    (h : pipeline place scope tokens = .ok (p, scope')) :
    p.Fits place scope ∧ scope' = p.scopeAfter scope := by
  unfold pipeline at h
  have hsplit := splitBinding_names place tokens
  generalize splitBinding place tokens = parts at h hsplit
  obtain ⟨names, assigns, rest⟩ := parts
  dsimp only at h hsplit
  by_cases hrest : rest = []
  · rw [if_pos hrest] at h
    cases h
  rw [if_neg hrest] at h
  obtain ⟨q, hq, hbind⟩ := bind_eq_ok_iff.1 h
  clear h
  have hfits := fits_of_pipe hq
  split at hbind
  case isTrue hassigns =>
    subst hassigns
    split at hbind
    · cases hbind
    · rename_i hfind
      cases hbind
      refine ⟨⟨⟨hfits.regular, hsplit.1, hsplit.2⟩, hfits.vars, fun _ => ?_⟩, rfl⟩
      simpa using List.find?_eq_none.1 hfind
  case isFalse hassigns =>
    obtain rfl : assigns = false := by simpa using hassigns
    cases hbind
    exact ⟨⟨⟨hfits.regular, hsplit.1, hsplit.2⟩, hfits.vars, by simp⟩, rfl⟩

/-- The tokens of a pipeline that fits are read as that pipeline, with its binding. -/
theorem pipeline_tokens {p : Pipeline} (h : p.Fits place scope) :
    pipeline place scope p.tokens = .ok (p, p.scopeAfter scope) := by
  have hread : pipe place scope p.pipe.tokens = .ok p.pipe :=
    pipe_tokens place scope ⟨h.regular.pipe, h.inSight.vars⟩
  have htargets := h.inSight.targets
  rw [pipeline, splitBinding_tokens h]
  obtain ⟨names, assigns, q⟩ := p
  simp only [if_neg (ne_nil_of_pipe hread), hread, ok_bind, Pipeline.scopeAfter]
  cases assigns with
  | false => rfl
  | true =>
    have hfind : names.find? (!scope.contains ·) = none :=
      List.find?_eq_none.2 (by simpa using htargets rfl)
    simp only [if_true, hfind]

/-- The words that make an action more than a pipeline. -/
def actionWords : List String :=
  ["end", "else", "if", "with", "range", "define", "template", "block", "break", "continue"]

/-- No pipeline starts with one of them. -/
lemma head_tokens_ne {p : Pipeline} (h : p.Fits place scope) :
    ∀ w ∈ actionWords, p.tokens.head? ≠ some (.ident w) := by
  intro w hw hhead
  obtain ⟨names, assigns, q⟩ := p
  have hread : pipe place scope q.tokens = .ok q :=
    pipe_tokens place scope ⟨h.regular.pipe, h.inSight.vars⟩
  cases names with
  | cons x names => cases names <;> simp [Pipeline.tokens, bindingTokens] at hhead
  | nil =>
    simp only [Pipeline.tokens, bindingTokens, if_true, List.nil_append] at hhead
    generalize q.tokens = tokens at hread hhead
    cases tokens with
    | nil => simp at hhead
    | cons t tokens =>
      obtain rfl : t = .ident w := by simpa using hhead
      obtain ⟨s, hs, -⟩ := bind_eq_ok_iff.1 hread
      rw [List.foldlM_cons, bind_eq_ok_iff] at hs
      obtain ⟨m, hm, -⟩ := hs
      obtain ⟨o, ho, -⟩ := bind_eq_ok_iff.1 hm
      simp only [actionWords, List.mem_cons, List.not_mem_nil, or_false] at hw
      rcases hw with rfl | rfl | rfl | rfl | rfl | rfl | rfl | rfl | rfl | rfl <;> cases ho

end Grammar

end HostAddr
