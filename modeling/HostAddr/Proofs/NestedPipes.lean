import HostAddr.Proofs.PipeReading
import HostAddr.Runtime
import HostAddr.Template.Eval

/-!
# Pipelines as nested calls

A value that is piped into a call is its last argument. So every pipeline can be written as one
command, in which each stage stands in parentheses at the end of the next: it can be read wherever
the pipeline can, and it has the same value. What may differ is which of several failures ends the
run, since the operands of the later stages are then looked at first.
-/

namespace HostAddr

/-- The call with the value of `c` as a further argument. -/
def Command.passedTo (c : Command) : Call → Command
  | .mk f args => .call (.mk f (args ++ [.group (.mk c [])]))

/-- The first command passed to the first stage, this to the second, and so on. -/
def Pipe.nested : Pipe → Command
  | .mk first stages => stages.foldl Command.passedTo first

/-- The pipeline as a single command. -/
def Pipeline.nested (p : Pipeline) : Pipeline :=
  { p with pipe := .mk p.pipe.nested [] }

section

variable {scope : Scope} {first : Command} {c : Call} {stages : List Call}

/-- One stage that moves into the first command leaves a pipeline that can be read. -/
lemma Pipe.Fits.passedTo (h : (Pipe.mk first (c :: stages)).Fits scope) :
    (Pipe.mk (first.passedTo c) stages).Fits scope := by
  obtain ⟨f, args⟩ := c
  obtain ⟨⟨hfirst, hargs, hstages⟩, hvars⟩ := h
  simp only [Pipe.vars, Call.listVars, Call.vars, List.mem_append] at hvars
  refine ⟨⟨Operand.listRegular_iff.2 fun o ho => ?_, hstages⟩, ?_⟩
  · rcases List.mem_append.1 ho with ho | ho
    · exact Operand.listRegular_iff.1 hargs o ho
    · obtain rfl := List.mem_singleton.1 ho
      exact ⟨hfirst, trivial⟩
  · intro x hx
    simp only [Pipe.vars, Command.passedTo, Command.vars, Call.vars, List.mem_append,
      Operand.mem_listVars, List.mem_singleton] at hx
    rcases hx with ⟨o, ho | rfl, hx⟩ | hx
    · exact hvars x (.inr (.inl (Operand.mem_listVars.2 ⟨o, ho, hx⟩)))
    · exact hvars x (.inl (by simpa [Operand.vars, Pipe.vars, Call.listVars] using hx))
    · exact hvars x (.inr (.inr hx))

lemma Pipe.Fits.nested {p : Pipe} (h : p.Fits scope) : (Pipe.mk p.nested []).Fits scope := by
  obtain ⟨first, cs⟩ := p
  induction cs generalizing first with
  | nil => exact h
  | cons c cs ih => exact ih _ h.passedTo

lemma Pipeline.Fits.nested {place : PipelinePlace} {p : Pipeline} (h : p.Fits place scope) :
    p.nested.Fits place scope := by
  have hpipe : (Pipe.mk p.pipe.nested []).Fits scope :=
    Pipe.Fits.nested ⟨h.regular.pipe, h.inSight.vars⟩
  exact ⟨⟨hpipe.regular, h.regular.names, h.regular.assigns⟩, hpipe.vars, h.inSight.targets⟩

end

namespace Eval

variable (h : Host) (dot : Value) (vars : Vars)

lemma operands_append_eq_ok_iff {os os' : List Operand} {us : List Value} :
    operands h dot vars (os ++ os') = .ok us ↔
      ∃ vs ws, operands h dot vars os = .ok vs ∧ operands h dot vars os' = .ok ws ∧
        vs ++ ws = us := by
  induction os generalizing us with
  | nil => simp [operands]
  | cons o os ih =>
    simp only [List.cons_append, operands, bind_eq_ok_iff, ih]
    constructor
    · rintro ⟨v, hv, _, ⟨vs, ws, hvs, hws, rfl⟩, hus⟩
      exact ⟨v :: vs, ws, ⟨v, hv, vs, hvs, rfl⟩, hws, Except.ok.inj hus⟩
    · rintro ⟨_, ws, ⟨v, hv, vs, hvs, hcons⟩, hws, rfl⟩
      obtain rfl := Except.ok.inj hcons
      exact ⟨v, hv, vs ++ ws, ⟨vs, ws, hvs, hws, rfl⟩, rfl⟩

lemma operands_group_eq_ok_iff {c : Command} {us : List Value} :
    operands h dot vars [.group (.mk c [])] = .ok us ↔
      ∃ v, command h dot vars c = .ok v ∧ [v] = us := by
  simp [operands, operand, pipe, stages, bind_eq_ok_iff, pure, Except.pure]

/-- One stage: the command runs before the operands of the call or after them. -/
lemma command_passedTo_eq_ok_iff {first : Command} {c : Call} {w : Value} :
    command h dot vars (first.passedTo c) = .ok w ↔
      ∃ v, command h dot vars first = .ok v ∧ call h dot vars [v] c = .ok w := by
  obtain ⟨f, args⟩ := c
  simp only [Command.passedTo, command, call, bind_eq_ok_iff, operands_append_eq_ok_iff,
    operands_group_eq_ok_iff, List.append_nil]
  constructor
  · rintro ⟨_, ⟨vs, _, hvs, ⟨v, hv, rfl⟩, rfl⟩, hw⟩
    exact ⟨v, hv, vs, hvs, hw⟩
  · rintro ⟨v, hv, vs, hvs, hw⟩
    exact ⟨vs ++ [v], ⟨vs, [v], hvs, ⟨v, hv, rfl⟩, rfl⟩, hw⟩

/-- All stages: they move into the command one by one. -/
theorem pipe_eq_ok_iff_nested {p : Pipe} {v : Value} :
    pipe h dot vars p = .ok v ↔ command h dot vars p.nested = .ok v := by
  obtain ⟨first, cs⟩ := p
  induction cs generalizing first with
  | nil => simp [pipe, stages, Pipe.nested, bind_eq_ok_iff]
  | cons c cs ih =>
    have hmove : pipe h dot vars (.mk first (c :: cs)) = .ok v ↔
        pipe h dot vars (.mk (first.passedTo c) cs) = .ok v := by
      simp only [pipe, stages, bind_eq_ok_iff, command_passedTo_eq_ok_iff]
      constructor
      · rintro ⟨u, hu, w, hw, hv⟩
        exact ⟨w, ⟨u, hu, hw⟩, hv⟩
      · rintro ⟨w, ⟨u, hu, hw⟩, hv⟩
        exact ⟨u, hu, w, hw, hv⟩
    exact hmove.trans (ih (first.passedTo c))

lemma pipe_nested_eq_ok_iff {p : Pipeline} {v : Value} :
    pipe h dot vars p.nested.pipe = .ok v ↔ pipe h dot vars p.pipe = .ok v := by
  rw [pipe_eq_ok_iff_nested, pipe_eq_ok_iff_nested]
  rfl

lemma pipeline_nested_eq_ok_iff {p : Pipeline} {r : Value × Vars} :
    pipeline h dot vars p.nested = .ok r ↔ pipeline h dot vars p = .ok r := by
  simp only [pipeline, bind_eq_ok_iff, pipe_nested_eq_ok_iff]
  rfl

end Eval

/-- A pipeline that is read can be written as one command. With or without its binding it has the
same value and leaves the same variables, and it fails where the pipeline does. -/
theorem Pipeline.nested_eval {place : PipelinePlace} {scope scope' : Scope} {tokens : List Token}
    {p : Pipeline} (hread : Grammar.pipeline place scope tokens = .ok (p, scope')) :
    Grammar.pipeline place scope p.nested.tokens = .ok (p.nested, scope') ∧
      ∀ h dot vars,
        (∀ v, Eval.pipe h dot vars p.pipe = .ok v ↔ Eval.pipe h dot vars p.nested.pipe = .ok v) ∧
        (∀ v vars', Eval.pipeline h dot vars p = .ok (v, vars') ↔
          Eval.pipeline h dot vars p.nested = .ok (v, vars')) ∧
        ((∃ e, Eval.pipeline h dot vars p = .error e) ↔
          ∃ e, Eval.pipeline h dot vars p.nested = .error e) := by
  obtain ⟨hfits, rfl⟩ := Grammar.fits_of_pipeline hread
  refine ⟨Grammar.pipeline_tokens hfits.nested, fun h dot vars => ⟨?_, ?_, ?_⟩⟩
  · intro v
    exact (Eval.pipe_nested_eq_ok_iff h dot vars).symm
  · intro v vars'
    exact (Eval.pipeline_nested_eq_ok_iff h dot vars).symm
  · rw [exists_eq_error_iff, exists_eq_error_iff]
    exact forall_congr' fun r => not_congr (Eval.pipeline_nested_eq_ok_iff h dot vars).symm

/-- The second stage of three ends up inside the parentheses of the last. -/
theorem Pipeline.nested_eval_three :
    ∃ p, Grammar.pipeline .command ["$"] [.var "$x" [], .declare, .ident "GetAllInterfaces", .pipe,
        .ident "include", .str "type", .str "ip", .pipe, .ident "limit", .int 1] =
          .ok (p, ["$x", "$"]) ∧
      p.nested.tokens = [.var "$x" [], .declare, .ident "limit", .int 1, .leftParen,
        .ident "include", .str "type", .str "ip", .leftParen, .ident "GetAllInterfaces",
        .rightParen, .rightParen] ∧
      Eval.pipeline .empty .nil [("$", .nil)] p.nested =
        .ok (.records [], [("$x", .records []), ("$", .nil)]) := by
  have hread : Grammar.pipeline .command ["$"] [.var "$x" [], .declare, .ident "GetAllInterfaces",
      .pipe, .ident "include", .str "type", .str "ip", .pipe, .ident "limit", .int 1] =
        .ok (⟨["$x"], false, .mk (.call (.mk (.source .allInterfaces) []))
          [.mk .includeBy [.str "type", .str "ip"], .mk .limit [.int 1]]⟩, ["$x", "$"]) := rfl
  obtain ⟨-, heval⟩ := Pipeline.nested_eval hread
  exact ⟨_, hread, rfl, ((heval .empty .nil _).2.1 _ _).1 (by decide +kernel)⟩

end HostAddr
