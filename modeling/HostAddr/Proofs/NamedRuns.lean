import HostAddr.Proofs.NamedCalls
import HostAddr.Proofs.NodeRuns
import HostAddr.Proofs.WrittenPipelines
import HostAddr.Runtime
import HostAddr.Template.Render

/-!
# Runs by name

A template is run here from a tree that knows less of what was read: functions are names, and a
command is a list of operands, whichever they are. What reading has made sure of is looked for
again at every call and every command. For a tree that was read the run by name goes as the other
one does, so that it never comes to an exit.
-/

namespace HostAddr

namespace Named

inductive Operand where
  | func (name : String)
  | dot
  | field (first : String) (more : List String)
  | var (name : String) (fields : List String)
  | str (s : String)
  | int (n : Int)
  | bool (b : Bool)
  | nil
  | group (commands : List (List Operand))

/-- The operands of a command, the first of which may be a function. -/
abbrev Command := List Operand

structure Pipeline where
  names : List String
  assigns : Bool
  commands : List Command

inductive Node where
  | text (s : String)
  | action (p : Pipeline)
  | block (kind : BlockKind) (header : Pipeline) (body otherwise : List Node)

mutual

def Operand.tokens : Operand → List Token
  | .func name => [.ident name]
  | .dot => [.dot]
  | .field first more => [.field first more]
  | .var name fields => [.var name fields]
  | .str s => [.str s]
  | .int n => [.int n]
  | .bool b => [.ident (if b then "true" else "false")]
  | .nil => [.ident "nil"]
  | .group cs => .leftParen :: commandsTokens cs ++ [.rightParen]

def commandTokens : List Operand → List Token
  | [] => []
  | o :: os => o.tokens ++ commandTokens os

/-- The tokens of commands with pipes between them. -/
def commandsTokens : List (List Operand) → List Token
  | [] => []
  | [c] => commandTokens c
  | c :: d :: cs => commandTokens c ++ .pipe :: commandsTokens (d :: cs)

end

def Pipeline.tokens (p : Pipeline) : List Token :=
  bindingTokens p.names p.assigns ++ commandsTokens p.commands

mutual

def Node.pipelines : Node → List Pipeline
  | .text _ => []
  | .action p => [p]
  | .block _ header body otherwise => header :: listPipelines body ++ listPipelines otherwise

def listPipelines : List Node → List Pipeline
  | [] => []
  | n :: ns => n.pipelines ++ listPipelines ns

end

section

variable (h : Host)

mutual

def operand (dot : Value) (vars : Vars) : Operand → Except Exit Value
  | .func name => call h name []
  | .dot => .ok dot
  | .field first more => report (dot.fieldChain (first :: more))
  | .var name fields => do
    let v ← report (vars.get name)
    report (v.fieldChain fields)
  | .str s => .ok (.str s)
  | .int n => .ok (.int n)
  | .bool b => .ok (.bool b)
  | .nil => .ok .nil
  | .group cs => commands dot vars none cs

def operands (dot : Value) (vars : Vars) : List Operand → Except Exit (List Value)
  | [] => .ok []
  | o :: os => do
    let v ← operand dot vars o
    let vs ← operands dot vars os
    return v :: vs

/-- A command, to which the value of the command before it may be handed on. -/
def command (dot : Value) (vars : Vars) (piped : Option Value) :
    List Operand → Except Exit Value
  | .func name :: args => do
    let vs ← operands dot vars args
    call h name (vs ++ piped.toList)
  | [o] => if piped.isNone then operand dot vars o else .error .argumentToNonFunction
  | _ => .error .argumentToNonFunction

def commands (dot : Value) (vars : Vars) (piped : Option Value) :
    List (List Operand) → Except Exit Value
  | [] => .ok (piped.getD .nil)
  | c :: cs => do
    let v ← command dot vars piped c
    commands dot vars (some v) cs

end

def pipeline (dot : Value) (vars : Vars) (p : Pipeline) : Except Exit (Value × Vars) := do
  let v ← commands h dot vars none p.commands
  let vars ← report (vars.bindAll p.assigns v p.names)
  return (v, vars)

mutual

def node (dot : Value) (vars : Vars) : Node → Except Exit (String × Vars)
  | .text s => .ok (s, vars)
  | .action p => do
    let (v, vars) ← pipeline h dot vars p
    return (if p.names = [] then v.text else "", vars)
  | .block .rangeBlock header body otherwise => do
    let v ← commands h dot vars none header.commands
    let rounds ← report (Eval.Rounds.of v)
    if rounds.isEmpty then do
      let (out, inner) ← nodes dot vars otherwise
      return (out, inner.keep vars.length)
    else
      rounds.list.foldlM (fun (out, vars) (i, v) => do
        let inner ← report (vars.bindRound header.assigns header.names i v)
        let (more, inner) ← nodes v inner body
        return (out ++ more, inner.keep vars.length)) ("", vars)
  | .block kind header body otherwise => do
    let (v, inner) ← pipeline h dot vars header
    let (out, inner) ←
      if v.isTrue then nodes (kind.bodyDot dot v) inner body else nodes dot inner otherwise
    return (out, inner.keep vars.length)

def nodes (dot : Value) (vars : Vars) : List Node → Except Exit (String × Vars)
  | [] => .ok ("", vars)
  | n :: ns => do
    let (out, vars) ← node dot vars n
    let (more, vars) ← nodes dot vars ns
    return (out ++ more, vars)

end

def run (dot : Value) (ns : List Node) : Except Exit String :=
  (nodes h dot [("$", dot)] ns).map Prod.fst

end

mutual

def ofOperand : HostAddr.Operand → Operand
  | .func f => .func f.name
  | .dot => .dot
  | .field first more => .field first more
  | .var name fields => .var name fields
  | .str s => .str s
  | .int n => .int n
  | .bool b => .bool b
  | .nil => .nil
  | .group p => .group (ofPipe p)

def ofOperands : List HostAddr.Operand → List Operand
  | [] => []
  | o :: os => ofOperand o :: ofOperands os

def ofCall : Call → Command
  | .mk f args => .func f.name :: ofOperands args

def ofCommand : HostAddr.Command → Command
  | .call c => ofCall c
  | .value o => [ofOperand o]

def ofCalls : List Call → List Command
  | [] => []
  | c :: cs => ofCall c :: ofCalls cs

def ofPipe : Pipe → List Command
  | .mk first stages => ofCommand first :: ofCalls stages

end

def ofPipeline (p : HostAddr.Pipeline) : Pipeline :=
  ⟨p.names, p.assigns, ofPipe p.pipe⟩

mutual

def ofNode : HostAddr.Node → Node
  | .text s => .text s
  | .action p => .action (ofPipeline p)
  | .block kind header body otherwise =>
    .block kind (ofPipeline header) (ofNodes body) (ofNodes otherwise)

/-- The tree that is left when functions are forgotten for their names. -/
def ofNodes : List HostAddr.Node → List Node
  | [] => []
  | n :: ns => ofNode n :: ofNodes ns

end

mutual

lemma tokens_ofOperand (o : HostAddr.Operand) : (ofOperand o).tokens = o.tokens := by
  match o with
  | .group p => rw [ofOperand, Operand.tokens, tokens_ofPipe p, HostAddr.Operand.tokens]
  | .func f | .dot | .field .. | .var .. | .str _ | .int _ | .bool _ | .nil => rfl

lemma tokens_ofOperands (os : List HostAddr.Operand) :
    commandTokens (ofOperands os) = HostAddr.Operand.listTokens os := by
  match os with
  | [] => rfl
  | o :: os =>
    rw [ofOperands, commandTokens, tokens_ofOperand o, tokens_ofOperands os,
      HostAddr.Operand.listTokens]

lemma tokens_ofCall (c : Call) : commandTokens (ofCall c) = c.tokens := by
  match c with
  | .mk f args =>
    rw [ofCall, commandTokens, tokens_ofOperands args]
    rfl

lemma tokens_ofCommand (c : HostAddr.Command) : commandTokens (ofCommand c) = c.tokens := by
  match c with
  | .call c => exact tokens_ofCall c
  | .value o =>
    rw [ofCommand, commandTokens, tokens_ofOperand o]
    simp [commandTokens, Command.tokens]

lemma tokens_ofCalls (c : Command) (cs : List Call) :
    commandsTokens (c :: ofCalls cs) = commandTokens c ++ Call.stageTokens cs := by
  match cs with
  | [] => simp [ofCalls, commandsTokens, Call.stageTokens]
  | d :: cs =>
    rw [ofCalls, commandsTokens, tokens_ofCalls (ofCall d) cs, tokens_ofCall d, Call.stageTokens]
    simp

lemma tokens_ofPipe (p : Pipe) : commandsTokens (ofPipe p) = p.tokens := by
  match p with
  | .mk first stages => rw [ofPipe, tokens_ofCalls, tokens_ofCommand first, Pipe.tokens]

end

lemma tokens_ofPipeline (p : HostAddr.Pipeline) : (ofPipeline p).tokens = p.tokens := by
  rw [Pipeline.tokens, ofPipeline, tokens_ofPipe, HostAddr.Pipeline.tokens]

mutual

lemma pipelines_ofNode (n : HostAddr.Node) :
    (ofNode n).pipelines = n.pipelines.map ofPipeline := by
  match n with
  | .text s => rfl
  | .action p => rfl
  | .block kind header body otherwise =>
    rw [ofNode, Node.pipelines, pipelines_ofNodes body, pipelines_ofNodes otherwise,
      HostAddr.Node.pipelines, List.map_append, List.map_cons]

lemma pipelines_ofNodes (ns : List HostAddr.Node) :
    listPipelines (ofNodes ns) = (HostAddr.Node.listPipelines ns).map ofPipeline := by
  match ns with
  | [] => rfl
  | n :: ns =>
    rw [ofNodes, listPipelines, pipelines_ofNode n, pipelines_ofNodes ns,
      HostAddr.Node.listPipelines, List.map_append]

end

/-! ### They run alike -/

variable (h : Host) (dot : Value) (vars : Vars)

mutual

lemma operand_ofOperand (o : HostAddr.Operand) :
    operand h dot vars (ofOperand o) = report (Eval.operand h dot vars o) := by
  match o with
  | .func f => exact call_name h f []
  | .var name fields =>
    rw [Eval.operand, report_bind]
    rfl
  | .group p => exact commands_ofPipe p
  | .dot | .field .. | .str _ | .int _ | .bool _ | .nil => rfl

lemma operands_ofOperands (os : List HostAddr.Operand) :
    operands h dot vars (ofOperands os) = report (Eval.operands h dot vars os) := by
  match os with
  | [] => rfl
  | o :: os =>
    rw [ofOperands, operands, operand_ofOperand o, operands_ofOperands os, Eval.operands]
    simp only [report_bind]
    rfl

/-- A call finds its function and as many arguments as it looks at. -/
lemma command_ofCall (piped : Option Value) (c : Call) :
    command h dot vars piped (ofCall c) = report (Eval.call h dot vars piped.toList c) := by
  match c with
  | .mk f args =>
    rw [ofCall, command, operands_ofOperands args, Eval.call, report_bind]
    exact congrArg _ (funext fun vs => call_name h f _)

lemma command_ofCommand (c : HostAddr.Command) :
    command h dot vars none (ofCommand c) = report (Eval.command h dot vars c) := by
  match c with
  | .call c => exact command_ofCall none c
  | .value o =>
    have ho := operand_ofOperand o
    cases o <;> exact ho

lemma commands_ofCalls (v : Value) (cs : List Call) :
    commands h dot vars (some v) (ofCalls cs) = report (Eval.stages h dot vars v cs) := by
  match cs with
  | [] => rfl
  | c :: cs =>
    rw [ofCalls, commands, command_ofCall (some v) c, Eval.stages, report_bind]
    exact congrArg _ (funext fun w => commands_ofCalls w cs)

lemma commands_ofPipe (p : Pipe) :
    commands h dot vars none (ofPipe p) = report (Eval.pipe h dot vars p) := by
  match p with
  | .mk first stages =>
    rw [ofPipe, commands, command_ofCommand first, Eval.pipe, report_bind]
    exact congrArg _ (funext fun v => commands_ofCalls v stages)

end

lemma pipeline_ofPipeline (p : HostAddr.Pipeline) :
    pipeline h dot vars (ofPipeline p) = report (Eval.pipeline h dot vars p) := by
  rw [pipeline, ofPipeline, commands_ofPipe, Eval.pipeline]
  simp only [report_bind]
  rfl

/-- A block ends by name as it does otherwise. -/
lemma report_endBlock (r : Except EvalFault (String × Vars)) :
    (report r >>= fun (out, inner) => return (out, inner.keep vars.length)) =
      report (Eval.endBlock vars r) := by
  cases r <;> rfl

section

variable (header : HostAddr.Pipeline) {body otherwise : List HostAddr.Node}
  (hbody : ∀ dot vars, nodes h dot vars (ofNodes body) = report (Eval.nodes h dot vars body))
  (helse : ∀ dot vars,
    nodes h dot vars (ofNodes otherwise) = report (Eval.nodes h dot vars otherwise))

include hbody helse

lemma node_ofBranch {kind : BlockKind} (hkind : kind ≠ .rangeBlock) :
    node h dot vars (ofNode (.block kind header body otherwise)) =
      report (Eval.node h dot vars (.block kind header body otherwise)) := by
  have hnode : node h dot vars (ofNode (.block kind header body otherwise)) =
      (pipeline h dot vars (ofPipeline header) >>= fun (v, inner) =>
        (if v.isTrue then nodes h (kind.bodyDot dot v) inner (ofNodes body)
          else nodes h dot inner (ofNodes otherwise)) >>= fun (out, inner) =>
            return (out, inner.keep vars.length)) := by
    rw [ofNode, node]
    · refine congrArg _ (funext fun (v, inner) => ?_)
      cases hv : v.isTrue <;> simp only [hv] <;> rfl
    · exact fun hrange => hkind hrange
  rw [hnode, pipeline_ofPipeline, Eval.node_branch h hkind, report_bind]
  refine congrArg _ (funext fun (v, inner) => ?_)
  dsimp only
  rw [← report_endBlock, hbody, helse, apply_ite report]

lemma node_ofRange :
    node h dot vars (ofNode (.block .rangeBlock header body otherwise)) =
      report (Eval.node h dot vars (.block .rangeBlock header body otherwise)) := by
  rw [ofNode, node, ofPipeline, commands_ofPipe, Eval.node_range, report_bind]
  refine congrArg _ (funext fun v => ?_)
  rw [report_bind]
  refine congrArg _ (funext fun rounds => ?_)
  split
  · rw [helse]
    exact report_endBlock vars _
  · rw [report_foldlM]
    refine congrArg (fun round => rounds.list.foldlM round ("", vars)) ?_
    funext state entry
    obtain ⟨out, vars⟩ := state
    obtain ⟨i, w⟩ := entry
    dsimp only
    rw [Eval.rangeRound, report_bind]
    refine congrArg _ (funext fun inner => ?_)
    rw [hbody, report_bind]
    rfl

end

mutual

lemma node_ofNode (dot : Value) (vars : Vars) (n : HostAddr.Node) :
    node h dot vars (ofNode n) = report (Eval.node h dot vars n) := by
  match n with
  | .text s => rfl
  | .action p =>
    rw [ofNode, node, pipeline_ofPipeline, Eval.node, report_bind]
    rfl
  | .block kind header body otherwise =>
    have hbody := fun dot vars => nodes_ofNodes dot vars body
    have helse := fun dot vars => nodes_ofNodes dot vars otherwise
    by_cases hkind : kind = .rangeBlock
    · rw [hkind]
      exact node_ofRange h dot vars header hbody helse
    · exact node_ofBranch h dot vars header hbody helse hkind

lemma nodes_ofNodes (dot : Value) (vars : Vars) (ns : List HostAddr.Node) :
    nodes h dot vars (ofNodes ns) = report (Eval.nodes h dot vars ns) := by
  match ns with
  | [] => rfl
  | n :: ns =>
    rw [ofNodes, nodes, node_ofNode dot vars n, Eval.nodes, report_bind]
    refine congrArg _ (funext fun (out, mid) => ?_)
    dsimp only
    rw [nodes_ofNodes dot mid ns, report_bind]
    rfl

end

/-- A tree that was read runs by name as it does otherwise. -/
theorem run_ofNodes (ns : List HostAddr.Node) :
    run h dot (ofNodes ns) = report (Template.run h dot ns) := by
  rw [run, nodes_ofNodes, Template.run, report_map]

/-- Trees that are not read from a template do come to the exits. -/
example : run .empty .nil [.action ⟨[], false, [[.func "nope"]]⟩] =
    .error (.undefinedFunction "nope") := by decide

example : run .empty .nil [.action ⟨[], false, [[.dot, .func "print"]]⟩] =
    .error .argumentToNonFunction := by decide

end Named

namespace Template

/-- The tree of names and operands that stand in a template runs as the template does. It comes to
no exit, with any host and any dot, nor does any call of a function that can be named there. -/
theorem run_named {s : String} {t : Template} (ht : parse s = .ok t) :
    (∃ items, Item.scan s = .ok items ∧
      (Named.listPipelines (Named.ofNodes t.nodes)).map Named.Pipeline.tokens =
        items.flatMap Item.pipelineTokens) ∧
    (∀ (h : Host) (dot : Value),
      Named.run h dot (Named.ofNodes t.nodes) = Named.report (run h dot t.nodes) ∧
      ∀ e, Named.run h dot (Named.ofNodes t.nodes) = .error e → ∃ message, e = .fault message) ∧
    ∀ (h : Host) (name : String) (vs : List Value) (e : Named.Exit), Named.isDefined name →
      Named.call h name vs = .error e → ∃ message, e = .fault message := by
  refine ⟨?_, fun h dot => ?_, fun h name vs e hname hcall => ?_⟩
  · rw [parse] at ht
    split at ht
    · rename_i nodes hnodes
      cases ht
      obtain ⟨items, hscan, hread⟩ := bind_eq_ok_iff.1 hnodes
      refine ⟨items, hscan, ?_⟩
      rw [Named.pipelines_ofNodes, List.map_map, ← Node.tokens_of_parse hread]
      exact List.map_congr_left fun p _ => Named.tokens_ofPipeline p
    · cases ht
  · have hrun := Named.run_ofNodes h dot t.nodes
    exact ⟨hrun, fun e he => Named.exists_fault_of_report (hrun.symm.trans he)⟩
  · obtain ⟨f, rfl⟩ := Named.isDefined_iff.1 hname
    exact Named.exists_fault_of_report ((Named.call_name h f vs).symm.trans hcall)

/-- A pipe into a comparison that wants two arguments ends in a fault, not at an exit. -/
theorem run_named_fault :
    let s := "\x7b\x7brange $i := 2\x7d\x7d\x7b\x7b(print $i | printf \"%s\") | len | eq\x7d\x7d" ++
      "\x7b\x7bend\x7d\x7d"
    ∃ t, parse s = .ok t ∧ Named.run .empty .nil (Named.ofNodes t.nodes) =
      .error (.fault "wrong number of args for eq: want at least 2 got 1") := by
  intro s
  let stages : Pipe := .mk (.value (.group
    (.mk (.call (.mk .print [.var "$i" []])) [.mk .printf [.str "%s"]]))) [.mk .len [], .mk .eq []]
  have hscan : Item.scan s = .ok [.action [.ident "range", .var "$i" [], .declare, .int 2],
      .action [.leftParen, .ident "print", .var "$i" [], .pipe, .ident "printf", .str "%s",
        .rightParen, .pipe, .ident "len", .pipe, .ident "eq"], .action [.ident "end"]] := by
    decide +kernel
  have hparse : parse s = .ok ⟨s, [.block .rangeBlock ⟨["$i"], false, .mk (.value (.int 2)) []⟩
      [.action ⟨[], false, stages⟩] []]⟩ := by
    rw [parse, hscan]
    rfl
  refine ⟨_, hparse, ((run_named hparse).2.1 .empty .nil).1.trans ?_⟩
  decide +kernel

end Template

end HostAddr
