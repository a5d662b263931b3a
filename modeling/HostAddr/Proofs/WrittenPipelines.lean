import HostAddr.Proofs.Outcome
import HostAddr.Template.Grammar

/-!
# Pipelines as they were written

Reading puts the actions of a template into a tree, but keeps the tokens of every pipeline: the
pipelines of the tree, in order, are written as the actions that they were read from. The stack of
open pipelines and the open blocks both carry this, since no token and no item is dropped or moved.
-/

namespace HostAddr

lemma Function.name_of_ofName? {s : String} {f : Function} (h : Function.ofName? s = some f) :
    f.name = s := by
  simpa using List.find?_some h

lemma Operand.listTokens_eq_flatMap (os : List Operand) :
    Operand.listTokens os = os.flatMap Operand.tokens := by
  induction os with
  | nil => rfl
  | cons o os ih => rw [Operand.listTokens, ih, List.flatMap_cons]

lemma Call.stageTokens_eq_flatMap (cs : List Call) :
    Call.stageTokens cs = cs.flatMap fun c => .pipe :: c.tokens := by
  induction cs with
  | nil => rfl
  | cons c cs ih => rw [Call.stageTokens, ih, List.flatMap_cons]

namespace Grammar

lemma tokens_of_operand {scope : Scope} {t : Token} {o : Operand}
    (h : operand scope t = .ok o) : o.tokens = [t] := by
  unfold operand at h
  split at h
  case h_4 name =>
    split at h
    · rename_i f hf
      cases h
      rw [Operand.tokens, Function.name_of_ofName? hf]
    · cases h
  case h_7 =>
    split at h
    · cases h
      rfl
    · cases h
  case h_10 => cases h
  all_goals
    cases h
    rfl

namespace OpenPipe

/-- The tokens that an open pipeline was read from. -/
def written (p : OpenPipe) : List Token :=
  p.done.toList.flatMap (fun q => q.tokens ++ [.pipe]) ++ p.operands.reverse.flatMap Operand.tokens

@[simp] lemma written_start : start.written = [] := rfl

@[simp] lemma written_push (p : OpenPipe) (o : Operand) :
    (p.push o).written = p.written ++ o.tokens := by
  simp [push, written]

@[simp] lemma written_done (q : Pipe) : written ⟨some q, []⟩ = q.tokens ++ [.pipe] := by
  simp [written]

lemma tokens_of_commandOf {os : List Operand} {c : Command} (h : commandOf os = .ok c) :
    c.tokens = os.flatMap Operand.tokens := by
  unfold commandOf at h
  split at h
  · cases h
  · cases h
    simp [Command.tokens, Call.tokens, Operand.tokens, Operand.listTokens_eq_flatMap]
  · cases h
  · cases h
    simp [Command.tokens]
  · cases h

lemma tokens_of_close {p : OpenPipe} {q : Pipe} (h : p.close = .ok q) : q.tokens = p.written := by
  obtain ⟨c, hc, h⟩ := bind_eq_ok_iff.1 h
  rw [written, ← tokens_of_commandOf hc]
  split at h
  · rename_i hdone
    cases h
    simp [hdone, Pipe.tokens, Call.stageTokens]
  · rename_i first stages call hdone
    cases h
    simp [hdone, Pipe.tokens, Call.stageTokens_eq_flatMap, Command.tokens]
  · cases h

end OpenPipe

namespace PipeReader

/-- The tokens that the open pipelines were read from, the outermost first. -/
def written (s : PipeReader) : List Token :=
  s.outer.reverse.flatMap (fun p => p.written ++ [.leftParen]) ++ s.inner.written

/-- One token is added to what was written. -/
lemma written_step {place : PipelinePlace} {scope : Scope} {s s' : PipeReader} {t : Token}
    (h : s.step place scope t = .ok s') : s'.written = s.written ++ [t] := by
  unfold PipeReader.step at h
  split at h
  · obtain ⟨p, hp, h⟩ := bind_eq_ok_iff.1 h
    cases h
    simp [written, OpenPipe.tokens_of_close hp]
  · cases h
    simp [written]
  · obtain ⟨p, hp, h⟩ := bind_eq_ok_iff.1 h
    split at h
    · cases h
    · rename_i o outer houter
      cases h
      simp [written, houter, Operand.tokens, OpenPipe.tokens_of_close hp]
  · obtain ⟨o, ho, h⟩ := bind_eq_ok_iff.1 h
    cases h
    simp [written, tokens_of_operand ho]

end PipeReader

/-- A pipeline is written as it was read. -/
theorem tokens_of_pipe {place : PipelinePlace} {scope : Scope} {tokens : List Token} {p : Pipe}
    (h : pipe place scope tokens = .ok p) : p.tokens = tokens := by
  obtain ⟨s, hs, h⟩ := bind_eq_ok_iff.1 h
  have hwritten : s.written = tokens := by
    have hrun := foldlM_appends PipeReader.written (fun t => [t])
      (fun _ _ _ => PipeReader.written_step) hs
    rw [hrun, List.flatMap_singleton']
    rfl
  obtain ⟨q, hq, h⟩ := bind_eq_ok_iff.1 h
  split at h
  · rename_i houter
    cases h
    rw [OpenPipe.tokens_of_close hq, ← hwritten, PipeReader.written, List.isEmpty_iff.1 houter]
    rfl
  · cases h

lemma bindingTokens_splitBinding (place : PipelinePlace) (tokens : List Token) :
    bindingTokens (splitBinding place tokens).1 (splitBinding place tokens).2.1 ++
      (splitBinding place tokens).2.2 = tokens := by
  have hsign : ∀ {op assigns}, assigns? op = some assigns →
      (if assigns then Token.assign else .declare) = op := by
    intro op assigns h
    cases op <;> cases h <;> rfl
  unfold splitBinding
  split
  · split
    · rename_i hop
      simp [bindingTokens, List.intercalate, hsign hop]
    · rfl
  · split
    · rename_i hop
      simp [bindingTokens, List.intercalate, hsign hop]
    · rfl
  · rfl

/-- So is a pipeline with what it binds. -/
theorem tokens_of_pipeline {place : PipelinePlace} {scope scope' : Scope} {tokens : List Token}
    {p : Pipeline} (h : pipeline place scope tokens = .ok (p, scope')) : p.tokens = tokens := by
  have hsplit := bindingTokens_splitBinding place tokens
  unfold pipeline at h
  generalize splitBinding place tokens = parts at h hsplit
  obtain ⟨names, assigns, rest⟩ := parts
  dsimp only at h hsplit
  by_cases hrest : rest = []
  · rw [if_pos hrest] at h
    cases h
  rw [if_neg hrest] at h
  obtain ⟨q, hq, hbind⟩ := bind_eq_ok_iff.1 h
  clear h
  rw [← hsplit, ← tokens_of_pipe hq]
  split at hbind
  · rename_i hassigns
    split at hbind
    · cases hbind
    · cases hbind
      rw [hassigns]
      rfl
  · rename_i hassigns
    cases hbind
    rw [eq_false_of_ne_true hassigns]
    rfl

end Grammar

mutual

/-- The pipelines of a node in the order of its text. -/
def Node.pipelines : Node → List Pipeline
  | .text _ => []
  | .action p => [p]
  | .block _ header body otherwise =>
    header :: Node.listPipelines body ++ Node.listPipelines otherwise

def Node.listPipelines : List Node → List Pipeline
  | [] => []
  | n :: ns => n.pipelines ++ Node.listPipelines ns

end

lemma Node.listPipelines_append (ns ms : List Node) :
    listPipelines (ns ++ ms) = listPipelines ns ++ listPipelines ms := by
  induction ns with
  | nil => rfl
  | cons n ns ih => simp [listPipelines, ih]

/-- The tokens of the pipeline of an action, behind the words before it. -/
def Item.pipelineTokens : Item → List (List Token)
  | .text _ => []
  | .action (.ident "end" :: _) => []
  | .action [.ident "else"] => []
  | .action (.ident "else" :: _ :: header) => [header]
  | .action (.ident "if" :: header) => [header]
  | .action (.ident "with" :: header) => [header]
  | .action (.ident "range" :: header) => [header]
  | .action tokens => [tokens]

namespace Grammar

/-- The pipelines of a block that stand before its innermost list, and those before the block. -/
def OpenBlock.pipelines (b : OpenBlock) : List Pipeline :=
  Node.listPipelines b.before.reverse ++ b.header :: Node.listPipelines (b.body.getD [])

lemma OpenBlock.pipelines_node (b : OpenBlock) (ns : List Node) :
    Node.listPipelines b.before.reverse ++ (b.node ns).pipelines =
      b.pipelines ++ Node.listPipelines ns := by
  cases h : b.body <;> simp [pipelines, node, h, Node.pipelines, Node.listPipelines]

namespace Reader

/-- All pipelines that have been read, in order. -/
def pipelines (s : Reader) : List Pipeline :=
  s.blocks.reverse.flatMap OpenBlock.pipelines ++ Node.listPipelines s.nodes.reverse

lemma pipelines_of_close {nodes : List Node} {blocks : List OpenBlock} {s : Reader}
    (h : close nodes blocks = .ok s) :
    s.pipelines = blocks.reverse.flatMap OpenBlock.pipelines ++
      Node.listPipelines nodes.reverse := by
  induction blocks generalizing nodes with
  | nil => cases h
  | cons b blocks ih =>
    have haround : Node.listPipelines (b.node nodes.reverse :: b.before).reverse =
        b.pipelines ++ Node.listPipelines nodes.reverse := by
      rw [List.reverse_cons, Node.listPipelines_append, ← b.pipelines_node]
      simp [Node.listPipelines]
    rw [close] at h
    split at h
    · rw [ih h, haround]
      simp
    · cases h
      rw [pipelines, haround]
      simp

lemma pipelines_of_openBlock {s s' : Reader} {kind : BlockKind} {chained : Bool}
    {tokens : List Token} (h : s.openBlock kind chained tokens = .ok s') :
    s'.pipelines.map Pipeline.tokens = s.pipelines.map Pipeline.tokens ++ [tokens] := by
  obtain ⟨⟨header, scope⟩, hheader, h⟩ := bind_eq_ok_iff.1 h
  cases h
  simp [pipelines, OpenBlock.pipelines, Node.listPipelines, tokens_of_pipeline hheader]

lemma pipelines_of_alternative {s s' : Reader} {tokens : List Token}
    (h : s.alternative tokens = .ok s') :
    s'.pipelines.map Pipeline.tokens = s.pipelines.map Pipeline.tokens ++
      (Item.action (.ident "else" :: tokens)).pipelineTokens := by
  obtain ⟨scope, nodes, blocks⟩ := s
  unfold alternative at h
  split at h
  · cases h
  · rename_i b blocks hblocks
    obtain rfl := hblocks
    split at h
    · cases h
    · rename_i hbody
      have hnone : b.body = none := by simpa using hbody
      have helse : pipelines ⟨scope, [], { b with body := some nodes.reverse } :: blocks⟩ =
          pipelines ⟨scope, nodes, b :: blocks⟩ := by
        simp [pipelines, OpenBlock.pipelines, hnone, Node.listPipelines]
      dsimp only at h
      split at h
      · cases h
        simp [helse, Item.pipelineTokens]
      · split at h
        · rw [pipelines_of_openBlock h, helse]
          rfl
        · cases h
      · cases h

/-- One item adds its pipeline, if it has one. -/
lemma pipelines_step {s s' : Reader} {item : Item} (h : s.step item = .ok s') :
    s'.pipelines.map Pipeline.tokens =
      s.pipelines.map Pipeline.tokens ++ item.pipelineTokens := by
  cases item with
  | text t =>
    cases h
    simp [push, pipelines, Node.listPipelines_append, Node.listPipelines, Node.pipelines,
      Item.pipelineTokens]
  | action tokens =>
    rw [step] at h
    unfold action at h
    split at h
    case h_1 =>
      split at h
      · rw [pipelines_of_close h]
        simp [pipelines, Item.pipelineTokens]
      · cases h
    case h_2 => exact pipelines_of_alternative h
    case h_3 => exact pipelines_of_openBlock h
    case h_4 => exact pipelines_of_openBlock h
    case h_5 => exact pipelines_of_openBlock h
    case h_11 hend helse hif hwith hrange _ _ _ _ _ =>
      obtain ⟨⟨p, scope⟩, hp, h⟩ := bind_eq_ok_iff.1 h
      cases h
      have hitem : (Item.action tokens).pipelineTokens = [tokens] := by
        rw [Item.pipelineTokens]
        · exact hend
        · exact helse []
        · exact fun word header => helse (word :: header)
        · exact hif
        · exact hwith
        · exact hrange
      simp [hitem, pipelines, Node.listPipelines_append, Node.listPipelines, Node.pipelines,
        tokens_of_pipeline hp]
    all_goals cases h

end Reader

end Grammar

/-- The pipelines of a tree are written as the actions that they were read from. -/
theorem Node.tokens_of_parse {items : List Item} {ns : List Node} (h : Node.parse items = .ok ns) :
    (listPipelines ns).map Pipeline.tokens = items.flatMap Item.pipelineTokens := by
  obtain ⟨s, hs, h⟩ := bind_eq_ok_iff.1 h
  have hrun := foldlM_appends (fun s => s.pipelines.map Pipeline.tokens) Item.pipelineTokens
    (fun _ _ _ => Grammar.Reader.pipelines_step) hs
  unfold Grammar.Reader.finish at h
  split at h
  · rename_i hblocks
    cases h
    simpa [Grammar.Reader.pipelines, hblocks, Grammar.Reader.start, listPipelines] using hrun
  · cases h

end HostAddr
