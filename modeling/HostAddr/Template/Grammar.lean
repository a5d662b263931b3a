import HostAddr.Template.Fault

/-!
# From items to the tree

Pipelines and blocks nest, so both are read with a stack of what is still open, one token and one
item at a time. Functions and variables are looked up here: a template that names an unknown
function, or a variable that is nowhere in sight, is refused before it runs. A variable is in sight
from its declaration to the end of the block around it.
-/

namespace HostAddr

/-- The variables in sight, the latest first. -/
abbrev Scope := List String

namespace Grammar

/-- A pipeline that is still open: the commands that are complete, and the operands of the next
one, the latest first. -/
structure OpenPipe where
  done : Option Pipe
  operands : List Operand

namespace OpenPipe

def start : OpenPipe :=
  ⟨none, []⟩

def push (p : OpenPipe) (o : Operand) : OpenPipe :=
  { p with operands := o :: p.operands }

/-- The command that operands make: a call if the first is a function, or else a lone value. -/
def commandOf : List Operand → Except SyntaxFault Command
  | [] => .error .missingCommand
  | .func f :: args => .ok (.call (.mk f args))
  | .nil :: _ => .error .nilCommand
  | [o] => .ok (.value o)
  | _ => .error .argumentToNonFunction

/-- The pipeline with its last command; only a call can follow another command. -/
def close (p : OpenPipe) : Except SyntaxFault Pipe := do
  let command ← commandOf p.operands.reverse
  match p.done, command with
  | none, command => .ok (.mk command [])
  | some (.mk first stages), .call c => .ok (.mk first (stages ++ [c]))
  | some (.mk _ stages), .value _ => .error (.notExecutable (stages.length + 2))

end OpenPipe

def operand (scope : Scope) : Token → Except SyntaxFault Operand
  | .ident "true" => .ok (.bool true)
  | .ident "false" => .ok (.bool false)
  | .ident "nil" => .ok .nil
  | .ident name =>
    match Function.ofName? name with
    | some f => .ok (.func f)
    | none => .error (.undefinedFunction name)
  | .dot => .ok .dot
  | .field first more => .ok (.field first more)
  | .var name fields =>
    if scope.contains name then .ok (.var name fields) else .error (.undefinedVariable name)
  | .str s => .ok (.str s)
  | .int n => .ok (.int n)
  | t => .error (.notAnOperand t)

/-- The innermost open pipeline and those around it. -/
structure PipeReader where
  inner : OpenPipe
  outer : List OpenPipe

namespace PipeReader

def start : PipeReader :=
  ⟨.start, []⟩

def step (place : PipelinePlace) (scope : Scope) (s : PipeReader) (t : Token) :
    Except SyntaxFault PipeReader :=
  match t with
  | .pipe => do
    let p ← s.inner.close
    return ⟨⟨some p, []⟩, s.outer⟩
  | .leftParen => .ok ⟨.start, s.inner :: s.outer⟩
  | .rightParen => do
    let p ← s.inner.close
    match s.outer with
    | [] => .error (.strayToken .rightParen place)
    | o :: outer => .ok ⟨o.push (.group p), outer⟩
  | t => do
    let o ← operand scope t
    return ⟨s.inner.push o, s.outer⟩

def finish (s : PipeReader) : Except SyntaxFault Pipe := do
  let p ← s.inner.close
  if s.outer.isEmpty then .ok p else .error .unclosedParen

end PipeReader

def pipe (place : PipelinePlace) (scope : Scope) (tokens : List Token) :
    Except SyntaxFault Pipe := do
  let s ← tokens.foldlM (PipeReader.step place scope) .start
  s.finish

/-- Whether the token assigns, if it binds variables at all. -/
def assigns? : Token → Option Bool
  | .declare => some false
  | .assign => some true
  | _ => none

/-- The variables that a pipeline binds, whether by assignment, and its other tokens. Only the
header of a range may bind two. -/
def splitBinding (place : PipelinePlace) (tokens : List Token) : List String × Bool × List Token :=
  match tokens with
  | .var x [] :: .comma :: .var y [] :: op :: rest =>
    match assigns? op, place with
    | some assigns, .header .rangeBlock => ([x, y], assigns, rest)
    | _, _ => ([], false, tokens)
  | .var x [] :: op :: rest =>
    match assigns? op with
    | some assigns => ([x], assigns, rest)
    | none => ([], false, tokens)
  | _ => ([], false, tokens)

def pipeline (place : PipelinePlace) (scope : Scope) (tokens : List Token) :
    Except SyntaxFault (Pipeline × Scope) :=
  match splitBinding place tokens with
  | (names, assigns, rest) =>
    if rest = [] then .error (.missingValue place)
    else do
      let p ← pipe place scope rest
      if assigns then
        match names.find? (!scope.contains ·) with
        | some name => .error (.undefinedVariable name)
        | none => .ok (⟨names, true, p⟩, scope)
      else .ok (⟨names, false, p⟩, names.reverse ++ scope)

/-- A block that is still open. -/
structure OpenBlock where
  kind : BlockKind
  header : Pipeline
  /-- The variables in sight before the block. -/
  scope : Scope
  /-- The nodes before the block in the list around it, the latest first. -/
  before : List Node
  /-- The body, once `else` has ended it. -/
  body : Option (List Node)
  /-- Whether the block stands after the `else` of the block around it and shares its end. -/
  chained : Bool

/-- The block, where `nodes` are those read since its header or its `else`. -/
def OpenBlock.node (b : OpenBlock) (nodes : List Node) : Node :=
  match b.body with
  | some body => .block b.kind b.header body nodes
  | none => .block b.kind b.header nodes []

/-- The state of a reader: the variables in sight, the nodes of the innermost list, the latest
first, and the open blocks, the innermost first. -/
structure Reader where
  scope : Scope
  nodes : List Node
  blocks : List OpenBlock

namespace Reader

def start : Reader :=
  ⟨["$"], [], []⟩

def push (s : Reader) (n : Node) : Reader :=
  { s with nodes := n :: s.nodes }

/-- Ends the innermost block and the blocks that share its end. -/
def close (nodes : List Node) : List OpenBlock → Except SyntaxFault Reader
  | [] => .error .endWithoutBlock
  | b :: blocks =>
    let around := b.node nodes.reverse :: b.before
    if b.chained then close around blocks else .ok ⟨b.scope, around, blocks⟩

def openBlock (s : Reader) (kind : BlockKind) (chained : Bool) (tokens : List Token) :
    Except SyntaxFault Reader := do
  let (header, scope) ← pipeline (.header kind) s.scope tokens
  return ⟨scope, [], ⟨kind, header, s.scope, s.nodes, none, chained⟩ :: s.blocks⟩

/-- An `else` with the tokens after it: the keyword of the block again chains another one. -/
def alternative (s : Reader) (tokens : List Token) : Except SyntaxFault Reader :=
  match s.blocks with
  | [] => .error .elseWithoutBlock
  | b :: blocks =>
    if b.body.isSome then .error (.secondElse b.kind)
    else
      let s : Reader := ⟨s.scope, [], { b with body := some s.nodes.reverse } :: blocks⟩
      match tokens with
      | [] => .ok s
      | .ident word :: header =>
        if b.kind ≠ .rangeBlock ∧ word = b.kind.keyword then s.openBlock b.kind true header
        else .error (.tokensAfterElse b.kind)
      | _ => .error (.tokensAfterElse b.kind)

def action (s : Reader) (tokens : List Token) : Except SyntaxFault Reader :=
  match tokens with
  | .ident "end" :: rest => if rest = [] then close s.nodes s.blocks else .error .tokensAfterEnd
  | .ident "else" :: rest => s.alternative rest
  | .ident "if" :: rest => s.openBlock .ifBlock false rest
  | .ident "with" :: rest => s.openBlock .withBlock false rest
  | .ident "range" :: rest => s.openBlock .rangeBlock false rest
  | .ident "define" :: _ => .error (.unsupportedAction "define")
  | .ident "template" :: _ => .error (.unsupportedAction "template")
  | .ident "block" :: _ => .error (.unsupportedAction "block")
  | .ident "break" :: _ => .error (.unsupportedAction "break")
  | .ident "continue" :: _ => .error (.unsupportedAction "continue")
  | tokens => do
    let (p, scope) ← pipeline .command s.scope tokens
    return { s with scope, nodes := .action p :: s.nodes }

def step (s : Reader) : Item → Except SyntaxFault Reader
  | .text t => .ok (s.push (.text t))
  | .action tokens => s.action tokens

def finish (s : Reader) : Except SyntaxFault (List Node) :=
  match s.blocks with
  | [] => .ok s.nodes.reverse
  | b :: _ => .error (if b.body.isSome then .secondElse b.kind else .unclosedBlock b.kind)

end Reader

end Grammar

def Node.parse (items : List Item) : Except SyntaxFault (List Node) := do
  let s ← items.foldlM Grammar.Reader.step .start
  s.finish

end HostAddr
