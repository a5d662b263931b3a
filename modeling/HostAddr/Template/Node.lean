import HostAddr.Template.Function
import HostAddr.Template.Token

/-!
# The tree of a template

A template is a list of nodes: text, actions and blocks. An action and the header of a block each
hold a pipeline, a command whose value is handed on from call to call; it may bind its final value
to variables. `Node.items` writes a tree as the items that it is read from.
-/

namespace HostAddr

mutual

inductive Operand where
  | func (f : Function)
  | dot
  | field (first : String) (more : List String)
  | var (name : String) (fields : List String)
  | str (s : String)
  | int (n : Int)
  | bool (b : Bool)
  | nil
  | group (p : Pipe)

inductive Call where
  | mk (f : Function) (args : List Operand)

inductive Command where
  | call (c : Call)
  | value (o : Operand)

/-- A command and the calls that its value goes through. -/
inductive Pipe where
  | mk (first : Command) (stages : List Call)

end

/-- A pipeline with the variables that it binds: newly declared ones, or ones assigned to. -/
structure Pipeline where
  names : List String
  assigns : Bool
  pipe : Pipe

inductive BlockKind where
  | ifBlock
  | withBlock
  | rangeBlock
deriving DecidableEq

def BlockKind.keyword : BlockKind → String
  | ifBlock => "if"
  | withBlock => "with"
  | rangeBlock => "range"

inductive Node where
  | text (s : String)
  | action (p : Pipeline)
  | block (kind : BlockKind) (header : Pipeline) (body otherwise : List Node)

mutual

def Operand.tokens : Operand → List Token
  | .func f => [.ident f.name]
  | .dot => [.dot]
  | .field first more => [.field first more]
  | .var name fields => [.var name fields]
  | .str s => [.str s]
  | .int n => [.int n]
  | .bool b => [.ident (if b then "true" else "false")]
  | .nil => [.ident "nil"]
  | .group p => .leftParen :: p.tokens ++ [.rightParen]

def Operand.listTokens : List Operand → List Token
  | [] => []
  | o :: os => o.tokens ++ Operand.listTokens os

def Call.tokens : Call → List Token
  | .mk f args => .ident f.name :: Operand.listTokens args

def Command.tokens : Command → List Token
  | .call c => c.tokens
  | .value o => o.tokens

def Call.stageTokens : List Call → List Token
  | [] => []
  | c :: cs => .pipe :: c.tokens ++ Call.stageTokens cs

def Pipe.tokens : Pipe → List Token
  | .mk first stages => first.tokens ++ Call.stageTokens stages

end

/-- The variables that a pipeline binds, between commas, and the sign after them. -/
def bindingTokens (names : List String) (assigns : Bool) : List Token :=
  if names = [] then []
  else [Token.comma].intercalate (names.map fun n => [.var n []]) ++
    [if assigns then .assign else .declare]

def Pipeline.tokens (p : Pipeline) : List Token :=
  bindingTokens p.names p.assigns ++ p.pipe.tokens

mutual

/-- The items that a node is read from. -/
def Node.items : Node → List Item
  | .text s => [.text s]
  | .action p => [.action p.tokens]
  | .block kind header body otherwise =>
    .action (.ident kind.keyword :: header.tokens) :: Node.listItems body ++
      (if otherwise.isEmpty then [] else .action [.ident "else"] :: Node.listItems otherwise) ++
      [.action [.ident "end"]]

def Node.listItems : List Node → List Item
  | [] => []
  | n :: ns => n.items ++ Node.listItems ns

end

end HostAddr
