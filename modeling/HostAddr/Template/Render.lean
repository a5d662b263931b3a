import HostAddr.Template.Eval
import HostAddr.Template.Grammar
import HostAddr.Template.Scan

/-!
# Templates

A template is read once and can then be run against any host, with any value as the dot. The
variable `$` holds the first dot.
-/

namespace HostAddr

structure Template where
  source : String
  nodes : List Node

namespace Template

def parse (s : String) : Except TemplateError Template :=
  match Item.scan s >>= Node.parse with
  | .ok nodes => .ok ⟨s, nodes⟩
  | .error fault => .error (.parse s fault)

def run (h : Host) (dot : Value) (nodes : List Node) : Except EvalFault String :=
  (Eval.nodes h dot [("$", dot)] nodes).map Prod.fst

def execute (t : Template) (h : Host) (dot : Value) : Except TemplateError String :=
  match run h dot t.nodes with
  | .ok out => .ok out
  | .error fault => .error (.execute t.source fault)

end Template

/-- A template that failed, or a host that did not list its records. -/
inductive RenderError where
  | template (e : TemplateError)
  | host (e : Error)
deriving DecidableEq

def RenderError.message : RenderError → String
  | template e => e.message
  | host e => e.message

/-- The error of an operation on records or of the host that a failure comes from. -/
def RenderError.library? : RenderError → Option Error
  | template (.execute _ (.library e)) => some e
  | template _ => none
  | host e => some e

/-- Reads a template and runs it with all records of the host as the dot. -/
def render (h : Host) (s : String) : Except RenderError String :=
  match Template.parse s with
  | .error e => .error (.template e)
  | .ok t =>
    match h.allInterfaces with
    | .error e => .error (.host e)
    | .ok rs =>
      match t.execute h (.records rs) with
      | .error e => .error (.template e)
      | .ok out => .ok out

end HostAddr
