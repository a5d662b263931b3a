import HostAddr.Error
import HostAddr.Template.Node
import HostAddr.Template.Value

/-!
# What may be wrong with a template

A template either is not well formed, which shows before anything runs, or fails while it runs.
-/

namespace HostAddr

inductive PipelinePlace where
  | command
  | header (kind : BlockKind)
deriving DecidableEq

def PipelinePlace.name : PipelinePlace → String
  | command => "command"
  | header kind => kind.keyword

inductive SyntaxFault where
  | commentNotAlone
  | unclosedComment
  | tokensAfterComment
  | unclosedAction
  | loneColon
  | unexpectedChar (c : Char)
  | malformedNumber (text : String)
  | unterminatedString
  /-- A backslash before a character that it does not go with, or before the end. -/
  | unknownEscape (c : Option Char)
  | unterminatedRawString
  | endWithoutBlock
  | elseWithoutBlock
  | tokensAfterEnd
  | unsupportedAction (keyword : String)
  | secondElse (kind : BlockKind)
  | tokensAfterElse (kind : BlockKind)
  | unclosedBlock (kind : BlockKind)
  | missingValue (place : PipelinePlace)
  | strayToken (t : Token) (place : PipelinePlace)
  | undefinedVariable (name : String)
  /-- A stage of a pipeline, counted from 1, that calls no function. -/
  | notExecutable (stage : Nat)
  | missingCommand
  | nilCommand
  | argumentToNonFunction
  | undefinedFunction (name : String)
  | unclosedParen
  | notAnOperand (t : Token)
deriving DecidableEq

/-- A character, or none, as it is shown in a message. -/
def shownChar? : Option Char → String
  | some c => s!"Some({quoteChar c})"
  | none => "None"

def SyntaxFault.message : SyntaxFault → String
  | commentNotAlone => "comment must fill the whole action"
  | unclosedComment => "unclosed comment"
  | tokensAfterComment => "comment ends before closing delimiter"
  | unclosedAction => "unclosed action"
  | loneColon => "expected :="
  | unexpectedChar c => s!"unexpected {quoteChar c} in action"
  | malformedNumber text => s!"bad number syntax: {quote text}"
  | unterminatedString => "unterminated quoted string"
  | unknownEscape c => s!"unknown escape sequence {shownChar? c}"
  | unterminatedRawString => "unterminated raw quoted string"
  | endWithoutBlock => "unexpected \x7b\x7bend\x7d\x7d"
  | elseWithoutBlock => "unexpected \x7b\x7belse\x7d\x7d"
  | tokensAfterEnd => "unexpected tokens after end"
  | unsupportedAction keyword => s!"unsupported action {quote keyword}"
  | secondElse kind => s!"expected end after else in {kind.keyword}"
  | tokensAfterElse kind => s!"unexpected tokens after else in {kind.keyword}"
  | unclosedBlock kind => s!"unexpected EOF in {kind.keyword}"
  | missingValue place => s!"missing value for {place.name}"
  | strayToken t place => s!"unexpected {t.text} in {place.name}"
  | undefinedVariable name => s!"undefined variable {quote name}"
  | notExecutable stage => s!"non executable command in pipeline stage {stage}"
  | missingCommand => "missing command"
  | nilCommand => "nil is not a command"
  | argumentToNonFunction => "can't give argument to non-function"
  | undefinedFunction name => s!"function {quote name} not defined"
  | unclosedParen => "unclosed left paren"
  | notAnOperand t => s!"unexpected {t.text} in operand"

inductive EvalFault where
  | library (e : Error)
  | undefinedVariable (name : String)
  | notIterable (kind : ValueKind)
  | wrongCount (f : Function) (want got : Nat)
  | tooFew (f : Function) (want got : Nat)
  /-- The argument at a position counted from 1 is not of the kind wanted. -/
  | wrongKind (f : Function) (position : Nat) (want got : ValueKind)
  | negativeLimit
  | noLength (kind : ValueKind)
  | notAnIndex (kind : ValueKind)
  | notIndexable (kind : ValueKind)
  | indexOutOfRange (i : Int)
  | incomparable (kind : ValueKind)
  | mismatchedKinds (a b : ValueKind)
  | fieldOfNil (name : String)
  | noField (name : String) (kind : ValueKind)
deriving DecidableEq

def EvalFault.message : EvalFault → String
  | library e => e.message
  | undefinedVariable name => s!"undefined variable {quote name}"
  | notIterable kind => s!"range can't iterate over {kind.name}"
  | wrongCount f want got => s!"wrong number of args for {f.name}: want {want} got {got}"
  | tooFew f want got => s!"wrong number of args for {f.name}: want at least {want} got {got}"
  | wrongKind f position want got =>
    s!"wrong type for argument {position} of {f.name}: want {want.name} got {got.name}"
  | negativeLimit => "limit: count must not be negative"
  | noLength kind => s!"len of type {kind.name}"
  | notAnIndex kind => s!"cannot index with {kind.name}"
  | notIndexable kind => s!"can't index item of type {kind.name}"
  | indexOutOfRange i => s!"index out of range: {i}"
  | incomparable kind => s!"invalid type for comparison: {kind.name}"
  | mismatchedKinds a b => s!"incompatible types for comparison: {a.name} and {b.name}"
  | fieldOfNil name => s!"nil data; no entry for key {quote name}"
  | noField name kind => s!"can't evaluate field {name} in type {kind.name}"

/-- A template that is not well formed, or that failed while it ran. -/
inductive TemplateError where
  | parse (source : String) (fault : SyntaxFault)
  | execute (source : String) (fault : EvalFault)
deriving DecidableEq

def TemplateError.message : TemplateError → String
  | parse source fault => s!"unable to parse template {quote source}: {fault.message}"
  | execute source fault => s!"unable to execute template {quote source}: {fault.message}"

end HostAddr
