import HostAddr.Text.Letter
import HostAddr.Text.Quoted

/-!
# Tokens and items

A template is a list of items: literal text and actions, where an action is the list of tokens
between double braces. Tokens have two written forms that differ in strings alone: one is read
back as the same token, the other shows every character and serves in messages.
-/

namespace HostAddr

inductive Token where
  | ident (name : String)
  | dot
  /-- A chain of fields of the dot, at least one. -/
  | field (first : String) (more : List String)
  /-- A variable, whose name starts with a dollar sign, with a chain of fields. -/
  | var (name : String) (fields : List String)
  | str (s : String)
  | int (n : Int)
  | pipe
  | leftParen
  | rightParen
  | comma
  | declare
  | assign
deriving DecidableEq

inductive Item where
  | text (s : String)
  | action (tokens : List Token)
deriving DecidableEq

/-- The characters that a string in double quotation marks does not hold as they stand. -/
def sourceEscape : Char → List Char
  | '\\' => ['\\', '\\']
  | '"' => ['\\', '"']
  | '\n' => ['\\', 'n']
  | '\t' => ['\\', 't']
  | '\r' => ['\\', 'r']
  | c => [c]

/-- A string in double quotation marks, in the form that is read back. -/
def sourceQuoted (s : String) : List Char :=
  '"' :: s.toList.flatMap sourceEscape ++ ['"']

namespace Token

/-- Each field after a dot. -/
def fieldChars (fields : List String) : List Char :=
  fields.flatMap fun f => '.' :: f.toList

/-- The written form of a token, with strings written by `str`. -/
def charsWith (str : String → List Char) : Token → List Char
  | ident name => name.toList
  | dot => ['.']
  | field first more => fieldChars (first :: more)
  | var name fields => name.toList ++ fieldChars fields
  | .str s => str s
  | int n => (toString n).toList
  | pipe => ['|']
  | leftParen => ['(']
  | rightParen => [')']
  | comma => [',']
  | declare => [':', '=']
  | assign => ['=']

/-- The form that is read back as the token. -/
def source (t : Token) : List Char :=
  t.charsWith sourceQuoted

/-- The form for messages. -/
def text (t : Token) : String :=
  String.ofList (t.charsWith fun s => quoteChars s.toList)

end Token

end HostAddr
