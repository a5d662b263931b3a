import HostAddr.Template.Value
import HostAddr.Text.Numeral
import HostAddr.Text.Quoted

/-!
# Formatted output

A format is copied to the output, except that a percent sign and the verb after it stand for the
next operand. A missing operand, a missing verb and operands left over are noted in the output.
-/

namespace HostAddr

namespace Value

def octetHex (s : String) : List Char :=
  s.toUTF8.toList.flatMap fun b => padded 16 2 b.toNat

/-- A number in hexadecimal; a negative one as the complement of 64 bits. -/
def intHex (n : Int) : List Char :=
  Nat.toDigits 16 (n % 0x10000000000000000).toNat

/-- Note of an operand that its verb does not go with, or that no verb asks for. -/
def note (label : List Char) (v : Value) : List Char :=
  "%!".toList ++ label ++ '=' :: v.text.toList ++ [')']

def formatAs (verb : Char) (v : Value) : List Char :=
  match verb, v with
  | 's', v | 'v', v => v.text.toList
  | 'd', .int n => (toString n).toList
  | 'q', .str s => quoteChars s.toList
  | 'x', .int n => intHex n
  | 'x', .str s => octetHex s
  | verb, v => note (verb :: '(' :: v.kind.name.toList) v

/-- Note of a percent sign that no verb follows. -/
def noVerbNote : List Char :=
  "%!(NOVERB)".toList

def missingNote (verb : Char) : List Char :=
  '%' :: '!' :: verb :: "(MISSING)".toList

def extraNote (v : Value) : List Char :=
  note ("(EXTRA ".toList ++ v.kind.name.toList) v

def formatChars : List Char → List Value → List Char
  | [], vs => vs.flatMap extraNote
  | ['%'], vs => noVerbNote ++ vs.flatMap extraNote
  | '%' :: '%' :: cs, vs => '%' :: formatChars cs vs
  | '%' :: verb :: cs, v :: vs => v.formatAs verb ++ formatChars cs vs
  | '%' :: verb :: cs, [] => missingNote verb ++ formatChars cs []
  | c :: cs, vs => c :: formatChars cs vs

def format (f : String) (vs : List Value) : String :=
  String.ofList (formatChars f.toList vs)

def isStr : Value → Bool
  | str _ => true
  | _ => false

/-- All values in one text, a space between two of which neither is a string. -/
def concat : List Value → String
  | [] => ""
  | [v] => v.text
  | v :: w :: vs => v.text ++ (if v.isStr || w.isStr then "" else " ") ++ concat (w :: vs)

end Value

end HostAddr
