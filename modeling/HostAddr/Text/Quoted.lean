import HostAddr.Text.Hidden

/-!
# Quoted text

Text is quoted so that every character of it shows. The quotation mark and the backslash are
written after a backslash, the four common controls by name, and any other hidden character by
its code point in hexadecimal. All else stands as it is.
-/

namespace HostAddr

/-- The code point of `c` in hexadecimal, as an escape of its own. -/
def codeEscape (c : Char) : List Char :=
  ['\\', 'u', '\x7b'] ++ Nat.toDigits 16 c.toNat ++ ['\x7d']

/-- One character inside quotation marks of the kind `mark`. -/
def escapeChar (mark c : Char) : List Char :=
  if c = mark ∨ c = '\\' then ['\\', c]
  else if c = '\n' then ['\\', 'n']
  else if c = '\r' then ['\\', 'r']
  else if c = '\t' then ['\\', 't']
  else if c = '\x00' then ['\\', '0']
  else if isHidden c then codeEscape c
  else [c]

def quoteChars (cs : List Char) : List Char :=
  '"' :: cs.flatMap (escapeChar '"') ++ ['"']

def quote (s : String) : String :=
  String.ofList (quoteChars s.toList)

def quoteChar (c : Char) : String :=
  String.ofList ('\'' :: escapeChar '\'' c ++ ['\''])

end HostAddr
