import HostAddr.Text.Split

/-!
# Coloured text

Text between the escape sequences of a terminal. A sequence inside the text that ends all colours
is followed by the style again, so that the style holds to the end of the text.
-/

namespace HostAddr

namespace CommandLine

/-- A style as the parameters of its escape sequence. -/
structure Style where
  codes : String

namespace Style

def heading : Style :=
  ⟨"1;38;2;102;204;255"⟩

def key : Style :=
  ⟨"38;2;255;204;102"⟩

def value : Style :=
  ⟨"38;2;212;212;212"⟩

def affirmed : Style :=
  ⟨"38;2;170;255;170"⟩

def denied : Style :=
  ⟨"38;2;255;102;178"⟩

def separator : Style :=
  ⟨"90"⟩

def debugMark : Style :=
  ⟨"34"⟩

def errorMark : Style :=
  ⟨"1;31"⟩

def start (s : Style) : List Char :=
  '\x1b' :: '[' :: s.codes.toList ++ ['m']

def reset : List Char :=
  ['\x1b', '[', '0', 'm']

/-- Starts the style again after each sequence in the text that ends it. -/
def resume (s : Style) : List Char → List Char
  | '\x1b' :: '[' :: '0' :: 'm' :: cs => reset ++ s.start ++ resume s cs
  | c :: cs => c :: resume s cs
  | [] => []

/-- The text in the style, or as it stands where there are no colours. -/
def paint (s : Style) (colour : Bool) (text : String) : String :=
  if colour then String.ofList (s.start ++ s.resume text.toList ++ reset) else text

end Style

end CommandLine

end HostAddr
