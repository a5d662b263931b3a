import HostAddr.Error
import HostAddr.Text.Numeral

/-!
# Arguments

The command line is a command with options and operands, and the options that every command takes
can stand before or after the word of the command. Options are single letters, which can be run
together, or words after two hyphens; two hyphens alone end the options. A command line that does
not fit is a usage error and nothing runs.
-/

namespace HostAddr

namespace CommandLine

inductive Opt where
  | quiet
  | verbose
  | noColour
  | help
  | version
  | machine
  | valuesOnly
  | ipv4
  | ipv6
  | ip
  | unix
  | only
  | debug
deriving DecidableEq

namespace Opt

def takesValue : Opt → Bool
  | only => true
  | _ => false

def repeats : Opt → Bool
  | quiet | verbose | only => true
  | _ => false

end Opt

/-- The places at which words of the command line are read. -/
inductive Level where
  | root
  | dump
  | eval
  | rfc
  | rfcList
  | rfcCheck
deriving DecidableEq

namespace Level

def short? (l : Level) : Char → Option Opt
  | 'q' => some .quiet
  | 'v' => some .verbose
  | 'h' => some .help
  | 'V' => if l = root then some .version else none
  | 'H' => if l = dump then some .machine else none
  | 'n' => if l = dump ∨ l = eval then some .valuesOnly else none
  | '4' => if l = dump then some .ipv4 else none
  | '6' => if l = dump then some .ipv6 else none
  | 'i' => if l = dump then some .ip else none
  | 'u' => if l = dump then some .unix else none
  | 'o' => if l = dump then some .only else none
  | 'd' => if l = eval then some .debug else none
  | _ => none

def long? (l : Level) : String → Option Opt
  | "quiet" => some .quiet
  | "verbose" => some .verbose
  | "no-color" => some .noColour
  | "help" => some .help
  | "version" => if l = root then some .version else none
  | _ => none

/-- What the word of a command leads to: another level, or the help text. -/
inductive Branch where
  | level (l : Level)
  | help

def branch? : Level → String → Option Branch
  | root, "dump" | root, "d" => some (.level dump)
  | root, "eval" | root, "e" => some (.level eval)
  | root, "rfc" => some (.level rfc)
  | rfc, "list" => some (.level rfcList)
  | rfc, "check" => some (.level rfcCheck)
  | root, "help" | rfc, "help" => some .help
  | _, _ => none

/-- Whether the level has operands; a level without them and without commands takes no words. -/
def takesOperands : Level → Bool
  | dump | eval | rfcCheck => true
  | root | rfc | rfcList => false

end Level

inductive Stop where
  | usage
  | help
  | version
deriving DecidableEq

/-- What a level has been given: options with their operands, where `""` stands for none, and
operands of the level itself, all in order. -/
structure Given where
  options : List (Opt × String)
  operands : List String

namespace Given

def empty : Given :=
  ⟨[], []⟩

def operand (g : Given) (s : String) : Given :=
  { g with operands := g.operands ++ [s] }

/-- Adds an option; help and version are answered at once. -/
def option (g : Given) (o : Opt) (value : String) : Except Stop Given :=
  match o with
  | .help => .error .help
  | .version => .error .version
  | o =>
    if !o.repeats && g.options.any (·.1 == o) then .error .usage
    else .ok { g with options := g.options ++ [(o, value)] }

def count (g : Given) (o : Opt) : Nat :=
  g.options.countP (·.1 == o)

def has (g : Given) (o : Opt) : Bool :=
  g.options.any (·.1 == o)

def values (g : Given) (o : Opt) : List String :=
  (g.options.filter (·.1 == o)).map (·.2)

end Given

def isOption (s : String) : Bool :=
  s.toList.head? == some '-' && 1 < s.length

/-- The letters of a word after its hyphen. The answer also holds the option, if any, that waits
for its operand in the next word; an operand can be joined to its letter, with or without a sign of
equality between them. -/
def letters (l : Level) (g : Given) : List Char → Except Stop (Given × Option Opt)
  | [] => .ok (g, none)
  | c :: cs =>
    match l.short? c with
    | none => .error .usage
    | some o =>
      if o.takesValue then
        match cs with
        | [] => .ok (g, some o)
        | '=' :: value => (g.option o (String.ofList value)).map (·, none)
        | value => (g.option o (String.ofList value)).map (·, none)
      else
        match g.option o "" with
        | .error e => .error e
        | .ok g => letters l g cs

/-- The words of a level, up to the word of a command if there is one. `waiting` is an option whose
operand is to come. -/
def read (l : Level) (g : Given) (waiting : Option Opt) :
    List String → Except Stop (Given × Option (Level × List String))
  | [] => if waiting.isSome then .error .usage else .ok (g, none)
  | word :: words =>
    match waiting with
    | some o =>
      if isOption word then .error .usage
      else
        match g.option o word with
        | .error e => .error e
        | .ok g => read l g none words
    | none =>
      match l.branch? word with
      | some (.level l') => .ok (g, some (l', words))
      | some .help => .error .help
      | none =>
        match word.toList with
        | ['-', '-'] =>
          if words.isEmpty ∨ l.takesOperands then .ok (words.foldl Given.operand g, none)
          else .error .usage
        | '-' :: '-' :: name =>
          match l.long? (String.ofList name) with
          | none => .error .usage
          | some o =>
            match g.option o "" with
            | .error e => .error e
            | .ok g => read l g none words
        | '-' :: c :: cs =>
          match letters l g (c :: cs) with
          | .error e => .error e
          | .ok (g, waiting) => read l g waiting words
        | _ => if l.takesOperands then read l (g.operand word) none words else .error .usage

structure Settings where
  quiet : Nat
  verbosity : Nat
  noColour : Bool
deriving DecidableEq

namespace Settings

def default : Settings :=
  ⟨0, 0, false⟩

/-- The settings after those of one more level, whose counts replace the ones before them. -/
def refine (s : Settings) (g : Given) : Settings :=
  ⟨if g.has .quiet then min (g.count .quiet) 255 else s.quiet,
    if g.has .verbose then min (g.count .verbose) 255 else s.verbosity,
    s.noColour || g.has .noColour⟩

end Settings

structure DumpOptions where
  machine : Bool
  valuesOnly : Bool
  forms : List AddressForm
  only : List String
deriving DecidableEq

structure EvalOptions where
  debug : Bool
  joined : Bool
deriving DecidableEq

inductive Task where
  | dump (options : DumpOptions) (addresses : List String)
  | eval (options : EvalOptions) (templates : List String)
  | rfcList
  | rfcCheck (rfc : Nat) (addresses : List String)
deriving DecidableEq

/-- The forms of address that are asked for, in the order of the letters `46iu`. -/
def Given.forms (g : Given) : List AddressForm :=
  [(Opt.ipv4, AddressForm.ipv4), (.ipv6, .ipv6), (.ip, .ip), (.unix, .unix)].filterMap
    fun (o, form) => if g.has o then some form else none

/-- An RFC number, with or without a sign; only zero may carry a minus. -/
def readRfc? : List Char → Option Nat
  | '-' :: cs => readDecimal? 0 cs
  | cs => readWithPlus? 4294967295 cs

/-- The task of a level from what it has been given. -/
def Given.task? (g : Given) : Level → Option Task
  | .dump =>
    if g.operands.isEmpty then none
    else some (.dump ⟨g.has .machine, g.has .valuesOnly, g.forms, g.values .only⟩ g.operands)
  | .eval =>
    if g.operands.isEmpty then none
    else some (.eval ⟨g.has .debug, g.has .valuesOnly⟩ g.operands)
  | .rfcList => some .rfcList
  | .rfcCheck =>
    match g.operands with
    | number :: a :: addresses =>
      (readRfc? number.toList).map fun n => .rfcCheck n (a :: addresses)
    | _ => none
  | .root | .rfc => none

/-- Reads a level and the levels after it; commands are nested at most `depth` deep. -/
def descend : Nat → Level → Settings → List String → Except Stop (Settings × Task)
  | 0, _, _, _ => .error .usage
  | depth + 1, l, settings, words => do
    let (g, next) ← read l .empty none words
    let settings := settings.refine g
    match next with
    | some (l', words) => descend depth l' settings words
    | none =>
      match g.task? l with
      | some task => .ok (settings, task)
      | none => .error .usage

def parse (words : List String) : Except Stop (Settings × Task) :=
  descend 3 .root .default words

end CommandLine

end HostAddr
