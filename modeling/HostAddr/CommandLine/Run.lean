import HostAddr.Address.Endpoint
import HostAddr.CommandLine.Arguments
import HostAddr.CommandLine.Style
import HostAddr.Template.Render

/-!
# Running the command line

The output, the messages and the exit code of an invocation. A task that fails prints nothing but
its message. Messages of the debug level show when they are asked for. A sort that panics ends the
invocation.
-/

namespace HostAddr

namespace CommandLine

/-- The least level of messages that show. -/
inductive LogLevel where
  | error
  | warn
  | debug
deriving DecidableEq

def LogLevel.name : LogLevel → String
  | error => "error"
  | warn => "warn"
  | debug => "debug"

/-- To be quiet wins over any verbosity. -/
def Settings.logLevel (s : Settings) : LogLevel :=
  if 0 < s.quiet then .error else if s.verbosity = 0 then .warn else .debug

/-- A debug message and the verbosity that it takes. -/
structure DebugMessage where
  verbosity : Nat
  text : String

/-- How a task ends that has no output: with a message, or with the notice of a panic, which leaves
out the place in the program. -/
inductive Failure where
  | message (text : String)
  | panic (notice : String)

def Failure.code : Failure → Nat
  | message _ => 1
  | panic _ => 101

/-- What a task leaves: its debug messages, and its output lines or its failure. -/
structure Outcome where
  messages : List DebugMessage
  result : Except Failure (List String)

structure Exit where
  code : Nat
  stdout : String
  stderr : String
deriving DecidableEq

def unlines (ls : List String) : String :=
  String.join (ls.map (· ++ "\n"))

/-! ## Addresses -/

abbrev Row := String × String

/-- Whether two names differ at most in the case of ASCII letters. -/
def sameName (a b : String) : Bool :=
  a.toLower == b.toLower

def endpointRow (a : SocketAddress) (use : SocketUse) : Row :=
  let e := a.endpoint use
  (use.name, quote e.transport ++ " " ++ quote e.target)

/-- The attributes of an address and its endpoints, or those of them that are asked for. -/
def rows (only : List String) (a : SocketAddress) : List Row :=
  (a.attributes.map (fun t => (t, a.view t)) ++ SocketUse.all.map (endpointRow a)).filter
    fun (name, _) => only.isEmpty || only.any (sameName · name)

/-- A name that is asked for has to be an attribute or an endpoint. -/
def checkName (name : String) : Except Error Unit :=
  if SocketUse.all.any fun use => sameName use.name name then .ok ()
  else Attribute.ensureKnown name

/-- Names in one column and values in another, under a heading. -/
def table (colour : Bool) (rs : List Row) : List String :=
  let width := (rs.map (·.1.utf8ByteSize)).foldl max "Attribute".utf8ByteSize
  let line (keyStyle valueStyle : Style) (r : Row) : String :=
    keyStyle.paint colour r.1 ++ String.ofList (List.replicate (width - r.1.utf8ByteSize) ' ') ++
      "  " ++ valueStyle.paint colour r.2
  line .heading .heading ("Attribute", "Value") :: rs.map (line .key .value)

/-- The lines for all addresses: values alone, names and values with a tab between them, or tables
with an empty line between them. -/
def dumpLines (colour : Bool) (o : DumpOptions) (as : List SocketAddress) : List String :=
  let all := as.map (rows o.only)
  if o.valuesOnly then all.flatten.map (·.2)
  else if o.machine then all.flatten.map fun (name, value) => name ++ "\t" ++ value
  else [""].intercalate (all.map (table colour))

/-- The form of address that is asked for, if it is one. -/
def wantedForm : List AddressForm → Except String AddressForm
  | [] => .ok .any
  | [form] => .ok form
  | _ => .error "-4, -6, -i and -u are mutually exclusive"

def formLabel : AddressForm → String
  | .any => "Any"
  | .ipv4 => "IPv4"
  | .ipv6 => "IPv6"
  | .ip => "Ip"
  | .unix => "Unix"

def readAll (verb : String) (form : AddressForm) (inputs : List String) :
    Except String (List SocketAddress) :=
  inputs.mapM fun input =>
    (SocketAddress.parseAs form input).mapError fun e =>
      s!"cannot {verb} {quote input}: {e.message}"

/-- The form asked for and the addresses. -/
def dumpInputs (o : DumpOptions) (inputs : List String) :
    Except String (AddressForm × List SocketAddress) := do
  let form ← wantedForm o.forms
  (o.only.forM checkName).mapError Error.message
  let as ← readAll "dump" form inputs
  return (form, as)

def dump (colour : Bool) (o : DumpOptions) (inputs : List String) : Outcome :=
  match dumpInputs o inputs with
  | .error e => ⟨[], .error (.message e)⟩
  | .ok (form, as) =>
    ⟨[⟨0, s!"Dumping {as.length} addresses as {formLabel form}"⟩], .ok (dumpLines colour o as)⟩

/-! ## RFCs -/

def rfcList : Outcome :=
  ⟨[], .ok (Registry.specialNetworks.map fun (n, _) => toString n)⟩

def rfcCheck (colour : Bool) (rfc : Nat) (inputs : List String) : Outcome :=
  let lines : Except String (List String) := do
    let as ← readAll "check" .any inputs
    let verdicts ← (as.mapM (Registry.isIn rfc)).mapError Error.message
    return verdicts.map fun
      | true => Style.affirmed.paint colour "true"
      | false => Style.denied.paint colour "false"
  ⟨[], lines.mapError .message⟩

/-! ## Templates -/

/-- The templates to run: a hyphen stands for standard input, which is empty once it has been read,
and an empty input is no template. -/
def readTemplates (stdin : String) : List String → List String
  | [] => []
  | "-" :: ts => if stdin = "" then readTemplates "" ts else stdin :: readTemplates "" ts
  | t :: ts => t :: readTemplates stdin ts

/-- The debug messages of running a template, the `i`th. -/
def evalMessages (h : Host) (i : Nat) (t : String) : List DebugMessage :=
  ⟨1, s!"Evaluating template {i}"⟩ ::
    match Template.parse t, h.allInterfaces with
    | .ok p, .ok rs =>
      let names := (rs.map (·.interface.name)).eraseDups
      [⟨2, s!"Parsed template {quote t} into {p.nodes.length} nodes"⟩,
        ⟨1, s!"Enumerated {rs.length} addresses on {names.length} interfaces"⟩]
    | .ok p, .error _ => [⟨2, s!"Parsed template {quote t} into {p.nodes.length} nodes"⟩]
    | .error _, _ => []

/-- How a run of a template fails, the `i`th: a panic of the sort passes through, and any other
error is shown with the template. -/
def evalFailure (i : Nat) (t : String) (e : RenderError) : Failure :=
  match e.library? with
  | some .sortPanic => .panic Error.sortPanic.message
  | _ => .message s!"ERROR[{i}] in: {quote t}\n[{i}] msg: {e.message}"

/-- Runs templates in turn, the first of them the `i`th, up to the first failure. -/
def evalAll (h : Host) (i : Nat) : List String → Outcome
  | [] => ⟨[], .ok []⟩
  | t :: ts =>
    match render h t with
    | .error e => ⟨evalMessages h i t, .error (evalFailure i t e)⟩
    | .ok out =>
      let rest := evalAll h (i + 1) ts
      ⟨evalMessages h i t ++ rest.messages, rest.result.map (out :: ·)⟩

def framed (i : Nat) (template output : String) : List String :=
  [s!"[{i}] in: {quote template}", s!"[{i}] out: {quote output}"]

def evalLines (colour : Bool) (o : EvalOptions) (templates outputs : List String) : List String :=
  if o.debug then
    [Style.separator.paint colour "---"].intercalate
      ((templates.zip outputs).zipIdx.map fun ((t, out), i) => framed i t out)
  else if o.joined then if outputs.isEmpty then [] else [String.join outputs]
  else outputs

def eval (h : Host) (colour : Bool) (o : EvalOptions) (stdin : String) (words : List String) :
    Outcome :=
  let templates := readTemplates stdin words
  let outcome := evalAll h 0 templates
  { outcome with result := outcome.result.map (evalLines colour o templates) }

/-! ## Invocations -/

def Task.run (h : Host) (colour : Bool) (stdin : String) : Task → Outcome
  | .dump o inputs => CommandLine.dump colour o inputs
  | .eval o words => CommandLine.eval h colour o stdin words
  | .rfcList => CommandLine.rfcList
  | .rfcCheck rfc inputs => CommandLine.rfcCheck colour rfc inputs

def shownMessages (s : Settings) (colour : Bool) (ms : List DebugMessage) : List String :=
  if s.logLevel = .debug then
    (ms.filter (·.verbosity ≤ s.verbosity)).map fun m =>
      Style.debugMark.paint colour "[?]" ++ " " ++ m.text
  else []

def Failure.shown (colour : Bool) : Failure → String
  | message text => Style.errorMark.paint colour "[-]" ++ " " ++ text
  | panic notice => notice

def Outcome.exit (s : Settings) (colour : Bool) (o : Outcome) : Exit :=
  let messages := shownMessages s colour o.messages
  match o.result with
  | .ok output => ⟨0, unlines output, unlines messages⟩
  | .error e => ⟨e.code, "", unlines (messages ++ [e.shown colour])⟩

def versionText : String :=
  "ifsift 0.3.4\n"

def usageText : String :=
  "Usage: ifsift [-q]... [-v]... [--no-color] <dump|eval|rfc> ...\n"

/-- Runs a command line without the name of the program, with the text of standard input. `colour`
is whether the output takes colours at all. -/
def run (h : Host) (colour : Bool) (stdin : String) (words : List String) : Exit :=
  match parse words with
  | .error .usage => ⟨2, "", usageText⟩
  | .error .help => ⟨0, usageText, ""⟩
  | .error .version => ⟨0, versionText, ""⟩
  | .ok (settings, task) =>
    let colour := colour && !settings.noColour
    (task.run h colour stdin).exit settings colour

end CommandLine

end HostAddr
