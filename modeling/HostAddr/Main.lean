import HostAddr.CommandLine.Run
import HostAddr.Runtime

/-!
# The program

Standard input, standard output and the exit code. The host is taken as one without interfaces.
-/

open HostAddr

/-- Standard input is read only where a template stands for it. -/
def readStdin (words : List String) : IO String := do
  if words.contains "-" then (← IO.getStdin).readToEnd else return ""

def main (words : List String) : IO UInt32 := do
  let colour := ((← IO.getEnv "CLICOLOR_FORCE").getD "0") != "0"
  let exit := CommandLine.run Host.empty colour (← readStdin words) words
  (← IO.getStdout).putStr exit.stdout
  (← IO.getStderr).putStr exit.stderr
  return exit.code.toUInt32
