import AgentChain.Command

/-!
# The program

Runs the command with the arguments of the process: the report goes to standard output, log records
and failures to standard error.
-/

namespace AgentChain.Command

/-- The name of a level in the log. -/
def levelName : Level → String
  | .debug => "DEBUG"
  | .info => "INFO"
  | .warning => "WARNING"
  | .error => "ERROR"

/-- Shows how the command ended and gives the exit code. -/
def showEnding : Ending → IO UInt32
  | .report text => do
    IO.print text
    return 0
  | .help => do
    IO.print helpText
    return 0
  | .usage e => do
    IO.eprint usageText
    IO.eprintln e.line
    return 2
  | .expression f => do
    IO.eprintln f.message
    return 1
  | .path f => do
    IO.eprintln f.message
    return 1
  | .data d => do
    for issue in d.issues do
      IO.eprintln issue.problem.message
    return 1
  | .abort a => do
    IO.eprintln a.text
    return 1

/-- Writes the log without its debug records. -/
def showLog (log : List LogRecord) : IO Unit := do
  for record in log do
    if record.level ≠ .debug then
      IO.eprintln (padRight 8 (levelName record.level) ++ "  " ++ record.message)

end AgentChain.Command

open AgentChain.Command

def main (args : List String) : IO UInt32 := do
  let (log, ending) := execute args
  showLog log
  showEnding ending
