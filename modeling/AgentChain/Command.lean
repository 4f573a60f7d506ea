import AgentChain.Command.Arguments
import AgentChain.Echo
import AgentChain.Expression
import AgentChain.Record.Read

/-!
# The command

Tries out a chain expression with the echo executor and reports how the chain went.
-/

namespace AgentChain.Command

/-- The name of the command. -/
def programName : String := "run_chain.py"

/-- The synopsis of the command. -/
def usageText : String :=
  "usage: " ++ programName ++ " [-h] [--root ROOT] [--budget BUDGET] [--rounds ROUNDS]\n" ++
  "                    expression\n"

/-- What the command says of itself. -/
def helpText : String :=
  usageText ++ "\nRun an agent chain with a scripted executor.\n\n" ++
  "positional arguments:\n" ++
  "  expression       Chain DSL, e.g. \"planner -> coordinator\"\n\n" ++
  "options:\n" ++
  "  -h, --help       show this help message and exit\n" ++
  "  --root ROOT      Project root (default: cwd)\n" ++
  "  --budget BUDGET  Max loop iterations (default 50)\n" ++
  "  --rounds ROUNDS  Executor calls until tasks are Done\n"

/-- The last line of the output for arguments that cannot be used. -/
def UsageError.line (e : UsageError) : String := programName ++ ": error: " ++ e.message

/-- Text with blanks after it up to the given width. -/
def padRight (width : Nat) (s : String) : String := s.pushn ' ' (width - s.length)

/-- The line about a stage. -/
def stageLine (r : StageResult) : String :=
  "  " ++ padRight 14 r.stage.name.text ++ " iterations=" ++ toString r.iterations ++ "\n"

/-- The report on a chain. -/
def reportText (r : ChainResult) : String :=
  "\nSuccess:  " ++ (if r.success then "True" else "False") ++ "\n" ++
  "Stop:     " ++ (r.stopReason.map (·.text)).getD "-" ++ "\n" ++
  String.join (r.stageResults.map stageLine) ++
  (if r.errors.isEmpty then ""
    else "Errors:   " ++ (Data.list (r.errors.map .text)).quoted ++ "\n")

/-- The fault of a path that no directory can have. -/
def nullInPath : Fault where
  kind := "ValueError"
  text := "embedded null byte"

/-- The fault of a path that was not given. -/
def noPath : Fault where
  kind := "TypeError"
  text := "expected str, bytes or os.PathLike object, not list"

/-- How the command ends. -/
inductive Ending where
  | report (text : String)
  | help
  | usage (e : UsageError)
  | expression (f : Expression.Fault)
  | path (f : Fault)
  | data (d : InvalidData)
  | abort (a : Abort)

/-- The directory that the arguments name. -/
def rootOf (root : Option String) : Except Fault Path :=
  match root with
  | none => .error noPath
  | some s => if '\x00' ∈ s.toList then .error nullInPath else .ok (Path.ofText s)

/-- The budget that the arguments set. -/
def budgetOf (budget : Option Int) : Except InvalidData Budget :=
  let invalid (p : Problem) : InvalidData := ⟨.config, [⟨p, [.field "max_total_iterations"]⟩]⟩
  match budget with
  | none => .error (invalid .intExpected)
  | some n => if h : 1 ≤ n then .ok ⟨n, h⟩ else .error (invalid .belowOne)

/-- The collaborators of a run of the command. -/
def collaboratorsFor (rounds : Option Int) : Collaborators Echo.World :=
  match rounds with
  | some n => Echo.collaborators n
  | none => { Echo.collaborators 0 with store := some (Echo.faultyStore Echo.noRounds) }

/-- The configuration of a run of the command, or how the command ends without one. -/
def configOf (a : Arguments) (stages : List Stage) : Except Ending Config :=
  match rootOf a.root, budgetOf a.budget with
  | .error f, _ => .error (.path f)
  | .ok _, .error e => .error (.data e)
  | .ok root, .ok budget => .ok { stages, root, sink := some ⟨0⟩, budget }

/-- Runs the chain that the arguments describe: what is logged, and how it ends. -/
def runChain (a : Arguments) : List LogRecord × Ending :=
  let (log, result) := Expression.read a.expression
  match result with
  | .error f => (log, .expression f)
  | .ok stages =>
    match configOf a stages with
    | .error ending => (log, ending)
    | .ok config =>
      match Run.chain (collaboratorsFor a.rounds) config { world := 0 } with
      | .ok r s => (log ++ s.journal.filterMap Entry.record?, .report (reportText r))
      | .error e s => (log ++ s.journal.filterMap Entry.record?, .abort e)

/-- Runs the command. -/
def execute (args : List String) : List LogRecord × Ending :=
  match readArguments args with
  | .error e => ([], .usage e)
  | .ok .help => ([], .help)
  | .ok (.run a) => runChain a

end AgentChain.Command
