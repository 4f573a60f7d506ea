import AgentChain.Event.Sink
import AgentChain.Run.Chain

/-!
# The echo executor

An executor whose agents succeed at once, and a task store whose only task is done once the executor
has been called often enough. They try out a chain without any agents.
-/

namespace AgentChain.Echo

/-- The number of attempts so far. -/
abbrev World : Type := Nat

/-- The only message of an agent: its introduction and the prompt. -/
def message (request : SpawnRequest) : Data := .object [
  ("role", .text "user"),
  ("content", .text (personaFor request.role ++ "\n\n" ++ request.prompt))]

/-- Counts the attempt and succeeds. -/
def spawn (request : SpawnRequest) : Call World SpawnResult := fun calls =>
  (.answered {
    success := true
    sessionId := request.role ++ "-" ++ toString (calls + 1)
    messages := [message request] }, calls + 1)

/-- The executor. -/
def executor : Executor World where
  name := "echo"
  spawn := spawn
  dispose calls := (.answered (), calls)

/-- The state of the only task: done once there have been `rounds` attempts. -/
def taskState (rounds : Int) (calls : World) : TaskState :=
  if rounds ≤ calls then .done else .inProgress

/-- The task store. -/
def store (rounds : Int) : TaskStore World where
  listTasks _ calls :=
    (.answered (some [⟨fun w => (.answered (.text (taskState rounds calls).text), w)⟩]), calls)

/-- The fault of a task store that was not told for how many rounds the work goes on. -/
def noRounds : Fault where
  kind := "TypeError"
  text := "'>=' not supported between instances of 'int' and 'list'"

/-- A task store whose every listing is a fault. -/
def faultyStore (f : Fault) : TaskStore World where
  listTasks _ calls := (.raised f, calls)

/-- The echo executor and its task store, with a logging sink, no signal, and a clock that stands
still. -/
def collaborators (rounds : Int) : Collaborators World where
  clock calls := (0, calls)
  isSet _ calls := (false, calls)
  sink _ := loggingSink .events
  check _ _ calls := (.answered false, calls)
  executor := executor
  store := some (store rounds)

end AgentChain.Echo
