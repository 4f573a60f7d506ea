import AgentChain.Draft
import AgentChain.Record

/-!
# Showing records as plain data

Every record is shown with all its fields, those with default values included. An event also shows
its tag.
-/

namespace AgentChain

/-- A stage as data. -/
def Stage.toData (s : Stage) : Data := s.toDraft.toData

/-- A model table as data. -/
def ModelTable.toData (t : ModelTable) : Data := .object [
  ("planner", .ofOption .text t.planner),
  ("task_manager", .ofOption .text t.taskManager),
  ("coordinator", .ofOption .text t.coordinator),
  ("worker", .ofOption .text t.worker),
  ("default", .ofOption .text t.custom)]

/-- A request as data. -/
def SpawnRequest.toData (r : SpawnRequest) : Data := .object [
  ("role", .text r.role),
  ("cwd", .text r.directory.toText),
  ("model", .ofOption .text r.model),
  ("prompt", .text r.prompt),
  ("signal", .ofOption .signal r.signal)]

/-- The answer to a request as data. -/
def SpawnResult.toData (r : SpawnResult) : Data := .object [
  ("success", .bool r.success),
  ("session_id", .text r.sessionId),
  ("messages", .list r.messages),
  ("error", .ofOption .text r.error)]

/-- A reason to stop as data. -/
def StopReason.toData (r : StopReason) : Data := .text r.text

/-- The result of a stage as data. -/
def StageResult.toData (r : StageResult) : Data := .object [
  ("stage", r.stage.toData),
  ("success", .bool r.success),
  ("iterations", .int r.iterations),
  ("duration_seconds", .float r.duration),
  ("error", .ofOption .text r.error),
  ("stop_reason", .ofOption StopReason.toData r.stopReason)]

/-- The result of a chain as data. -/
def ChainResult.toData (r : ChainResult) : Data := .object [
  ("success", .bool r.success),
  ("stage_results", .list (r.stageResults.map (·.toData))),
  ("total_duration_seconds", .float r.duration),
  ("errors", .list (r.errors.map .text)),
  ("stop_reason", .ofOption StopReason.toData r.stopReason)]

/-- A time limit as data: the standard limit is a whole number. -/
def TimeLimit.toData : TimeLimit → Data
  | standard => .int standardSeconds
  | seconds x => .float x

/-- A configuration as data. -/
def Config.toData (c : Config) : Data := .object [
  ("stages", .list (c.stages.map (·.toData))),
  ("project_root", .text c.root.toText),
  ("models", .ofOption ModelTable.toData c.models),
  ("signal", .ofOption .signal c.signal),
  ("on_event", .ofOption .callable c.sink),
  ("max_total_iterations", .int c.budget.val),
  ("timeout_seconds", c.timeLimit.toData)]

/-- The fields of an event besides its tag. -/
def Event.fields : Event → List (String × Data)
  | .chainStart stages => [("stages", .list (stages.map (·.toData)))]
  | .chainEnd result => [("result", result.toData)]
  | .stageStart stage index => [("stage", stage.toData), ("stage_index", .int index)]
  | .stageEnd stage result => [("stage", stage.toData), ("result", result.toData)]
  | .stageIteration stage iteration =>
    [("stage", stage.toData), ("iteration", .int iteration)]
  | .agentSpawned role sessionId => [("role", .text role), ("session_id", .text sessionId)]
  | .agentCompleted role sessionId => [("role", .text role), ("session_id", .text sessionId)]
  | .error message stage =>
    [("message", .text message), ("stage", .ofOption Stage.toData stage)]

/-- An event as data. -/
def Event.toData (e : Event) : Data := .object (("type", .text e.kind.tag) :: e.fields)

/-- A record as data. -/
def Record.toData : Record → Data
  | stage s => s.toData
  | models t => t.toData
  | spawnRequest r => r.toData
  | spawnResult r => r.toData
  | stageResult r => r.toData
  | chainResult r => r.toData
  | config c => c.toData
  | event e => e.toData

end AgentChain
