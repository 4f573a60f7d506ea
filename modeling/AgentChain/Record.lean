import AgentChain.Agent
import AgentChain.Config
import AgentChain.Event

/-!
# Records

The types of values that are read from plain data and shown as plain data, under the titles by which
messages call them.
-/

namespace AgentChain

/-- The title of events of a kind. -/
def EventKind.title : EventKind → String
  | .chainStart => "ChainStartEvent"
  | .chainEnd => "ChainEndEvent"
  | .stageStart => "StageStartEvent"
  | .stageEnd => "StageEndEvent"
  | .stageIteration => "StageIterationEvent"
  | .agentSpawned => "AgentSpawnedEvent"
  | .agentCompleted => "AgentCompletedEvent"
  | .error => "ErrorEvent"

/-- A description that data can be checked against. -/
inductive Schema where
  | stage
  | models
  | spawnRequest
  | spawnResult
  | stageResult
  | chainResult
  | config
  /-- Events of one kind. -/
  | event (kind : EventKind)
  /-- Events of all kinds, told apart by their tag. -/
  | anyEvent
deriving DecidableEq, Repr

namespace Schema

/-- The title under which failures are reported. -/
def title : Schema → String
  | stage => "StageDescriptor"
  | models => "ModelConfig"
  | spawnRequest => "SpawnRequest"
  | spawnResult => "SpawnResult"
  | stageResult => "StageResult"
  | chainResult => "ChainResult"
  | config => "ChainConfig"
  | event kind => kind.title
  | anyEvent => "tagged-union[" ++ ",".intercalate (EventKind.all.map (·.title)) ++ "]"

/-- The name by which a schema is asked for. -/
def name : Schema → String
  | anyEvent => "ChainEvent"
  | s => s.title

/-- All schemas. -/
def all : List Schema :=
  [stage, models, spawnRequest, spawnResult, stageResult, chainResult, config] ++
    EventKind.all.map event ++ [anyEvent]

/-- The schema with this name. -/
def ofName? (s : String) : Option Schema := all.find? (·.name = s)

end Schema

/-- A value of one of the record types. -/
inductive Record where
  | stage (s : Stage)
  | models (t : ModelTable)
  | spawnRequest (r : SpawnRequest)
  | spawnResult (r : SpawnResult)
  | stageResult (r : StageResult)
  | chainResult (r : ChainResult)
  | config (c : Config)
  | event (e : Event)

/-- The schema of the most specific type that a record belongs to. -/
def Record.schema : Record → Schema
  | stage _ => .stage
  | models _ => .models
  | spawnRequest _ => .spawnRequest
  | spawnResult _ => .spawnResult
  | stageResult _ => .stageResult
  | chainResult _ => .chainResult
  | config _ => .config
  | event e => .event e.kind

end AgentChain
