import AgentChain.Result

/-!
# Events

What a run reports while it goes on: the start and the end of the chain, of each stage, of each
iteration of a loop stage and of each agent, and faults.
-/

namespace AgentChain

/-- The events of a run. -/
inductive Event where
  | chainStart (stages : List Stage)
  | chainEnd (result : ChainResult)
  | stageStart (stage : Stage) (index : Int)
  | stageEnd (stage : Stage) (result : StageResult)
  | stageIteration (stage : Stage) (iteration : Int)
  | agentSpawned (role sessionId : String)
  | agentCompleted (role sessionId : String)
  | error (message : String) (stage : Option Stage)
deriving DecidableEq

/-- The kinds of events. -/
inductive EventKind where
  | chainStart
  | chainEnd
  | stageStart
  | stageEnd
  | stageIteration
  | agentSpawned
  | agentCompleted
  | error
deriving DecidableEq, Repr

namespace EventKind

/-- The text that tells the kind of an event. -/
def tag : EventKind → String
  | .chainStart => "chain_start"
  | .chainEnd => "chain_end"
  | .stageStart => "stage_start"
  | .stageEnd => "stage_end"
  | .stageIteration => "stage_iteration"
  | .agentSpawned => "agent_spawned"
  | .agentCompleted => "agent_completed"
  | .error => "error"

/-- All kinds. -/
def all : List EventKind :=
  [.chainStart, .chainEnd, .stageStart, .stageEnd, .stageIteration, .agentSpawned,
    .agentCompleted, .error]

/-- The kind with this tag. -/
def ofTag? (s : String) : Option EventKind := all.find? (·.tag = s)

@[simp] theorem ofTag?_tag (k : EventKind) : ofTag? k.tag = some k := by
  cases k <;> decide

end EventKind

/-- The kind of an event. -/
def Event.kind : Event → EventKind
  | .chainStart .. => .chainStart
  | .chainEnd .. => .chainEnd
  | .stageStart .. => .stageStart
  | .stageEnd .. => .stageEnd
  | .stageIteration .. => .stageIteration
  | .agentSpawned .. => .agentSpawned
  | .agentCompleted .. => .agentCompleted
  | .error .. => .error

end AgentChain
