import AgentChain.Agent
import AgentChain.Event
import AgentChain.Log
import AgentChain.Outcome

/-!
# Collaborators

Everything outside of the program that a run works with: a clock, a cancellation signal, an event
sink, an executor, completion checks and a task store. They share a state, about which nothing is
assumed, and each of their answers may depend on it and change it.
-/

namespace AgentChain

/-- What a sink does with an event: how it ends, and what it writes to the log meanwhile. -/
structure Delivery (σ : Type) where
  outcome : Outcome Unit
  log : List LogRecord := []
  state : σ

/-- A task of a project. Its status is found by reading it. -/
structure TaskRecord (σ : Type) where
  status : Call σ TaskStatus

/-- Read access to the tasks of a project. A store may have no listing at all. -/
structure TaskStore (σ : Type) where
  listTasks : Path → Call σ (Option (List (TaskRecord σ)))

/-- A backend that runs agents. -/
structure Executor (σ : Type) where
  name : String
  /-- Runs one agent for one attempt at a stage. -/
  spawn : SpawnRequest → Call σ SpawnResult
  /-- Releases what the backend holds, once a run is over. -/
  dispose : Call σ Unit

/-- The collaborators of a run over the state `σ`. -/
structure Collaborators (σ : Type) where
  /-- The time in seconds. -/
  clock : σ → Float × σ
  /-- Whether a signal is set. -/
  isSet : Signal → σ → Bool × σ
  /-- The sink behind a handle. -/
  sink : Handle → Event → σ → Delivery σ
  /-- The completion check behind a handle. -/
  check : Handle → Path → Call σ Bool
  executor : Executor σ
  /-- The source of completion for stages without a check of their own. -/
  store : Option (TaskStore σ) := none

end AgentChain
