import AgentChain.Data
import AgentChain.Path

/-!
# Agents

What an executor is asked to do for one attempt at a stage, and what it answers.
-/

namespace AgentChain

/-- Everything an executor needs for one attempt. -/
structure SpawnRequest where
  role : String
  directory : Path
  model : Option String := none
  prompt : String
  /-- The signal by which the attempt may be cancelled. -/
  signal : Option Signal := none
deriving DecidableEq

/-- What became of one attempt. -/
structure SpawnResult where
  success : Bool := false
  sessionId : String := ""
  messages : List Data := []
  error : Option String := none

end AgentChain
