import AgentChain.Duration
import AgentChain.Event
import AgentChain.Log

/-!
# The text of events

How events are shown to a reader of the log.
-/

namespace AgentChain.Event

/-- The text of an event, unless it reports an infinite duration. -/
def text? : Event → Option String
  | .chainStart stages => some ("[chain] Starting: " ++ pipelineText stages)
  | .chainEnd result => do
    let duration ← Duration.text? result.duration
    return "[chain] " ++ (if result.success then "Complete" else "Failed") ++
      " (" ++ duration ++ ")"
  | .stageStart stage _ => some ("[" ++ stage.name.text ++ "] Starting...")
  | .stageEnd stage result => do
    let duration ← Duration.text? result.duration
    return "[" ++ stage.name.text ++ "] " ++ (if result.success then "Completed" else "Failed") ++
      " (" ++ duration ++ ")" ++ ((nonEmpty? result.error).map (": " ++ ·)).getD ""
  | .stageIteration stage iteration =>
    some ("[" ++ stage.name.text ++ "] Starting iteration " ++ toString iteration ++ "...")
  | .agentSpawned role sessionId =>
    some ("[" ++ role ++ "] Spawned agent (" ++ sessionId ++ ")")
  | .agentCompleted role sessionId =>
    some ("[" ++ role ++ "] Agent completed (" ++ sessionId ++ ")")
  | .error message stage =>
    some ((stage.map fun s => "[" ++ s.name.text ++ "] ").getD "" ++ "Error: " ++ message)

/-- Faults are errors, failed stages and failed chains are warnings, and all else is information. -/
def level : Event → Level
  | .error .. => .error
  | .stageEnd _ result => if result.success then .info else .warning
  | .chainEnd result => if result.success then .info else .warning
  | _ => .info

/-- The log record that shows an event. -/
def record? (logger : Logger) (e : Event) : Option LogRecord :=
  e.text?.map fun message => ⟨e.level, logger, message⟩

end AgentChain.Event
