import AgentChain.Stage

/-!
# Results

Why a stage or a chain stopped, and what is recorded of it.
-/

namespace AgentChain

/-- Why a stage or a chain stopped. -/
inductive StopReason where
  | singlePass
  | goalMet
  | budgetExhausted
  | timeout
  | cancelled
  | stageFailed
  | completed
deriving DecidableEq, Repr

namespace StopReason

/-- The text of a reason. -/
def text : StopReason → String
  | .singlePass => "single_pass"
  | .goalMet => "goal_met"
  | .budgetExhausted => "budget_exhausted"
  | .timeout => "timeout"
  | .cancelled => "cancelled"
  | .stageFailed => "stage_failed"
  | .completed => "completed"

/-- All reasons. -/
def all : List StopReason :=
  [.singlePass, .goalMet, .budgetExhausted, .timeout, .cancelled, .stageFailed, .completed]

/-- The reason with this text. -/
def ofText? (s : String) : Option StopReason := all.find? (·.text = s)

@[simp] theorem ofText?_text (r : StopReason) : ofText? r.text = some r := by
  cases r <;> decide

end StopReason

/-- What is recorded of a stage. -/
structure StageResult where
  stage : Stage
  success : Bool := false
  iterations : Int := 0
  duration : Float := 0
  error : Option String := none
  stopReason : Option StopReason := none
deriving DecidableEq

/-- What is recorded of a whole chain. -/
structure ChainResult where
  success : Bool := false
  stageResults : List StageResult := []
  duration : Float := 0
  errors : List String := []
  stopReason : Option StopReason := none
deriving DecidableEq

end AgentChain
