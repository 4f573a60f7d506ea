import AgentChain.Outcome
import AgentChain.Result
import AgentChain.Text.Quoted

/-!
# Constraints on a stage

What is left of the caps on the whole run when a stage starts, and when a run has to halt.
-/

namespace AgentChain

/-- The iterations that loop stages may still use up, and the time at which the run has to end. -/
structure Constraints where
  remaining : Int
  deadline : Float
deriving DecidableEq

/-- What is left after a stage. Only loop stages use up iterations. -/
def Constraints.after (c : Constraints) (r : StageResult) : Constraints :=
  if r.stage.loop then { c with remaining := max 0 (c.remaining - r.iterations) } else c

/-- The deadline is the same for all stages of a run. -/
@[simp] theorem Constraints.after_deadline (c : Constraints) (r : StageResult) :
    (c.after r).deadline = c.deadline := by
  unfold Constraints.after
  split <;> rfl

/-- Constraints are immutable: setting a field fails, whether the field exists or not. -/
def Constraints.set (_ : Constraints) (field : String) : Except Fault Constraints :=
  .error ⟨"FrozenInstanceError", "cannot assign to field " ++ Text.quoted field⟩

/-- Why a run has to halt at this point, if it has to. A set signal goes before a deadline that has
passed. -/
def haltReason (cancelled : Bool) (deadline now : Float) : Option StopReason :=
  if cancelled then some .cancelled
  else if deadline ≤ now then some .timeout
  else none

/-- The two reasons to halt, of which the signal goes first. -/
theorem haltReason_eq_some_iff {cancelled : Bool} {deadline now : Float} {reason : StopReason} :
    haltReason cancelled deadline now = some reason ↔
      (cancelled = true ∧ reason = .cancelled) ∨
        (cancelled = false ∧ deadline ≤ now ∧ reason = .timeout) := by
  unfold haltReason
  cases cancelled with
  | true => simp [eq_comm]
  | false =>
    by_cases h : deadline ≤ now
    · simp [h, eq_comm]
    · simp [h]

end AgentChain
