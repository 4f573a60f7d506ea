import AgentChain.Event.Text
import AgentChain.Run.Collaborators

/-!
# The logging sink

A sink that shows every event in the log. It has no state of its own.
-/

namespace AgentChain

/-- The fault of showing an infinite duration. -/
def Duration.infinite : Fault where
  kind := "OverflowError"
  text := "cannot convert float infinity to integer"

/-- Writes the text of an event to the log; an event that has none is a fault. -/
def loggingSink {σ : Type} (logger : Logger) (e : Event) (world : σ) : Delivery σ :=
  match e.record? logger with
  | some record => ⟨.answered (), [record], world⟩
  | none => ⟨.raised Duration.infinite, [], world⟩

end AgentChain
