/-!
# Outcomes of calls

A call of a collaborator ends in one of three ways. It answers; it raises a fault, which whoever
called it may contain; or it aborts, which nobody contains.
-/

namespace AgentChain

/-- A failure that can be contained: its kind and its text, which may be empty. -/
structure Fault where
  kind : String
  text : String
deriving DecidableEq, Repr

/-- What is reported of a fault: its text, or its kind if it has no text. -/
def Fault.message (f : Fault) : String := if f.text = "" then f.kind else f.text

/-- A request to stop everything, which passes through all containment. -/
structure Abort where
  text : String
deriving DecidableEq, Repr

/-- How a call ends. -/
inductive Outcome (α : Type) where
  | answered (a : α)
  | raised (f : Fault)
  | aborted (a : Abort)
deriving DecidableEq, Repr

/-- A call reads and changes the state `σ` that the collaborators share. -/
abbrev Call (σ α : Type) : Type := σ → Outcome α × σ

end AgentChain
