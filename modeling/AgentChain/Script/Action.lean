import AgentChain.Outcome
import AgentChain.Text.Quoted

/-!
# Scripted actions

What a scripted collaborator does when it is called: move the clock, set or clear the signal, and
raise a fault or an abort, in this order.
-/

namespace AgentChain.Script

/-- What an action may end with. -/
inductive Raise where
  | fault (f : Fault)
  | abort (a : Abort)
deriving DecidableEq, Repr

/-- A fault of the given kind with an optional message, or an abort. The fault of a missing key
shows its message in quotes. -/
def Raise.of (kind : String) (message : Option String) : Raise :=
  match kind with
  | "Abort" => .abort ⟨message.getD ""⟩
  | "KeyError" => .fault ⟨kind, (message.map Text.quoted).getD ""⟩
  | _ => .fault ⟨kind, message.getD ""⟩

/-- What a call that ends with the action comes to. -/
def Raise.outcome {α : Type} : Raise → Outcome α
  | fault f => .raised f
  | abort a => .aborted a

/-- A scripted action. -/
structure Action where
  /-- How many seconds the clock moves. -/
  advance : Option Float := none
  cancel : Bool := false
  clear : Bool := false
  raise : Option Raise := none
deriving DecidableEq

/-- A value that is found after some actions have been done. -/
inductive Cue (α : Type) where
  | value (a : α)
  | after (action : Action) (cue : Cue α)

/-- What happens at each of a number of calls in turn, and at every call after them. -/
structure Cues (α : Type) where
  script : List α := []
  default : α

/-- What happens at the next call. -/
def Cues.next {α : Type} (cues : Cues α) : α × Cues α :=
  match cues.script with
  | [] => (cues.default, cues)
  | a :: rest => (a, { cues with script := rest })

end AgentChain.Script
