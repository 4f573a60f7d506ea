import AgentChain.Data
import AgentChain.Data.Issue
import AgentChain.Stage

/-!
# Drafts of stages

A prompt may be put into a stage without being checked, so that it may be any data. A draft is a
stage with such a prompt.
-/

namespace AgentChain

/-- Null, or the data of the value. -/
def Data.ofOption {α : Type} (f : α → Data) : Option α → Data
  | none => .null
  | some a => f a

/-- A stage whose prompt has not been checked. -/
structure Draft where
  name : StageName
  loop : Bool
  check : Option Handle
  prompt : Data

/-- A stage as a draft. -/
def Stage.toDraft (s : Stage) : Draft where
  name := s.name
  loop := s.loop
  check := s.check
  prompt := .ofOption .text s.prompt

namespace Draft

/-- The draft with another prompt. -/
def withPrompt (d : Draft) (prompt : Data) : Draft := { d with prompt }

/-- Two drafts are alike if their fields are. -/
def isLike (a b : Draft) : Bool :=
  a.name = b.name && a.loop == b.loop && a.check = b.check && a.prompt.isLike b.prompt

/-- A draft as data. -/
def toData (d : Draft) : Data := .object [
  ("name", .text d.name.text),
  ("loop", .bool d.loop),
  ("completion_check", .ofOption .callable d.check),
  ("prompt", d.prompt)]

/-- The issue of setting a field. Stages are immutable, so that setting a field is an issue whether
the field exists or not; but a name that starts with an underscore is no field, and what is set
under it is of no account. -/
def settingIssue? (field : String) : Option Issue :=
  if "_".isPrefixOf field then none else some ⟨.frozen, [.field field]⟩

end Draft

end AgentChain
