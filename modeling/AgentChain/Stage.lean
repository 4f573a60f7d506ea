import AgentChain.Handle
import AgentChain.Role

/-!
# Stages

One step of a chain: the role that it is bound to, whether it loops, its own completion check and
its own prompt.
-/

namespace AgentChain

/-- The name of a stage: not empty, and in normal form. -/
structure StageName where
  text : String
  ne_empty : text ≠ ""
  normal : Text.normalize text = text
deriving DecidableEq

/-- The stage name that a text denotes; blank text denotes none. -/
def StageName.ofText? (s : String) : Option StageName :=
  if h : Text.normalize s = "" then none
  else some ⟨Text.normalize s, h, Text.normalize_normalize s⟩

/-- Exactly blank text denotes no name. -/
theorem StageName.ofText?_eq_none_iff {s : String} :
    StageName.ofText? s = none ↔ Text.isBlankText s.toList = true := by
  unfold ofText?
  split <;> simp_all [← Text.normalize_eq_empty_iff]

/-- A stage name is read back from its text. -/
@[simp] theorem StageName.ofText?_text (n : StageName) : StageName.ofText? n.text = some n := by
  simp [ofText?, n.normal, n.ne_empty]

/-- A text denotes the same name as its normal form. -/
@[simp] theorem StageName.ofText?_normalize (s : String) :
    StageName.ofText? (Text.normalize s) = StageName.ofText? s := by
  simp only [ofText?, Text.normalize_normalize]

/-- A text denotes the name that is its normal form. -/
theorem StageName.ofText?_eq_some_iff {s : String} {n : StageName} :
    StageName.ofText? s = some n ↔ n.text = Text.normalize s := by
  constructor
  · intro h
    unfold ofText? at h
    split at h
    · cases h
    · rw [← Option.some.inj h]
  · intro h
    rw [← ofText?_normalize, ← h, ofText?_text]

/-- A stage name has no blank at either end. -/
theorem StageName.trim_toList (n : StageName) : Text.trim n.text.toList = n.text.toList := by
  have h := Text.trim_toList_normalize n.text
  rwa [n.normal] at h

/-- A stage name is not blank. -/
theorem StageName.isBlankText_eq_false (n : StageName) :
    Text.isBlankText n.text.toList = false := by
  rw [← Bool.not_eq_true, ← Text.normalize_eq_empty_iff, n.normal]
  exact n.ne_empty

/-- The name of a stage is found among the built-in roles as it is. -/
theorem ofName?_text_eq_some_iff {n : StageName} {role : Role} :
    Role.ofName? n.text = some role ↔ n.text = role.name := by
  unfold Role.ofName?
  rw [n.normal]
  constructor
  · intro h
    have hname := List.find?_some h
    exact (of_decide_eq_true hname).symm
  · intro h
    rw [h]
    cases role <;> decide

/-- One step of a chain. -/
structure Stage where
  name : StageName
  loop : Bool := false
  /-- The stage's own completion check. -/
  check : Option Handle := none
  /-- The stage's own prompt. -/
  prompt : Option String := none
deriving DecidableEq

/-- The stage with another prompt. -/
def Stage.withPrompt (s : Stage) (prompt : Option String) : Stage := { s with prompt }

/-- The stage with a completion check of its own. -/
def Stage.withCheck (s : Stage) (check : Handle) : Stage := { s with check := some check }

/-- The names of the stages, joined by arrows. -/
def pipelineText (stages : List Stage) : String :=
  " -> ".intercalate (stages.map (·.name.text))

end AgentChain
