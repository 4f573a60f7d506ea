import AgentChain.Text.Normal

/-!
# Roles

The built-in roles of agents. A role says whether its stage loops until a completion check passes,
which instruction it is sent by default, how the agent is introduced, and which model it runs on.
A name that is no built-in role belongs to a custom role, which runs once.

Main statement: roles are found by the normal form of a name (`ofName?_normalize`).
-/

namespace AgentChain

/-- The built-in roles. -/
inductive Role where
  | planner
  | taskManager
  | coordinator
  | worker
deriving DecidableEq, Repr

namespace Role

/-- The name of a role. -/
def name : Role → String
  | .planner => "planner"
  | .taskManager => "task-manager"
  | .coordinator => "coordinator"
  | .worker => "worker"

/-- All built-in roles. -/
def all : List Role := [.planner, .taskManager, .coordinator, .worker]

/-- The built-in role of a name, whatever its case and the blanks around it. -/
def ofName? (s : String) : Option Role := all.find? (·.name = Text.normalize s)

/-- Only the coordinator loops. -/
def loops : Role → Bool
  | .coordinator => true
  | _ => false

/-- The instruction that a role is sent when its stage has no prompt. -/
def instruction : Role → String
  | .planner => "Analyze the project and design an implementation plan."
  | .taskManager => "Review the plan and create atomic implementation tasks."
  | .coordinator => "Check for ready tasks and delegate them to workers."
  | .worker => "Pick up the next ready task and implement it."

/-- The line that tells an agent which role it has. -/
def persona : Role → String
  | .planner => "You are the Planner. Design solutions but never write code or create tasks."
  | .taskManager => "You are the Task Manager. Break plans into atomic, implementable tasks."
  | .coordinator => "You are the Coordinator. Delegate tasks to workers and verify completion."
  | .worker => "You are the Worker. Implement the assigned task, check off acceptance criteria."

/-- The model of custom roles, and of most built-in ones. -/
def fallbackModel : String := "anthropic/claude-sonnet-4-5"

/-- The model of a built-in role. -/
def model : Role → String
  | .planner => "anthropic/claude-opus-4-0"
  | _ => fallbackModel

/-- A role is found by its name in any case and with any blanks around it. -/
@[simp] theorem ofName?_normalize (s : String) : ofName? (Text.normalize s) = ofName? s := by
  simp [ofName?]

end Role

/-! ## Custom roles included -/

/-- The stage of this name loops. -/
def roleLoops (name : String) : Bool := (Role.ofName? name).any (·.loops)

/-- The default instruction for this name. -/
def instructionFor (name : String) : String :=
  ((Role.ofName? name).map (·.instruction)).getD "Execute your assigned role."

/-- The introduction for this name. -/
def personaFor (name : String) : String :=
  ((Role.ofName? name).map (·.persona)).getD "You are an agent."

/-! ## Models -/

/-- The models that a run assigns to roles. An empty text assigns nothing. -/
structure ModelTable where
  planner : Option String := none
  taskManager : Option String := none
  coordinator : Option String := none
  worker : Option String := none
  /-- The model of custom roles. -/
  custom : Option String := none
deriving DecidableEq, Repr

/-- The entry for a built-in role. -/
def ModelTable.entry (t : ModelTable) : Role → Option String
  | .planner => t.planner
  | .taskManager => t.taskManager
  | .coordinator => t.coordinator
  | .worker => t.worker

/-- The text, if it is there and not empty. -/
def nonEmpty? (s : Option String) : Option String := s.filter (· ≠ "")

/-- The text is the preferred one, unless that is missing or empty; then it is the other one. -/
inductive Prefers (preferred : Option String) (other : String) : String → Prop where
  | preferred {text : String} (h : preferred = some text) (hne : text ≠ "") :
      Prefers preferred other text
  | other (h : preferred = none ∨ preferred = some "") : Prefers preferred other other

/-- The choice between the two texts, where an empty one counts as missing. -/
theorem prefers_getD (preferred : Option String) (other : String) :
    Prefers preferred other ((nonEmpty? preferred).getD other) := by
  unfold nonEmpty?
  cases hp : preferred with
  | none => exact .other (Or.inl rfl)
  | some text =>
    by_cases ht : text = ""
    · subst ht
      exact .other (Or.inr rfl)
    · have hkept : (some text).filter (· ≠ "") = some text := by simp [Option.filter, ht]
      rw [hkept]
      exact .preferred rfl ht

/-- The choice is empty only if the other text is. -/
theorem Prefers.ne_empty {preferred : Option String} {other text : String}
    (h : Prefers preferred other text) (ho : other ≠ "") : text ≠ "" := by
  cases h with
  | preferred _ hne => exact hne
  | other => exact ho

/-- The choice is the preferred text, or else the other one. -/
theorem Prefers.eq_or {preferred : Option String} {other text : String}
    (h : Prefers preferred other text) :
    preferred = some text ∨ ((preferred = none ∨ preferred = some "") ∧ text = other) := by
  cases h with
  | preferred h _ => exact Or.inl h
  | other h => exact Or.inr ⟨h, rfl⟩

/-- The model for this name: what the table assigns, else the model of the role. -/
def modelFor (name : String) (table : Option ModelTable) : String :=
  match Role.ofName? name with
  | some role => (nonEmpty? (table.bind (·.entry role))).getD role.model
  | none => (nonEmpty? (table.bind (·.custom))).getD Role.fallbackModel

end AgentChain
