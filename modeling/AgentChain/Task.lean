/-!
# Tasks

The workflow states of the tasks of a project, and what may be found where a state is expected.
-/

namespace AgentChain

/-- The workflow states of a task. -/
inductive TaskState where
  | toDo
  | inProgress
  | done
  | blocked
deriving DecidableEq, Repr

/-- The text of a workflow state. -/
def TaskState.text : TaskState → String
  | .toDo => "To Do"
  | .inProgress => "In Progress"
  | .done => "Done"
  | .blocked => "Blocked"

/-- The name of a workflow state. -/
def TaskState.name : TaskState → String
  | .toDo => "TODO"
  | .inProgress => "IN_PROGRESS"
  | .done => "DONE"
  | .blocked => "BLOCKED"

/-- All workflow states. -/
def TaskState.all : List TaskState := [.toDo, .inProgress, .done, .blocked]

/-- The workflow state with this name. -/
def TaskState.ofName? (s : String) : Option TaskState := all.find? (·.name = s)

/-- What a task gives as its status: a workflow state, a text, or something that is neither. -/
inductive TaskStatus where
  | state (s : TaskState)
  | text (s : String)
  | other
deriving DecidableEq, Repr

/-- The status says that the task is done: by the state itself or by exactly its text. -/
def TaskStatus.isDone : TaskStatus → Bool
  | .state s => s = .done
  | .text s => s = TaskState.done.text
  | .other => false

end AgentChain
