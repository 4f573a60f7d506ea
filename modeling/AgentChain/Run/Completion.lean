import AgentChain.Run.Journal

/-!
# Completion of loop stages

A loop stage asks its own completion check, or the task store if it has none: the work is complete
once there is a task and all tasks are done.
-/

namespace AgentChain

/-- How a loop stage finds out whether its work is complete. -/
inductive CompletionCheck (σ : Type) where
  /-- By the check behind a handle. -/
  | own (handle : Handle)
  /-- By the tasks of the project. -/
  | tasks (store : TaskStore σ)

namespace CompletionCheck

variable {σ : Type} (c : Collaborators σ)

/-- The completion check of a stage, unless it has none and there is no task store. -/
def of? (stage : Stage) : Option (CompletionCheck σ) :=
  match stage.check, c.store with
  | some h, _ => some (.own h)
  | none, some store => some (.tasks store)
  | none, none => none

variable {c} in
/-- Only without a check of its own and without a task store has a stage no completion check. -/
theorem of?_eq_none_iff {stage : Stage} :
    of? c stage = none ↔ stage.check = none ∧ c.store.isNone := by
  unfold of?
  cases stage.check <;> cases c.store <;> simp

variable {c} in
/-- The tasks that a completion check reads are those of the task store. -/
theorem store_eq_of_of? {stage : Stage} {store : TaskStore σ}
    (h : of? c stage = some (.tasks store)) : c.store = some store := by
  unfold of? at h
  cases hcheck : stage.check <;> cases hstore : c.store <;> simp_all

/-- The fault of a loop stage without a completion check. -/
def missing (stage : Stage) : Fault where
  kind := "ChainConfigError"
  text := "Loop stage '" ++ stage.name.text ++
    "' has no completion check and no task store is configured"

/-- Reads statuses in order until one is not done. -/
def allDone : List (TaskRecord σ) → Run σ (Except Fault Bool)
  | [] => pure (.ok true)
  | t :: ts => do
    match ← Run.attempt t.status .status with
    | .error f => pure (.error f)
    | .ok s => if s.isDone then allDone ts else pure (.ok false)

/-- Lists the tasks of a project: is there one, and are all done? -/
def ofTasks (store : TaskStore σ) (root : Path) : Run σ (Except Fault Bool) := do
  match ← Run.attempt (store.listTasks root) fun _ => .listTasks root with
  | .error f => pure (.error f)
  | .ok listing =>
    match listing.getD [] with
    | [] => pure (.ok false)
    | t :: ts => allDone (t :: ts)

/-- Asks whether the work in a directory is complete. -/
def ask (check : CompletionCheck σ) (root : Path) : Run σ (Except Fault Bool) := do
  let answer ← match check with
    | own h => Run.attempt (c.check h root) fun _ => .check h root
    | tasks store => ofTasks store root
  Run.note [.verdict answer]
  pure answer

end CompletionCheck

end AgentChain
