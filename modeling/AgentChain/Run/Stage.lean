import AgentChain.Config
import AgentChain.Run.Completion

/-!
# Running a stage

A stage that does not loop makes one attempt. A loop stage makes attempts until its work is
complete, an attempt fails, the run has to halt, or the iterations that are left are used up. A
fault of the executor, of the completion check or of the task store fails the stage.
-/

namespace AgentChain.Run

variable {σ : Type} (c : Collaborators σ)

/-- How the work on a stage ended when no fault was raised. -/
structure Ending where
  success : Bool
  error : Option String := none
  reason : StopReason

/-- What became of the work on a stage: the attempts begun, and how it ended. -/
structure Work where
  iterations : Nat
  ending : Except Fault Ending

/-- The request for an attempt at a stage. -/
def requestFor (stage : Stage) (config : Config) : SpawnRequest where
  role := stage.name.text
  directory := config.root
  model := some (modelFor stage.name.text config.models)
  prompt := (nonEmpty? stage.prompt).getD (instructionFor stage.name.text)
  signal := config.signal

/-- Makes one attempt at a stage. -/
def spawn (stage : Stage) (config : Config) : Run σ (Except Fault SpawnResult) := do
  let request := requestFor stage config
  match ← attempt (c.executor.spawn request) (.spawn request) with
  | .error f => pure (.error f)
  | .ok result =>
    if result.success then
      emit c config.sink (.agentSpawned stage.name.text result.sessionId)
      emit c config.sink (.agentCompleted stage.name.text result.sessionId)
    else
      log .info ("[" ++ stage.name.text ++ "] agent failed: " ++
        (nonEmpty? result.error).getD "<no error message>")
    pure (.ok result)

/-- The work on a stage that does not loop. -/
def once (stage : Stage) (config : Config) : Run σ Work := do
  match ← spawn c stage config with
  | .error f => pure ⟨1, .error f⟩
  | .ok r =>
    pure ⟨1, .ok ⟨r.success, r.error, if r.success then .singlePass else .stageFailed⟩⟩

/-- The attempts at a loop stage when `done` have been made and at most `left` more may follow. -/
def attempts (stage : Stage) (config : Config) (check : CompletionCheck σ) (deadline : Float)
    (done : Nat) : (left : Nat) → Run σ Work
  | 0 => pure ⟨done, .ok ⟨true, none, .budgetExhausted⟩⟩
  | left + 1 => do
    match ← poll c config.signal deadline with
    | some reason => pure ⟨done, .ok ⟨true, none, reason⟩⟩
    | none =>
      let n := done + 1
      emit c config.sink (.stageIteration stage n)
      log .info ("[" ++ stage.name.text ++ "] iteration " ++ toString n)
      match ← spawn c stage config with
      | .error f => pure ⟨n, .error f⟩
      | .ok r =>
        if !r.success then pure ⟨n, .ok ⟨false, r.error, .stageFailed⟩⟩
        else
          match ← check.ask c config.root with
          | .error f => pure ⟨n, .error f⟩
          | .ok true => pure ⟨n, .ok ⟨true, none, .goalMet⟩⟩
          | .ok false => attempts stage config check deadline n left

/-- The work on a loop stage. -/
def repeatedly (stage : Stage) (config : Config) (limits : Constraints) : Run σ Work := do
  match CompletionCheck.of? c stage with
  | none => pure ⟨0, .error (CompletionCheck.missing stage)⟩
  | some check =>
    let work ← attempts c stage config check limits.deadline 0 limits.remaining.toNat
    match work.ending with
    | .ok { success := true, reason, .. } =>
      log .info ("[" ++ stage.name.text ++ "] loop ended after " ++ toString work.iterations ++
        " iteration(s): " ++ reason.text)
    | _ => pure ()
    pure work

/-- How a stage ends whose work raised a fault: the fault is reported and is the stage's error. -/
def contain (stage : Stage) (config : Config) (f : Fault) : Run σ Ending := do
  log .warning ("[" ++ stage.name.text ++ "] stage raised: " ++ f.message)
  emit c config.sink (.error f.message stage)
  pure ⟨false, some f.message, .stageFailed⟩

/-- The constraints on a stage that starts at the given time and has the whole run to itself. -/
def fullConstraints (config : Config) (start : Float) : Constraints :=
  ⟨config.budget.val, start + config.timeLimit.toFloat⟩

/-- Runs one stage within the given constraints, or within those of a whole run. -/
def stage (stage : Stage) (config : Config) (limits : Option Constraints := none) :
    Run σ StageResult := do
  let start ← now c
  let limits := limits.getD (fullConstraints config start)
  let work ← if stage.loop then repeatedly c stage config limits else once c stage config
  let ending ← match work.ending with
    | .ok ending => pure ending
    | .error f => contain c stage config f
  let finish ← now c
  pure {
    stage
    success := ending.success
    iterations := work.iterations
    duration := finish - start
    error := ending.error
    stopReason := some ending.reason }

end AgentChain.Run
