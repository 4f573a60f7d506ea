import AgentChain.Number.Fixed
import AgentChain.Run.Stage
import AgentChain.Text.Quoted

/-!
# Running a chain

The stages of a chain run in order, each within what the ones before it have left of the caps. The
run ends early at a stage that fails, or where it has to halt. The executor is disposed of once the
stages are through, however they end.
-/

namespace AgentChain.Run

variable {σ : Type} (c : Collaborators σ)

/-- Why a chain stopped that did not end early. A last stage that was itself cut short passes its
reason on. -/
def finalReason (results : List StageResult) (cancelled : Bool) : StopReason :=
  if cancelled then .cancelled
  else
    match results.getLast?.bind (·.stopReason) with
    | some .timeout => .timeout
    | some .cancelled => .cancelled
    | _ => .completed

/-- What is reported of a failed stage. -/
def failureText (r : StageResult) : String :=
  (nonEmpty? r.error).getD ("Stage '" ++ r.stage.name.text ++ "' failed")

/-- Runs the stages from the given index on: the results, and the reason if the run ended early. -/
def stages (config : Config) (index : Nat) (limits : Constraints) :
    List Stage → Run σ (List StageResult × Option StopReason)
  | [] => pure ([], none)
  | s :: rest => do
    match ← poll c config.signal limits.deadline with
    | some reason =>
      log .info ("Stopping before stage " ++ Text.quoted s.name.text ++ ": " ++ reason.text)
      pure ([], some reason)
    | none =>
      emit c config.sink (.stageStart s index)
      let result ← stage c s config (some limits)
      emit c config.sink (.stageEnd s result)
      if result.success then
        let (results, reason) ← stages config (index + 1) (limits.after result) rest
        pure (result :: results, reason)
      else pure ([result], some .stageFailed)

/-- Disposes of the executor. A fault is logged and has no other effect. -/
def dispose : Run σ Unit := do
  match ← attempt c.executor.dispose fun _ => .dispose with
  | .ok _ => pure ()
  | .error f =>
    log .warning ("Agent executor " ++ Text.quoted c.executor.name ++ " failed to dispose: " ++
      f.text)

/-- Asks once more whether the run was cancelled. -/
def lastPoll (signal : Option Signal) : Run σ Bool := do
  let cancelled ← isCancelled c signal
  note [.lastPoll cancelled]
  pure cancelled

/-- The message at the start of a run. -/
def startText (config : Config) : String :=
  let names := pipelineText config.stages
  "Starting chain: " ++ (if names = "" then "<empty>" else names) ++ " (budget=" ++
    toString config.budget.val ++ " iterations, timeout=" ++
    Number.fixedText 0 config.timeLimit.toFloat ++ "s)"

/-- The message at the end of a run. -/
def finishText (result : ChainResult) (reason : StopReason) : String :=
  "Chain finished: success=" ++ (if result.success then "True" else "False") ++ ", stop=" ++
    reason.text ++ " (" ++ toString result.stageResults.length ++ " stage(s), " ++
    Number.fixedText 1 result.duration ++ "s)"

/-- Runs a chain. -/
def chain (config : Config) : Run σ ChainResult := do
  let start ← now c
  log .info (startText config)
  emit c config.sink (.chainStart config.stages)
  let (results, early) ←
    finallyDo (stages c config 0 (fullConstraints config start) config.stages) (dispose c)
  let cancelled ← lastPoll c config.signal
  let reason := early.getD (finalReason results cancelled)
  let finish ← now c
  let result : ChainResult := {
    success := !cancelled && results.all (·.success)
    stageResults := results
    duration := finish - start
    errors := (results.filter (!·.success)).map failureText
    stopReason := some reason }
  log .info (finishText result reason)
  emit c config.sink (.chainEnd result)
  pure result

end AgentChain.Run
