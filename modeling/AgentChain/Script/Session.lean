import AgentChain.Expression
import AgentChain.Record.Show
import AgentChain.Run.Chain
import AgentChain.Script.Cast

/-!
# Scripted sessions

A session is a sequence of steps with the same scripted collaborators: running a chain, running a
single stage, or an action by itself. A step that fails does not end the session.
-/

namespace AgentChain.Script

/-- Why a step of a session has no result. -/
inductive Failure where
  | expression (f : Expression.Fault)
  | data (d : InvalidData)
  | fault (f : Fault)
  | abort (a : Abort)

/-- A stage as a step describes it. -/
structure StageSpec where
  fields : List (String × Data)
  check : Option (Cues (Cue Bool)) := none
  /-- The prompt that the stage is given after it has been made. -/
  prompt : Option (Option String) := none

/-- Where the stages of a configuration come from. -/
inductive StagesSpec where
  | stages (specs : List StageSpec)
  /-- A chain expression, with prompts and checks for some of its stages by position. -/
  | expression (text : String) (prompts : List (Nat × Option String))
      (checks : List (Nat × Cues (Cue Bool)))

/-- A configuration as a step describes it. -/
structure ConfigSpec where
  stages : StagesSpec := .stages []
  fields : List (String × Data) := []

/-- One step of a session. -/
inductive Step where
  | run (config : ConfigSpec)
  | stage (stage : StageSpec) (config : ConfigSpec) (constraints : Option Constraints)
  | act (action : Action)

/-- What a step shows: its result, what passed between the run and its collaborators, what was
logged, and how the clock and the signal stand. -/
structure StepReport where
  result : Except Failure (Option Record)
  journal : List Entry := []
  log : List LogRecord := []
  now : Float
  cancelled : Bool

/-- The setting of a session. -/
structure Setting where
  cast : Cast
  signal : Option Signal := none

/-- What is at hand while a step is prepared: the world, and what has been logged so far. -/
structure Workshop where
  world : World
  log : List LogRecord := []

/-- The preparation of a step may fail. -/
abbrev Building (α : Type) : Type := EStateM Failure Workshop α

/-- The value, or the failure to read it. -/
def ofRead {α : Type} : Except InvalidData α → Building α
  | .ok a => pure a
  | .error e => throw (.data e)

/-- Adds a completion check and gives its handle. -/
def addCheck (cues : Cues (Cue Bool)) : Building Handle := do
  let checks := (← get).world.checks
  modify fun s => { s with world.checks := checks ++ [cues] }
  pure ⟨checks.length⟩

/-- Makes a stage. -/
def buildStage (spec : StageSpec) : Building Stage := do
  let fields ← match spec.check with
    | none => pure spec.fields
    | some cues =>
      let h ← addCheck cues
      pure (spec.fields ++ [("completion_check", .callable h)])
  let stage ← ofRead ((Stage.read (.object fields)).against .stage)
  pure (match spec.prompt with
    | none => stage
    | some prompt => stage.withPrompt prompt)

/-- The value at a position. -/
def atPosition {α : Type} (i : Nat) (values : List (Nat × α)) : Option α :=
  (values.find? (·.1 = i)).map (·.2)

/-- Gives the stages from a position on their prompts and checks. -/
def dressStages (prompts : List (Nat × Option String)) (checks : List (Nat × Cues (Cue Bool))) :
    (position : Nat) → List Stage → Building (List Stage)
  | _, [] => pure []
  | i, stage :: rest => do
    let stage := match atPosition i prompts with
      | none => stage
      | some prompt => stage.withPrompt prompt
    let stage ← match atPosition i checks with
      | none => pure stage
      | some cues => stage.withCheck <$> addCheck cues
    let rest ← dressStages prompts checks (i + 1) rest
    pure (stage :: rest)

/-- Makes the stages of a configuration. -/
def buildStages : StagesSpec → Building (List Stage)
  | .stages specs => specs.mapM buildStage
  | .expression text prompts checks => do
    let (log, result) := Expression.read text
    modify fun s => { s with log := s.log ++ log }
    match result with
    | .error f => throw (.expression f)
    | .ok stages => dressStages prompts checks 0 stages

/-- The handle of the sink of a session. -/
def sinkHandle : Handle := ⟨0⟩

/-- The fields of a configuration that are the same in all steps of a session. -/
def Setting.fields (s : Setting) : List (String × Data) := [
  ("signal", .ofOption .signal s.signal),
  ("on_event", match s.cast.audience with
    | .nobody => .null
    | _ => .callable sinkHandle)]

/-- Makes a configuration. -/
def buildConfig (s : Setting) (spec : ConfigSpec) : Building Config := do
  let stages ← buildStages spec.stages
  let fields := [("stages", .list (stages.map (·.toData)))] ++ s.fields ++ spec.fields ++
    [("project_root", .text "/p")]
  ofRead ((Config.read (.object fields)).against .config)

/-- The report of a step that leaves the world as given. -/
def report (result : Except Failure (Option Record)) (journal : List Entry)
    (log : List LogRecord) (w : World) : StepReport × World :=
  ({ result, journal, log := log ++ journal.filterMap Entry.record?, now := w.clock,
     cancelled := w.signal.getD false }, w)

/-- Prepares a part of a run and carries it out. -/
def perform {α β : Type} (w : World) (prepare : Building α) (part : α → Run World β)
    (toRecord : β → Record) : StepReport × World :=
  match prepare { world := w } with
  | .error e s => report (.error e) [] s.log s.world
  | .ok a s =>
    match part a { world := s.world } with
    | .ok b t => report (.ok (some (toRecord b))) t.journal s.log t.world
    | .error e t => report (.error (.abort e)) t.journal s.log t.world

/-- Takes one step. -/
def Setting.step (s : Setting) (w : World) : Step → StepReport × World
  | .act a =>
    match Script.act a w with
    | (.answered _, w) => report (.ok none) [] [] w
    | (.raised f, w) => report (.error (.fault f)) [] [] w
    | (.aborted e, w) => report (.error (.abort e)) [] [] w
  | .run spec =>
    perform w (buildConfig s spec) (Run.chain (collaborators s.cast)) .chainResult
  | .stage stageSpec spec constraints =>
    perform w (do return (← buildStage stageSpec, ← buildConfig s spec))
      (fun (stage, config) => Run.stage (collaborators s.cast) stage config constraints)
      .stageResult

/-- Takes all steps of a session. -/
def Setting.steps (s : Setting) : World → List Step → List StepReport
  | _, [] => []
  | w, step :: rest =>
    let (r, w) := s.step w step
    r :: steps s w rest

end AgentChain.Script
