import AgentChain.Data.Reader
import AgentChain.Record

/-!
# Reading records from plain data

The fields of a record are checked in order, and all issues are collected. Fields that are not known
are ignored.
-/

namespace AgentChain

open Validated

/-- The name of a stage, in any case and with blanks around it. -/
def StageName.read : Reader StageName := fun d =>
  (Reader.text d).andThen fun s => (StageName.ofText? s).elim (fail .textTooShort) valid

/-- A stage. -/
def Stage.read : Reader Stage := Reader.object Schema.stage.title fun fs =>
  Stage.mk
    <$> Reader.field "name" StageName.read fs
    <*> Reader.fieldOr "loop" false Reader.bool fs
    <*> Reader.fieldOr "completion_check" none (Reader.orNull Reader.function) fs
    <*> Reader.fieldOr "prompt" none (Reader.orNull Reader.text) fs

/-- A model table. -/
def ModelTable.read : Reader ModelTable := Reader.object Schema.models.title fun fs =>
  ModelTable.mk
    <$> Reader.fieldOr "planner" none (Reader.orNull Reader.text) fs
    <*> Reader.fieldOr "task_manager" none (Reader.orNull Reader.text) fs
    <*> Reader.fieldOr "coordinator" none (Reader.orNull Reader.text) fs
    <*> Reader.fieldOr "worker" none (Reader.orNull Reader.text) fs
    <*> Reader.fieldOr "default" none (Reader.orNull Reader.text) fs

/-- A request to an executor. -/
def SpawnRequest.read : Reader SpawnRequest := Reader.object Schema.spawnRequest.title fun fs =>
  SpawnRequest.mk
    <$> Reader.field "role" Reader.text fs
    <*> Reader.field "cwd" Reader.path fs
    <*> Reader.fieldOr "model" none (Reader.orNull Reader.text) fs
    <*> Reader.field "prompt" Reader.text fs
    <*> Reader.fieldOr "signal" none (Reader.orNull Reader.signal) fs

/-- The answer of an executor. -/
def SpawnResult.read : Reader SpawnResult := Reader.object Schema.spawnResult.title fun fs =>
  SpawnResult.mk
    <$> Reader.fieldOr "success" false Reader.bool fs
    <*> Reader.fieldOr "session_id" "" Reader.text fs
    <*> Reader.fieldOr "messages" [] Reader.anything fs
    <*> Reader.fieldOr "error" none (Reader.orNull Reader.text) fs

/-- The result of a stage. -/
def StageResult.read : Reader StageResult := Reader.object Schema.stageResult.title fun fs =>
  StageResult.mk
    <$> Reader.field "stage" Stage.read fs
    <*> Reader.fieldOr "success" false Reader.bool fs
    <*> Reader.fieldOr "iterations" 0 Reader.int fs
    <*> Reader.fieldOr "duration_seconds" 0 Reader.float fs
    <*> Reader.fieldOr "error" none (Reader.orNull Reader.text) fs
    <*> Reader.fieldOr "stop_reason" none (Reader.orNull Reader.stopReason) fs

/-- The result of a chain. -/
def ChainResult.read : Reader ChainResult := Reader.object Schema.chainResult.title fun fs =>
  ChainResult.mk
    <$> Reader.fieldOr "success" false Reader.bool fs
    <*> Reader.fieldOr "stage_results" [] (Reader.list StageResult.read) fs
    <*> Reader.fieldOr "total_duration_seconds" 0 Reader.float fs
    <*> Reader.fieldOr "errors" [] (Reader.list Reader.text) fs
    <*> Reader.fieldOr "stop_reason" none (Reader.orNull Reader.stopReason) fs

/-- A time limit in seconds. -/
def TimeLimit.read : Reader TimeLimit := fun d => TimeLimit.seconds <$> Reader.positiveFloat d

/-- A configuration. -/
def Config.read : Reader Config := Reader.object Schema.config.title fun fs =>
  Config.mk
    <$> Reader.fieldOr "stages" [] (Reader.list Stage.read) fs
    <*> Reader.field "project_root" Reader.path fs
    <*> Reader.fieldOr "models" none (Reader.orNull ModelTable.read) fs
    <*> Reader.fieldOr "signal" none (Reader.orNull Reader.signal) fs
    <*> Reader.fieldOr "on_event" none (Reader.orNull Reader.function) fs
    <*> Reader.fieldOr "max_total_iterations" .standard Reader.positiveInt fs
    <*> Reader.fieldOr "timeout_seconds" .standard TimeLimit.read fs

/-! ## Events -/

/-- The tag of events of one kind. -/
def EventKind.read (kind : EventKind) : Reader EventKind := fun d =>
  match d with
  | .text s => if s = kind.tag then valid kind else fail (.tagExpected kind)
  | _ => fail (.tagExpected kind)

/-- The fields of an event of one kind besides its tag. -/
def EventKind.readFields (fs : List (String × Data)) : EventKind → Validated Event
  | .chainStart => Event.chainStart <$> Reader.field "stages" (Reader.list Stage.read) fs
  | .chainEnd => Event.chainEnd <$> Reader.field "result" ChainResult.read fs
  | .stageStart =>
    Event.stageStart <$> Reader.field "stage" Stage.read fs
      <*> Reader.field "stage_index" Reader.int fs
  | .stageEnd =>
    Event.stageEnd <$> Reader.field "stage" Stage.read fs
      <*> Reader.field "result" StageResult.read fs
  | .stageIteration =>
    Event.stageIteration <$> Reader.field "stage" Stage.read fs
      <*> Reader.field "iteration" Reader.int fs
  | .agentSpawned =>
    Event.agentSpawned <$> Reader.field "role" Reader.text fs
      <*> Reader.field "session_id" Reader.text fs
  | .agentCompleted =>
    Event.agentCompleted <$> Reader.field "role" Reader.text fs
      <*> Reader.field "session_id" Reader.text fs
  | .error =>
    Event.error <$> Reader.field "message" Reader.text fs
      <*> Reader.fieldOr "stage" none (Reader.orNull Stage.read) fs

/-- An event of one kind. Its tag may be left out. -/
def Event.readKind (kind : EventKind) : Reader Event := Reader.object kind.title fun fs =>
  (fun _ event => event) <$> Reader.fieldOr "type" kind kind.read fs <*> kind.readFields fs

/-- An event of any kind, which its tag tells. Signals and workflow states could have a tag like
objects do, but have none. -/
def Event.read : Reader Event := fun d =>
  match d with
  | .object fs =>
    match Data.lookup "type" fs with
    | none => fail .noTag
    | some tag =>
      match tag.text?.bind EventKind.ofTag? with
      | none => fail (.unknownTag tag.shown)
      | some kind => (Event.readKind kind d).under (.field kind.tag)
  | .signal _ | .state _ => fail .noTag
  | _ => fail .objectExpected

/-! ## Records -/

/-- Data that does not describe a value of a record type, with all that is wrong with it. -/
structure InvalidData where
  schema : Schema
  issues : List Issue
deriving DecidableEq, Repr

/-- The value, or the failure to read it by the given schema. -/
def Validated.against {α : Type} (schema : Schema) : Validated α → Except InvalidData α
  | .valid a => .ok a
  | .invalid issues => .error ⟨schema, issues⟩

/-- Reads a record by a schema. -/
def Schema.read : Schema → Reader Record
  | .stage => fun d => Record.stage <$> Stage.read d
  | .models => fun d => Record.models <$> ModelTable.read d
  | .spawnRequest => fun d => Record.spawnRequest <$> SpawnRequest.read d
  | .spawnResult => fun d => Record.spawnResult <$> SpawnResult.read d
  | .stageResult => fun d => Record.stageResult <$> StageResult.read d
  | .chainResult => fun d => Record.chainResult <$> ChainResult.read d
  | .config => fun d => Record.config <$> Config.read d
  | .event kind => fun d => Record.event <$> Event.readKind kind d
  | .anyEvent => fun d => Record.event <$> Event.read d

/-- Checks data against a schema. -/
def Schema.validate (schema : Schema) (d : Data) : Except InvalidData Record :=
  (schema.read d).against schema

end AgentChain
