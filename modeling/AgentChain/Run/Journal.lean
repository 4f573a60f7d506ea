import AgentChain.Constraints
import AgentChain.Run.Collaborators

/-!
# The journal of a run

A run keeps a journal of everything that passes between it and its collaborators, in order. Nothing
in a run depends on its journal; it is there to say what a run did.

A run ends early only by an abort. Faults of collaborators are values here: `attempt` hands them to
whoever made the call.
-/

namespace AgentChain

/-- One thing that happened in a run. -/
inductive Entry where
  /-- The sink was given an event. -/
  | event (e : Event)
  /-- The executor was asked for an attempt, and how that ended. -/
  | spawn (request : SpawnRequest) (outcome : Outcome SpawnResult)
  /-- A stage's own completion check was called. -/
  | check (handle : Handle) (root : Path)
  /-- The tasks of the project were listed. -/
  | listTasks (root : Path)
  /-- The status of a task was read. -/
  | status (outcome : Outcome TaskStatus)
  /-- A completion check of either sort came to its end. -/
  | verdict (answer : Except Fault Bool)
  /-- The run asked whether it has to halt. -/
  | poll (cancelled : Bool) (deadline now : Float)
  /-- The run asked once more whether it was cancelled, after the executor was disposed of. -/
  | lastPoll (cancelled : Bool)
  /-- The executor was disposed of. -/
  | dispose
  /-- The run wrote to the log. -/
  | log (record : LogRecord)
  /-- The sink wrote to the log. -/
  | sinkLog (record : LogRecord)

/-- What an entry says that was written to the log. -/
def Entry.record? : Entry → Option LogRecord
  | .log record => some record
  | .sinkLog record => some record
  | _ => none

/-- The state of the collaborators and the journal so far. -/
structure Scene (σ : Type) where
  world : σ
  journal : List Entry := []

/-- A part of a run. -/
abbrev Run (σ α : Type) : Type := EStateM Abort (Scene σ) α

namespace Run

variable {σ α : Type}

/-- Adds entries to the journal. -/
def note (entries : List Entry) : Run σ Unit :=
  modify fun s => { s with journal := s.journal ++ entries }

/-- Writes to the log. -/
def log (level : Level) (message : String) : Run σ Unit :=
  note [.log ⟨level, .runner, message⟩]

/-- Lets a collaborator read and change the state of all. -/
def observe (f : σ → α × σ) : Run σ α := fun s =>
  let (a, world) := f s.world
  .ok a { s with world }

/-- An answer or a contained fault; an abort ends the run. -/
def settle : Outcome α → Run σ (Except Fault α)
  | .answered a => pure (.ok a)
  | .raised f => pure (.error f)
  | .aborted a => throw a

/-- Makes a call, notes it, and contains a fault. -/
def attempt (call : Call σ α) (entry : Outcome α → Entry) : Run σ (Except Fault α) := do
  let outcome ← observe call
  note [entry outcome]
  settle outcome

/-- Runs `body`, and `cleanup` after it whether or not it was aborted. An abort of the cleanup
replaces one of the body. -/
def finallyDo (body : Run σ α) (cleanup : Run σ Unit) : Run σ α := fun s =>
  match body s with
  | .ok a s =>
    match cleanup s with
    | .ok _ s => .ok a s
    | .error e s => .error e s
  | .error e s =>
    match cleanup s with
    | .ok _ s => .error e s
    | .error e s => .error e s

/-! ## Asking the collaborators -/

variable (c : Collaborators σ)

/-- The time. -/
def now : Run σ Float := observe c.clock

/-- Whether the run is cancelled; without a signal it never is. -/
def isCancelled (signal : Option Signal) : Run σ Bool :=
  match signal with
  | none => pure false
  | some s => observe (c.isSet s)

/-- Asks whether the run has to halt. -/
def poll (signal : Option Signal) (deadline : Float) : Run σ (Option StopReason) := do
  let t ← now c
  let cancelled ← isCancelled c signal
  note [.poll cancelled deadline t]
  pure (haltReason cancelled deadline t)

/-- Sends an event to the sink, if there is one. A fault of the sink leaves a trace in the log and
nowhere else. -/
def emit (sink : Option Handle) (e : Event) : Run σ Unit := do
  match sink with
  | none => pure ()
  | some h =>
    let (outcome, records) ← observe fun w =>
      let d := c.sink h e w
      ((d.outcome, d.log), d.state)
    note (.event e :: records.map .sinkLog)
    match ← settle outcome with
    | .ok _ => pure ()
    | .error f =>
      log .debug ("Event sink raised on " ++ e.kind.tag ++ " event: " ++ f.text)

end Run

end AgentChain
