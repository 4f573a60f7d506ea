import AgentChain.Event.Sink
import AgentChain.Record.Read
import AgentChain.Script.Action

/-!
# Scripted collaborators

Collaborators that follow a script. What they have in common is a clock that only actions move, a
signal that only actions set, and the scripts as far as they have not been used up.
-/

namespace AgentChain.Script

/-- What the executor does at one attempt. -/
structure Attempt where
  action : Action := {}
  result : SpawnResult
  /-- The result has a session name of its own. -/
  named : Bool := false

/-- The answer of an executor as plain data describes it; what it leaves out is as in a success. -/
def Attempt.read (action : Action) : Reader Attempt := fun d =>
  let fields := match d with
    | .object fields => fields
    | _ => []
  (fun result => { action, result, named := (Data.lookup "session_id" fields).isSome }) <$>
    SpawnResult.read (.object (fields ++ [("success", .bool true)]))

/-- The result of the `n`-th attempt of all. -/
def Attempt.resultAt (a : Attempt) (n : Nat) : SpawnResult :=
  if a.named then a.result else { a.result with sessionId := "session-" ++ toString n }

/-- A listing of tasks: the statuses, or the fault of reading one. -/
abbrev Listing : Type := Option (List (Except Fault TaskStatus))

/-- The fault of a task without a status. -/
def noStatus : Fault where
  kind := "AttributeError"
  text := "'Task' object has no attribute 'status'"

/-- The fault of listing tasks where there is no task store. -/
def noStore : Fault where
  kind := "AttributeError"
  text := "'NoneType' object has no attribute 'list_tasks'"

/-- What becomes of the events of a run. -/
inductive Audience where
  /-- There is no sink. -/
  | nobody
  /-- Events are shown in the log. -/
  | log
  /-- Events are recorded; at the `n`-th of all events, and then at every event, there may be
  something to do. -/
  | recorder (actions : List (Nat × Action)) (always : Option Action)

/-- What the collaborators do not change. -/
structure Cast where
  executorName : String := "stub"
  audience : Audience := .nobody
  hasStore : Bool := false

/-- What the collaborators share. -/
structure World where
  clock : Float := 0
  /-- Whether the signal is set, if there is one. -/
  signal : Option Bool := none
  attempts : Cues Attempt
  /-- How many attempts there have been. -/
  spawned : Nat := 0
  disposals : List Action := []
  listings : Cues (Cue Listing) := { default := .value (some []) }
  /-- The completion checks, by the number of their handle. -/
  checks : List (Cues (Cue Bool)) := []
  /-- How many events have been recorded. -/
  delivered : Nat := 0

/-- Does an action. -/
def act (a : Action) : Call World Unit := fun w =>
  let w := { w with clock := (a.advance.map (w.clock + ·)).getD w.clock }
  let w := if a.cancel then { w with signal := w.signal.map fun _ => true } else w
  let w := if a.clear then { w with signal := w.signal.map fun _ => false } else w
  ((a.raise.map (·.outcome)).getD (.answered ()), w)

/-- Does an action, and goes on with `next` if nothing was raised. -/
def actThen {α : Type} (a : Action) (next : Call World α) : Call World α := fun w =>
  match act a w with
  | (.answered _, w) => next w
  | (.raised f, w) => (.raised f, w)
  | (.aborted e, w) => (.aborted e, w)

/-- Does the actions of a cue and answers its value. -/
def follow {α : Type} : Cue α → Call World α
  | .value a => fun w => (.answered a, w)
  | .after action cue => actThen action (follow cue)

/-- Follows the script at the next attempt. -/
def spawn : Call World SpawnResult := fun w =>
  let (attempt, attempts) := w.attempts.next
  let n := w.spawned + 1
  actThen attempt.action (fun w => (.answered (attempt.resultAt n), w))
    { w with attempts, spawned := n }

/-- Follows the script at the next disposal; there is nothing to do after the last. -/
def dispose : Call World Unit := fun w =>
  match w.disposals with
  | [] => (.answered (), w)
  | a :: rest => act a { w with disposals := rest }

/-- A task whose status is known. -/
def taskOf (status : Except Fault TaskStatus) : TaskRecord World where
  status := fun w =>
    match status with
    | .ok s => (.answered s, w)
    | .error f => (.raised f, w)

/-- Follows the script at the next listing. -/
def listTasks (_ : Path) : Call World (Option (List (TaskRecord World))) := fun w =>
  let (cue, listings) := w.listings.next
  match follow cue { w with listings } with
  | (.answered listing, w) => (.answered (listing.map (·.map taskOf)), w)
  | (.raised f, w) => (.raised f, w)
  | (.aborted e, w) => (.aborted e, w)

/-- Follows the script of a completion check. -/
def check (h : Handle) (_ : Path) : Call World Bool := fun w =>
  match w.checks[h.id]? with
  | none => (.answered false, w)
  | some cues =>
    let (cue, cues) := cues.next
    follow cue { w with checks := w.checks.set h.id cues }

/-- Takes note of an event and does what there is to do. -/
def record (actions : List (Nat × Action)) (always : Option Action) : Call World Unit := fun w =>
  let n := w.delivered + 1
  let first := ((actions.find? (·.1 = n)).map (·.2)).getD {}
  actThen first (act (always.getD {})) { w with delivered := n }

/-- What the sink does with an event. -/
def deliver (audience : Audience) (e : Event) (w : World) : Delivery World :=
  match audience with
  | .nobody => ⟨.answered (), [], w⟩
  | .log => loggingSink .events e w
  | .recorder actions always =>
    let (outcome, w) := record actions always w
    ⟨outcome, [], w⟩

/-- The scripted collaborators. -/
def collaborators (cast : Cast) : Collaborators World where
  clock w := (w.clock, w)
  isSet _ w := (w.signal.getD false, w)
  sink _ := deliver cast.audience
  check := check
  executor := { name := cast.executorName, spawn := fun _ => spawn, dispose }
  store := if cast.hasStore then some ⟨listTasks⟩ else none

end AgentChain.Script
