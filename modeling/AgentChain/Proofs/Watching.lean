import AgentChain.Proofs.Coupling

/-!
# Sinks that watch

A sink watches a run if it has a state of its own, reads what it likes, may raise a fault at any
event, but changes nothing that the other collaborators keep and stops nothing. Whichever sink
watches a run, and whether one does, the run ends in the same way, and it makes the same calls in
the same order. What differs is what the sink is given, what it writes to the log, and the debug
records of its faults.

Main statement: `unchanged_by_watchers`.
-/

namespace AgentChain

variable {α β ω s s' : Type}

/-! ## Collaborators with a watcher beside them -/

/-- A sink with a state of its own. At an event it may raise a fault and write to the log; the state
of the other collaborators it can read and no more. -/
structure Watcher (ω s : Type) where
  receive : Handle → Event → ω × s → Option Fault × List LogRecord × s

/-- The answer of a call, read in another way. -/
def Outcome.map (f : α → β) : Outcome α → Outcome β
  | .answered a => .answered (f a)
  | .raised e => .raised e
  | .aborted e => .aborted e

/-- A call that leaves the state of a watcher as it is. -/
def Call.beside (call : Call ω α) : Call (ω × s) α := fun w =>
  ((call w.1).1, ((call w.1).2, w.2))

def TaskRecord.beside (task : TaskRecord ω) : TaskRecord (ω × s) where
  status := Call.beside task.status

def TaskStore.beside (store : TaskStore ω) : TaskStore (ω × s) where
  listTasks root w :=
    let listing := store.listTasks root w.1
    (listing.1.map (·.map (·.map TaskRecord.beside)), (listing.2, w.2))

def Executor.beside (executor : Executor ω) : Executor (ω × s) where
  name := executor.name
  spawn request := Call.beside (executor.spawn request)
  dispose := Call.beside executor.dispose

/-- The collaborators with `watcher` as their sink. Each of the others acts on its own part of the
state, as it would without the watcher. -/
def Collaborators.watchedBy (c : Collaborators ω) (watcher : Watcher ω s) :
    Collaborators (ω × s) where
  clock w := ((c.clock w.1).1, ((c.clock w.1).2, w.2))
  isSet signal w := ((c.isSet signal w.1).1, ((c.isSet signal w.1).2, w.2))
  sink h e w :=
    let (fault, records, state) := watcher.receive h e w
    { outcome := match fault with
        | none => .answered ()
        | some f => .raised f
      log := records
      state := (w.1, state) }
  check h root := Call.beside (c.check h root)
  executor := c.executor.beside
  store := c.store.map TaskStore.beside

/-- What a sink has a part in: the events that it is given, what it writes to the log, and the debug
records, which are about its faults. -/
def Entry.ofSink : Entry → Bool
  | .event _ | .sinkLog _ => true
  | .log record => record.level = .debug
  | _ => false

namespace Run

/-- What the journal says apart from the sink. -/
def apartFromSink (t : List Entry) : List Entry := t.filter (!·.ofSink)

/-! ## Emissions to a watcher -/

/-- A watcher neither changes what the others keep nor stops the run, and all that comes of an
emission is of the sink. -/
theorem steps_emit_watched (c : Collaborators ω) (watcher : Watcher ω s) (sink : Option Handle)
    (e : Event) (w : ω) (x : s) : ∃ t y,
      Steps (emit (c.watchedBy watcher) sink e) (w, x) t (.ok ()) (w, y) ∧
        apartFromSink t = [] := by
  cases sink with
  | none => exact ⟨[], x, steps_pure () _, rfl⟩
  | some h =>
    have hs := steps_emit (c.watchedBy watcher) h e (w, x)
    -- a watcher answers or raises a fault, and a fault of the sink is only logged
    have hgoes : carriedOn ((c.watchedBy watcher).sink h e (w, x)).outcome = .ok () := by
      simp only [Collaborators.watchedBy]
      cases (watcher.receive h e (w, x)).1 <;> rfl
    rw [hgoes] at hs
    exact ⟨_, _, hs, filter_emission _ _ rfl (fun _ => rfl) fun _ => rfl⟩

/-! ## The same run under another watcher -/

/-- The parts of the state that the other collaborators keep are the same. -/
def SameBeside (v : ω × s) (v' : ω × s') : Prop := v.1 = v'.1

/-- A call acts alike beside either watcher. -/
theorem callsMatch_beside (call : Call ω α) :
    CallsMatch SameBeside Eq (Call.beside call : Call (ω × s) α)
      (Call.beside call : Call (ω × s') α) := by
  rintro ⟨w, x⟩ ⟨_, y⟩ rfl
  exact ⟨.refl _, rfl⟩

/-- A task store acts alike beside either watcher. -/
theorem storesMatch_beside (store : TaskStore ω) :
    StoresMatch SameBeside (store.beside : TaskStore (ω × s))
      (store.beside : TaskStore (ω × s')) := by
  have htasks : ∀ tasks : List (TaskRecord ω), List.Forall₂ (TasksMatch SameBeside)
      (tasks.map (TaskRecord.beside (s := s))) (tasks.map (TaskRecord.beside (s := s'))) := by
    intro tasks
    rw [List.forall₂_map_left_iff, List.forall₂_map_right_iff]
    exact List.forall₂_same.2 fun task _ => callsMatch_beside task.status
  rintro root ⟨w, x⟩ ⟨_, y⟩ rfl
  refine ⟨?_, rfl⟩
  simp only [TaskStore.beside]
  -- only tasks that are there hold further calls
  cases (store.listTasks root w).1 with
  | answered listing =>
    cases listing with
    | none => exact .answered .none
    | some tasks => exact .answered (.some (htasks tasks))
  | raised f => exact .raised f
  | aborted e => exact .aborted e

/-- The collaborators act alike whichever sink watches them. -/
theorem akin_watchedBy (c : Collaborators ω) (a : Watcher ω s) (b : Watcher ω s') :
    Akin SameBeside (c.watchedBy a) (c.watchedBy b) where
  clock := by
    rintro ⟨w, x⟩ ⟨_, y⟩ rfl
    exact ⟨rfl, rfl⟩
  isSet := by
    rintro signal ⟨w, x⟩ ⟨_, y⟩ rfl
    exact ⟨rfl, rfl⟩
  check h root := callsMatch_beside (c.check h root)
  name_eq := rfl
  spawn request := callsMatch_beside (c.executor.spawn request)
  dispose := callsMatch_beside c.executor.dispose
  store := by
    simp only [Collaborators.watchedBy]
    cases c.store with
    | none => exact .none
    | some store => exact .some (storesMatch_beside store)

/-- Runs that differ in who watches them go in step. -/
theorem inStep_watchedBy (c : Collaborators ω) (a : Watcher ω s) (b : Watcher ω s')
    (config : Config) (h h' : Option Handle) :
    InStep (!·.ofSink) SameBeside (c.watchedBy a) (c.watchedBy b) { config with sink := h }
      { config with sink := h' } where
  akin := akin_watchedBy c a b
  root_eq := rfl
  models_eq := rfl
  signal_eq := rfl
  emit e := by
    rintro ⟨w, x⟩ ⟨_, y⟩ rfl
    -- what either sink makes of the event is left out of the journals, whatever it is
    obtain ⟨t, x', ht, hempty⟩ := steps_emit_watched c a h e w x
    obtain ⟨t', y', ht', hempty'⟩ := steps_emit_watched c b h' e w y
    exact ⟨t, t', _, _, _, _, ht, ht', rfl, .ok rfl, hempty.trans hempty'.symm⟩

/-- Two runs that are watched by any two sinks, or by none, end in the same way, and apart from the
sinks their journals are the same: the requests to the executor and how they ended, the completion
checks, the listings of tasks, the polls, the disposal of the executor, and all that the runs write
to the log but the debug records. -/
theorem unchanged_by_watchers (c : Collaborators ω) (a : Watcher ω s) (b : Watcher ω s')
    (config : Config) (h h' : Option Handle) (w : ω) (x : s) (y : s') :
    outcomeFrom (chain (c.watchedBy a) { config with sink := h }) (w, x) =
        outcomeFrom (chain (c.watchedBy b) { config with sink := h' }) (w, y) ∧
      apartFromSink (journalFrom (chain (c.watchedBy a) { config with sink := h }) (w, x)) =
        apartFromSink (journalFrom (chain (c.watchedBy b) { config with sink := h' }) (w, y)) := by
  have hstep := inStep_watchedBy c a b config h h'
  exact (hstep.chain rfl rfl rfl).apply rfl

end Run

end AgentChain
