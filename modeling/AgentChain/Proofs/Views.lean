import AgentChain.Proofs.Parts

/-!
# Views of a journal

What can be read off a journal: the events that the sink was given, and the calls of the executor
with how they ended. For each part of a stage, what it shows in these views.

Main statement: a stage reports as many iterations as it called the executor
(`Performs.length_spawns`).
-/

namespace AgentChain

namespace Entry

/-- The event that the sink was given. -/
def event? : Entry → Option Event
  | .event e => some e
  | _ => none

/-- The request that the executor was given, and how the call ended. -/
def spawn? : Entry → Option (SpawnRequest × Outcome SpawnResult)
  | .spawn request outcome => some (request, outcome)
  | _ => none

/-- The directory about which a completion check was begun. -/
def check? : Entry → Option Path
  | .check _ root => some root
  | .listTasks root => some root
  | _ => none

/-- What the work on a stage may leave. -/
def ofWork : Entry → Bool
  | .event (.stageIteration ..) | .event (.agentSpawned ..) | .event (.agentCompleted ..) => true
  | .event _ | .lastPoll _ | .dispose => false
  | _ => true

/-- What the stages of a chain may leave. -/
def ofStages : Entry → Bool
  | .event (.chainStart _) | .event (.chainEnd _) | .lastPoll _ | .dispose => false
  | _ => true

/-- What the work on a stage may leave, the stages of a chain may leave. -/
theorem ofStages_of_ofWork {x : Entry} (h : x.ofWork = true) : x.ofStages = true := by
  cases x with
  | event e => cases e <;> simp_all [ofWork, ofStages]
  | lastPoll | dispose => simp [ofWork] at h
  | _ => rfl

end Entry

namespace Run

/-- The events that the sink was given. -/
def events (t : List Entry) : List Event := t.filterMap Entry.event?

/-- The calls of the executor. -/
def spawns (t : List Entry) : List (SpawnRequest × Outcome SpawnResult) :=
  t.filterMap Entry.spawn?

/-- The completion checks that were begun. -/
def checks (t : List Entry) : List Path := t.filterMap Entry.check?

/-- A view of a journal is the view of its first entry, followed by that of the rest. -/
theorem filterMap_cons_toList {γ : Type} (p : Entry → Option γ) (x : Entry) (t : List Entry) :
    (x :: t).filterMap p = (p x).toList ++ t.filterMap p := by
  cases h : p x <;> simp [h]

@[simp] theorem events_nil : events [] = [] := rfl

@[simp] theorem events_append (t u : List Entry) : events (t ++ u) = events t ++ events u :=
  List.filterMap_append

@[simp] theorem spawns_nil : spawns [] = [] := rfl

@[simp] theorem spawns_append (t u : List Entry) : spawns (t ++ u) = spawns t ++ spawns u :=
  List.filterMap_append

@[simp] theorem checks_nil : checks [] = [] := rfl

@[simp] theorem checks_append (t u : List Entry) : checks (t ++ u) = checks t ++ checks u :=
  List.filterMap_append

@[simp] theorem events_cons (x : Entry) (t : List Entry) :
    events (x :: t) = x.event?.toList ++ events t :=
  filterMap_cons_toList ..

@[simp] theorem spawns_cons (x : Entry) (t : List Entry) :
    spawns (x :: t) = x.spawn?.toList ++ spawns t :=
  filterMap_cons_toList ..

@[simp] theorem checks_cons (x : Entry) (t : List Entry) :
    checks (x :: t) = x.check?.toList ++ checks t :=
  filterMap_cons_toList ..

/-! ## What shows of the smallest parts -/

section

variable {γ : Type} {p : Entry → Option γ} {t : List Entry}

/-- A view in which records of the log do not show is empty on what is quiet. -/
theorem Quiet.filterMap (h : Quiet t) (hl : ∀ r, p (.log r) = none)
    (hs : ∀ r, p (.sinkLog r) = none) : t.filterMap p = [] := by
  apply List.filterMap_eq_nil_iff.2
  intro x hx
  have := h x hx
  -- what is quiet is a record of one log or the other, and these are the two assumptions
  cases x <;> simp_all [Entry.record?]

/-- A view in which neither the event nor records of the log show is empty on an emission. -/
theorem Emits.filterMap {sink : Option Handle} {e : Event} (h : Emits sink e t)
    (he : p (.event e) = none) (hl : ∀ r, p (.log r) = none) (hs : ∀ r, p (.sinkLog r) = none) :
    t.filterMap p = [] := by
  rcases h with ⟨logs, hq, rfl⟩
  cases sink <;> simp [heard, he, hq.filterMap hl hs]

/-- A view in which statuses do not show is empty on them. -/
theorem Statuses.filterMap (h : Statuses t) (hp : ∀ o, p (.status o) = none) :
    t.filterMap p = [] := by
  apply List.filterMap_eq_nil_iff.2
  intro x hx
  rcases h x hx with ⟨o, rfl⟩
  exact hp o

end

theorem Quiet.events {t : List Entry} (h : Quiet t) : Run.events t = [] :=
  h.filterMap (fun _ => rfl) fun _ => rfl

theorem Quiet.spawns {t : List Entry} (h : Quiet t) : Run.spawns t = [] :=
  h.filterMap (fun _ => rfl) fun _ => rfl

theorem Quiet.checks {t : List Entry} (h : Quiet t) : Run.checks t = [] :=
  h.filterMap (fun _ => rfl) fun _ => rfl

/-- An emission sends its event if there is a sink, and no other. -/
theorem Emits.events {sink : Option Handle} {e : Event} {t : List Entry} (h : Emits sink e t) :
    Run.events t = (sink.map fun _ => e).toList := by
  rcases h with ⟨logs, hq, rfl⟩
  cases sink <;> simp [heard, hq.events, Entry.event?]

theorem Emits.spawns {sink : Option Handle} {e : Event} {t : List Entry} (h : Emits sink e t) :
    Run.spawns t = [] :=
  h.filterMap rfl (fun _ => rfl) fun _ => rfl

theorem Emits.checks {sink : Option Handle} {e : Event} {t : List Entry} (h : Emits sink e t) :
    Run.checks t = [] :=
  h.filterMap rfl (fun _ => rfl) fun _ => rfl

theorem Statuses.events {t : List Entry} (h : Statuses t) : Run.events t = [] :=
  h.filterMap fun _ => rfl

theorem Statuses.spawns {t : List Entry} (h : Statuses t) : Run.spawns t = [] :=
  h.filterMap fun _ => rfl

theorem Statuses.checks {t : List Entry} (h : Statuses t) : Run.checks t = [] :=
  h.filterMap fun _ => rfl

variable {σ : Type} {c : Collaborators σ} {stage : Stage} {config : Config}
  {check : CompletionCheck σ} {root : Path} {t : List Entry}

/-- A completion check sends no event. -/
theorem Asks.events {o : Except Abort (Except Fault Bool)} (h : Asks check root t o) :
    Run.events t = [] := by
  cases h with
  | answered ht a => cases check <;> simp [checkEntry, ht.events, Entry.event?]
  | aborted ht e => cases check <;> simp [checkEntry, ht.events, Entry.event?]

/-- A completion check does not call the executor. -/
theorem Asks.spawns {o : Except Abort (Except Fault Bool)} (h : Asks check root t o) :
    Run.spawns t = [] := by
  cases h with
  | answered ht a => cases check <;> simp [checkEntry, ht.spawns, Entry.spawn?]
  | aborted ht e => cases check <;> simp [checkEntry, ht.spawns, Entry.spawn?]

/-- A completion check is begun once. -/
theorem Asks.checks {o : Except Abort (Except Fault Bool)} (h : Asks check root t o) :
    Run.checks t = [root] := by
  cases h with
  | answered ht a => cases check <;> simp [checkEntry, ht.checks, Entry.check?]
  | aborted ht e => cases check <;> simp [checkEntry, ht.checks, Entry.check?]

/-- An attempt is one call of the executor, and goes on as that call ended. -/
theorem Spawns.spawns {o : Except Abort (Except Fault SpawnResult)} (h : Spawns stage config t o) :
    ∃ outcome, Run.spawns t = [(requestFor stage config, outcome)] ∧
      (∀ r, o = .ok (.ok r) → outcome = .answered r) ∧
      ∀ f, o = .ok (.error f) → outcome = .raised f := by
  cases h with
  | raised f => exact ⟨.raised f, by simp [Entry.spawn?], by simp, by simp⟩
  | @failed r _ hr hq => exact ⟨.answered r, by simp [Entry.spawn?, hq.spawns], by simp, by simp⟩
  | @succeeded r _ _ hr ht hu =>
    exact ⟨.answered r, by simp [Entry.spawn?, ht.spawns, hu.spawns], by simp, by simp⟩
  | aborted e => exact ⟨.aborted e, by simp [Entry.spawn?], by simp, by simp⟩
  | @spawnedCut r _ e hr ht =>
    exact ⟨.answered r, by simp [Entry.spawn?, ht.spawns], by simp, by simp⟩
  | @completedCut r _ _ e hr ht hu =>
    exact ⟨.answered r, by simp [Entry.spawn?, ht.spawns, hu.spawns], by simp, by simp⟩

/-- Nothing is sent in a round once its attempt is over. -/
theorem Follows.events {o : Except Abort (Except Fault SpawnResult)}
    {p : Except Abort (Option (Except Fault Ending))} (h : Follows check root o t p) :
    Run.events t = [] := by
  cases h with
  | cut | raised | failed => rfl
  | checkCut _ ha | checkRaised _ ha | met _ ha | unmet _ ha => exact ha.events

/-- The executor is not called again in a round once its attempt is over. -/
theorem Follows.spawns {o : Except Abort (Except Fault SpawnResult)}
    {p : Except Abort (Option (Except Fault Ending))} (h : Follows check root o t p) :
    Run.spawns t = [] := by
  cases h with
  | cut | raised | failed => rfl
  | checkCut _ ha | checkRaised _ ha | met _ ha | unmet _ ha => exact ha.spawns

/-! ## Attempts are counted -/

/-- A round that is not aborted calls the executor once. -/
theorem Round.length_spawns {n : Nat} {p : Option (Except Fault Ending)}
    (h : Round stage config check n t (.ok p)) : (Run.spawns t).length = 1 := by
  cases h with
  | made he hs hf =>
    rcases hs.spawns with ⟨outcome, ho, -⟩
    simp [he.spawns, ho, hf.spawns]

/-- The attempts made before, and the calls of the executor since, add up to the iterations. -/
theorem Attempts.length_spawns {deadline : Float} {done left : Nat} {work : Work}
    (h : Attempts stage config check deadline done left t (.ok work)) :
    done + (Run.spawns t).length = work.iterations := by
  induction h using Attempts.ok_induction with
  | spent done => simp
  | halted hp => simp [Entry.spawn?]
  | ended hp hr => simp [Entry.spawn?, hr.length_spawns]
  | again hp hr hrest ih =>
    -- one call is made in this round, and the others are counted by the induction hypothesis
    have hround := hr.length_spawns
    simp only [spawns_cons, Entry.spawn?, Option.toList_none, List.nil_append, spawns_append,
      List.length_append]
    omega

/-- The iterations of the work on a stage are its calls of the executor. -/
theorem Works.length_spawns {limits : Constraints} {work : Work}
    (h : Works c stage config limits t (.ok work)) :
    (Run.spawns t).length = work.iterations := by
  cases h with
  | once hl hs | onceRaised hl hs =>
    rcases hs.spawns with ⟨outcome, ho, -⟩
    simp [ho]
  | unchecked hl hc => simp
  | repeated hl hc ha hq =>
    have := ha.length_spawns
    simp [hq.spawns]
    omega

/-- A stage reports as many iterations as it called the executor. -/
theorem Performs.length_spawns {limits : Constraints} {r : StageResult}
    (h : Performs c stage config limits t (.ok r)) :
    ((Run.spawns t).length : Int) = r.iterations := by
  -- the report of a fault comes after the work, and calls nobody but the sink
  cases h with
  | ended duration hw => simp [hw.length_spawns]
  | contained duration hw hq he => simp [hw.length_spawns, hq.spawns, he.spawns]

/-! ## Where entries come from -/

/-- All entries are of this sort. -/
def Each (p : Entry → Bool) (t : List Entry) : Prop := ∀ x ∈ t, p x = true

section

variable {p q : Entry → Bool} {t u : List Entry}

theorem Each.nil : Each p [] := by simp [Each]

theorem Each.cons {x : Entry} (hx : p x = true) (ht : Each p t) : Each p (x :: t) :=
  List.forall_mem_cons.2 ⟨hx, ht⟩

theorem Each.append (ht : Each p t) (hu : Each p u) : Each p (t ++ u) :=
  List.forall_mem_append.2 ⟨ht, hu⟩

theorem Each.mono (ht : Each p t) (h : ∀ x, p x = true → q x = true) : Each q t :=
  fun x hx => h x (ht x hx)

/-- What is quiet is of any sort that takes in the records of the log. -/
theorem Quiet.each (ht : Quiet t) (hl : ∀ r, p (.log r) = true) (hs : ∀ r, p (.sinkLog r) = true) :
    Each p t := by
  intro x hx
  have hrecord := ht x hx
  cases x <;> simp_all [Entry.record?]

/-- An emission is of any sort that takes in its event and the records of the log. -/
theorem Emits.each {sink : Option Handle} {e : Event} (ht : Emits sink e t)
    (he : p (.event e) = true) (hl : ∀ r, p (.log r) = true) (hs : ∀ r, p (.sinkLog r) = true) :
    Each p t := by
  rcases ht with ⟨logs, hq, rfl⟩
  cases sink with
  | none => exact hq.each hl hs
  | some h => exact (hq.each hl hs).cons he

end

theorem Quiet.ofWork {t : List Entry} (h : Quiet t) : Each Entry.ofWork t :=
  h.each (fun _ => rfl) fun _ => rfl

theorem Emits.ofWork {sink : Option Handle} {e : Event} {t : List Entry} (h : Emits sink e t)
    (he : (Entry.event e).ofWork = true) : Each Entry.ofWork t :=
  h.each he (fun _ => rfl) fun _ => rfl

/-- An attempt leaves its call, and the two events of an agent that was spawned. -/
theorem Spawns.ofWork {o : Except Abort (Except Fault SpawnResult)} (h : Spawns stage config t o) :
    Each Entry.ofWork t := by
  cases h with
  | raised | aborted => exact Each.nil.cons rfl
  | failed hr hq => exact hq.ofWork.cons rfl
  | spawnedCut e hr ht => exact (ht.ofWork rfl).cons rfl
  | succeeded hr ht hu | completedCut e hr ht hu =>
    exact ((ht.ofWork rfl).append (hu.ofWork rfl)).cons rfl

/-- Reading statuses is part of the work on a stage. -/
theorem Statuses.ofWork (h : Statuses t) : Each Entry.ofWork t := by
  intro x hx
  rcases h x hx with ⟨o, rfl⟩
  rfl

/-- To begin a completion check is part of the work on a stage. -/
theorem checkEntry_ofWork : (checkEntry check root).ofWork = true := by
  cases check <;> rfl

/-- A completion check is part of the work on a stage. -/
theorem Asks.ofWork {o : Except Abort (Except Fault Bool)} (h : Asks check root t o) :
    Each Entry.ofWork t := by
  cases h with
  | answered ht a => exact (ht.ofWork.cons checkEntry_ofWork).append (Each.nil.cons rfl)
  | aborted ht e => exact ht.ofWork.cons checkEntry_ofWork

/-- What comes after an attempt in a round is part of the work on a stage. -/
theorem Follows.ofWork {o : Except Abort (Except Fault SpawnResult)}
    {p : Except Abort (Option (Except Fault Ending))} (h : Follows check root o t p) :
    Each Entry.ofWork t := by
  cases h with
  | cut | raised | failed => exact Each.nil
  | checkCut _ ha | checkRaised _ ha | met _ ha | unmet _ ha => exact ha.ofWork

/-- A round is part of the work on a stage. -/
theorem Round.ofWork {n : Nat} {p : Except Abort (Option (Except Fault Ending))}
    (h : Round stage config check n t p) : Each Entry.ofWork t := by
  cases h with
  | cut e he => exact he.ofWork rfl
  | made he hs hf => exact (he.ofWork rfl).append (hs.ofWork.append hf.ofWork)

/-- All rounds of a loop stage are part of the work on it. -/
theorem Attempts.ofWork {deadline : Float} {done left : Nat} {o : Except Abort Work}
    (h : Attempts stage config check deadline done left t o) : Each Entry.ofWork t := by
  induction h with
  | spent => exact Each.nil
  | halted => exact Each.nil.cons rfl
  | cut hp hr | ended hp hr => exact hr.ofWork.cons rfl
  | again hp hr hrest ih => exact (hr.ofWork.append ih).cons rfl

/-- The work on a stage neither starts nor ends anything, and reports no fault. -/
theorem Works.ofWork {limits : Constraints} {o : Except Abort Work}
    (h : Works c stage config limits t o) : Each Entry.ofWork t := by
  cases h with
  | once hl hs | onceRaised hl hs | onceCut hl hs => exact hs.ofWork
  | unchecked => exact Each.nil
  | repeated hl hc ha hq => exact ha.ofWork.append hq.ofWork

theorem Quiet.ofStages {t : List Entry} (h : Quiet t) : Each Entry.ofStages t :=
  h.each (fun _ => rfl) fun _ => rfl

theorem Emits.ofStages {sink : Option Handle} {e : Event} {t : List Entry} (h : Emits sink e t)
    (he : (Entry.event e).ofStages = true) : Each Entry.ofStages t :=
  h.each he (fun _ => rfl) fun _ => rfl

/-- The work on a stage may be done in a chain. -/
theorem Works.ofStages {limits : Constraints} {o : Except Abort Work}
    (h : Works c stage config limits t o) : Each Entry.ofStages t :=
  h.ofWork.mono fun _ => Entry.ofStages_of_ofWork

/-- A stage may be run in a chain: besides its work it can only report a fault. -/
theorem Performs.ofStages {limits : Constraints} {o : Except Abort StageResult}
    (h : Performs c stage config limits t o) : Each Entry.ofStages t := by
  -- the event of a fault is not one of the work, so that the stage is of the wider sort only
  cases h with
  | ended _ hw | cut hw => exact hw.ofStages
  | contained _ hw hq he | containCut _ hw hq he =>
    exact hw.ofStages.append (hq.ofStages.append (he.ofStages rfl))

end Run

end AgentChain
