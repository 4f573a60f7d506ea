import AgentChain.Proofs.Course

/-!
# The event stream

What the sink of a chain is given is told by the results of the chain and by how its calls of the
executor ended. Between the start and the end of the chain stand the stages that were run, each with
its own start and end around its body. In the body of a stage every attempt shows with the agent
that it spawned, in a loop stage behind the number of the iteration, and a fault that the stage
contained shows at the end, and only there.

Main statement: `event_stream_well_formed`.
-/

namespace AgentChain

/-- The executor answered, and the agent succeeded. -/
def Outcome.succeeds : Outcome SpawnResult → Bool
  | .answered r => r.success
  | _ => false

/-- The fault that a call raised. -/
def Outcome.fault? {α : Type} : Outcome α → Option Fault
  | .raised f => some f
  | _ => none

/-- The outcome of a call that went on with this answer or this fault. -/
def Outcome.of {α : Type} : Except Fault α → Outcome α
  | .ok a => .answered a
  | .error f => .raised f

/-- The fault that the executor or a completion check raised. -/
def Entry.fault? : Entry → Option Fault
  | .spawn _ outcome => outcome.fault?
  | .verdict (.error f) => some f
  | _ => none

namespace Run

/-- How the calls of the executor ended. -/
def outcomes (t : List Entry) : List (Outcome SpawnResult) := (spawns t).map (·.2)

/-- The faults that the executor or a completion check raised. -/
def faults (t : List Entry) : List Fault := t.filterMap Entry.fault?

@[simp] theorem outcomes_nil : outcomes [] = [] := rfl

@[simp] theorem outcomes_append (t u : List Entry) :
    outcomes (t ++ u) = outcomes t ++ outcomes u := by
  simp [outcomes]

@[simp] theorem outcomes_cons (x : Entry) (t : List Entry) :
    outcomes (x :: t) = (x.spawn?.map (·.2)).toList ++ outcomes t := by
  cases h : x.spawn? <;> simp [outcomes, h]

@[simp] theorem faults_nil : faults [] = [] := rfl

@[simp] theorem faults_append (t u : List Entry) : faults (t ++ u) = faults t ++ faults u :=
  List.filterMap_append

@[simp] theorem faults_cons (x : Entry) (t : List Entry) :
    faults (x :: t) = x.fault?.toList ++ faults t :=
  filterMap_cons_toList ..

/-! ## What a stage says -/

/-- What an attempt says of its agent: it is spawned and completes if it succeeds. -/
def agentEvents (stage : Stage) : Outcome SpawnResult → List Event
  | .answered r =>
    if r.success then
      [.agentSpawned stage.name.text r.sessionId, .agentCompleted stage.name.text r.sessionId]
    else []
  | _ => []

/-- What attempt `n` says. -/
def attemptEvents (stage : Stage) (n : Nat) (outcome : Outcome SpawnResult) : List Event :=
  (if stage.loop then [.stageIteration stage n] else []) ++ agentEvents stage outcome

/-- What the attempts after the first `done` say. -/
def attemptsEvents (stage : Stage) (done : Nat) (outcomes : List (Outcome SpawnResult)) :
    List Event :=
  (outcomes.zipIdx (done + 1)).flatMap fun (outcome, n) => attemptEvents stage n outcome

/-- What a stage says between its start and its end: what its attempts say, and then the fault that
it contained, if there was one. -/
def bodyEvents (stage : Stage) (outcomes : List (Outcome SpawnResult)) (fault : Option Fault) :
    List Event :=
  attemptsEvents stage 0 outcomes ++ fault.toList.map fun f => .error f.message stage

variable {σ : Type}

/-- The fault that a stage contained: that it has no completion check, or what the executor or its
completion check raised. -/
def containedFault (c : Collaborators σ) (stage : Stage) (t : List Entry) : Option Fault :=
  if stage.loop && (CompletionCheck.of? c stage).isNone then some (CompletionCheck.missing stage)
  else (faults t).head?

/-- A stage says what its attempts and the fault that it contained make it say. -/
structure SaysBody (c : Collaborators σ) (leg : Leg) : Prop where
  events_eq : events leg.part =
    bodyEvents leg.result.stage (outcomes leg.part) (containedFault c leg.result.stage leg.part)
  /-- There are as many attempts as are reported. -/
  length_outcomes : ((outcomes leg.part).length : Int) = leg.result.iterations
  /-- All attempts but the last have succeeded. -/
  succeeded : ∀ outcome ∈ (outcomes leg.part).dropLast, outcome.succeeds = true
  /-- The fault that was contained is the error of the stage. -/
  error_eq : ∀ f, containedFault c leg.result.stage leg.part = some f →
    leg.result.success = false ∧ leg.result.error = some f.message
  /-- A stage that does not loop makes one attempt, and contains the fault of that or none. -/
  single : leg.result.stage.loop = false → ∃ o, outcomes leg.part = [.of o] ∧
    containedFault c leg.result.stage leg.part = (Outcome.of o).fault?

/-- What a stage says with its start and its end, when it is the stage at an index. -/
def legEvents (leg : Leg) (index : Nat) : List Event :=
  .stageStart leg.result.stage index ::
    (events leg.part ++ [.stageEnd leg.result.stage leg.result])

/-! ## Attempts -/

theorem Quiet.faults {t : List Entry} (h : Quiet t) : Run.faults t = [] :=
  h.filterMap (fun _ => rfl) fun _ => rfl

/-- No fault of the executor or of a check is raised in an emission. -/
theorem Emits.faults {sink : Option Handle} {e : Event} {t : List Entry} (h : Emits sink e t) :
    Run.faults t = [] :=
  h.filterMap rfl (fun _ => rfl) fun _ => rfl

theorem Statuses.faults {t : List Entry} (h : Statuses t) : Run.faults t = [] :=
  h.filterMap fun _ => rfl

variable {c : Collaborators σ} {stage : Stage} {config : Config} {check : CompletionCheck σ}
  {root : Path} {limits : Constraints} {t : List Entry} {handle : Handle}

/-- With a sink, an emission sends its event and no other. -/
theorem Emits.sends (hsink : config.sink = some handle) {e : Event}
    (h : Emits config.sink e t) : Run.events t = [e] := by
  rw [h.events, hsink]
  rfl

/-- A completion check raises the fault that is its verdict. -/
theorem Asks.faults {answer : Except Fault Bool} (h : Asks check root t (.ok answer)) :
    Run.faults t = (match answer with | .error f => [f] | .ok _ => []) := by
  cases h with
  | answered ht =>
    cases check <;> cases answer <;> simp [checkEntry, Entry.fault?, ht.faults]

/-- What shows of a single attempt. -/
theorem Spawns.shows (hsink : config.sink = some handle) {o : Except Fault SpawnResult}
    (h : Spawns stage config t (.ok o)) :
    outcomes t = [.of o] ∧ Run.events t = agentEvents stage (.of o) ∧
      Run.faults t = (Outcome.of o).fault?.toList := by
  cases h with
  | raised f => exact ⟨rfl, rfl, rfl⟩
  | @failed r logs hr hq =>
    refine ⟨?_, ?_, ?_⟩
    · simp [Entry.spawn?, outcomes, hq.spawns, Outcome.of]
    · simp [Entry.event?, hq.events, agentEvents, hr, Outcome.of]
    · simp [Entry.fault?, hq.faults, Outcome.of, Outcome.fault?]
  | @succeeded r t u hr ht hu =>
    refine ⟨?_, ?_, ?_⟩
    · simp [Entry.spawn?, outcomes, ht.spawns, hu.spawns, Outcome.of]
    · simp [Entry.event?, ht.sends hsink, hu.sends hsink, agentEvents, hr, Outcome.of]
    · simp [Entry.fault?, ht.faults, hu.faults, Outcome.of, Outcome.fault?]

/-- The executor is not called again once an attempt is over. -/
theorem Follows.outcomes {o : Except Abort (Except Fault SpawnResult)}
    {p : Except Abort (Option (Except Fault Ending))} (h : Follows check root o t p) :
    Run.outcomes t = [] := by
  simp [Run.outcomes, h.spawns]

/-- The fault with which the work on a stage ends, if it ends with one. -/
def endingFault? : Option (Except Fault Ending) → Option Fault
  | some (.error f) => some f
  | _ => none

/-- What comes after the call of the executor adds the fault that ends the stage there. -/
theorem Follows.faults {r : SpawnResult} {p : Option (Except Fault Ending)}
    (h : Follows check root (.ok (.ok r)) t (.ok p)) :
    Run.faults t = (endingFault? p).toList ∧
      (p = none → r.success = true) := by
  cases h with
  | failed hr => simp [endingFault?]
  | checkRaised hr ha | met hr ha | unmet hr ha => simp [ha.faults, hr, endingFault?]

/-- What shows of a round of a loop stage. -/
theorem Round.shows (hsink : config.sink = some handle) (hl : stage.loop = true) {n : Nat}
    {p : Option (Except Fault Ending)} (h : Round stage config check n t (.ok p)) :
    ∃ outcome, Run.outcomes t = [outcome] ∧ Run.events t = attemptEvents stage n outcome ∧
      Run.faults t = (endingFault? p).toList ∧
      (p = none → outcome.succeeds = true) := by
  cases h with
  | @made t u v o _ he hs hf =>
    have hstart := he.sends hsink
    have hnone : Run.outcomes t = [] := by simp [Run.outcomes, he.spawns]
    -- an aborted attempt has no round that ends without an abort
    cases o with
    | error e => cases hf
    | ok o =>
      rcases hs.shows hsink with ⟨ho, hev, hfault⟩
      refine ⟨.of o, ?_, ?_, ?_⟩
      · simp [hnone, ho, hf.outcomes]
      · simp [hstart, hev, hf.events, attemptEvents, hl]
      cases o with
      | error f =>
        cases hf
        simp [he.faults, hfault, Outcome.of, Outcome.fault?, endingFault?]
      | ok r =>
        have := hf.faults
        simpa [he.faults, hfault, Outcome.of, Outcome.fault?, Outcome.succeeds] using this

/-- What shows of the attempts at a loop stage after the first `done`. -/
theorem Attempts.shows (hsink : config.sink = some handle) (hl : stage.loop = true)
    {deadline : Float} {done left : Nat} {work : Work}
    (h : Attempts stage config check deadline done left t (.ok work)) :
    Run.events t = attemptsEvents stage done (Run.outcomes t) ∧
      Run.faults t = (endingFault? (some work.ending)).toList ∧
      ∀ outcome ∈ (Run.outcomes t).dropLast, outcome.succeeds = true := by
  -- attempts are numbered from `done + 1` on, so that the number of a later one is its place
  induction h using Attempts.ok_induction with
  | spent => simp [attemptsEvents, endingFault?]
  | halted => simp [attemptsEvents, endingFault?, Entry.event?, Entry.spawn?, Entry.fault?]
  | @ended _ _ _ _ _ e hp hr =>
    rcases hr.shows hsink hl with ⟨outcome, hout, hev, hfault, -⟩
    refine ⟨?_, ?_, ?_⟩
    · simp [Entry.event?, Entry.spawn?, hev, hout, attemptsEvents]
    · cases e <;> simp [Entry.fault?, hfault, endingFault?]
    · simp [Entry.spawn?, hout]
  | @again _ _ _ _ t u _ hp hr hrest ih =>
    rcases hr.shows hsink hl with ⟨outcome, hout, hev, hfault, hsuccess⟩
    rcases ih with ⟨hevents, hfaults, hsucceeded⟩
    refine ⟨?_, ?_, ?_⟩
    · simp [Entry.event?, Entry.spawn?, hev, hout, hevents, attemptsEvents]
    · have hnone : Run.faults t = [] := hfault
      simp [Entry.fault?, hnone, hfaults]
    · -- an attempt after which the stage goes on has succeeded
      intro o hmem
      simp only [outcomes_cons, Entry.spawn?, outcomes_append, hout, Option.map_none,
        Option.toList_none, List.nil_append, List.cons_append] at hmem
      cases hu : Run.outcomes u with
      | nil => simp [hu] at hmem
      | cons first rest =>
        rw [hu, List.dropLast_cons_cons] at hmem
        rw [hu] at hsucceeded
        rcases List.mem_cons.1 hmem with rfl | hlater
        · exact hsuccess rfl
        · exact hsucceeded o hlater

/-! ## Stages -/

/-- What shows of the work on a stage that ended with this fault, or without one. -/
structure WorkShows (c : Collaborators σ) (stage : Stage) (t : List Entry) (fault : Option Fault) :
    Prop where
  events_eq : events t = attemptsEvents stage 0 (outcomes t)
  contained_eq : containedFault c stage t = fault
  succeeded : ∀ outcome ∈ (outcomes t).dropLast, outcome.succeeds = true
  single : stage.loop = false → ∃ o, outcomes t = [.of o] ∧ fault = (Outcome.of o).fault?

/-- The single attempt at a stage that does not loop. -/
theorem Spawns.workShows (hsink : config.sink = some handle) (hl : stage.loop = false)
    {o : Except Fault SpawnResult} (h : Spawns stage config t (.ok o)) :
    WorkShows c stage t (Outcome.of o).fault? := by
  rcases h.shows hsink with ⟨ho, hev, hfault⟩
  refine ⟨?_, ?_, by simp [ho], fun _ => ⟨o, ho, rfl⟩⟩
  · simp [ho, hev, attemptsEvents, attemptEvents, hl]
  · cases hf : (Outcome.of o).fault? <;> simp [containedFault, hl, hfault, hf]

/-- What shows of the work on a stage, by the fault with which it ended. -/
theorem Works.shows (hsink : config.sink = some handle) {work : Work}
    (h : Works c stage config limits t (.ok work)) :
    WorkShows c stage t (endingFault? (some work.ending)) := by
  cases h with
  | once hl hs => exact hs.workShows hsink hl
  | onceRaised hl hs => exact hs.workShows hsink hl
  | unchecked hl hc =>
    refine ⟨rfl, ?_, by simp, by simp [hl]⟩
    simp [containedFault, hl, hc, endingFault?]
  | @repeated check t logs _ hl hc ha hq =>
    rcases ha.shows hsink hl with ⟨hev, hfault, hsucceeded⟩
    -- the record of how the attempts ended is no call
    have houtcomes : outcomes (t ++ logs) = outcomes t := by simp [outcomes, hq.spawns]
    refine ⟨?_, ?_, ?_, by simp [hl]⟩
    · simpa [houtcomes, hq.events] using hev
    · cases hf : endingFault? (some work.ending) <;>
        simp [containedFault, hc, hq.faults, hfault, hf]
    · simpa [houtcomes] using hsucceeded

/-- A stage says what its attempts and the fault that it contained make it say. -/
theorem Performs.saysBody (hsink : config.sink = some handle) {r : StageResult}
    (h : Performs c stage config limits t (.ok r)) : SaysBody c ⟨t, r⟩ := by
  have hlength := h.length_spawns
  have hlen : ((outcomes t).length : Int) = r.iterations := by simpa [outcomes] using hlength
  cases h with
  | ended duration hw =>
    have hshows := hw.shows hsink
    refine ⟨?_, hlen, hshows.succeeded, ?_, ?_⟩
    · simpa [bodyEvents, hshows.contained_eq, endingFault?] using hshows.events_eq
    · simp [hshows.contained_eq, endingFault?]
    · simpa [hshows.contained_eq] using hshows.single
  | @contained t logs u n f duration hw hq he =>
    have hshows := hw.shows hsink
    have houtcomes : outcomes (t ++ (logs ++ u)) = outcomes t := by
      simp [outcomes, hq.spawns, he.spawns]
    -- the report of the fault comes after the work, and is not a fault that was raised
    have hcontained : containedFault c stage (t ++ (logs ++ u)) = some f := by
      have heq := hshows.contained_eq
      simpa [containedFault, hq.faults, he.faults, endingFault?] using heq
    refine ⟨?_, hlen, ?_, ?_, ?_⟩
    · have hend := he.sends hsink
      simp [bodyEvents, houtcomes, hcontained, hshows.events_eq, hq.events, hend]
    · simpa [houtcomes] using hshows.succeeded
    · simp [hcontained]
    · simpa [houtcomes, hcontained, endingFault?] using hshows.single

/-! ## The chain -/

/-- What a leg sends with the poll before it. -/
theorem events_leg (hsink : config.sink = some handle) {s : Stage} {index : Nat} {b : Bool}
    {deadline now : Float} {u v : List Entry} {r : StageResult}
    (hs : Emits config.sink (.stageStart s index) t) (hr : Performs c s config limits u (.ok r))
    (he : Emits config.sink (.stageEnd s r) v) :
    Run.events (.poll b deadline now :: (t ++ (u ++ v))) = legEvents ⟨u, r⟩ index := by
  have hstart := hs.sends hsink
  have hend := he.sends hsink
  simp only [events_cons, Entry.event?, Option.toList_none, List.nil_append, events_append, hstart,
    hend, legEvents, hr.stage_eq, List.cons_append]

/-- What the stages of a chain send is what their legs send, one after the other. -/
theorem Passes.events (hsink : config.sink = some handle) {index : Nat} {list : List Stage}
    {legs : List Leg} {early : Option StopReason}
    (h : Passes c config index limits list legs t (.ok early)) :
    Run.events t = (legs.zipIdx index).flatMap fun (leg, i) => legEvents leg i := by
  induction h using Passes.ok_induction with
  | through => rfl
  | halted => simp [Entry.event?, stopEntry]
  | failed rest hp hs hr he hf =>
    rw [events_leg hsink hs hr.performs he]
    simp
  | @passed index limits s rest b now t u v x r legs _ hp hs hr he hf hrest ih =>
    calc Run.events (.poll b limits.deadline now :: (t ++ (u ++ (v ++ x))))
        = Run.events (.poll b limits.deadline now :: (t ++ (u ++ v))) ++ Run.events x := by simp
      _ = legEvents ⟨u, r⟩ index ++
            (legs.zipIdx (index + 1)).flatMap fun (leg, i) => legEvents leg i := by
          rw [events_leg hsink hs hr.performs he, ih]
      _ = ((⟨u, r⟩ :: legs).zipIdx index).flatMap fun (leg, i) => legEvents leg i := by
          rw [List.zipIdx_cons, List.flatMap_cons]

/-- A run that returns sends the start of the chain, its legs, and the end of the chain. -/
theorem Runs.events (hsink : config.sink = some handle) {start : Float} {legs : List Leg}
    {R : ChainResult} (h : Runs c config start legs t (.ok R)) :
    Run.events t = .chainStart config.stages ::
      ((legs.zipIdx.flatMap fun (leg, i) => legEvents leg i) ++ [.chainEnd R]) := by
  cases h with
  | returned hq hs hp hd hx he =>
    have hstart := hs.sends hsink
    have hend := he.sends hsink
    simp [Entry.event?, hq.events, hstart, hp.events hsink, hd.events, hx.events, hend]

/-- A sink is given the start of the chain, for each stage that was run its start, its body and its
end, in order, and the end of the chain with its result. -/
theorem event_stream_well_formed {w : σ} {R : ChainResult} (hsink : config.sink.isSome = true)
    (h : outcomeFrom (chain c config) w = .ok R) :
    ∃ legs,
      HasLegs c config (startTime c w) (journalFrom (chain c config) w) R.stageResults legs ∧
        events (journalFrom (chain c config) w) = .chainStart config.stages ::
          ((legs.zipIdx.flatMap fun (leg, i) => legEvents leg i) ++ [.chainEnd R]) ∧
        ∀ leg ∈ legs, SaysBody c leg := by
  rcases Option.isSome_iff_exists.1 hsink with ⟨handle, hhandle⟩
  rcases chain_runs c config w with ⟨legs, hr⟩
  rw [h] at hr
  have hlegs := hr.hasLegs
  refine ⟨legs, hlegs, hr.events hhandle, ?_⟩
  intro leg hleg
  rcases List.getElem?_of_mem hleg with ⟨k, hk⟩
  exact (hlegs.takes k leg hk).performs.saysBody hhandle

/-- A sink that raises a fault at every event, and a completion check that raises one whenever it is
asked again. The world counts how often it was asked. -/
def troubled : Collaborators Nat where
  clock w := (0, w)
  isSet _ w := (false, w)
  sink _ _ w := { outcome := .raised ⟨"ValueError", "full"⟩, state := w }
  check _ _ w := (if w = 0 then .answered false else .raised ⟨"OSError", "gone"⟩, w + 1)
  executor := {
    name := "agents"
    spawn := fun _ w => (.answered { success := true, sessionId := "s" }, w)
    dispose := fun w => (.answered (), w) }

/-- A stage that does not loop and one that does, with a sink. -/
def troubledConfig : Config where
  stages := [{ name := sampleName }, { name := sampleName, loop := true, check := some ⟨0⟩ }]
  root := ⟨.root, ["p"]⟩
  sink := some ⟨1⟩

/-- The second iteration is the last, and the fault of the check comes after it. -/
theorem troubled_stream_well_formed :
    ∃ R, outcomeFrom (chain troubled troubledConfig) 0 = .ok R ∧
      (events (journalFrom (chain troubled troubledConfig) 0)).map (·.kind) =
        [.chainStart, .stageStart, .agentSpawned, .agentCompleted, .stageEnd, .stageStart,
          .stageIteration, .agentSpawned, .agentCompleted, .stageIteration, .agentSpawned,
          .agentCompleted, .error, .stageEnd, .chainEnd] ∧
      ∃ legs, HasLegs troubled troubledConfig 0 (journalFrom (chain troubled troubledConfig) 0)
          R.stageResults legs ∧
        events (journalFrom (chain troubled troubledConfig) 0) =
          .chainStart troubledConfig.stages ::
            ((legs.zipIdx.flatMap fun (leg, i) => legEvents leg i) ++ [.chainEnd R]) ∧
        ∀ leg ∈ legs, SaysBody troubled leg := by
  have hrun : (outcomeFrom (chain troubled troubledConfig) 0).toOption.map
      (·.stageResults.length) = some 2 := by
    decide +kernel
  rcases exists_of_toOption_map hrun with ⟨R, hR, -⟩
  refine ⟨R, hR, by decide +kernel, ?_⟩
  exact event_stream_well_formed rfl hR

end Run

end AgentChain
