import AgentChain.Proofs.Disposal
import AgentChain.Proofs.Parting
import AgentChain.Proofs.Sparing
import AgentChain.Proofs.Verdict

/-!
# A stage on its own and in a chain

A stage can be run on its own, or as the only stage of a chain. The chain sends two events and polls
once before the stage starts. If nothing of that is noticed by the collaborators that the stage
works with, then what the stage does and how it ends is the same in both, unless the poll halts the
chain. It is not enough that the sink leaves the clock and the signal as they are: an executor may
act on the events that the sink has been given, and the sink may abort the chain at an event that
the stage on its own does not come to.

Main statement: `lone_stage`.
-/

namespace AgentChain

/-- A call that an attempt at a stage or its completion check makes, or what came of it. -/
def Entry.ofAttempts : Entry → Bool
  | .spawn .. | .check .. | .listTasks _ | .status _ | .verdict _ => true
  | _ => false

namespace Run

variable {σ : Type} {S : σ → σ → Prop} {c : Collaborators σ} {config : Config} {s : Stage}

/-- The calls that attempts and completion checks make in a run. -/
def attemptCalls (t : List Entry) : List Entry := t.filter Entry.ofAttempts

/-- Worlds are related if they differ in nothing that the collaborators apart from the sink act on:
not in the time or the signal, nor in what the executor, the completion checks and the task store go
by. Asking for the time and for the signal changes nothing of that, and neither does the sink. -/
structure SinkApart (S : σ → σ → Prop) (c : Collaborators σ) (sink : Option Handle) : Prop where
  equivalence : Equivalence S
  akin : Akin S c c
  clock : ∀ w, S w (c.clock w).2
  isSet : ∀ signal w, S w (c.isSet signal w).2
  sink : ∀ h, sink = some h → ∀ e w, S w (c.sink h e w).state

/-- The sink, if there is one, never aborts a run. -/
def SinkSpares (c : Collaborators σ) (sink : Option Handle) : Prop :=
  ∀ h, sink = some h → ∀ e w a, (c.sink h e w).outcome ≠ .aborted a

/-! ## Nothing of attempts -/

theorem Quiet.attemptCalls {t : List Entry} (h : Quiet t) : attemptCalls t = [] := by
  apply List.filter_eq_nil_iff.2
  intro x hx
  have := h x hx
  cases x <;> simp_all [Entry.record?, Entry.ofAttempts]

theorem Emits.attemptCalls {sink : Option Handle} {e : Event} {t : List Entry}
    (h : Emits sink e t) : Run.attemptCalls t = [] := by
  obtain ⟨logs, hq, rfl⟩ := h
  cases sink with
  | none => exact hq.attemptCalls
  | some h => exact hq.attemptCalls

@[simp] theorem attemptCalls_append (t u : List Entry) :
    attemptCalls (t ++ u) = attemptCalls t ++ attemptCalls u :=
  List.filter_append ..

theorem attemptCalls_cons {x : Entry} {t : List Entry} (hx : x.ofAttempts = false) :
    attemptCalls (x :: t) = attemptCalls t :=
  List.filter_cons_of_neg (by simp [hx])

/-! ## The stages of a chain with one stage -/

/-- What a chain has after its only stage. -/
def leaves (r : StageResult) : List StageResult × Option StopReason :=
  ([r], if r.success then none else some .stageFailed)

/-- The stages of a chain with one stage are the poll, the start, the stage and its end. -/
theorem stages_singleton (c : Collaborators σ) (config : Config) (limits : Constraints)
    (s : Stage) :
    stages c config 0 limits [s] = poll c config.signal limits.deadline >>= fun
      | some reason =>
        log .info ("Stopping before stage " ++ Text.quoted s.name.text ++ ": " ++ reason.text) >>=
          fun _ => pure ([], some reason)
      | none =>
        emit c config.sink (.stageStart s 0) >>= fun _ =>
          stage c s config (some limits) >>= fun r =>
            emit c config.sink (.stageEnd s r) >>= fun _ => pure (leaves r) := by
  -- behind the only stage there is nothing left to run
  have hlast : ∀ r : StageResult, (if r.success then
        stages c config 1 (limits.after r) [] >>= fun left => pure (r :: left.1, left.2)
      else pure ([r], some .stageFailed)) = (pure (leaves r) : Run σ _) := by
    intro r
    unfold leaves
    cases r.success <;> rfl
  simp only [← hlast]
  rfl

/-! ## What goes unnoticed -/

namespace SinkApart

variable (h : SinkApart S c config.sink)
include h

/-- An emission goes through, and leaves a world that is still related. -/
theorem steps_emit (hs : SinkSpares c config.sink) (e : Event) (w : σ) :
    ∃ t v, Steps (emit c config.sink e) w t (.ok ()) v ∧ S w v ∧ Emits config.sink e t := by
  cases hsink : config.sink with
  | none => exact ⟨[], w, steps_pure () w, h.equivalence.refl w, [], Quiet.nil, rfl⟩
  | some handle =>
    have hemit := Run.steps_emit c handle e w
    have hgoes : carriedOn (c.sink handle e w).outcome = .ok () := by
      cases hout : (c.sink handle e w).outcome with
      | answered | raised => rfl
      | aborted a => exact absurd hout (hs handle hsink e w a)
    have hq : Quiet ((c.sink handle e w).log.map .sinkLog ++
        sinkFaults e (c.sink handle e w).outcome) := by
      apply (quiet_sinkLog _).append
      cases (c.sink handle e w).outcome with
      | answered | aborted => exact Quiet.nil
      | raised f => exact quiet_log _
    rw [hgoes] at hemit
    exact ⟨_, _, hemit, h.sink handle hsink e w, _, hq, rfl⟩

/-- Asking for the signal leaves a world that is still related. -/
theorem steps_isCancelled (w : σ) :
    ∃ b v, Steps (isCancelled c config.signal) w [] (.ok b) v ∧ S w v := by
  cases config.signal with
  | none => exact ⟨false, w, steps_pure false w, h.equivalence.refl w⟩
  | some signal => exact ⟨_, _, steps_observe (c.isSet signal) w, h.isSet signal w⟩

/-- A poll leaves a world that is still related. -/
theorem steps_poll (deadline : Float) (w : σ) :
    ∃ b time v, Steps (poll c config.signal deadline) w [.poll b deadline time]
      (.ok (haltReason b deadline time)) v ∧ S w v := by
  obtain ⟨b, v, hb, hv⟩ := h.steps_isCancelled (c.clock w).2
  refine ⟨b, (c.clock w).1, v, ?_, h.equivalence.trans (h.clock w) hv⟩
  exact (steps_observe c.clock w).bind (hb.bind ((steps_note _ v).bind (steps_pure _ v)))

/-- A run with the sink goes in step with itself from any related world. -/
theorem inStep (hs : SinkSpares c config.sink) : InStep Entry.ofAttempts S c c config config where
  akin := h.akin
  root_eq := rfl
  models_eq := rfl
  signal_eq := rfl
  emit e := by
    intro w w' hw
    obtain ⟨t, v, ht, hv, he⟩ := h.steps_emit hs e w
    obtain ⟨t', v', ht', hv', he'⟩ := h.steps_emit hs e w'
    -- the worlds after both emissions are related to those before them, and so to each other
    have hrelated : S v v' :=
      h.equivalence.trans (h.equivalence.symm hv) (h.equivalence.trans hw hv')
    exact ⟨t, t', _, _, v, v', ht, ht', hrelated, .ok rfl,
      he.attemptCalls.trans he'.attemptCalls.symm⟩

/-! ## The course of a chain with one stage -/

/-- A chain reports its start before anything else, in a world that is still related. -/
theorem steps_start (hs : SinkSpares c config.sink) (w : σ) :
    ∃ t v, S w v ∧ Unasked t ∧ attemptCalls t = [] ∧ ∀ u o v',
      Steps (finallyDo (stages c config 0 (fullConstraints config (c.clock w).1) config.stages)
        (dispose c) >>= conclude c config (c.clock w).1) v u o v' →
      Steps (chain c config) w (t ++ u) o v' := by
  obtain ⟨t, v, ht, hv, he⟩ := h.steps_emit hs (.chainStart config.stages) (c.clock w).2
  have hlog := quiet_log ⟨.info, .runner, startText config⟩
  refine ⟨[.log ⟨.info, .runner, startText config⟩] ++ t, v,
    h.equivalence.trans (h.clock w) hv, hlog.unasked.append he.unasked, ?_, ?_⟩
  · rw [attemptCalls_append, hlog.attemptCalls, he.attemptCalls, List.append_nil]
  · intro u o v' hu
    rw [chain_eq, List.append_assoc]
    exact (steps_observe c.clock w).bind ((steps_note _ _).bind (ht.bind hu))

/-- The only stage of a chain starts in a world that is still related, if the poll before it lets
the chain go on, and the chain goes on after it in a world that is related to the one that it has
left. -/
theorem steps_stages (hs : SinkSpares c config.sink) {limits : Constraints} {b : Bool}
    {time : Float} {w v : σ} (hv : S w v)
    (hpoll : Steps (poll c config.signal limits.deadline) w [.poll b limits.deadline time]
      (.ok none) v) :
    ∃ t v', S w v' ∧ attemptCalls t = [] ∧ ∀ u o x,
      Steps (stage c s config (some limits)) v' u o x →
      ∃ y x', attemptCalls y = [] ∧
        Steps (stages c config 0 limits [s]) w (t ++ (u ++ y)) (o.map leaves) x' := by
  obtain ⟨t, v', ht, hv', he⟩ := h.steps_emit hs (.stageStart s 0) v
  refine ⟨.poll b limits.deadline time :: t, v', h.equivalence.trans hv hv', ?_, ?_⟩
  · rw [attemptCalls_cons rfl, he.attemptCalls]
  · intro u o x hu
    rw [stages_singleton]
    cases o with
    | error e =>
      refine ⟨[], x, rfl, ?_⟩
      rw [List.append_nil]
      exact hpoll.bind (ht.bind hu.bind_error)
    | ok r =>
      obtain ⟨y, x', hy, -, hend⟩ := h.steps_emit hs (.stageEnd s r) x
      refine ⟨y, x', hend.attemptCalls, ?_⟩
      rw [← List.append_nil y]
      exact hpoll.bind (ht.bind (hu.bind (hy.bind (steps_pure (leaves r) x'))))

/-- A chain concludes with the result of its only stage, and has succeeded as the verdict says. -/
theorem steps_conclude (hs : SinkSpares c config.sink) (start : Float) (r : StageResult) (w : σ) :
    ∃ cancelled R t v, Steps (conclude c config start (leaves r)) w (.lastPoll cancelled :: t)
      (.ok R) v ∧ attemptCalls t = [] ∧ Unasked t ∧ R.stageResults = [r] ∧
      (R.success = true ↔ r.success = true ∧ cancelled = false) := by
  obtain ⟨cancelled, v, hv, -⟩ := h.steps_isCancelled w
  let R := summary [⟨[], r⟩] (leaves r).2 cancelled ((c.clock v).1 - start)
  obtain ⟨t, v', ht, -, he⟩ := h.steps_emit hs (.chainEnd R) (c.clock v).2
  let record : LogRecord := ⟨.info, .runner,
    finishText R ((leaves r).2.getD (finalReason [r] cancelled))⟩
  have hpoll : Steps (lastPoll c config.signal) w [.lastPoll cancelled] (.ok cancelled) v :=
    hv.bind ((steps_note _ v).bind (steps_pure cancelled v))
  refine ⟨cancelled, R, .log record :: t, v', ?_, ?_, ?_, rfl, ?_⟩
  · rw [← List.append_nil t]
    exact hpoll.bind ((steps_observe c.clock v).bind
      ((steps_note _ _).bind (ht.bind (steps_pure R v'))))
  · rw [attemptCalls_cons rfl, he.attemptCalls]
  · exact he.unasked.cons rfl
  · simp [R, summary, and_comm]

/-! ## The two ways to run a stage -/

end SinkApart

/-- The chain has the result of its only stage, and has made the same calls for it. It has succeeded
if the stage has, unless the signal was set after the disposal of the executor. -/
structure Agrees (t u : List Entry) (R : ChainResult) (r : StageResult) : Prop where
  results_eq : R.stageResults = [r]
  calls_eq : attemptCalls t = attemptCalls u
  success_iff : R.success = true ↔ r.success = true ∧ lastSignal t = some false

/-- How a chain with one stage ends. The first outcome is that of the disposal of the executor, and
the second is that of the stage on its own. -/
inductive EndsAs (t u : List Entry) :
    Except Abort Unit → Except Abort StageResult → Except Abort ChainResult → Prop where
  | disposalAborted (e : Abort) (o : Except Abort StageResult) : EndsAs t u (.error e) o (.error e)
  | stageAborted (e : Abort) : EndsAs t u (.ok ()) (.error e) (.error e)
  | returned {r : StageResult} {R : ChainResult} (h : Agrees t u R r) :
      EndsAs t u (.ok ()) (.ok r) (.ok R)

/-- The poll before the only stage of a chain is its first, so that it has let the chain go on if
the first answer has. -/
theorem goes_on_of_first_answer {limits : Constraints} {start time : Float} {b : Bool}
    {w v v' : σ} {t : List Entry} (ht : Unasked t)
    (hstart : ∀ u o x, Steps (finallyDo (stages c config 0 limits [s]) (dispose c) >>=
      conclude c config start) v u o x → Steps (chain c config) w (t ++ u) o x)
    (hpoll : Steps (poll c config.signal limits.deadline) v [.poll b limits.deadline time]
      (.ok (haltReason b limits.deadline time)) v')
    (hfirst : (answers (journalFrom (chain c config) w)).head? = some none) :
    haltReason b limits.deadline time = none := by
  cases hhalt : haltReason b limits.deadline time with
  | none => rfl
  | some reason =>
    -- a poll that halts the chain would be the first one with an answer, and that answer was not
    -- `none`
    have hbody : Steps (stages c config 0 limits [s]) v
        [.poll b limits.deadline time, stopEntry s reason] (.ok ([], some reason)) v' := by
      rw [hhalt] at hpoll
      rw [stages_singleton]
      exact hpoll.bind ((steps_note _ v').bind (steps_pure _ v'))
    obtain ⟨y, o, x, hguarded, -⟩ := hbody.cleans_up (traced_dispose c)
    obtain ⟨z, o', x', hrest, -⟩ := hguarded.goes_on (traced_conclude_stageResults c config start)
    rw [(hstart _ _ _ hrest).journalFrom_eq] at hfirst
    simp [ht.answers, Entry.answer?, hhalt] at hfirst

namespace SinkApart

variable (h : SinkApart S c config.sink)
include h

/-- From the same world, a chain with one stage makes the calls that the stage makes on its own, and
ends as that one does, if the disposal of the executor lets it. -/
theorem endsAs (hs : SinkSpares c config.sink) (hstages : config.stages = [s]) {w : σ}
    (hfirst : (answers (journalFrom (chain c config) w)).head? = some none) :
    attemptCalls (journalFrom (chain c config) w) =
        attemptCalls (journalFrom (stage c s config) w) ∧
      ∃ x, EndsAs (journalFrom (chain c config) w) (journalFrom (stage c s config) w)
        (carriedOn (c.executor.dispose x).1) (outcomeFrom (stage c s config) w)
        (outcomeFrom (chain c config) w) := by
  obtain ⟨t, v, hv, hunasked, hcalls, hstart⟩ := h.steps_start hs w
  rw [hstages] at hstart
  obtain ⟨b, time, v₁, hpoll, hv₁⟩ :=
    h.steps_poll (fullConstraints config (c.clock w).1).deadline v
  rw [goes_on_of_first_answer hunasked hstart hpoll hfirst] at hpoll
  obtain ⟨t₁, v₂, hv₂, hcalls₁, hstagesteps⟩ := h.steps_stages (s := s) hs hv₁ hpoll
  -- the stage starts in a related world, and so within the same constraints
  obtain ⟨u, u', o, o', x, x', hu, hu', -, ho, hsame⟩ :=
    (h.inStep hs).stage s (fullConstraints config (c.clock w).1) w v₂
      (h.equivalence.trans hv hv₂)
  obtain rfl : o = o' := ho.eq
  have halone : Steps (stage c s config) w u o x :=
    fun j => (stage_none_apply s config ⟨w, j⟩).trans (hu j)
  obtain ⟨y, z, hcallsy, hbody⟩ := hstagesteps u' o x' hu'
  obtain ⟨d, hd⟩ := steps_dispose c z
  have hcallsd : attemptCalls d = [] := by
    obtain ⟨e, hq, he⟩ := (traced_dispose c).apply z
    rw [← hd.journalFrom_eq, he, attemptCalls_cons rfl, hq.attemptCalls]
  have hcallsg : attemptCalls (t ++ (t₁ ++ (u' ++ y) ++ d)) = attemptCalls u := by
    have hu' : attemptCalls u' = attemptCalls u := hsame.symm
    simp [hcalls, hcalls₁, hcallsy, hcallsd, hu']
  rw [halone.journalFrom_eq, halone.outcomeFrom_eq]
  -- an aborted disposal ends the chain, whatever the stage has come to
  cases hdispose : carriedOn (c.executor.dispose z).1 with
  | error e =>
    rw [hdispose] at hd
    have hchain := hstart _ _ _ (hbody.finallyDo_error hd).bind_error
    rw [hchain.journalFrom_eq, hchain.outcomeFrom_eq]
    exact ⟨hcallsg, z, hdispose ▸ .disposalAborted e o⟩
  | ok =>
    rw [hdispose] at hd
    have hguarded := hbody.finallyDo hd
    cases o with
    | error e =>
      have hchain := hstart _ _ _ hguarded.bind_error
      rw [hchain.journalFrom_eq, hchain.outcomeFrom_eq]
      exact ⟨hcallsg, z, hdispose ▸ .stageAborted e⟩
    | ok r =>
      obtain ⟨cancelled, R, q, w', hconclude, hcallsq, hunaskedq, hresults, hsuccess⟩ :=
        h.steps_conclude hs (c.clock w).1 r (c.executor.dispose z).2
      have hchain := hstart _ _ _ (hguarded.bind hconclude)
      rw [hchain.journalFrom_eq, hchain.outcomeFrom_eq, ← List.append_assoc]
      have hcallsr : attemptCalls (t ++ (t₁ ++ (u' ++ y) ++ d) ++ .lastPoll cancelled :: q) =
          attemptCalls u := by
        rw [attemptCalls_append, hcallsg, attemptCalls_cons rfl, hcallsq, List.append_nil]
      have hsignal : lastSignal (t ++ (t₁ ++ (u' ++ y) ++ d) ++ .lastPoll cancelled :: q) =
          some cancelled := by
        simp [lastSignal, Entry.lastPoll?, hunaskedq.lastPolls]
      refine ⟨hcallsr, z, hdispose ▸ .returned ⟨hresults, hcallsr, ?_⟩⟩
      rw [hsignal, hsuccess, Option.some.injEq]

end SinkApart

/-- A sink that goes unnoticed goes unnoticed as well where its aborts are left out. -/
theorem SinkApart.sparing (h : SinkApart S c config.sink) : SinkApart S c.sparing config.sink where
  equivalence := h.equivalence
  akin := ⟨h.akin.clock, h.akin.isSet, h.akin.check, h.akin.name_eq, h.akin.spawn, h.akin.dispose,
    h.akin.store⟩
  clock := h.clock
  isSet := h.isSet
  sink := h.sink

/-- A sink whose aborts are left out aborts nothing. -/
theorem sinkSpares_sparing (c : Collaborators σ) (sink : Option Handle) :
    SinkSpares c.sparing sink := by
  intro h _ e w a
  show (c.sink h e w).outcome.spared ≠ .aborted a
  cases (c.sink h e w).outcome <;> simp [Outcome.spared]

/-- A stage that a chain has to itself goes the way that it goes on its own, if the collaborators
start in the same world, notice nothing of the sink, and the first poll of the chain lets it go on.
Whenever both return, the chain has the result of the stage, has made the same calls for it, and has
succeeded exactly if the stage has and the signal was not set after the disposal of the executor. If
the sink aborts nothing, then the calls are the same however the two end, and they end in the same
way unless it is the disposal that aborts the chain. -/
theorem lone_stage (h : SinkApart S c config.sink) (hstages : config.stages = [s]) {w : σ}
    (hfirst : (answers (journalFrom (chain c config) w)).head? = some none) :
    (∀ R r, outcomeFrom (chain c config) w = .ok R → outcomeFrom (stage c s config) w = .ok r →
        Agrees (journalFrom (chain c config) w) (journalFrom (stage c s config) w) R r) ∧
      (SinkSpares c config.sink →
        attemptCalls (journalFrom (chain c config) w) =
            attemptCalls (journalFrom (stage c s config) w) ∧
          ((∀ v a, (c.executor.dispose v).1 ≠ .aborted a) → ∀ e,
            outcomeFrom (chain c config) w = .error e ↔
              outcomeFrom (stage c s config) w = .error e)) := by
  constructor
  · intro R r hR hr
    -- neither was aborted, so that both go as if the sink could not abort them
    obtain ⟨hR', hchain⟩ := (persists_chain c config).apply hR
    obtain ⟨hr', halone⟩ := (persists_stage c s config none).apply hr
    rw [← hchain] at hfirst ⊢
    rw [← halone]
    obtain ⟨-, x, hends⟩ := h.sparing.endsAs (sinkSpares_sparing c _) hstages hfirst
    rw [hR', hr'] at hends
    generalize carriedOn (c.sparing.executor.dispose x).1 = d at hends
    cases hends with
    | returned hagrees => exact hagrees
  · intro hs
    obtain ⟨hcalls, x, hends⟩ := h.endsAs hs hstages hfirst
    refine ⟨hcalls, ?_⟩
    intro hdispose e
    have hgoes : carriedOn (c.executor.dispose x).1 = .ok () := by
      cases hout : (c.executor.dispose x).1 with
      | answered | raised => rfl
      | aborted a => exact absurd hout (hdispose x a)
    rw [hgoes] at hends
    generalize outcomeFrom (chain c config) w = o at hends ⊢
    generalize outcomeFrom (stage c s config) w = o' at hends ⊢
    cases hends <;> simp

/-- What the collaborators of a sample share. -/
structure Clockwork where
  time : Float := 0
  cancelled : Bool := false
  /-- How many events the sink was given. -/
  events : Nat := 0

/-- Attempts take a second each and do not complete the work. The signal is set when the executor is
disposed of, and the sink raises a fault at every event. -/
def clockwork : Collaborators Clockwork where
  clock w := (w.time, w)
  isSet _ w := (w.cancelled, w)
  sink _ _ w :=
    { outcome := .raised ⟨"OSError", "closed"⟩, state := { w with events := w.events + 1 } }
  check _ _ w := (.answered false, w)
  executor := {
    name := "agents"
    spawn := fun _ w => (.answered { success := true, sessionId := "s" },
      { w with time := w.time + 1 })
    dispose := fun w => (.answered (), { w with cancelled := true }) }

/-- How many events the sink was given makes no difference to the others. -/
theorem sinkApart_clockwork (sink : Option Handle) :
    SinkApart (fun w w' => w.time = w'.time ∧ w.cancelled = w'.cancelled) clockwork sink where
  equivalence := {
    refl := fun _ => ⟨rfl, rfl⟩
    symm := fun h => ⟨h.1.symm, h.2.symm⟩
    trans := fun h h' => ⟨h.1.trans h'.1, h.2.trans h'.2⟩ }
  akin := {
    clock := fun _ _ hw => ⟨hw.1, hw⟩
    isSet := fun _ _ _ hw => ⟨hw.2, hw⟩
    check := fun _ _ _ _ hw => ⟨.refl _, hw⟩
    name_eq := rfl
    spawn := by
      rintro request w w' ⟨htime, hcancelled⟩
      refine ⟨.answered rfl, ?_, hcancelled⟩
      simp only [clockwork, htime]
    dispose := fun _ _ hw => ⟨.refl _, hw.1, rfl⟩
    store := .none }
  clock _ := ⟨rfl, rfl⟩
  isSet _ _ := ⟨rfl, rfl⟩
  sink _ _ _ _ := ⟨rfl, rfl⟩

/-- A loop stage. -/
def loopStage : Stage where
  name := sampleName
  loop := true
  check := some ⟨0⟩

/-- A chain with nothing but a loop stage, which has two seconds. -/
def twoSeconds : Config where
  stages := [loopStage]
  root := ⟨.root, ["p"]⟩
  signal := some ⟨.thread, 0⟩
  sink := some ⟨0⟩
  timeLimit := .seconds 2

/-- The stage runs out of time after two attempts in both. It has succeeded, and the chain has
not. -/
theorem lone_stage_timed_out :
    ∃ R r, outcomeFrom (chain clockwork twoSeconds) {} = .ok R ∧
      outcomeFrom (stage clockwork loopStage twoSeconds) {} = .ok r ∧
      r.success = true ∧ r.stopReason = some .timeout ∧ r.iterations = 2 ∧
      R.success = false ∧
      Agrees (journalFrom (chain clockwork twoSeconds) {})
        (journalFrom (stage clockwork loopStage twoSeconds) {}) R r := by
  have hchain : (outcomeFrom (chain clockwork twoSeconds) {}).toOption.map (·.success) =
      some false := by
    decide +kernel
  have halone : (outcomeFrom (stage clockwork loopStage twoSeconds) {}).toOption.map
      (fun r => (r.success, r.stopReason, r.iterations)) = some (true, some .timeout, 2) := by
    decide +kernel
  have hfirst : (answers (journalFrom (chain clockwork twoSeconds) {})).head? = some none := by
    decide +kernel
  obtain ⟨R, hR, hfailed⟩ := exists_of_toOption_map hchain
  obtain ⟨r, hr, hmap⟩ := exists_of_toOption_map halone
  simp only [Prod.mk.injEq] at hmap
  have hagrees := (lone_stage (sinkApart_clockwork _) rfl hfirst).1 R r hR hr
  exact ⟨R, r, hR, hr, hmap.1, hmap.2.1, hmap.2.2, hfailed, hagrees⟩

/-! ## A sink that is noticed -/

/-- The sink changes neither the time nor whether a signal is set. -/
structure SinkKeepsBounds (c : Collaborators σ) (sink : Option Handle) : Prop where
  time_eq : ∀ h, sink = some h → ∀ e w, (c.clock (c.sink h e w).state).1 = (c.clock w).1
  isSet_eq : ∀ h, sink = some h → ∀ e w signal,
    (c.isSet signal (c.sink h e w).state).1 = (c.isSet signal w).1

/-- The sink leaves the clock and the signal as they are, and the first poll lets the chain go on.
The stage has a result on its own, but it is not what the chain has, if that returns at all. -/
structure Disagrees (c : Collaborators σ) (config : Config) (s : Stage) (w : σ) : Prop where
  keeps : SinkKeepsBounds c config.sink
  stages_eq : config.stages = [s]
  first_eq : (answers (journalFrom (chain c config) w)).head? = some none
  parted : ∃ r, outcomeFrom (stage c s config) w = .ok r ∧
    ¬ ∃ R, outcomeFrom (chain c config) w = .ok R ∧ R.stageResults = [r]

/-- A stage that does not loop. -/
def oneStage : Stage where
  name := sampleName

/-- A chain with nothing but this stage, with a signal and a sink. -/
def oneAttempt : Config where
  stages := [oneStage]
  root := ⟨.root, ["p"]⟩
  signal := some ⟨.thread, 0⟩
  sink := some ⟨0⟩

/-- The sink counts its events. How it answers, and whether attempts succeed, is told by how many
there were before. -/
def counting (answer : Nat → Outcome Unit) (succeeds : Nat → Bool) : Collaborators Clockwork where
  clock w := (w.time, w)
  isSet _ w := (w.cancelled, w)
  sink _ _ w := { outcome := answer w.events, state := { w with events := w.events + 1 } }
  check _ _ w := (.answered false, w)
  executor := {
    name := "agents"
    spawn := fun _ w => (.answered { success := succeeds w.events, sessionId := "s" }, w)
    dispose := fun w => (.answered (), w) }

/-- To count events is to leave the clock and the signal as they are. -/
theorem sinkKeepsBounds_counting (answer : Nat → Outcome Unit) (succeeds : Nat → Bool)
    (sink : Option Handle) : SinkKeepsBounds (counting answer succeeds) sink where
  time_eq _ _ _ _ := rfl
  isSet_eq _ _ _ _ _ := rfl

/-- Attempts succeed as long as the sink has been given no event. -/
def eavesdropping : Collaborators Clockwork := counting (fun _ => .answered ()) (· = 0)

/-- Attempts succeed, and the sink aborts the run at its third event. -/
def shortSpoken : Collaborators Clockwork :=
  counting (fun events => if events = 2 then .aborted ⟨"stop"⟩ else .answered ()) fun _ => true

/-- A sink that leaves the clock and the signal as they are may still come between a chain and its
only stage. An executor that fails once there have been events fails in the chain, though the signal
is never set, and not in the stage on its own. A sink that aborts the run at its third event aborts
the chain, and not the stage on its own, which comes to two events only. -/
theorem noticed_sink_disagrees :
    (Disagrees eavesdropping oneAttempt oneStage {} ∧
        SinkSpares eavesdropping oneAttempt.sink ∧
        ∃ R r, outcomeFrom (chain eavesdropping oneAttempt) {} = .ok R ∧
          outcomeFrom (stage eavesdropping oneStage oneAttempt) {} = .ok r ∧
          R.success = false ∧ r.success = true ∧
          lastSignal (journalFrom (chain eavesdropping oneAttempt) {}) = some false) ∧
      Disagrees shortSpoken oneAttempt oneStage {} := by
  constructor
  · have hchain : (outcomeFrom (chain eavesdropping oneAttempt) {}).toOption.map
        (fun R => (R.success, R.stageResults.map (·.success))) = some (false, [false]) := by
      decide +kernel
    have halone : (outcomeFrom (stage eavesdropping oneStage oneAttempt) {}).toOption.map
        (·.success) = some true := by
      decide +kernel
    obtain ⟨R, hR, hmap⟩ := exists_of_toOption_map hchain
    obtain ⟨r, hr, hsuccess⟩ := exists_of_toOption_map halone
    obtain ⟨hfailed, hresults⟩ := Prod.mk.inj hmap
    -- the result of the stage succeeded, and the only one of the chain did not
    have hparted : ¬ ∃ R, outcomeFrom (chain eavesdropping oneAttempt) {} = .ok R ∧
        R.stageResults = [r] := by
      rintro ⟨R', hR', heq⟩
      rw [hR] at hR'
      cases hR'
      simp [heq, hsuccess] at hresults
    refine ⟨⟨sinkKeepsBounds_counting .., rfl, ?_, r, hr, hparted⟩, ?_, R, r, hR, hr, hfailed,
      hsuccess, ?_⟩
    · decide +kernel
    · intro h _ e w a
      simp [eavesdropping, counting]
    · decide +kernel
  · have hchain : (outcomeFrom (chain shortSpoken oneAttempt) {}).toOption.isSome = false := by
      decide +kernel
    have halone : (outcomeFrom (stage shortSpoken oneStage oneAttempt) {}).toOption.map
        (·.success) = some true := by
      decide +kernel
    obtain ⟨r, hr, -⟩ := exists_of_toOption_map halone
    have hparted : ¬ ∃ R, outcomeFrom (chain shortSpoken oneAttempt) {} = .ok R ∧
        R.stageResults = [r] := by
      rintro ⟨R, hR, -⟩
      simp [hR, Except.toOption] at hchain
    refine ⟨⟨fun _ _ _ _ => rfl, fun _ _ _ _ _ => rfl⟩, rfl, ?_, r, hr, hparted⟩
    decide +kernel

end Run

end AgentChain
