import AgentChain.Proofs.Views

/-!
# The course of a chain

The stages of a chain that were run to their end are its legs. The journal of a chain is what its
legs leave, each between the poll and the event before the stage and the event after it, with the
start of the chain before them and the disposal and the end of the chain after them (`Passes`,
`Runs`).

Main statements: every run of a chain takes one of the courses listed in `Runs` (`chain_runs`),
and a run that returns a result has legs to go with the results of its stages (`chain_legs`).
-/

namespace AgentChain.Run

variable {σ : Type} (c : Collaborators σ)

/-- Some run of the stage leaves `t` in the journal and ends in `o`. -/
def Takes (stage : Stage) (config : Config) (limits : Constraints) (t : List Entry)
    (o : Except Abort StageResult) : Prop :=
  ∃ w, journalFrom (Run.stage c stage config (some limits)) w = t ∧
    outcomeFrom (Run.stage c stage config (some limits)) w = o

variable {c} in
/-- A run of a stage leaves one of the traces of `Performs`. -/
theorem Takes.performs {stage : Stage} {config : Config} {limits : Constraints} {t : List Entry}
    {o : Except Abort StageResult} (h : Takes c stage config limits t o) :
    Performs c stage config limits t o := by
  rcases h with ⟨w, rfl, rfl⟩
  exact (traced_stage c stage config limits).apply w

/-- A stage that was run to its end: what it left in the journal, and its result. -/
structure Leg where
  part : List Entry
  result : StageResult

/-- What is written to the log when a run stops before a stage. -/
def stopEntry (stage : Stage) (reason : StopReason) : Entry :=
  .log ⟨.info, .runner,
    "Stopping before stage " ++ Text.quoted stage.name.text ++ ": " ++ reason.text⟩

/-- The traces of the stages from an index on, with the legs among them, and the reason to end
early, if there was one. -/
inductive Passes (config : Config) : Nat → Constraints → List Stage → List Leg → List Entry →
    Except Abort (Option StopReason) → Prop where
  | through (index : Nat) (limits : Constraints) :
      Passes config index limits [] [] [] (.ok none)
  | halted (index : Nat) {limits : Constraints} (s : Stage) (rest : List Stage) {b : Bool}
      {now : Float} {reason : StopReason} (hp : haltReason b limits.deadline now = some reason) :
      Passes config index limits (s :: rest) []
        [.poll b limits.deadline now, stopEntry s reason] (.ok (some reason))
  | startCut {index : Nat} {limits : Constraints} {s : Stage} (rest : List Stage) {b : Bool}
      {now : Float} {t : List Entry} (e : Abort) (hp : haltReason b limits.deadline now = none)
      (hs : Emits config.sink (.stageStart s index) t) :
      Passes config index limits (s :: rest) [] (.poll b limits.deadline now :: t) (.error e)
  | stageCut {index : Nat} {limits : Constraints} {s : Stage} (rest : List Stage) {b : Bool}
      {now : Float} {t u : List Entry} {e : Abort} (hp : haltReason b limits.deadline now = none)
      (hs : Emits config.sink (.stageStart s index) t)
      (hr : Takes c s config limits u (.error e)) :
      Passes config index limits (s :: rest) [] (.poll b limits.deadline now :: (t ++ u)) (.error e)
  | endCut {index : Nat} {limits : Constraints} {s : Stage} (rest : List Stage) {b : Bool}
      {now : Float} {t u v : List Entry} {r : StageResult} (e : Abort)
      (hp : haltReason b limits.deadline now = none)
      (hs : Emits config.sink (.stageStart s index) t)
      (hr : Takes c s config limits u (.ok r)) (he : Emits config.sink (.stageEnd s r) v) :
      Passes config index limits (s :: rest) [⟨u, r⟩]
        (.poll b limits.deadline now :: (t ++ (u ++ v))) (.error e)
  | failed {index : Nat} {limits : Constraints} {s : Stage} (rest : List Stage) {b : Bool}
      {now : Float} {t u v : List Entry} {r : StageResult}
      (hp : haltReason b limits.deadline now = none)
      (hs : Emits config.sink (.stageStart s index) t)
      (hr : Takes c s config limits u (.ok r)) (he : Emits config.sink (.stageEnd s r) v)
      (hf : r.success = false) :
      Passes config index limits (s :: rest) [⟨u, r⟩]
        (.poll b limits.deadline now :: (t ++ (u ++ v))) (.ok (some .stageFailed))
  | passed {index : Nat} {limits : Constraints} {s : Stage} {rest : List Stage} {b : Bool}
      {now : Float} {t u v x : List Entry} {r : StageResult} {legs : List Leg}
      {o : Except Abort (Option StopReason)} (hp : haltReason b limits.deadline now = none)
      (hs : Emits config.sink (.stageStart s index) t)
      (hr : Takes c s config limits u (.ok r)) (he : Emits config.sink (.stageEnd s r) v)
      (hf : r.success = true) (hrest : Passes config (index + 1) (limits.after r) rest legs x o) :
      Passes config index limits (s :: rest) (⟨u, r⟩ :: legs)
        (.poll b limits.deadline now :: (t ++ (u ++ (v ++ x)))) o

variable {c} in
/-- Induction over the stages of a run that is not aborted. -/
@[elab_as_elim]
theorem Passes.ok_induction {config : Config}
    {motive : ∀ (index : Nat) (limits : Constraints) (list : List Stage) (legs : List Leg)
      (t : List Entry) (early : Option StopReason),
      Passes c config index limits list legs t (.ok early) → Prop}
    (through : ∀ index limits, motive index limits [] [] [] none (.through index limits))
    (halted : ∀ (index : Nat) {limits : Constraints} (s : Stage) (rest : List Stage) {b : Bool}
      {now : Float} {reason : StopReason} (hp : haltReason b limits.deadline now = some reason),
        motive index limits (s :: rest) [] _ (some reason) (.halted index s rest hp))
    (failed : ∀ {index : Nat} {limits : Constraints} {s : Stage} (rest : List Stage) {b : Bool}
      {now : Float} {t u v : List Entry} {r : StageResult}
      (hp : haltReason b limits.deadline now = none)
      (hs : Emits config.sink (.stageStart s index) t)
      (hr : Takes c s config limits u (.ok r)) (he : Emits config.sink (.stageEnd s r) v)
      (hf : r.success = false),
        motive index limits (s :: rest) [⟨u, r⟩]
          (.poll b limits.deadline now :: (t ++ (u ++ v))) (some .stageFailed)
          (.failed rest hp hs hr he hf))
    (passed : ∀ {index : Nat} {limits : Constraints} {s : Stage} {rest : List Stage} {b : Bool}
      {now : Float} {t u v x : List Entry} {r : StageResult} {legs : List Leg}
      {early : Option StopReason}
      (hp : haltReason b limits.deadline now = none)
      (hs : Emits config.sink (.stageStart s index) t)
      (hr : Takes c s config limits u (.ok r)) (he : Emits config.sink (.stageEnd s r) v)
      (hf : r.success = true)
      (hrest : Passes c config (index + 1) (limits.after r) rest legs x (.ok early))
      (_ih : motive (index + 1) (limits.after r) rest legs x early hrest),
        motive index limits (s :: rest) (⟨u, r⟩ :: legs)
          (.poll b limits.deadline now :: (t ++ (u ++ (v ++ x)))) early
          (.passed hp hs hr he hf hrest))
    {index : Nat} {limits : Constraints} {list : List Stage} {legs : List Leg} {t : List Entry}
    {early : Option StopReason} (h : Passes c config index limits list legs t (.ok early)) :
    motive index limits list legs t early h := by
  -- as for `Attempts.ok_induction`, the outcome is made a variable
  have hall : ∀ {index limits list legs t o} (h : Passes c config index limits list legs t o)
      (ho : o = .ok early), motive index limits list legs t early (ho ▸ h) := by
    intro index limits list legs t o h ho
    induction h with
    | through index limits =>
      cases ho
      exact through index limits
    | halted index s rest hp =>
      cases ho
      exact halted index s rest hp
    | startCut | stageCut | endCut => cases ho
    | failed rest hp hs hr he hf =>
      cases ho
      exact failed rest hp hs hr he hf
    | passed hp hs hr he hf hrest ih =>
      cases ho
      exact passed hp hs hr he hf hrest (ih rfl)
  exact hall h rfl

/-- Whatever the collaborators do, the stages of a chain leave one of the traces of `Passes`, and
their results are those of its legs. -/
theorem traced_stages (config : Config) (index : Nat) (limits : Constraints) (list : List Stage) :
    Traced (stages c config index limits list) fun t o => ∃ legs,
      (∀ p, o = .ok p → p.1 = legs.map (·.result)) ∧
        Passes c config index limits list legs t (o.map (·.2)) := by
  induction list generalizing index limits with
  | nil => exact Traced.pure ⟨[], by simp, Passes.through index limits⟩
  | cons s rest ih =>
    unfold stages
    apply Traced.poll_bind
    intro b now
    cases hp : haltReason b limits.deadline now with
    | some reason =>
      apply Traced.log_bind
      exact Traced.pure ⟨[], by simp, Passes.halted index s rest hp⟩
    | none =>
      apply Traced.bind (traced_emit c _ _)
      · intro _ t hs
        -- of a leg it is kept that it is a run of its stage, not only what it leaves
        apply Traced.bind (traced_stage c s config limits).origin
        · rintro r u ⟨-, hr⟩
          apply Traced.bind (traced_emit c _ _)
          · intro _ v he
            -- the chain ends with a stage that failed, and otherwise the rest comes after it
            cases hf : r.success with
            | false =>
              simp only [Bool.false_eq_true, if_false]
              apply Traced.pure
              refine ⟨[⟨u, r⟩], by simp, ?_⟩
              simpa [Except.map] using Passes.failed rest hp hs hr he hf
            | true =>
              simp only [if_true]
              apply Traced.bind (ih (index + 1) (limits.after r))
              · rintro ⟨results, reason⟩ x ⟨legs, hl, hrest⟩
                apply Traced.pure
                refine ⟨⟨u, r⟩ :: legs, by simpa using hl, ?_⟩
                simpa [Except.map] using Passes.passed hp hs hr he hf hrest
              · rintro e x ⟨legs, -, hrest⟩
                refine ⟨⟨u, r⟩ :: legs, by simp, ?_⟩
                simpa using Passes.passed hp hs hr he hf hrest
          · intro e v he
            exact ⟨_, by simp, Passes.endCut rest e hp hs hr he⟩
        · rintro e u ⟨-, hr⟩
          exact ⟨_, by simp, Passes.stageCut rest hp hs hr⟩
      · intro e t hs
        exact ⟨_, by simp, Passes.startCut rest e hp hs⟩

/-- A name to build sample chains with. -/
def sampleName : StageName where
  text := Text.normalize "worker"
  ne_empty := by
    rw [Ne, Text.normalize_eq_empty_iff]
    decide
  normal := Text.normalize_normalize _

/-! ## A chain as a whole -/

/-- What is recorded of a chain with these legs. -/
def summary (legs : List Leg) (early : Option StopReason) (cancelled : Bool) (duration : Float) :
    ChainResult where
  success := !cancelled && (legs.map (·.result)).all (·.success)
  stageResults := legs.map (·.result)
  duration := duration
  errors := ((legs.map (·.result)).filter (!·.success)).map failureText
  stopReason := some (early.getD (finalReason (legs.map (·.result)) cancelled))

/-- The traces of a chain that starts at the time `start`, with its legs, and what is recorded of
it. -/
inductive Runs (config : Config) (start : Float) :
    List Leg → List Entry → Except Abort ChainResult → Prop where
  | startCut {logs t : List Entry} (e : Abort) (hq : Quiet logs)
      (hs : Emits config.sink (.chainStart config.stages) t) :
      Runs config start [] (logs ++ t) (.error e)
  | stagesCut {logs t u v : List Entry} {legs : List Leg}
      {o : Except Abort (Option StopReason)} (e : Abort) (hq : Quiet logs)
      (hs : Emits config.sink (.chainStart config.stages) t)
      (hp : Passes c config 0 (fullConstraints config start) config.stages legs u o)
      (hd : Quiet v) : Runs config start legs (logs ++ (t ++ (u ++ .dispose :: v))) (.error e)
  | endCut {logs t u v x y : List Entry} {duration : Float} {legs : List Leg}
      {early : Option StopReason} {cancelled : Bool} (e : Abort) (hq : Quiet logs)
      (hs : Emits config.sink (.chainStart config.stages) t)
      (hp : Passes c config 0 (fullConstraints config start) config.stages legs u (.ok early))
      (hd : Quiet v) (hx : Quiet x)
      (he : Emits config.sink (.chainEnd (summary legs early cancelled duration)) y) :
      Runs config start legs
        (logs ++ (t ++ (u ++ .dispose :: (v ++ .lastPoll cancelled :: (x ++ y))))) (.error e)
  | returned {logs t u v x y : List Entry} {duration : Float} {legs : List Leg}
      {early : Option StopReason} {cancelled : Bool} (hq : Quiet logs)
      (hs : Emits config.sink (.chainStart config.stages) t)
      (hp : Passes c config 0 (fullConstraints config start) config.stages legs u (.ok early))
      (hd : Quiet v) (hx : Quiet x)
      (he : Emits config.sink (.chainEnd (summary legs early cancelled duration)) y) :
      Runs config start legs
        (logs ++ (t ++ (u ++ .dispose :: (v ++ .lastPoll cancelled :: (x ++ y)))))
        (.ok (summary legs early cancelled duration))

/-- A disposal leaves its entry and what the log says of a fault of it. -/
theorem traced_dispose : Traced (dispose c) fun t _ => ∃ v, Quiet v ∧ t = .dispose :: v := by
  unfold dispose
  apply Traced.attempt_bind
  · intro _
    exact Traced.pure ⟨[], Quiet.nil, rfl⟩
  · intro f
    exact Traced.note ⟨_, quiet_log _, rfl⟩
  · intro e
    exact ⟨[], Quiet.nil, rfl⟩

/-- The last poll leaves what the signal said in the journal. -/
theorem Traced.lastPoll_bind {β : Type} {signal : Option Signal} {f : Bool → Run σ β}
    {S : List Entry → Except Abort β → Prop}
    (h : ∀ b, Traced (f b) fun u o => S (.lastPoll b :: u) o) :
    Traced (lastPoll c signal >>= f) S := by
  simp only [lastPoll, bind_assoc, pure_bind]
  apply Traced.isCancelled_bind
  intro b
  exact Traced.note_bind (h b)

/-- The stages of a chain with the disposal after them. An outcome is that of the stages, unless the
disposal was aborted. -/
theorem traced_guarded (config : Config) (limits : Constraints) :
    Traced (finallyDo (stages c config 0 limits config.stages) (dispose c)) fun t o =>
      ∃ u v legs o', Quiet v ∧ t = u ++ .dispose :: v ∧
        Passes c config 0 limits config.stages legs u o' ∧
        ∀ p, o = .ok p → p.1 = legs.map (·.result) ∧ o' = .ok p.2 := by
  apply Traced.finallyDo (traced_stages c config 0 limits config.stages) (traced_dispose c)
  · rintro t o u ⟨legs, hl, hp⟩ ⟨v, hd, rfl⟩
    refine ⟨t, v, legs, _, hd, rfl, hp, ?_⟩
    rintro p rfl
    exact ⟨hl p rfl, rfl⟩
  -- an aborted disposal takes the place of the outcome, so that nothing is said of the results
  · rintro t o u e ⟨legs, hl, hp⟩ ⟨v, hd, rfl⟩
    exact ⟨t, v, legs, _, hd, rfl, hp, by simp⟩

/-- What a chain does with what its stages left, once the executor is disposed of. -/
def conclude (config : Config) (start : Float) (left : List StageResult × Option StopReason) :
    Run σ ChainResult := do
  let cancelled ← lastPoll c config.signal
  let reason := left.2.getD (finalReason left.1 cancelled)
  let finish ← now c
  let result : ChainResult := {
    success := !cancelled && left.1.all (·.success)
    stageResults := left.1
    duration := finish - start
    errors := (left.1.filter (!·.success)).map failureText
    stopReason := some reason }
  log .info (finishText result reason)
  emit c config.sink (.chainEnd result)
  pure result

/-- A chain reports its start, runs its stages and disposes of the executor, and concludes. -/
theorem chain_eq (config : Config) :
    chain c config = now c >>= fun start => log .info (startText config) >>= fun _ =>
      emit c config.sink (.chainStart config.stages) >>= fun _ =>
        finallyDo (stages c config 0 (fullConstraints config start) config.stages) (dispose c) >>=
          conclude c config start :=
  rfl

/-- A chain concludes with the last poll and the report of its end, and its result is the summary of
its legs. -/
theorem traced_conclude (config : Config) (start : Float) (legs : List Leg)
    (early : Option StopReason) :
    Traced (conclude c config start (legs.map (·.result), early)) fun t o =>
      ∃ cancelled duration x y, Quiet x ∧
        Emits config.sink (.chainEnd (summary legs early cancelled duration)) y ∧
        t = .lastPoll cancelled :: (x ++ y) ∧
        ∀ R, o = .ok R → R = summary legs early cancelled duration := by
  unfold conclude
  apply Traced.lastPoll_bind
  intro cancelled
  apply Traced.observe_bind
  intro finish
  apply Traced.log_bind
  apply Traced.bind (traced_emit c _ _)
  · intro _ y he
    apply Traced.pure
    rw [List.append_nil]
    exact ⟨cancelled, finish - start, _, y, quiet_log _, he, rfl, by rintro R ⟨⟩; rfl⟩
  · intro e y he
    exact ⟨cancelled, finish - start, _, y, quiet_log _, he, rfl, by simp⟩

/-- A chain keeps the results of its stages as they are. -/
theorem traced_conclude_stageResults (config : Config) (start : Float)
    (left : List StageResult × Option StopReason) :
    Traced (conclude c config start left) fun _ o =>
      ∀ R, o = .ok R → R.stageResults = left.1 := by
  unfold conclude
  apply Traced.lastPoll_bind
  intro cancelled
  apply Traced.observe_bind
  intro finish
  apply Traced.log_bind
  apply Traced.bind (traced_emit c _ _)
  · intro _ _ _
    exact Traced.pure (by rintro R ⟨⟩; rfl)
  · simp

/-- From its start on, a chain takes one of the courses of `Runs`. -/
theorem traced_from (config : Config) (start : Float) :
    Traced (log .info (startText config) >>= fun _ =>
      emit c config.sink (.chainStart config.stages) >>= fun _ =>
        finallyDo (stages c config 0 (fullConstraints config start) config.stages) (dispose c) >>=
          conclude c config start) fun t o => ∃ legs, Runs c config start legs t o := by
  apply Traced.log_bind
  have hq := quiet_log ⟨.info, .runner, startText config⟩
  apply Traced.bind (traced_emit c _ _)
  · intro _ t hs
    apply Traced.bind (traced_guarded c config (fullConstraints config start))
    · rintro ⟨results, early⟩ w ⟨u, v, legs, o, hd, rfl, hp, hl⟩
      -- the disposal was not aborted, so the outcome is that of the stages
      rcases hl _ rfl with ⟨rfl, rfl⟩
      apply (traced_conclude c config start legs early).mono
      rintro _ o ⟨cancelled, duration, x, y, hx, he, rfl, ho⟩
      refine ⟨legs, ?_⟩
      cases o with
      | ok R =>
        rcases ho R rfl with rfl
        simpa only [List.append_assoc, List.cons_append, List.nil_append]
          using Runs.returned hq hs hp hd hx he
      | error e =>
        simpa only [List.append_assoc, List.cons_append, List.nil_append]
          using Runs.endCut e hq hs hp hd hx he
    · rintro e w ⟨u, v, legs, o, hd, rfl, hp, -⟩
      exact ⟨legs, Runs.stagesCut e hq hs hp hd⟩
  · intro e t hs
    exact ⟨[], Runs.startCut e hq hs⟩

/-- When a chain starts that is run from the world `w`: the first time that it reads. -/
def startTime (w : σ) : Float := (c.clock w).1

/-- Whatever the collaborators do, a chain takes one of the courses of `Runs`. -/
theorem chain_runs (config : Config) (w : σ) :
    ∃ legs, Runs c config (startTime c w) legs (journalFrom (chain c config) w)
      (outcomeFrom (chain c config) w) := by
  rw [chain_eq]
  exact (traced_from c config (startTime c w)).apply (c.clock w).2

/-! ## The legs of a run -/

variable {c} {config : Config} {limits : Constraints} {index : Nat} {list : List Stage}
  {legs : List Leg} {t : List Entry}

/-- The result of a stage is about this stage. -/
theorem Performs.stage_eq {s : Stage} {r : StageResult}
    (h : Performs c s config limits t (.ok r)) : r.stage = s := by
  cases h with
  | ended | contained => rfl

/-- The legs are of the first stages of the chain, in their order. -/
theorem Passes.stages_in_order {o : Except Abort (Option StopReason)}
    (h : Passes c config index limits list legs t o) :
    legs.map (·.result.stage) <+: list := by
  -- a leg is added at the stage that was run, so that both lists grow at the same end
  induction h with
  | through | halted | startCut | stageCut => simp
  | endCut _ _ _ _ hr _ | failed _ _ _ hr _ _ => simp [hr.performs.stage_eq]
  | passed _ _ hr _ _ _ ih => simpa [hr.performs.stage_eq] using ih

/-- The stages of a chain neither start nor end the chain, nor dispose of the executor. -/
theorem Passes.ofStages {o : Except Abort (Option StopReason)}
    (h : Passes c config index limits list legs t o) : Each Entry.ofStages t := by
  induction h with
  | through => exact Each.nil
  | halted => exact (Each.nil.cons rfl).cons rfl
  | startCut _ _ _ hs => exact (hs.ofStages rfl).cons rfl
  | stageCut _ _ hs hr => exact ((hs.ofStages rfl).append hr.performs.ofStages).cons rfl
  | endCut _ _ _ hs hr he | failed _ _ hs hr he =>
    exact ((hs.ofStages rfl).append (hr.performs.ofStages.append (he.ofStages rfl))).cons rfl
  | passed _ hs hr he _ _ ih =>
    have hleg := hr.performs.ofStages.append ((he.ofStages rfl).append ih)
    exact ((hs.ofStages rfl).append hleg).cons rfl

/-- The stages end early at one that fails, or at a poll before the next that halts the run. -/
theorem Passes.early {index : Nat} {list : List Stage} {legs : List Leg} {reason : StopReason}
    (h : Passes c config index limits list legs t (.ok (some reason))) :
    reason = .stageFailed ∨ ∃ before b now s, haltReason b limits.deadline now = some reason ∧
      t = before ++ [.poll b limits.deadline now, stopEntry s reason] := by
  -- the reason is made a variable for the induction
  generalize hreason : some reason = early at h
  induction h using Passes.ok_induction with
  | through => cases hreason
  | halted index s rest hp =>
    cases hreason
    exact Or.inr ⟨[], _, _, s, hp, rfl⟩
  | failed =>
    cases hreason
    exact Or.inl rfl
  | @passed _ limits _ _ a time t u v _ _ _ _ hp hs hr he hf hrest ih =>
    rw [Constraints.after_deadline] at ih
    rcases ih hreason with hfail | ⟨before, b, now, s, hhalt, rfl⟩
    · exact Or.inl hfail
    · refine Or.inr ⟨.poll a limits.deadline time :: (t ++ (u ++ (v ++ before))), b, now, s,
        hhalt, ?_⟩
      simp only [List.append_assoc, List.cons_append]

/-- Between its legs a chain does not call the executor. -/
theorem Passes.spawns_eq {early : Option StopReason}
    (h : Passes c config index limits list legs t (.ok early)) :
    spawns t = legs.flatMap (spawns ·.part) := by
  induction h using Passes.ok_induction with
  | through => rfl
  | halted => simp [Entry.spawn?, stopEntry]
  | failed _ _ hs hr he _ => simp [Entry.spawn?, hs.spawns, he.spawns]
  | passed _ hs _ he _ _ ih => simp [Entry.spawn?, hs.spawns, he.spawns, ih]

/-- Each leg is a run of its stage, within what the legs before it left of the caps. -/
theorem Passes.takes {o : Except Abort (Option StopReason)}
    (h : Passes c config index limits list legs t o) {k : Nat} {leg : Leg}
    (hk : legs[k]? = some leg) :
    Takes c leg.result.stage config (((legs.take k).map (·.result)).foldl Constraints.after limits)
      leg.part (.ok leg.result) := by
  -- leg number `k + 1` is leg number `k` of the rest, whose caps are those after the first leg
  induction h generalizing k with
  | through | halted | startCut | stageCut => simp at hk
  | endCut _ _ _ _ hr _ | failed _ _ _ hr _ _ =>
    cases k with
    | zero =>
      cases hk
      simpa [hr.performs.stage_eq] using hr
    | succ k => simp at hk
  | passed _ _ hr _ _ _ ih =>
    cases k with
    | zero =>
      cases hk
      simpa [hr.performs.stage_eq] using hr
    | succ k => simpa using ih hk

/-- What the first `k` stages of a chain leave of the caps. -/
def limitsBefore (config : Config) (start : Float) (results : List StageResult) (k : Nat) :
    Constraints :=
  (results.take k).foldl Constraints.after (fullConstraints config start)

@[simp] theorem limitsBefore_zero (config : Config) (start : Float) (results : List StageResult) :
    limitsBefore config start results 0 = fullConstraints config start := rfl

/-- What a stage leaves of the caps is what the next one has. -/
theorem limitsBefore_succ (config : Config) (start : Float) {results : List StageResult} {k : Nat}
    {r : StageResult} (hk : results[k]? = some r) :
    limitsBefore config start results (k + 1) = (limitsBefore config start results k).after r := by
  simp [limitsBefore, List.take_add_one, hk, List.foldl_append]

variable (c) in
/-- `legs` are the legs of a chain that starts at the time `start`, with the trace `t` and these
results. -/
structure HasLegs (config : Config) (start : Float) (t : List Entry) (results : List StageResult)
    (legs : List Leg) : Prop where
  results_eq : results = legs.map (·.result)
  stages_in_order : legs.map (·.result.stage) <+: config.stages
  /-- The executor is called for nothing but the legs. -/
  spawns_eq : spawns t = legs.flatMap (spawns ·.part)
  /-- Each leg is a run of its stage, within what the legs before it left of the caps. -/
  takes : ∀ k leg, legs[k]? = some leg →
    Takes c leg.result.stage config (limitsBefore config start results k) leg.part (.ok leg.result)

/-- The legs of a course that ends with a result go with the results. -/
theorem Runs.hasLegs {start : Float} {R : ChainResult} (h : Runs c config start legs t (.ok R)) :
    HasLegs c config start t R.stageResults legs := by
  cases h with
  | returned hq hs hp hd hx he =>
    refine ⟨rfl, hp.stages_in_order, ?_, ?_⟩
    · simp [Entry.spawn?, hq.spawns, hs.spawns, hp.spawns_eq, hd.spawns, hx.spawns, he.spawns]
    · simp only [summary, limitsBefore, ← List.map_take]
      exact fun k leg hk => hp.takes hk

/-- A run that returns a result has legs to go with it. -/
theorem chain_legs {w : σ} {R : ChainResult} (h : outcomeFrom (chain c config) w = .ok R) :
    ∃ legs, HasLegs c config (startTime c w) (journalFrom (chain c config) w) R.stageResults
      legs := by
  rcases chain_runs c config w with ⟨legs, hr⟩
  rw [h] at hr
  exact ⟨legs, hr.hasLegs⟩

end AgentChain.Run
