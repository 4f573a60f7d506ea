import AgentChain.Proofs.Trace

/-!
# The parts of a stage

Each part of a run of a stage is described by the traces that it can leave and the outcomes that go
with them, whatever the collaborators do: an emission (`Emits`), a call of the executor (`Spawns`),
a completion check (`Asks`), one round of a loop stage (`Round`), all rounds (`Attempts`), the work
on a stage (`Works`) and the stage as a whole (`Performs`).

Main statement: what a stage does is one of the ways listed in `Performs` (`traced_stage`).
-/

namespace AgentChain.Run

variable {σ : Type}

/-! ## Emissions -/

/-- Nothing but writing to the log. -/
def Quiet (t : List Entry) : Prop := ∀ x ∈ t, x.record?.isSome

theorem Quiet.nil : Quiet [] := by simp [Quiet]

theorem quiet_log (record : LogRecord) : Quiet [.log record] := by simp [Quiet, Entry.record?]

theorem Quiet.append {t u : List Entry} (ht : Quiet t) (hu : Quiet u) : Quiet (t ++ u) :=
  List.forall_mem_append.2 ⟨ht, hu⟩

/-- What the journal says of an event that was sent: nothing if there is no sink. -/
def heard (sink : Option Handle) (e : Event) : List Entry :=
  match sink with
  | none => []
  | some _ => [.event e]

/-- The traces of an emission. -/
def Emits (sink : Option Handle) (e : Event) (t : List Entry) : Prop :=
  ∃ logs, Quiet logs ∧ t = heard sink e ++ logs

/-- What is written to the log after an emission counts as part of it. -/
theorem Emits.append {sink : Option Handle} {e : Event} {t logs : List Entry}
    (ht : Emits sink e t) (hl : Quiet logs) : Emits sink e (t ++ logs) := by
  rcases ht with ⟨own, ho, rfl⟩
  exact ⟨own ++ logs, ho.append hl, List.append_assoc ..⟩

/-- What the sink writes to the log is quiet. -/
theorem quiet_sinkLog (records : List LogRecord) : Quiet (records.map .sinkLog) := by
  intro x hx
  rcases List.mem_map.1 hx with ⟨r, -, rfl⟩
  rfl

variable (c : Collaborators σ)

/-- Whatever the sink does, an emission leaves the event, if there is a sink, and records of the
log. -/
theorem traced_emit (sink : Option Handle) (e : Event) :
    Traced (emit c sink e) fun t _ => Emits sink e t := by
  unfold emit
  cases sink with
  | none => exact Traced.pure ⟨[], Quiet.nil, rfl⟩
  | some h =>
    apply Traced.observe_bind
    rintro ⟨outcome, records⟩
    apply Traced.note_bind
    have hq := quiet_sinkLog records
    -- a fault of the sink is one more record of the log, and an abort cuts the emission there
    cases outcome with
    | answered a => exact Traced.pure ⟨_, hq, by simp [heard]⟩
    | raised f => exact Traced.note ⟨_, hq.append (quiet_log _), rfl⟩
    | aborted a => exact Traced.throw_bind ⟨_, hq, by simp [heard]⟩

/-- What the run writes to its log when the sink has taken an event: that it raised a fault, if it
did. -/
def sinkFaults (e : Event) : Outcome Unit → List Entry
  | .raised f => [.log ⟨.debug, .runner,
      "Event sink raised on " ++ e.kind.tag ++ " event: " ++ f.text⟩]
  | _ => []

/-- An emission is the event, what the sink writes to the log, and what the log says of a fault. -/
theorem steps_emit (h : Handle) (e : Event) (w : σ) :
    Steps (emit c (some h) e) w
      (.event e :: ((c.sink h e w).log.map .sinkLog ++ sinkFaults e (c.sink h e w).outcome))
      (carriedOn (c.sink h e w).outcome) (c.sink h e w).state := by
  -- what comes after the call: nothing, or a record of its fault
  have hrest : ∀ f : Except Fault Unit → Run σ Unit, f (.ok ()) = pure () →
      (∀ fault, f (.error fault) = note (sinkFaults e (.raised fault))) →
      ∀ outcome v, Steps (settle outcome >>= f) v (sinkFaults e outcome) (carriedOn outcome) v := by
    intro f hok herror outcome v
    cases outcome with
    | answered =>
      have hgoes : Steps (f (.ok ())) v [] (.ok ()) v := hok ▸ steps_pure () v
      exact (steps_settle (.answered ()) v).bind hgoes
    | raised fault =>
      have hgoes := steps_note (sinkFaults e (.raised fault)) v
      rw [← herror fault] at hgoes
      exact (steps_settle (.raised fault) v).bind hgoes
    | aborted a => exact (steps_settle (.aborted a) v).bind_error
  exact (steps_observe _ w).bind ((steps_note _ _).bind (hrest _ rfl (fun _ => rfl) _ _))

/-- What an emission leaves shows in no entries of another sort. -/
theorem filter_emission {p : Entry → Bool} {e : Event} (records : List LogRecord)
    (outcome : Outcome Unit) (he : p (.event e) = false) (hs : ∀ r, p (.sinkLog r) = false)
    (hl : ∀ message, p (.log ⟨.debug, .runner, message⟩) = false) :
    (.event e :: (records.map .sinkLog ++ sinkFaults e outcome)).filter p = [] := by
  have hfaults : (sinkFaults e outcome).filter p = [] := by
    cases outcome with
    | raised f => simp [sinkFaults, hl]
    | answered | aborted => rfl
  simp [he, hs, hfaults, List.filter_map, Function.comp_def]

variable {c} in
/-- An emission aborts the run exactly if the sink does. -/
theorem outcomeFrom_emit_eq_error_iff {sink : Option Handle} {e : Event} {w : σ} {a : Abort} :
    outcomeFrom (emit c sink e) w = .error a ↔
      ∃ h, sink = some h ∧ (c.sink h e w).outcome = .aborted a := by
  cases sink with
  | none =>
    have hs : Steps (emit c none e) w [] (.ok ()) w := steps_pure () w
    simp [hs.outcomeFrom_eq]
  | some h =>
    rw [(steps_emit c h e w).outcomeFrom_eq]
    cases hout : (c.sink h e w).outcome <;> simp [carriedOn, hout]

/-- An emission and the log record after it make one emission. -/
theorem Traced.emit_log_bind {β : Type} {sink : Option Handle} {e : Event} {level : Level}
    {message : String} {f : Unit → Run σ β} {S : List Entry → Except Abort β → Prop}
    (h : ∀ t, Emits sink e t → Traced (f ()) fun u o => S (t ++ u) o)
    (hx : ∀ a t, Emits sink e t → S t (.error a)) :
    Traced (emit c sink e >>= fun _ => log level message >>= f) S := by
  apply Traced.bind (traced_emit c sink e)
  · intro _ t he
    apply Traced.log_bind
    apply (h _ (he.append (quiet_log _))).mono
    intro u o hS
    simpa using hS
  · exact hx

/-! ## Polls -/

/-- Asking for the signal leaves nothing in the journal, and may have any answer. -/
theorem Traced.isCancelled_bind {β : Type} {signal : Option Signal} {f : Bool → Run σ β}
    {S : List Entry → Except Abort β → Prop} (h : ∀ b, Traced (f b) S) :
    Traced (isCancelled c signal >>= f) S := by
  cases signal with
  | none => exact h false
  | some s => exact Traced.observe_bind h

/-- A poll leaves what it saw in the journal. -/
theorem Traced.poll_bind {β : Type} {signal : Option Signal} {deadline : Float}
    {f : Option StopReason → Run σ β} {S : List Entry → Except Abort β → Prop}
    (h : ∀ b now,
      Traced (f (haltReason b deadline now)) fun u o => S (.poll b deadline now :: u) o) :
    Traced (poll c signal deadline >>= f) S := by
  simp only [poll, now, bind_assoc, pure_bind]
  apply Traced.observe_bind
  intro now
  apply Traced.isCancelled_bind
  intro b
  exact Traced.note_bind (h b now)

/-! ## Calls of the executor -/

/-- The traces of one attempt at a stage, up to where the completion check comes in. -/
inductive Spawns (stage : Stage) (config : Config) :
    List Entry → Except Abort (Except Fault SpawnResult) → Prop where
  | raised (f : Fault) :
      Spawns stage config [.spawn (requestFor stage config) (.raised f)] (.ok (.error f))
  | failed {r : SpawnResult} {logs : List Entry} (hr : r.success = false) (hq : Quiet logs) :
      Spawns stage config (.spawn (requestFor stage config) (.answered r) :: logs) (.ok (.ok r))
  | succeeded {r : SpawnResult} {t u : List Entry} (hr : r.success = true)
      (ht : Emits config.sink (.agentSpawned stage.name.text r.sessionId) t)
      (hu : Emits config.sink (.agentCompleted stage.name.text r.sessionId) u) :
      Spawns stage config (.spawn (requestFor stage config) (.answered r) :: (t ++ u)) (.ok (.ok r))
  | aborted (e : Abort) :
      Spawns stage config [.spawn (requestFor stage config) (.aborted e)] (.error e)
  | spawnedCut {r : SpawnResult} {t : List Entry} (e : Abort) (hr : r.success = true)
      (ht : Emits config.sink (.agentSpawned stage.name.text r.sessionId) t) :
      Spawns stage config (.spawn (requestFor stage config) (.answered r) :: t) (.error e)
  | completedCut {r : SpawnResult} {t u : List Entry} (e : Abort) (hr : r.success = true)
      (ht : Emits config.sink (.agentSpawned stage.name.text r.sessionId) t)
      (hu : Emits config.sink (.agentCompleted stage.name.text r.sessionId) u) :
      Spawns stage config (.spawn (requestFor stage config) (.answered r) :: (t ++ u)) (.error e)

/-- Whatever the executor and the sink do, an attempt leaves one of the traces of `Spawns`. -/
theorem traced_spawn (stage : Stage) (config : Config) :
    Traced (spawn c stage config) (Spawns stage config) := by
  unfold spawn
  apply Traced.attempt_bind
  · intro r
    -- both events are sent of an attempt that succeeded, and none of one that failed
    cases hr : r.success with
    | true =>
      simp only [hr, if_true]
      apply Traced.bind (traced_emit c _ _)
      · intro _ t ht
        apply Traced.bind (traced_emit c _ _)
        · intro _ u hu
          apply Traced.pure
          rw [List.append_nil]
          exact Spawns.succeeded hr ht hu
        · intro e u hu
          exact Spawns.completedCut e hr ht hu
      · intro e t ht
        exact Spawns.spawnedCut e hr ht
    | false =>
      simp only [hr, Bool.false_eq_true, if_false]
      apply Traced.log_bind
      apply Traced.pure
      exact Spawns.failed hr (quiet_log _)
  · intro f
    exact Traced.pure (Spawns.raised f)
  · intro e
    exact Spawns.aborted e

/-! ## Completion checks -/

/-- The entry with which a completion check begins. -/
def checkEntry (check : CompletionCheck σ) (root : Path) : Entry :=
  match check with
  | .own h => .check h root
  | .tasks _ => .listTasks root

/-- Nothing but statuses that were read. -/
def Statuses (t : List Entry) : Prop := ∀ x ∈ t, ∃ outcome, x = .status outcome

/-- The traces of a completion check. A fault at which reading the tasks ends is its answer. -/
inductive Asks (check : CompletionCheck σ) (root : Path) :
    List Entry → Except Abort (Except Fault Bool) → Prop where
  | answered {t : List Entry} (ht : Statuses t) (answer : Except Fault Bool)
      (hr : ∀ f, .status (.raised f) ∈ t → answer = .error f) :
      Asks check root (checkEntry check root :: t ++ [.verdict answer]) (.ok answer)
  | aborted {t : List Entry} (ht : Statuses t) (e : Abort) :
      Asks check root (checkEntry check root :: t) (.error e)

theorem Statuses.nil : Statuses [] := by simp [Statuses]

/-- Going through the tasks leaves the statuses that were read, and a fault among them is the
answer. -/
theorem traced_allDone (ts : List (TaskRecord σ)) :
    Traced (CompletionCheck.allDone ts) fun t o =>
      Statuses t ∧ ∀ f answer, .status (.raised f) ∈ t → o = .ok answer → answer = .error f := by
  -- the reading goes on as long as each status is that of a task that is done
  induction ts with
  | nil => exact Traced.pure ⟨Statuses.nil, by simp⟩
  | cons task ts ih =>
    unfold CompletionCheck.allDone
    apply Traced.attempt_bind
    · intro s
      dsimp only
      split
      · exact ih.mono fun t _ ht => by simpa [Statuses] using ht
      · exact Traced.pure ⟨by simp [Statuses], by simp⟩
    · intro f
      exact Traced.pure ⟨by simp [Statuses], by simp⟩
    · intro e
      exact ⟨by simp [Statuses], by simp⟩

/-- To ask the task store is to list the tasks and to read statuses, and a fault among them is the
answer. -/
theorem traced_ofTasks (store : TaskStore σ) (root : Path) :
    Traced (CompletionCheck.ofTasks store root) fun t o =>
      ∃ u, Statuses u ∧ t = .listTasks root :: u ∧
        ∀ f answer, .status (.raised f) ∈ u → o = .ok answer → answer = .error f := by
  unfold CompletionCheck.ofTasks
  apply Traced.attempt_bind
  · intro listing
    dsimp only
    split
    · exact Traced.pure ⟨[], Statuses.nil, rfl, by simp⟩
    · exact (traced_allDone _).mono fun u _ hu => ⟨u, hu.1, rfl, hu.2⟩
  · intro f
    exact Traced.pure ⟨[], Statuses.nil, rfl, by simp⟩
  · intro e
    exact ⟨[], Statuses.nil, rfl, by simp⟩

/-- A way to find the answer makes a completion check once the answer is written to the journal. -/
theorem traced_verdict {check : CompletionCheck σ} {root : Path} {m : Run σ (Except Fault Bool)}
    (hm : Traced m fun t o => ∃ u, Statuses u ∧ t = checkEntry check root :: u ∧
      ∀ f answer, .status (.raised f) ∈ u → o = .ok answer → answer = .error f) :
    Traced (m >>= fun answer => note [.verdict answer] >>= fun _ => pure answer)
      (Asks check root) := by
  apply Traced.bind hm
  · rintro answer t ⟨u, hu, rfl, hr⟩
    apply Traced.note_bind
    exact Traced.pure (Asks.answered hu answer fun f hf => hr f answer hf rfl)
  · rintro e t ⟨u, hu, rfl, -⟩
    exact Asks.aborted hu e

/-- Whatever the check or the task store does, a completion check leaves one of the traces of
`Asks`. -/
theorem traced_ask (check : CompletionCheck σ) (root : Path) :
    Traced (check.ask c root) (Asks check root) := by
  cases check with
  | own h => exact traced_verdict (Traced.attempt fun _ _ => ⟨[], Statuses.nil, rfl, by simp⟩)
  | tasks store => exact traced_verdict (traced_ofTasks store root)

/-! ## Rounds of a loop stage -/

/-- What comes after the call of the executor in a round of a loop stage: the traces of the
completion check, if the attempt succeeded, and how the stage ends, if it does. -/
inductive Follows (check : CompletionCheck σ) (root : Path) :
    Except Abort (Except Fault SpawnResult) → List Entry →
      Except Abort (Option (Except Fault Ending)) → Prop where
  | cut (e : Abort) : Follows check root (.error e) [] (.error e)
  | raised (f : Fault) : Follows check root (.ok (.error f)) [] (.ok (some (.error f)))
  | failed {r : SpawnResult} (hr : r.success = false) :
      Follows check root (.ok (.ok r)) [] (.ok (some (.ok ⟨false, r.error, .stageFailed⟩)))
  | checkCut {r : SpawnResult} {t : List Entry} {e : Abort} (hr : r.success = true)
      (ha : Asks check root t (.error e)) : Follows check root (.ok (.ok r)) t (.error e)
  | checkRaised {r : SpawnResult} {t : List Entry} {f : Fault} (hr : r.success = true)
      (ha : Asks check root t (.ok (.error f))) :
      Follows check root (.ok (.ok r)) t (.ok (some (.error f)))
  | met {r : SpawnResult} {t : List Entry} (hr : r.success = true)
      (ha : Asks check root t (.ok (.ok true))) :
      Follows check root (.ok (.ok r)) t (.ok (some (.ok ⟨true, none, .goalMet⟩)))
  | unmet {r : SpawnResult} {t : List Entry} (hr : r.success = true)
      (ha : Asks check root t (.ok (.ok false))) : Follows check root (.ok (.ok r)) t (.ok none)

/-- The traces of the round of a loop stage that makes attempt `n`, and how the stage ends with it,
if it does. -/
inductive Round (stage : Stage) (config : Config) (check : CompletionCheck σ) (n : Nat) :
    List Entry → Except Abort (Option (Except Fault Ending)) → Prop where
  | cut {t : List Entry} (e : Abort) (he : Emits config.sink (.stageIteration stage n) t) :
      Round stage config check n t (.error e)
  | made {t u v : List Entry} {o : Except Abort (Except Fault SpawnResult)}
      {p : Except Abort (Option (Except Fault Ending))}
      (he : Emits config.sink (.stageIteration stage n) t) (hs : Spawns stage config u o)
      (hf : Follows check config.root o v p) : Round stage config check n (t ++ (u ++ v)) p

/-- A round that ends the stage without a fault has met the goal or is a failed attempt. -/
theorem Round.ending {stage : Stage} {config : Config} {check : CompletionCheck σ} {n : Nat}
    {t : List Entry} {e : Ending} (h : Round stage config check n t (.ok (some (.ok e)))) :
    e = ⟨true, none, .goalMet⟩ ∨ ∃ error, e = ⟨false, error, .stageFailed⟩ := by
  cases h with
  -- an attempt that raised, and a check that did, end the stage with a fault
  | made he hs hf =>
    cases hf with
    | failed hr => exact Or.inr ⟨_, rfl⟩
    | met hr ha => exact Or.inl rfl

/-- The traces of a loop stage once `done` attempts have been made, when at most `left` more may
follow. -/
inductive Attempts (stage : Stage) (config : Config) (check : CompletionCheck σ)
    (deadline : Float) : (done left : Nat) → List Entry → Except Abort Work → Prop where
  | spent (done : Nat) :
      Attempts stage config check deadline done 0 []
        (.ok ⟨done, .ok ⟨true, none, .budgetExhausted⟩⟩)
  | halted (done left : Nat) {b : Bool} {now : Float} {reason : StopReason}
      (hp : haltReason b deadline now = some reason) :
      Attempts stage config check deadline done (left + 1) [.poll b deadline now]
        (.ok ⟨done, .ok ⟨true, none, reason⟩⟩)
  | cut {done left : Nat} {b : Bool} {now : Float} {t : List Entry} {e : Abort}
      (hp : haltReason b deadline now = none)
      (hr : Round stage config check (done + 1) t (.error e)) :
      Attempts stage config check deadline done (left + 1) (.poll b deadline now :: t) (.error e)
  | ended {done left : Nat} {b : Bool} {now : Float} {t : List Entry} {e : Except Fault Ending}
      (hp : haltReason b deadline now = none)
      (hr : Round stage config check (done + 1) t (.ok (some e))) :
      Attempts stage config check deadline done (left + 1) (.poll b deadline now :: t)
        (.ok ⟨done + 1, e⟩)
  | again {done left : Nat} {b : Bool} {now : Float} {t u : List Entry} {o : Except Abort Work}
      (hp : haltReason b deadline now = none)
      (hr : Round stage config check (done + 1) t (.ok none))
      (hrest : Attempts stage config check deadline (done + 1) left u o) :
      Attempts stage config check deadline done (left + 1) (.poll b deadline now :: (t ++ u)) o

/-- Induction over attempts of which none is aborted. -/
@[elab_as_elim]
theorem Attempts.ok_induction {stage : Stage} {config : Config} {check : CompletionCheck σ}
    {deadline : Float}
    {motive : ∀ (done left : Nat) (t : List Entry) (work : Work),
      Attempts stage config check deadline done left t (.ok work) → Prop}
    (spent : ∀ done, motive done 0 [] _ (.spent done))
    (halted : ∀ {done left b now reason} (hp : haltReason b deadline now = some reason),
      motive done (left + 1) [.poll b deadline now] _ (.halted done left hp))
    (ended : ∀ {done left b now t e} (hp : haltReason b deadline now = none)
      (hr : Round stage config check (done + 1) t (.ok (some e))),
        motive done (left + 1) (.poll b deadline now :: t) _ (.ended hp hr))
    (again : ∀ {done left b now t u work} (hp : haltReason b deadline now = none)
      (hr : Round stage config check (done + 1) t (.ok none))
      (hrest : Attempts stage config check deadline (done + 1) left u (.ok work))
      (_ih : motive (done + 1) left u work hrest),
        motive done (left + 1) (.poll b deadline now :: (t ++ u)) work (.again hp hr hrest))
    {done left : Nat} {t : List Entry} {work : Work}
    (h : Attempts stage config check deadline done left t (.ok work)) :
    motive done left t work h := by
  -- the outcome is made a variable, so that the cases that are aborted can be dropped
  have hall : ∀ {done left t o} (h : Attempts stage config check deadline done left t o)
      (ho : o = .ok work), motive done left t work (ho ▸ h) := by
    intro done left t o h ho
    induction h with
    | spent done =>
      cases ho
      exact spent done
    | halted done left hp =>
      cases ho
      exact halted hp
    | cut => cases ho
    | ended hp hr =>
      cases ho
      exact ended hp hr
    | again hp hr hrest ih =>
      cases ho
      exact again hp hr hrest (ih rfl)
  exact hall h rfl

/-- Whatever the collaborators do, the rounds of a loop stage leave one of the traces of
`Attempts`. -/
theorem traced_attempts (stage : Stage) (config : Config) (check : CompletionCheck σ)
    (deadline : Float) (done left : Nat) :
    Traced (attempts c stage config check deadline done left)
      (Attempts stage config check deadline done left) := by
  -- the number of attempts that are left decreases, and that of those made grows with it
  induction left generalizing done with
  | zero => exact Traced.pure (Attempts.spent done)
  | succ left ih =>
    unfold attempts
    apply Traced.poll_bind
    intro b now
    cases hp : haltReason b deadline now with
    | some reason => exact Traced.pure (Attempts.halted done left hp)
    | none =>
      apply Traced.emit_log_bind
      · intro t he
        apply Traced.bind (traced_spawn c stage config)
        -- what comes after the attempt depends on how it ended: by a fault, or with a result
        · rintro (f | r) u hs
          · apply Traced.pure
            simpa using Attempts.ended hp (Round.made he hs (Follows.raised f))
          · cases hr : r.success with
            | false =>
              simp only [hr, Bool.not_false, if_true]
              apply Traced.pure
              simpa using Attempts.ended hp (Round.made he hs (Follows.failed hr))
            | true =>
              simp only [hr, Bool.not_true, Bool.false_eq_true, if_false]
              apply Traced.bind (traced_ask c check config.root)
              -- the completion check raised a fault, was not met, or was met
              · rintro (f | _ | _) v ha
                · apply Traced.pure
                  simpa using Attempts.ended hp (Round.made he hs (Follows.checkRaised hr ha))
                · apply (ih (done + 1)).mono
                  intro x o hrest
                  simpa using Attempts.again hp (Round.made he hs (Follows.unmet hr ha)) hrest
                · apply Traced.pure
                  simpa using Attempts.ended hp (Round.made he hs (Follows.met hr ha))
              · intro e v ha
                simpa using Attempts.cut hp (Round.made he hs (Follows.checkCut hr ha))
        · intro e u hs
          simpa using Attempts.cut hp (Round.made he hs (Follows.cut e))
      · intro e t he
        exact Attempts.cut hp (Round.cut e he)

/-! ## The work on a stage -/

/-- The traces of the work on a stage. -/
inductive Works (stage : Stage) (config : Config) (limits : Constraints) :
    List Entry → Except Abort Work → Prop where
  | once {t : List Entry} {r : SpawnResult} (hl : stage.loop = false)
      (hs : Spawns stage config t (.ok (.ok r))) :
      Works stage config limits t
        (.ok ⟨1, .ok ⟨r.success, r.error, if r.success then .singlePass else .stageFailed⟩⟩)
  | onceRaised {t : List Entry} {f : Fault} (hl : stage.loop = false)
      (hs : Spawns stage config t (.ok (.error f))) :
      Works stage config limits t (.ok ⟨1, .error f⟩)
  | onceCut {t : List Entry} {e : Abort} (hl : stage.loop = false)
      (hs : Spawns stage config t (.error e)) : Works stage config limits t (.error e)
  | unchecked (hl : stage.loop = true) (hc : CompletionCheck.of? c stage = none) :
      Works stage config limits [] (.ok ⟨0, .error (CompletionCheck.missing stage)⟩)
  | repeated {check : CompletionCheck σ} {t logs : List Entry} {o : Except Abort Work}
      (hl : stage.loop = true) (hc : CompletionCheck.of? c stage = some check)
      (ha : Attempts stage config check limits.deadline 0 limits.remaining.toNat t o)
      (hq : Quiet logs) : Works stage config limits (t ++ logs) o

/-- A stage that does not loop makes one attempt. -/
theorem traced_once {stage : Stage} (config : Config) (limits : Constraints)
    (hl : stage.loop = false) : Traced (once c stage config) (Works c stage config limits) := by
  unfold once
  apply Traced.bind (traced_spawn c stage config)
  · rintro (f | r) t hs
    · apply Traced.pure
      simpa using Works.onceRaised hl hs
    · apply Traced.pure
      simpa using Works.once hl hs
  · intro e t hs
    exact Works.onceCut hl hs

/-- A loop stage makes attempts if it has a completion check, and is at fault otherwise. -/
theorem traced_repeatedly {stage : Stage} (config : Config) (limits : Constraints)
    (hl : stage.loop = true) :
    Traced (repeatedly c stage config limits) (Works c stage config limits) := by
  unfold repeatedly
  split
  -- without a check nothing is done, and the fault is that it is missing
  next hc => exact Traced.pure (Works.unchecked hl hc)
  next check hc =>
    apply Traced.bind (traced_attempts c stage config check limits.deadline 0 _)
    · intro work t ha
      dsimp only
      split
      · apply Traced.log_bind
        exact Traced.pure (Works.repeated hl hc ha (quiet_log _))
      · exact Traced.pure (Works.repeated hl hc ha Quiet.nil)
    · intro e t ha
      simpa using Works.repeated hl hc ha Quiet.nil

/-! ## A stage as a whole -/

/-- The traces of a stage, and what is recorded of it. -/
inductive Performs (stage : Stage) (config : Config) (limits : Constraints) :
    List Entry → Except Abort StageResult → Prop where
  | ended {t : List Entry} {n : Nat} {e : Ending} (duration : Float)
      (hw : Works c stage config limits t (.ok ⟨n, .ok e⟩)) :
      Performs stage config limits t
        (.ok ⟨stage, e.success, n, duration, e.error, some e.reason⟩)
  | contained {t logs u : List Entry} {n : Nat} {f : Fault} (duration : Float)
      (hw : Works c stage config limits t (.ok ⟨n, .error f⟩)) (hq : Quiet logs)
      (he : Emits config.sink (.error f.message stage) u) :
      Performs stage config limits (t ++ (logs ++ u))
        (.ok ⟨stage, false, n, duration, some f.message, some .stageFailed⟩)
  | cut {t : List Entry} {e : Abort} (hw : Works c stage config limits t (.error e)) :
      Performs stage config limits t (.error e)
  | containCut {t logs u : List Entry} {n : Nat} {f : Fault} (e : Abort)
      (hw : Works c stage config limits t (.ok ⟨n, .error f⟩)) (hq : Quiet logs)
      (he : Emits config.sink (.error f.message stage) u) :
      Performs stage config limits (t ++ (logs ++ u)) (.error e)

/-- Whatever the collaborators do, the work on a stage leaves one of the traces of `Works`. -/
theorem traced_work (stage : Stage) (config : Config) (limits : Constraints) :
    Traced (if stage.loop then repeatedly c stage config limits else once c stage config)
      (Works c stage config limits) := by
  cases hl : stage.loop with
  | true =>
    simp only [if_true]
    exact traced_repeatedly c config limits hl
  | false =>
    simp only [Bool.false_eq_true, if_false]
    exact traced_once c config limits hl

/-- To contain a fault is to write it to the log and to report it, and the stage fails with its
message. -/
theorem traced_contain (stage : Stage) (config : Config) (f : Fault) :
    Traced (contain c stage config f) fun t o =>
      (∃ logs u, Quiet logs ∧ Emits config.sink (.error f.message stage) u ∧ t = logs ++ u) ∧
        ∀ e, o = .ok e → e = ⟨false, some f.message, .stageFailed⟩ := by
  unfold contain
  apply Traced.log_bind
  apply Traced.bind (traced_emit c _ _)
  · intro _ u he
    exact Traced.pure ⟨⟨_, _, quiet_log _, he, by rw [List.append_nil]; rfl⟩, by simp⟩
  · intro e u he
    exact ⟨⟨_, _, quiet_log _, he, rfl⟩, by simp⟩

/-- Whatever the collaborators do, a stage leaves one of the traces of `Performs`. -/
theorem traced_stage (stage : Stage) (config : Config) (limits : Constraints) :
    Traced (Run.stage c stage config (some limits)) (Performs c stage config limits) := by
  unfold Run.stage
  apply Traced.observe_bind
  intro start
  -- both kinds of work go on in the same way
  apply Traced.ite_bind
  apply Traced.bind (traced_work c stage config limits)
  · rintro ⟨n, f | e⟩ t hw
    · apply Traced.bind (traced_contain c stage config f)
      · rintro e v ⟨⟨logs, u, hq, he, rfl⟩, hv⟩
        rcases hv e rfl with rfl
        apply Traced.observe_bind
        intro finish
        apply Traced.pure
        rw [List.append_nil]
        exact Performs.contained _ hw hq he
      · rintro e v ⟨⟨logs, u, hq, he, rfl⟩, -⟩
        exact Performs.containCut e hw hq he
    · simp only [pure_bind]
      apply Traced.observe_bind
      intro finish
      apply Traced.pure
      rw [List.append_nil]
      exact Performs.ended _ hw
  · intro e t hw
    exact Performs.cut hw

end AgentChain.Run
