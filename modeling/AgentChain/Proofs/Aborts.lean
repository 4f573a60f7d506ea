import AgentChain.Proofs.Course

/-!
# Where aborts come from

A run contains the faults of its collaborators and makes up no abort of its own: an abort that ends
a run is one with which the sink, the executor, a completion check or the task store ended a call.
`AbortsOnly` says so of a part of a run. It follows the way in which runs are put together, and has
one lemma for each part.

Main statement: `aborts_of_chain`.
-/

namespace AgentChain.Run

variable {σ α β : Type}

/-- Some call of a collaborator ends with the abort `e`. Tasks are those that the task store
lists. -/
inductive Aborts (c : Collaborators σ) (e : Abort) : Prop where
  | sink (h : Handle) (event : Event) (w : σ) (ho : (c.sink h event w).outcome = .aborted e)
  | spawn (request : SpawnRequest) (w : σ) (ho : (c.executor.spawn request w).1 = .aborted e)
  | dispose (w : σ) (ho : (c.executor.dispose w).1 = .aborted e)
  | check (h : Handle) (root : Path) (w : σ) (ho : (c.check h root w).1 = .aborted e)
  | listTasks {store : TaskStore σ} (hs : c.store = some store) (root : Path) (w : σ)
      (ho : (store.listTasks root w).1 = .aborted e)
  | status {store : TaskStore σ} (hs : c.store = some store) (root : Path) (w : σ)
      {listing : List (TaskRecord σ)} (hl : (store.listTasks root w).1 = .answered (some listing))
      {task : TaskRecord σ} (ht : task ∈ listing) (w' : σ) (ho : (task.status w').1 = .aborted e)

/-- Every abort that ends `m` is of this sort. -/
def AbortsOnly (A : Abort → Prop) (m : Run σ α) : Prop :=
  Traced m fun _ o => ∀ e, o = .error e → A e

/-! ## Rules -/

namespace AbortsOnly

variable {A : Abort → Prop} {m : Run σ α}

theorem pure (a : α) : AbortsOnly A (Pure.pure a : Run σ α) := Traced.pure (by simp)

theorem note (entries : List Entry) : AbortsOnly A (Run.note entries : Run σ Unit) :=
  Traced.note (by simp)

theorem log (level : Level) (message : String) :
    AbortsOnly A (Run.log level message : Run σ Unit) :=
  note _

theorem observe (f : σ → α × σ) : AbortsOnly A (Run.observe f) := Traced.observe (by simp)

/-- A sequence is aborted by its first part or by its second. -/
theorem bind {f : α → Run σ β} (hm : AbortsOnly A m) (hf : ∀ a, AbortsOnly A (f a)) :
    AbortsOnly A (m >>= f) := by
  apply Traced.bind hm
  · intro a t _
    exact hf a
  · rintro e t he _ ⟨⟩
    exact he e rfl

/-- A part with a cleanup is aborted by itself or by the cleanup. -/
theorem finallyDo {cleanup : Run σ Unit} (hm : AbortsOnly A m) (hc : AbortsOnly A cleanup) :
    AbortsOnly A (Run.finallyDo m cleanup) := by
  apply Traced.finallyDo hm hc
  · intro t o u ho _
    exact ho
  · rintro t o u e - he _ ⟨⟩
    exact he e rfl

/-- What comes after a call may rely on what the call has answered. -/
theorem attempt_bind {call : Call σ α} {entry : Outcome α → Entry} {f : Except Fault α → Run σ β}
    (hx : ∀ w e, (call w).1 = .aborted e → A e)
    (ha : ∀ w a, (call w).1 = .answered a → AbortsOnly A (f (.ok a)))
    (hf : ∀ fault, AbortsOnly A (f (.error fault))) :
    AbortsOnly A (Run.attempt call entry >>= f) := by
  intro w
  -- the world in which the call is made is at hand, so that its answer can be named
  have hs := steps_attempt call entry w
  cases hout : (call w).1 with
  | answered a =>
    rw [hout] at hs
    rcases ha w a hout (call w).2 with ⟨t, o, w', hrest, ho⟩
    exact ⟨_, o, w', hs.bind hrest, ho⟩
  | raised fault =>
    rw [hout] at hs
    rcases hf fault (call w).2 with ⟨t, o, w', hrest, ho⟩
    exact ⟨_, o, w', hs.bind hrest, ho⟩
  | aborted e =>
    rw [hout] at hs
    refine ⟨_, _, _, hs.bind_error, ?_⟩
    rintro _ ⟨⟩
    exact hx w e hout

/-- A call aborts the run exactly as whoever is called does. -/
theorem attempt {call : Call σ α} (hx : ∀ w e, (call w).1 = .aborted e → A e)
    (entry : Outcome α → Entry) : AbortsOnly A (Run.attempt call entry) := by
  rw [← bind_pure (Run.attempt call entry)]
  exact attempt_bind hx (fun _ _ _ => pure _) fun _ => pure _

end AbortsOnly

/-! ## The parts of a run -/

variable (c : Collaborators σ)

/-- In an emission only the sink can abort the run. -/
theorem abortsOnly_emit (sink : Option Handle) (event : Event) :
    AbortsOnly (Aborts c) (emit c sink event) := by
  -- which world the emission starts from matters, since the sink is asked in it
  apply (traced_emit c sink event).origin.mono
  rintro t o ⟨-, w, -, rfl⟩ e he
  rcases outcomeFrom_emit_eq_error_iff.1 he with ⟨h, -, hout⟩
  exact Aborts.sink h event w hout

/-- Asking for the signal does not abort a run. -/
theorem abortsOnly_isCancelled (signal : Option Signal) :
    AbortsOnly (Aborts c) (isCancelled c signal) := by
  cases signal with
  | none => exact AbortsOnly.pure _
  | some s => exact AbortsOnly.observe _

/-- A poll does not abort a run. -/
theorem abortsOnly_poll (signal : Option Signal) (deadline : Float) :
    AbortsOnly (Aborts c) (poll c signal deadline) := by
  unfold poll
  apply AbortsOnly.bind (AbortsOnly.observe _)
  intro t
  apply AbortsOnly.bind (abortsOnly_isCancelled c signal)
  intro cancelled
  exact AbortsOnly.bind (AbortsOnly.note _) fun _ => AbortsOnly.pure _

/-- In an attempt the executor can abort the run, and so can the sink. -/
theorem abortsOnly_spawn (s : Stage) (config : Config) :
    AbortsOnly (Aborts c) (spawn c s config) := by
  unfold spawn
  apply AbortsOnly.attempt_bind (fun w e ho => Aborts.spawn _ w ho)
  · intro w r _
    dsimp only
    cases r.success with
    | true =>
      apply AbortsOnly.bind (abortsOnly_emit c _ _)
      intro _
      exact AbortsOnly.bind (abortsOnly_emit c _ _) fun _ => AbortsOnly.pure _
    | false => exact AbortsOnly.bind (AbortsOnly.log _ _) fun _ => AbortsOnly.pure _
  · intro fault
    exact AbortsOnly.pure _

/-- Going through tasks is aborted only where the status of one of them is read. -/
theorem abortsOnly_allDone {A : Abort → Prop} {tasks : List (TaskRecord σ)}
    (h : ∀ task ∈ tasks, ∀ w e, (task.status w).1 = .aborted e → A e) :
    AbortsOnly A (CompletionCheck.allDone tasks) := by
  -- the tasks behind one that is not done are not read
  induction tasks with
  | nil => exact AbortsOnly.pure _
  | cons task tasks ih =>
    rcases List.forall_mem_cons.1 h with ⟨htask, htasks⟩
    apply AbortsOnly.attempt_bind htask
    · intro w s _
      dsimp only
      split
      · exact ih htasks
      · exact AbortsOnly.pure _
    · intro fault
      exact AbortsOnly.pure _

/-- To ask the task store is aborted by the listing, or where the status of a listed task is
read. -/
theorem abortsOnly_ofTasks {store : TaskStore σ} (hs : c.store = some store) (root : Path) :
    AbortsOnly (Aborts c) (CompletionCheck.ofTasks store root) := by
  unfold CompletionCheck.ofTasks
  apply AbortsOnly.attempt_bind (fun w e ho => Aborts.listTasks hs root w ho)
  · intro w listing hl
    cases listing with
    | none => exact AbortsOnly.pure _
    | some tasks =>
      cases tasks with
      | nil => exact AbortsOnly.pure _
      | cons task tasks =>
        -- a task that is read is one of those that were listed
        exact abortsOnly_allDone fun _ ht w' _ ho => Aborts.status hs root w hl ht w' ho
  · intro fault
    exact AbortsOnly.pure _

/-- In a completion check only the check itself, or the task store and its tasks, can abort the
run. -/
theorem abortsOnly_ask {s : Stage} {check : CompletionCheck σ}
    (hc : CompletionCheck.of? c s = some check) (root : Path) :
    AbortsOnly (Aborts c) (check.ask c root) := by
  -- writing the verdict to the journal is common to both kinds of checks
  have hnote : ∀ answer : Except Fault Bool, AbortsOnly (Aborts c)
      (note [.verdict answer] >>= fun _ => (pure answer : Run σ (Except Fault Bool))) :=
    fun answer => AbortsOnly.bind (AbortsOnly.note _) fun _ => AbortsOnly.pure _
  cases check with
  | own h =>
    exact AbortsOnly.bind (AbortsOnly.attempt (fun w _ ho => Aborts.check h root w ho) _) hnote
  | tasks store =>
    exact AbortsOnly.bind (abortsOnly_ofTasks c (CompletionCheck.store_eq_of_of? hc) root) hnote

/-- In the rounds of a loop stage nobody but a collaborator aborts the run. -/
theorem abortsOnly_attempts {s : Stage} {check : CompletionCheck σ}
    (hc : CompletionCheck.of? c s = some check) (config : Config) (deadline : Float)
    (done left : Nat) : AbortsOnly (Aborts c) (attempts c s config check deadline done left) := by
  -- each round takes one from the attempts that are left
  induction left generalizing done with
  | zero => exact AbortsOnly.pure _
  | succ left ih =>
    unfold attempts
    apply AbortsOnly.bind (abortsOnly_poll c _ _)
    rintro (_ | reason)
    · apply AbortsOnly.bind (abortsOnly_emit c _ _)
      intro _
      apply AbortsOnly.bind (AbortsOnly.log _ _)
      intro _
      apply AbortsOnly.bind (abortsOnly_spawn c s config)
      rintro (fault | r)
      · exact AbortsOnly.pure _
      dsimp only
      split
      · exact AbortsOnly.pure _
      · apply AbortsOnly.bind (abortsOnly_ask c hc config.root)
        rintro (fault | _ | _)
        · exact AbortsOnly.pure _
        · exact ih (done + 1)
        · exact AbortsOnly.pure _
    · exact AbortsOnly.pure _

/-- In the work on a stage nobody but a collaborator aborts the run. -/
theorem abortsOnly_work (s : Stage) (config : Config) (limits : Constraints) :
    AbortsOnly (Aborts c)
      (if s.loop then repeatedly c s config limits else once c s config) := by
  split
  · unfold repeatedly
    split
    next => exact AbortsOnly.pure _
    next check hc =>
      apply AbortsOnly.bind (abortsOnly_attempts c hc config _ _ _)
      intro work
      dsimp only
      split
      · exact AbortsOnly.bind (AbortsOnly.log _ _) fun _ => AbortsOnly.pure _
      · exact AbortsOnly.pure _
  · apply AbortsOnly.bind (abortsOnly_spawn c s config)
    rintro (fault | r)
    · exact AbortsOnly.pure _
    · exact AbortsOnly.pure _

/-- In containing a fault only the sink can abort the run. -/
theorem abortsOnly_contain (s : Stage) (config : Config) (f : Fault) :
    AbortsOnly (Aborts c) (contain c s config f) := by
  apply AbortsOnly.bind (AbortsOnly.log _ _)
  intro _
  exact AbortsOnly.bind (abortsOnly_emit c _ _) fun _ => AbortsOnly.pure _

/-- In a stage nobody but a collaborator aborts the run. -/
theorem abortsOnly_stage (s : Stage) (config : Config) (limits : Option Constraints) :
    AbortsOnly (Aborts c) (stage c s config limits) := by
  unfold stage
  apply AbortsOnly.bind (AbortsOnly.observe _)
  intro start
  -- both kinds of work go on in the same way
  apply Traced.ite_bind
  apply AbortsOnly.bind (abortsOnly_work c s config _)
  rintro ⟨n, f | e⟩
  · apply AbortsOnly.bind (abortsOnly_contain c s config f)
    intro e
    exact AbortsOnly.bind (AbortsOnly.observe _) fun _ => AbortsOnly.pure _
  · simp only [pure_bind]
    exact AbortsOnly.bind (AbortsOnly.observe _) fun _ => AbortsOnly.pure _

/-- In the stages of a chain nobody but a collaborator aborts the run. -/
theorem abortsOnly_stages (config : Config) (index : Nat) (limits : Constraints)
    (list : List Stage) : AbortsOnly (Aborts c) (stages c config index limits list) := by
  -- the index and the caps change from stage to stage, and the aborts do not depend on them
  induction list generalizing index limits with
  | nil => exact AbortsOnly.pure _
  | cons s rest ih =>
    unfold stages
    apply AbortsOnly.bind (abortsOnly_poll c _ _)
    rintro (_ | reason)
    · apply AbortsOnly.bind (abortsOnly_emit c _ _)
      intro _
      apply AbortsOnly.bind (abortsOnly_stage c s config _)
      intro result
      apply AbortsOnly.bind (abortsOnly_emit c _ _)
      intro _
      split
      · exact AbortsOnly.bind (ih _ _) fun _ => AbortsOnly.pure _
      · exact AbortsOnly.pure _
    · exact AbortsOnly.bind (AbortsOnly.log _ _) fun _ => AbortsOnly.pure _

/-- In its disposal only the executor can abort the run. -/
theorem abortsOnly_dispose : AbortsOnly (Aborts c) (dispose c) := by
  unfold dispose
  apply AbortsOnly.attempt_bind (fun w _ ho => Aborts.dispose w ho)
  · intro w _ _
    exact AbortsOnly.pure _
  · intro fault
    exact AbortsOnly.log _ _

/-- In the conclusion of a chain only the sink can abort the run. -/
theorem abortsOnly_conclude (config : Config) (start : Float)
    (left : List StageResult × Option StopReason) :
    AbortsOnly (Aborts c) (conclude c config start left) := by
  unfold conclude lastPoll
  simp only [bind_assoc, pure_bind]
  apply AbortsOnly.bind (abortsOnly_isCancelled c _)
  intro cancelled
  apply AbortsOnly.bind (AbortsOnly.note _)
  intro _
  apply AbortsOnly.bind (AbortsOnly.observe _)
  intro finish
  apply AbortsOnly.bind (AbortsOnly.log _ _)
  intro _
  exact AbortsOnly.bind (abortsOnly_emit c _ _) fun _ => AbortsOnly.pure _

/-- In a chain nobody but a collaborator aborts the run. -/
theorem abortsOnly_chain (config : Config) : AbortsOnly (Aborts c) (chain c config) := by
  rw [chain_eq]
  apply AbortsOnly.bind (AbortsOnly.observe _)
  intro start
  apply AbortsOnly.bind (AbortsOnly.log _ _)
  intro _
  apply AbortsOnly.bind (abortsOnly_emit c _ _)
  intro _
  have hstages := abortsOnly_stages c config 0 (fullConstraints config start) config.stages
  exact (hstages.finallyDo (abortsOnly_dispose c)).bind (abortsOnly_conclude c config start)

variable {c}

/-- An abort that ends a run is one of a collaborator's. -/
theorem aborts_of_chain {config : Config} {w : σ} {e : Abort}
    (h : outcomeFrom (chain c config) w = .error e) : Aborts c e :=
  (abortsOnly_chain c config).apply w e h

/-- A run returns a result unless a collaborator aborts it. -/
theorem chain_returns (h : ∀ e, ¬ Aborts c e) (config : Config) (w : σ) :
    ∃ R, outcomeFrom (chain c config) w = .ok R := by
  cases ho : outcomeFrom (chain c config) w with
  | ok R => exact ⟨R, rfl⟩
  | error e => exact absurd (aborts_of_chain ho) (h e)

end AgentChain.Run
