import Mathlib.Data.List.Forall2
import AgentChain.Proofs.Course

/-!
# Two runs in step

Two runs with different collaborators go in step if there is a relation between the worlds that the
collaborators keep: in related worlds they answer alike, and leave worlds that are related again.
What holds of the collaborators then holds of every part of a run: from related worlds both runs end
in the same way and in related worlds, and their traces agree in all entries of a chosen sort
(`Coupled`). Only the sinks may differ in what they do, as long as an emission keeps to that too
(`InStep`).

* `Coupled.pure`, `Coupled.bind` and the rules after them for the ways to put runs together;
* `InStep.stages`, `Akin.disposal` and `InStep.conclude` for the parts of a chain, and
  `InStep.chain` for the whole of it.
-/

namespace AgentChain.Run

variable {σ σ' α β : Type}

/-! ## Calls that match -/

/-- Two calls end in the same way, with related answers. -/
inductive OutcomesMatch (R : α → β → Prop) : Outcome α → Outcome β → Prop where
  | answered {a : α} {b : β} (h : R a b) : OutcomesMatch R (.answered a) (.answered b)
  | raised (f : Fault) : OutcomesMatch R (.raised f) (.raised f)
  | aborted (e : Abort) : OutcomesMatch R (.aborted e) (.aborted e)

/-- Calls that end in the same way with equal answers end in the same way. -/
theorem OutcomesMatch.eq {o o' : Outcome α} (h : OutcomesMatch Eq o o') : o = o' := by
  cases h with
  | answered h => rw [h]
  | raised | aborted => rfl

theorem OutcomesMatch.refl (o : Outcome α) : OutcomesMatch Eq o o := by
  cases o with
  | answered a => exact .answered rfl
  | raised f => exact .raised f
  | aborted e => exact .aborted e

/-- In related worlds the two calls end in the same way, with related answers, and leave related
worlds. -/
def CallsMatch (S : σ → σ' → Prop) (R : α → β → Prop) (call : Call σ α) (call' : Call σ' β) :
    Prop :=
  ∀ w w', S w w' → OutcomesMatch R (call w).1 (call' w').1 ∧ S (call w).2 (call' w').2

/-- The two tasks have the same status whenever they are read. -/
def TasksMatch (S : σ → σ' → Prop) (task : TaskRecord σ) (task' : TaskRecord σ') : Prop :=
  CallsMatch S Eq task.status task'.status

/-- The two stores list tasks that match. -/
def StoresMatch (S : σ → σ' → Prop) (store : TaskStore σ) (store' : TaskStore σ') : Prop :=
  ∀ root, CallsMatch S (Option.Rel (List.Forall₂ (TasksMatch S))) (store.listTasks root)
    (store'.listTasks root)

/-- Apart from their sinks, the collaborators act alike in related worlds. -/
structure Akin (S : σ → σ' → Prop) (c : Collaborators σ) (c' : Collaborators σ') : Prop where
  clock : ∀ w w', S w w' → (c.clock w).1 = (c'.clock w').1 ∧ S (c.clock w).2 (c'.clock w').2
  isSet : ∀ signal w w', S w w' →
    (c.isSet signal w).1 = (c'.isSet signal w').1 ∧ S (c.isSet signal w).2 (c'.isSet signal w').2
  check : ∀ h root, CallsMatch S Eq (c.check h root) (c'.check h root)
  name_eq : c.executor.name = c'.executor.name
  spawn : ∀ request, CallsMatch S Eq (c.executor.spawn request) (c'.executor.spawn request)
  dispose : CallsMatch S Eq c.executor.dispose c'.executor.dispose
  store : Option.Rel (StoresMatch S) c.store c'.store

/-! ## Coupled runs -/

/-- Two runs end in the same way, with related results. -/
inductive EndsMatch {ε : Type} (R : α → β → Prop) : Except ε α → Except ε β → Prop where
  | ok {a : α} {b : β} (h : R a b) : EndsMatch R (.ok a) (.ok b)
  | error (e : ε) : EndsMatch R (.error e) (.error e)

theorem EndsMatch.eq {ε : Type} {o o' : Except ε α} (h : EndsMatch Eq o o') : o = o' := by
  cases h with
  | ok h => rw [h]
  | error => rfl

/-- From related worlds the two runs end in the same way and in related worlds, with related
results, and their traces agree in the entries of the sort `p`. -/
def Coupled (p : Entry → Bool) (S : σ → σ' → Prop) (R : α → β → Prop) (m : Run σ α)
    (m' : Run σ' β) : Prop :=
  ∀ w w', S w w' → ∃ t t' o o' v v', Steps m w t o v ∧ Steps m' w' t' o' v' ∧ S v v' ∧
    EndsMatch R o o' ∧ t.filter p = t'.filter p

/-- Traces that agree part by part agree as a whole. -/
theorem filter_append_eq {p : Entry → Bool} {t t' u u' : List Entry} (ht : t.filter p = t'.filter p)
    (hu : u.filter p = u'.filter p) : (t ++ u).filter p = (t' ++ u').filter p := by
  rw [List.filter_append, List.filter_append, ht, hu]

namespace Coupled

variable {γ δ : Type} {p : Entry → Bool} {S : σ → σ' → Prop} {R : α → β → Prop} {Q : γ → δ → Prop}

/-- From related worlds, coupled runs end in the same way and leave the same entries of the sort. -/
theorem apply {m : Run σ α} {m' : Run σ' α} (h : Coupled p S Eq m m') {w : σ} {w' : σ'}
    (hw : S w w') : outcomeFrom m w = outcomeFrom m' w' ∧
      (journalFrom m w).filter p = (journalFrom m' w').filter p := by
  obtain ⟨t, t', o, o', v, v', hs, hs', -, ho, ht⟩ := h w w' hw
  rw [hs.outcomeFrom_eq, hs'.outcomeFrom_eq, hs.journalFrom_eq, hs'.journalFrom_eq]
  exact ⟨ho.eq, ht⟩

/-- Answers that are there already need only be related. -/
theorem pure {a : α} {b : β} (h : R a b) :
    Coupled p S R (Pure.pure a : Run σ α) (Pure.pure b : Run σ' β) := by
  intro w w' hw
  exact ⟨[], [], _, _, w, w', steps_pure a w, steps_pure b w', hw, .ok h, rfl⟩

/-- What is written to the two journals must agree in the entries of the sort. -/
theorem note {entries entries' : List Entry} (h : entries.filter p = entries'.filter p) :
    Coupled p S Eq (Run.note entries : Run σ Unit) (Run.note entries' : Run σ' Unit) := by
  intro w w' hw
  exact ⟨_, _, _, _, w, w', steps_note entries w, steps_note entries' w', hw, .ok rfl, h⟩

theorem log (level : Level) (message : String) :
    Coupled p S Eq (Run.log level message : Run σ Unit) (Run.log level message : Run σ' Unit) :=
  note rfl

/-- Where the log does not count, different messages make no difference. -/
theorem hidden_log {level : Level} {m m' : String} (h : ∀ record, p (.log record) = false) :
    Coupled p S Eq (Run.log level m : Run σ Unit) (Run.log level m' : Run σ' Unit) :=
  note (by simp [h])

/-- Observations must have related answers and leave related worlds. -/
theorem observe {f : σ → α × σ} {f' : σ' → β × σ'}
    (h : ∀ w w', S w w' → R (f w).1 (f' w').1 ∧ S (f w).2 (f' w').2) :
    Coupled p S R (Run.observe f) (Run.observe f') := by
  intro w w' hw
  obtain ⟨ha, hv⟩ := h w w' hw
  exact ⟨[], [], _, _, _, _, steps_observe f w, steps_observe f' w', hv, .ok ha, rfl⟩

/-- Sequences are coupled part by part, where the second parts start from related results. -/
theorem bind {m : Run σ α} {m' : Run σ' β} {f : α → Run σ γ} {f' : β → Run σ' δ}
    (hm : Coupled p S R m m') (hf : ∀ a b, R a b → Coupled p S Q (f a) (f' b)) :
    Coupled p S Q (m >>= f) (m' >>= f') := by
  intro w w' hw
  obtain ⟨t, t', o, o', v, v', hs, hs', hv, ho, ht⟩ := hm w w' hw
  -- both first parts are aborted, or both have results from which the second parts start
  cases ho with
  | error e => exact ⟨t, t', _, _, v, v', hs.bind_error, hs'.bind_error, hv, .error e, ht⟩
  | ok hab =>
    obtain ⟨u, u', o, o', x, x', hu, hu', hx, ho, hut⟩ := hf _ _ hab v v' hv
    exact ⟨t ++ u, t' ++ u', o, o', x, x', hs.bind hu, hs'.bind hu', hx, ho,
      filter_append_eq ht hut⟩

/-- Two runs whose first parts have equal results go on from the same result. -/
theorem bind_eq {m : Run σ α} {m' : Run σ' α} {f : α → Run σ γ} {f' : α → Run σ' δ}
    (hm : Coupled p S Eq m m') (hf : ∀ a, Coupled p S Q (f a) (f' a)) :
    Coupled p S Q (m >>= f) (m' >>= f') := by
  apply bind hm
  rintro a _ rfl
  exact hf a

/-- A part with a cleanup is coupled if the part is, and if the cleanup is. -/
theorem finallyDo {m : Run σ α} {m' : Run σ' β} {cleanup : Run σ Unit} {cleanup' : Run σ' Unit}
    (hm : Coupled p S R m m') (hc : Coupled p S Eq cleanup cleanup') :
    Coupled p S R (Run.finallyDo m cleanup) (Run.finallyDo m' cleanup') := by
  intro w w' hw
  obtain ⟨t, t', o, o', v, v', hs, hs', hv, ho, ht⟩ := hm w w' hw
  obtain ⟨u, u', oc, oc', x, x', hu, hu', hx, hoc, hut⟩ := hc v v' hv
  have htraces := filter_append_eq ht hut
  cases hoc with
  | ok => exact ⟨_, _, o, o', x, x', hs.finallyDo hu, hs'.finallyDo hu', hx, ho, htraces⟩
  | error e =>
    exact ⟨_, _, _, _, x, x', hs.finallyDo_error hu, hs'.finallyDo_error hu', hx, .error e, htraces⟩

/-- Calls that match are coupled, if what they leave in the journals is the same. -/
theorem attempt {call : Call σ α} {call' : Call σ' β} {entry : Outcome α → Entry}
    {entry' : Outcome β → Entry} (h : CallsMatch S R call call')
    (he : ∀ o o', OutcomesMatch R o o' → entry o = entry' o') :
    Coupled p S (EndsMatch R) (Run.attempt call entry) (Run.attempt call' entry') := by
  intro w w' hw
  obtain ⟨ho, hv⟩ := h w w' hw
  refine ⟨_, _, _, _, _, _, steps_attempt call entry w, steps_attempt call' entry' w', hv, ?_, ?_⟩
  -- how the calls ended is made a variable, so that the match can be taken apart
  · generalize (call w).1 = o at ho
    generalize (call' w').1 = o' at ho
    cases ho with
    | answered hab => exact .ok (.ok hab)
    | raised f => exact .ok (.error f)
    | aborted e => exact .error e
  · rw [he _ _ ho]

/-- Calls with equal answers. -/
theorem attempt_eq {call : Call σ α} {call' : Call σ' α} (h : CallsMatch S Eq call call')
    (entry : Outcome α → Entry) :
    Coupled p S Eq (Run.attempt call entry) (Run.attempt call' entry) := by
  intro w w' hw
  have hboth := attempt h (fun o o' ho => congrArg entry ho.eq) (p := p) w w' hw
  obtain ⟨t, t', o, o', v, v', hs, hs', hv, ho, ht⟩ := hboth
  refine ⟨t, t', o, o', v, v', hs, hs', hv, ?_, ht⟩
  cases ho with
  | ok h => exact .ok h.eq
  | error e => exact .error e

/-- What is known of the result of one run is known of that of the other. -/
theorem knowing {m : Run σ α} {m' : Run σ' α} {P : α → Prop} (h : Coupled p S Eq m m')
    (hP : Traced m fun _ o => ∀ a, o = .ok a → P a) :
    Coupled p S (fun a b => a = b ∧ P a) m m' := by
  intro w w' hw
  obtain ⟨t, t', o, o', v, v', hs, hs', hv, ho, ht⟩ := h w w' hw
  -- the first run is known about from `hP`, and the second has the same result
  have hknown := hP.apply w
  rw [hs.outcomeFrom_eq] at hknown
  refine ⟨t, t', o, o', v, v', hs, hs', hv, ?_, ht⟩
  cases ho with
  | ok hab => exact .ok ⟨hab, hknown _ rfl⟩
  | error e => exact .error e

end Coupled

/-! ## Rounds and records -/

/-- One round of a loop stage in which `done` attempts have been made: what comes of the work,
unless another round is to follow. -/
def round (c : Collaborators σ) (stage : Stage) (config : Config) (check : CompletionCheck σ)
    (deadline : Float) (done : Nat) : Run σ (Option Work) := do
  match ← poll c config.signal deadline with
  | some reason => pure (some ⟨done, .ok ⟨true, none, reason⟩⟩)
  | none =>
    emit c config.sink (.stageIteration stage ↑(done + 1))
    log .info ("[" ++ stage.name.text ++ "] iteration " ++ toString (done + 1))
    match ← spawn c stage config with
    | .error f => pure (some ⟨done + 1, .error f⟩)
    | .ok r =>
      if !r.success then pure (some ⟨done + 1, .ok ⟨false, r.error, .stageFailed⟩⟩)
      else
        match ← check.ask c config.root with
        | .error f => pure (some ⟨done + 1, .error f⟩)
        | .ok true => pure (some ⟨done + 1, .ok ⟨true, none, .goalMet⟩⟩)
        | .ok false => pure none

/-- A loop stage with attempts left makes a round, and goes on with the others if it is to. -/
theorem attempts_succ (c : Collaborators σ) (stage : Stage) (config : Config)
    (check : CompletionCheck σ) (deadline : Float) (done left : Nat) :
    attempts c stage config check deadline done (left + 1) =
      round c stage config check deadline done >>= fun
        | some work => pure work
        | none => attempts c stage config check deadline (done + 1) left := by
  simp only [attempts, round, bind_assoc]
  apply bind_congr
  -- both sides poll first; what follows is compared branch by branch
  rintro (_ | reason)
  · simp only [bind_assoc]
    apply bind_congr
    intro _
    apply bind_congr
    intro _
    apply bind_congr
    rintro (f | r)
    · simp
    · cases hr : r.success with
      | false => simp [hr]
      | true =>
        simp only [hr, Bool.not_true, Bool.false_eq_true, if_false, bind_assoc]
        apply bind_congr
        rintro (f | _ | _) <;> simp
  · simp

/-- What a loop stage does once its attempts have come to an end: it writes to the log how they did,
unless the stage has failed. -/
def report (stage : Stage) (work : Work) : Run σ Work := do
  match work.ending with
  | .ok { success := true, reason, .. } =>
    log .info ("[" ++ stage.name.text ++ "] loop ended after " ++ toString work.iterations ++
      " iteration(s): " ++ reason.text)
  | _ => pure ()
  pure work

/-- A loop stage without a completion check is at fault before it begins anything. -/
theorem repeatedly_unchecked {c : Collaborators σ} {stage : Stage} {config : Config}
    {limits : Constraints} (hc : CompletionCheck.of? c stage = none) :
    repeatedly c stage config limits = pure ⟨0, .error (CompletionCheck.missing stage)⟩ := by
  unfold repeatedly
  rw [hc]

/-- A loop stage with a completion check makes its attempts and reports how they ended. -/
theorem repeatedly_eq {c : Collaborators σ} {stage : Stage} {config : Config}
    {limits : Constraints} {check : CompletionCheck σ}
    (hc : CompletionCheck.of? c stage = some check) :
    repeatedly c stage config limits =
      attempts c stage config check limits.deadline 0 limits.remaining.toNat >>= report stage := by
  unfold repeatedly
  rw [hc]
  rfl

/-- How the attempts ended is reported in the same way in both runs. -/
theorem coupled_report {p : Entry → Bool} {S : σ → σ' → Prop} {R : Work → Work → Prop}
    (stage : Stage) {work : Work} (h : R work work) :
    Coupled p S R (report stage work) (report stage work) := by
  unfold report
  split
  · exact Coupled.bind_eq (Coupled.log _ _) fun _ => Coupled.pure h
  · exact Coupled.pure h

/-- The report does not change what came of the work, and of work that succeeded it is one record of
the log. -/
theorem traced_report (stage : Stage) (work : Work) :
    Traced (report stage work : Run σ Work) fun t o => o = .ok work ∧
      ∀ e, work.ending = .ok e → e.success = true →
        t = [.log ⟨.info, .runner, "[" ++ stage.name.text ++ "] loop ended after " ++
          toString work.iterations ++ " iteration(s): " ++ e.reason.text⟩] := by
  unfold report
  split
  next error reason hending =>
    apply Traced.log_bind
    apply Traced.pure
    refine ⟨rfl, ?_⟩
    intro e he _
    rw [hending] at he
    cases he
    rfl
  next hfailed =>
    refine Traced.pure ⟨rfl, ?_⟩
    rintro ⟨_, error, reason⟩ he rfl
    exact absurd he (hfailed _ _)

/-- What is recorded of a stage that started at the time `start`, once its work has come to an
end. -/
def record (c : Collaborators σ) (stage : Stage) (config : Config) (start : Float) (work : Work) :
    Run σ StageResult := do
  let ending ← match work.ending with
    | .ok ending => pure ending
    | .error f => contain c stage config f
  let finish ← now c
  pure {
    stage
    success := ending.success
    iterations := work.iterations
    duration := finish - start
    error := ending.error
    stopReason := some ending.reason }

/-- What is recorded of a stage is that its work ended, with the iterations of the work, or that a
fault failed it. -/
theorem traced_record (c : Collaborators σ) (stage : Stage) (config : Config) (start : Float)
    (work : Work) :
    Traced (record c stage config start work) fun t o => ∀ r, o = .ok r →
      r.stage = stage ∧ r.iterations = work.iterations ∧
        ((∃ e, work.ending = .ok e ∧ t = [] ∧ r.stopReason = some e.reason) ∨
          ∃ f, work.ending = .error f ∧ r.stopReason = some .stageFailed) := by
  unfold record
  cases work.ending with
  | ok e =>
    simp only [pure_bind]
    apply Traced.observe_bind
    intro finish
    apply Traced.pure
    rintro r ⟨⟩
    exact ⟨rfl, rfl, .inl ⟨e, rfl, rfl, rfl⟩⟩
  | error f =>
    apply Traced.bind (traced_contain c stage config f)
    · rintro e t ⟨-, he⟩
      rcases he e rfl with rfl
      apply Traced.observe_bind
      intro finish
      apply Traced.pure
      rintro r ⟨⟩
      exact ⟨rfl, rfl, .inr ⟨f, rfl, rfl⟩⟩
    · simp

/-- A stage does its work and records what came of it. -/
theorem stage_eq (c : Collaborators σ) (stage : Stage) (config : Config) (limits : Constraints) :
    Run.stage c stage config (some limits) = now c >>= fun start =>
      (if stage.loop then repeatedly c stage config limits else once c stage config) >>=
        record c stage config start := by
  unfold Run.stage
  cases stage.loop <;> rfl

/-! ## Runs in step -/

/-- Runs of the two configurations go in step: what their collaborators and they themselves ask for
is the same, and so is the course that an emission gives to a run. -/
structure InStep (p : Entry → Bool) (S : σ → σ' → Prop) (c : Collaborators σ)
    (c' : Collaborators σ') (config config' : Config) : Prop where
  akin : Akin S c c'
  root_eq : config.root = config'.root
  models_eq : config.models = config'.models
  signal_eq : config.signal = config'.signal
  emit : ∀ e, Coupled p S Eq (emit c config.sink e) (emit c' config'.sink e)

/-- The two completion checks are the same, or read stores that match. -/
inductive ChecksMatch (S : σ → σ' → Prop) : CompletionCheck σ → CompletionCheck σ' → Prop where
  | own (h : Handle) : ChecksMatch S (.own h) (.own h)
  | tasks {store : TaskStore σ} {store' : TaskStore σ'} (h : StoresMatch S store store') :
      ChecksMatch S (.tasks store) (.tasks store')

variable {p : Entry → Bool} {S : σ → σ' → Prop} {c : Collaborators σ} {c' : Collaborators σ'}
  {config config' : Config}

/-- Either both stages have a completion check, or neither has. -/
theorem Akin.of? (h : Akin S c c') (stage : Stage) :
    (CompletionCheck.of? c stage = none ∧ CompletionCheck.of? c' stage = none) ∨
      ∃ check check', CompletionCheck.of? c stage = some check ∧
        CompletionCheck.of? c' stage = some check' ∧ ChecksMatch S check check' := by
  have hstore := h.store
  unfold CompletionCheck.of?
  -- a check of the stage itself comes before the task store
  cases stage.check with
  | some handle => exact Or.inr ⟨_, _, rfl, rfl, .own handle⟩
  | none =>
    generalize c.store = store at hstore
    generalize c'.store = store' at hstore
    cases hstore with
    | none => exact Or.inl ⟨rfl, rfl⟩
    | some hs => exact Or.inr ⟨_, _, rfl, rfl, .tasks hs⟩

/-- Both runs read the same time. -/
theorem Akin.now (h : Akin S c c') : Coupled p S Eq (now c) (now c') :=
  Coupled.observe h.clock

/-- Both runs find the signal in the same state. -/
theorem Akin.isCancelled (h : Akin S c c') (signal : Option Signal) :
    Coupled p S Eq (isCancelled c signal) (isCancelled c' signal) := by
  cases signal with
  | none => exact Coupled.pure rfl
  | some s => exact Coupled.observe (h.isSet s)

/-- Lists of tasks that match are gone through in step. -/
theorem coupled_allDone {tasks : List (TaskRecord σ)} {tasks' : List (TaskRecord σ')}
    (h : List.Forall₂ (TasksMatch S) tasks tasks') :
    Coupled p S Eq (CompletionCheck.allDone tasks) (CompletionCheck.allDone tasks') := by
  induction h with
  | nil => exact Coupled.pure rfl
  | cons htask _ ih =>
    apply Coupled.bind_eq (Coupled.attempt_eq htask _)
    rintro (fault | status)
    · exact Coupled.pure rfl
    · dsimp only
      split
      · exact ih
      · exact Coupled.pure rfl

/-- Stores that match are asked in step. -/
theorem coupled_ofTasks {store : TaskStore σ} {store' : TaskStore σ'}
    (h : StoresMatch S store store') (root : Path) :
    Coupled p S Eq (CompletionCheck.ofTasks store root) (CompletionCheck.ofTasks store' root) := by
  apply Coupled.bind (Coupled.attempt (h root) fun _ _ _ => rfl)
  rintro _ _ (hlisting | fault)
  · cases hlisting with
    | none => exact Coupled.pure rfl
    | some htasks =>
      cases htasks with
      | nil => exact Coupled.pure rfl
      | cons htask hrest => exact coupled_allDone (.cons htask hrest)
  · exact Coupled.pure rfl

/-- Checks that match are asked in step. -/
theorem Akin.ask (h : Akin S c c') {check : CompletionCheck σ} {check' : CompletionCheck σ'}
    (hc : ChecksMatch S check check') (root : Path) :
    Coupled p S Eq (check.ask c root) (check'.ask c' root) := by
  have hnote : ∀ answer : Except Fault Bool, Coupled p S Eq
      (note [.verdict answer] >>= fun _ => (pure answer : Run σ (Except Fault Bool)))
      (note [.verdict answer] >>= fun _ => (pure answer : Run σ' (Except Fault Bool))) := by
    intro answer
    exact Coupled.bind_eq (Coupled.note rfl) fun _ => Coupled.pure rfl
  cases hc with
  | own handle => exact Coupled.bind_eq (Coupled.attempt_eq (h.check handle root) _) hnote
  | tasks hs => exact Coupled.bind_eq (coupled_ofTasks hs root) hnote

/-- The executors are disposed of in step. -/
theorem Akin.disposal (h : Akin S c c') : Coupled p S Eq (Run.dispose c) (Run.dispose c') := by
  unfold Run.dispose
  rw [h.name_eq]
  apply Coupled.bind_eq (Coupled.attempt_eq h.dispose _)
  rintro (fault | _)
  · exact Coupled.log _ _
  · exact Coupled.pure rfl

namespace InStep

variable (h : InStep p S c c' config config')
include h

/-- Both runs see the same at a poll. -/
theorem poll (deadline : Float) :
    Coupled p S Eq (poll c config.signal deadline) (poll c' config'.signal deadline) := by
  unfold Run.poll
  rw [h.signal_eq]
  apply Coupled.bind_eq h.akin.now
  intro time
  apply Coupled.bind_eq (h.akin.isCancelled _)
  intro cancelled
  exact Coupled.bind_eq (Coupled.note rfl) fun _ => Coupled.pure rfl

/-- Both runs ask their executors for the same. -/
theorem requestFor_eq (stage : Stage) : requestFor stage config = requestFor stage config' := by
  simp only [requestFor, h.root_eq, h.models_eq, h.signal_eq]

/-- Both runs make their attempts in step. -/
theorem spawn (stage : Stage) :
    Coupled p S Eq (spawn c stage config) (spawn c' stage config') := by
  unfold Run.spawn
  rw [h.requestFor_eq stage]
  apply Coupled.bind_eq (Coupled.attempt_eq (h.akin.spawn _) _)
  rintro (fault | r)
  · exact Coupled.pure rfl
  · dsimp only
    cases r.success with
    | true =>
      apply Coupled.bind_eq (h.emit _)
      intro _
      exact Coupled.bind_eq (h.emit _) fun _ => Coupled.pure rfl
    | false => exact Coupled.bind_eq (Coupled.log _ _) fun _ => Coupled.pure rfl

theorem once (stage : Stage) : Coupled p S Eq (once c stage config) (once c' stage config') := by
  unfold Run.once
  apply Coupled.bind_eq (h.spawn stage)
  rintro (fault | r)
  · exact Coupled.pure rfl
  · exact Coupled.pure rfl

/-- Both runs make their rounds in step. -/
theorem round (stage : Stage) {check : CompletionCheck σ} {check' : CompletionCheck σ'}
    (hc : ChecksMatch S check check') (deadline : Float) (done : Nat) :
    Coupled p S Eq (round c stage config check deadline done)
      (round c' stage config' check' deadline done) := by
  unfold Run.round
  apply Coupled.bind_eq (h.poll deadline)
  rintro (_ | reason)
  · apply Coupled.bind_eq (h.emit _)
    intro _
    apply Coupled.bind_eq (Coupled.log _ _)
    intro _
    apply Coupled.bind_eq (h.spawn stage)
    rintro (fault | r)
    · exact Coupled.pure rfl
    dsimp only
    split
    · exact Coupled.pure rfl
    · rw [h.root_eq]
      apply Coupled.bind_eq (h.akin.ask hc _)
      rintro (fault | _ | _) <;> exact Coupled.pure rfl
  · exact Coupled.pure rfl

/-- Both runs make all of their rounds in step. -/
theorem attempts (stage : Stage) {check : CompletionCheck σ} {check' : CompletionCheck σ'}
    (hc : ChecksMatch S check check') (deadline : Float) (done left : Nat) :
    Coupled p S Eq (attempts c stage config check deadline done left)
      (attempts c' stage config' check' deadline done left) := by
  -- both runs make their rounds together, so that the same number of attempts is left to them
  induction left generalizing done with
  | zero => exact Coupled.pure rfl
  | succ left ih =>
    rw [attempts_succ, attempts_succ]
    apply Coupled.bind_eq (h.round stage hc deadline done)
    rintro (_ | work)
    · exact ih (done + 1)
    · exact Coupled.pure rfl

/-- Loop stages go in step, and both are at fault where one is. -/
theorem repeatedly (stage : Stage) (limits : Constraints) :
    Coupled p S Eq (repeatedly c stage config limits) (repeatedly c' stage config' limits) := by
  rcases h.akin.of? stage with ⟨hcheck, hcheck'⟩ | ⟨check, check', hcheck, hcheck', hmatch⟩
  · rw [repeatedly_unchecked hcheck, repeatedly_unchecked hcheck']
    exact Coupled.pure rfl
  · rw [repeatedly_eq hcheck, repeatedly_eq hcheck']
    apply Coupled.bind_eq (h.attempts stage hmatch limits.deadline 0 _)
    intro work
    exact coupled_report stage rfl

/-- The work on a stage goes in step. -/
theorem work (s : Stage) (limits : Constraints) :
    Coupled p S Eq (if s.loop then Run.repeatedly c s config limits else Run.once c s config)
      (if s.loop then Run.repeatedly c' s config' limits else Run.once c' s config') := by
  split
  · exact h.repeatedly s limits
  · exact h.once s

/-- A fault is contained in step. -/
theorem contain (stage : Stage) (f : Fault) :
    Coupled p S Eq (contain c stage config f) (contain c' stage config' f) := by
  apply Coupled.bind_eq (Coupled.log _ _)
  intro _
  exact Coupled.bind_eq (h.emit _) fun _ => Coupled.pure rfl

/-- What came of the work is recorded in step. -/
theorem record (s : Stage) (start : Float) (work : Work) :
    Coupled p S Eq (record c s config start work) (record c' s config' start work) := by
  unfold Run.record
  cases work.ending with
  | ok ending =>
    simp only [pure_bind]
    exact Coupled.bind_eq h.akin.now fun _ => Coupled.pure rfl
  | error f =>
    apply Coupled.bind_eq (h.contain s f)
    intro ending
    exact Coupled.bind_eq h.akin.now fun _ => Coupled.pure rfl

/-- Stages go in step from the same constraints. -/
theorem stage (s : Stage) (limits : Constraints) :
    Coupled p S Eq (stage c s config (some limits)) (stage c' s config' (some limits)) := by
  rw [stage_eq, stage_eq]
  apply Coupled.bind_eq h.akin.now
  intro start
  apply Coupled.bind_eq (h.work s limits)
  intro work
  exact h.record s start work

/-- The stages of a chain go in step. -/
theorem stages (index : Nat) (limits : Constraints) (list : List Stage) :
    Coupled p S Eq (stages c config index limits list) (stages c' config' index limits list) := by
  induction list generalizing index limits with
  | nil => exact Coupled.pure rfl
  | cons s rest ih =>
    unfold Run.stages
    apply Coupled.bind_eq (h.poll limits.deadline)
    rintro (_ | reason)
    · apply Coupled.bind_eq (h.emit _)
      intro _
      apply Coupled.bind_eq (h.stage s limits)
      intro r
      apply Coupled.bind_eq (h.emit _)
      intro _
      -- both chains end with a stage that failed, and go on after one that succeeded
      cases r.success with
      | true => exact Coupled.bind_eq (ih _ _) fun _ => Coupled.pure rfl
      | false => exact Coupled.pure rfl
    · exact Coupled.bind_eq (Coupled.log _ _) fun _ => Coupled.pure rfl

/-- Chains conclude in step from the same results. -/
theorem conclude (start : Float) (left : List StageResult × Option StopReason) :
    Coupled p S Eq (conclude c config start left) (conclude c' config' start left) := by
  unfold Run.conclude lastPoll
  simp only [bind_assoc, pure_bind]
  rw [h.signal_eq]
  apply Coupled.bind_eq (h.akin.isCancelled _)
  intro cancelled
  apply Coupled.bind_eq (Coupled.note rfl)
  intro _
  apply Coupled.bind_eq h.akin.now
  intro finish
  apply Coupled.bind_eq (Coupled.log _ _)
  intro _
  exact Coupled.bind_eq (h.emit _) fun _ => Coupled.pure rfl

/-- Whole chains go in step if they are set up alike. -/
theorem chain (hstages : config.stages = config'.stages) (hbudget : config.budget = config'.budget)
    (htime : config.timeLimit = config'.timeLimit) :
    Coupled p S Eq (chain c config) (chain c' config') := by
  have htext : startText config = startText config' := by
    unfold startText
    rw [hstages, hbudget, htime]
  rw [chain_eq, chain_eq, htext, hstages]
  apply Coupled.bind_eq h.akin.now
  intro start
  have hlimits : fullConstraints config start = fullConstraints config' start := by
    simp only [fullConstraints, hbudget, htime]
  rw [hlimits]
  apply Coupled.bind_eq (Coupled.log _ _)
  intro _
  apply Coupled.bind_eq (h.emit _)
  intro _
  apply Coupled.bind_eq (Coupled.finallyDo (h.stages 0 _ _) h.akin.disposal)
  exact h.conclude start

end InStep

/-! ## A run in step with itself -/

/-- In one world a call has one answer. -/
theorem callsMatch_self (call : Call σ α) : CallsMatch Eq Eq call call := by
  rintro w _ rfl
  exact ⟨.refl _, rfl⟩

/-- A task store lists tasks that match themselves. -/
theorem storesMatch_self (store : TaskStore σ) : StoresMatch Eq store store := by
  rintro root w _ rfl
  refine ⟨?_, rfl⟩
  -- the tasks of a listing match themselves, one by one
  cases (store.listTasks root w).1 with
  | answered listing =>
    cases listing with
    | none => exact .answered .none
    | some tasks =>
      exact .answered (.some (List.forall₂_same.2 fun task _ => callsMatch_self task.status))
  | raised f => exact .raised f
  | aborted e => exact .aborted e

/-- Collaborators act alike in equal worlds. -/
theorem akin_self (c : Collaborators σ) : Akin Eq c c where
  clock := by
    rintro w _ rfl
    exact ⟨rfl, rfl⟩
  isSet := by
    rintro signal w _ rfl
    exact ⟨rfl, rfl⟩
  check h root := callsMatch_self (c.check h root)
  name_eq := rfl
  spawn request := callsMatch_self (c.executor.spawn request)
  dispose := callsMatch_self c.executor.dispose
  store := by
    cases c.store with
    | none => exact .none
    | some store => exact .some (storesMatch_self store)

theorem EndsMatch.refl {ε : Type} (o : Except ε α) : EndsMatch Eq o o := by
  cases o with
  | ok => exact .ok rfl
  | error e => exact .error e

/-- A run from one world is in step with itself. -/
theorem coupled_self {m : Run σ α} {R : List Entry → Except Abort α → Prop} (h : Traced m R) :
    Coupled p Eq Eq m m := by
  rintro w _ rfl
  obtain ⟨t, o, w', hs, -⟩ := h w
  exact ⟨t, t, o, o, w', w', hs, hs, rfl, .refl o, rfl⟩

/-- Runs go in step with themselves, and with runs that differ only in what is not asked for on the
way. -/
theorem inStep_self (c : Collaborators σ) (hroot : config.root = config'.root)
    (hmodels : config.models = config'.models) (hsignal : config.signal = config'.signal)
    (hsink : config.sink = config'.sink) : InStep p Eq c c config config' where
  akin := akin_self c
  root_eq := hroot
  models_eq := hmodels
  signal_eq := hsignal
  emit e := by
    rw [hsink]
    exact coupled_self (traced_emit c _ e)

end AgentChain.Run
