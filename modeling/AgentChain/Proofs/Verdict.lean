import AgentChain.Proofs.Course

/-!
# The verdict on a chain

The result of a chain says whether it succeeded and why it stopped, and the two are told by
different polls. The reason is that of the last poll that told the run to halt, if there was one;
whether the run counts as cancelled is asked again after the disposal of the executor. The two are
at odds exactly if the signal was cleared or set in between: cleared after a poll that stopped the
run as cancelled, or set after a poll that stopped it out of time before a stage.

Main statement: `verdict_agrees_iff`.
-/

namespace AgentChain

/-- A reason that a poll may give for halting. -/
def StopReason.isHalt : StopReason → Bool
  | .timeout | .cancelled => true
  | _ => false

/-- A poll gives no reason but those two. -/
theorem isHalt_of_haltReason {cancelled : Bool} {deadline now : Float} {reason : StopReason}
    (h : haltReason cancelled deadline now = some reason) : reason.isHalt = true := by
  rcases haltReason_eq_some_iff.1 h with ⟨-, rfl⟩ | ⟨-, -, rfl⟩ <;> rfl

namespace Entry

/-- What a poll told the run. -/
def answer? : Entry → Option (Option StopReason)
  | .poll cancelled deadline now => some (haltReason cancelled deadline now)
  | _ => none

/-- What the run found of its signal after the disposal. -/
def lastPoll? : Entry → Option Bool
  | .lastPoll cancelled => some cancelled
  | _ => none

/-- Whether the run asked for its signal. -/
def asks : Entry → Bool
  | .poll .. | .lastPoll _ => true
  | _ => false

end Entry

namespace Run

/-- What the polls of a run told it. -/
def answers (t : List Entry) : List (Option StopReason) := t.filterMap Entry.answer?

/-- Why the run had to halt at the last of its polls, if it had to. -/
def lastAnswer (t : List Entry) : Option StopReason := (answers t).getLast?.join

/-- What the run found of its signal after the disposal. -/
def lastPolls (t : List Entry) : List Bool := t.filterMap Entry.lastPoll?

/-- What the run found of its signal when it asked for it the last time, after the disposal. -/
def lastSignal (t : List Entry) : Option Bool := (lastPolls t).getLast?

@[simp] theorem answers_nil : answers [] = [] := rfl

@[simp] theorem answers_append (t u : List Entry) : answers (t ++ u) = answers t ++ answers u :=
  List.filterMap_append

@[simp] theorem answers_cons (x : Entry) (t : List Entry) :
    answers (x :: t) = x.answer?.toList ++ answers t :=
  filterMap_cons_toList ..

@[simp] theorem lastPolls_append (t u : List Entry) :
    lastPolls (t ++ u) = lastPolls t ++ lastPolls u :=
  List.filterMap_append

@[simp] theorem lastPolls_cons (x : Entry) (t : List Entry) :
    lastPolls (x :: t) = x.lastPoll?.toList ++ lastPolls t :=
  filterMap_cons_toList ..

/-- The last answer is among the later ones, if there are any. -/
theorem lastAnswer_append_of_ne_nil {t u : List Entry} (hu : answers u ≠ []) :
    lastAnswer (t ++ u) = lastAnswer u := by
  have hlast := List.getLast?_eq_some_getLast hu
  simp [lastAnswer, List.getLast?_append, hlast]

/-- Where no poll comes later, the last answer stands. -/
theorem lastAnswer_append_of_nil {t u : List Entry} (hu : answers u = []) :
    lastAnswer (t ++ u) = lastAnswer t := by
  simp [lastAnswer, hu]

/-- A poll that lets the run go on does not show behind later ones. -/
theorem lastAnswer_of_goes_on {b : Bool} {deadline now : Float} {t u : List Entry}
    (hp : haltReason b deadline now = none) (ht : answers t = []) :
    lastAnswer (.poll b deadline now :: (t ++ u)) = lastAnswer u := by
  by_cases hu : answers u = []
  · simp [lastAnswer, Entry.answer?, ht, hu, hp]
  · rw [← List.cons_append]
    exact lastAnswer_append_of_ne_nil hu

/-! ## Where nothing is asked -/

/-- The signal is not asked for. -/
def Unasked (t : List Entry) : Prop := ∀ x ∈ t, x.asks = false

theorem Unasked.nil : Unasked [] := by simp [Unasked]

theorem Unasked.cons {x : Entry} {t : List Entry} (hx : x.asks = false) (ht : Unasked t) :
    Unasked (x :: t) :=
  List.forall_mem_cons.2 ⟨hx, ht⟩

theorem Unasked.append {t u : List Entry} (ht : Unasked t) (hu : Unasked u) :
    Unasked (t ++ u) :=
  List.forall_mem_append.2 ⟨ht, hu⟩

/-- Where the signal is not asked for, no poll answers. -/
theorem Unasked.answers {t : List Entry} (h : Unasked t) : Run.answers t = [] := by
  apply List.filterMap_eq_nil_iff.2
  intro x hx
  have := h x hx
  cases x <;> simp_all [Entry.asks, Entry.answer?]

theorem Unasked.lastPolls {t : List Entry} (h : Unasked t) : Run.lastPolls t = [] := by
  apply List.filterMap_eq_nil_iff.2
  intro x hx
  have := h x hx
  cases x <;> simp_all [Entry.asks, Entry.lastPoll?]

/-- The log does not ask for the signal. -/
theorem Quiet.unasked {t : List Entry} (h : Quiet t) : Unasked t := by
  intro x hx
  have := h x hx
  cases x <;> simp_all [Entry.record?, Entry.asks]

/-- An emission does not ask for the signal. -/
theorem Emits.unasked {sink : Option Handle} {e : Event} {t : List Entry} (h : Emits sink e t) :
    Unasked t := by
  rcases h with ⟨logs, hq, rfl⟩
  cases sink with
  | none => exact hq.unasked
  | some h => exact hq.unasked.cons rfl

theorem Statuses.unasked {t : List Entry} (h : Statuses t) : Unasked t := by
  intro x hx
  rcases h x hx with ⟨o, rfl⟩
  rfl

variable {σ : Type} {c : Collaborators σ} {stage : Stage} {config : Config}
  {check : CompletionCheck σ} {root : Path} {limits : Constraints} {t : List Entry}

theorem checkEntry_asks : (checkEntry check root).asks = false := by
  cases check <;> rfl

/-- A completion check does not ask for the signal, as far as the run can tell. -/
theorem Asks.unasked {o : Except Abort (Except Fault Bool)} (h : Asks check root t o) :
    Unasked t := by
  cases h with
  | answered ht a =>
    exact (ht.unasked.cons checkEntry_asks).append (Unasked.nil.cons rfl)
  | aborted ht e => exact ht.unasked.cons checkEntry_asks

theorem Spawns.unasked {o : Except Abort (Except Fault SpawnResult)}
    (h : Spawns stage config t o) : Unasked t := by
  cases h with
  | raised | aborted => exact Unasked.nil.cons rfl
  | failed hr hq => exact hq.unasked.cons rfl
  | spawnedCut e hr ht => exact ht.unasked.cons rfl
  | succeeded hr ht hu | completedCut e hr ht hu => exact (ht.unasked.append hu.unasked).cons rfl

theorem Follows.unasked {o : Except Abort (Except Fault SpawnResult)}
    {p : Except Abort (Option (Except Fault Ending))} (h : Follows check root o t p) :
    Unasked t := by
  cases h with
  | cut | raised | failed => exact Unasked.nil
  | checkCut _ ha | checkRaised _ ha | met _ ha | unmet _ ha => exact ha.unasked

/-- Within a round the signal is not asked for, but only before it. -/
theorem Round.unasked {n : Nat} {p : Except Abort (Option (Except Fault Ending))}
    (h : Round stage config check n t p) : Unasked t := by
  cases h with
  | cut e he => exact he.unasked
  | made he hs hf => exact he.unasked.append (hs.unasked.append hf.unasked)

/-! ## Reasons and answers -/

/-- The reason with which the work on a stage ended, unless a fault was raised. -/
def Work.reason? (work : Work) : Option StopReason :=
  match work.ending with
  | .ok e => some e.reason
  | .error _ => none

/-- A loop stage ends with the halt of its last poll, and for a reason of its own if that poll let
it go on. -/
theorem Attempts.lastAnswer {deadline : Float} {done left : Nat} {work : Work}
    (h : Attempts stage config check deadline done left t (.ok work)) :
    Run.lastAnswer t = work.reason?.filter StopReason.isHalt := by
  -- the polls before the last round let the stage go on, and do not show behind its answer
  induction h using Attempts.ok_induction with
  | spent => rfl
  | halted hp =>
    simp [Run.lastAnswer, Entry.answer?, hp, Work.reason?, Option.filter,
      isHalt_of_haltReason hp]
  | @ended _ _ _ _ t e hp hr =>
    have hlast : Run.lastAnswer (.poll _ _ _ :: (t ++ [])) = none :=
      lastAnswer_of_goes_on hp hr.unasked.answers
    rw [List.append_nil] at hlast
    rw [hlast]
    cases e with
    | error f => rfl
    | ok e => rcases hr.ending with rfl | ⟨error, rfl⟩ <;> rfl
  | again hp hr hrest ih =>
    rw [lastAnswer_of_goes_on hp hr.unasked.answers]
    exact ih

/-- Without a poll there is no last answer. -/
theorem Unasked.lastAnswer (h : Unasked t) : Run.lastAnswer t = none := by
  simp [Run.lastAnswer, h.answers]

/-- A stage that does not loop has no polls, and no such reason either. -/
theorem Works.lastAnswer {work : Work} (h : Works c stage config limits t (.ok work)) :
    Run.lastAnswer t = work.reason?.filter StopReason.isHalt := by
  cases h with
  | @once _ r hl hs =>
    rw [hs.unasked.lastAnswer]
    cases hr : r.success <;> simp [Work.reason?, Option.filter, StopReason.isHalt]
  | onceRaised hl hs => exact hs.unasked.lastAnswer
  | unchecked => rfl
  | repeated hl hc ha hq =>
    rw [← ha.lastAnswer]
    simp [Run.lastAnswer, hq.unasked.answers]

/-- A stage reports that it had to halt exactly if the last of its polls said so. -/
theorem Performs.lastAnswer {r : StageResult} (h : Performs c stage config limits t (.ok r)) :
    Run.lastAnswer t = r.stopReason.filter StopReason.isHalt := by
  cases h with
  | ended duration hw => exact hw.lastAnswer
  | contained duration hw hq he =>
    have hend := (hq.unasked.append he.unasked).answers
    rw [lastAnswer_append_of_nil hend, hw.lastAnswer]
    rfl

/-- A loop stage that does not succeed ends as one that failed. -/
theorem Attempts.success_or_failed {deadline : Float} {done left n : Nat} {e : Ending}
    (h : Attempts stage config check deadline done left t (.ok ⟨n, .ok e⟩)) :
    e.success = true ∨ e.reason = .stageFailed := by
  generalize hw : (⟨n, .ok e⟩ : Work) = work at h
  induction h using Attempts.ok_induction with
  | spent | halted =>
    cases hw
    exact Or.inl rfl
  | ended hp hr =>
    cases hw
    rcases hr.ending with rfl | ⟨error, rfl⟩
    · exact Or.inl rfl
    · exact Or.inr rfl
  | again _ _ _ ih => exact ih hw

/-- A stage that fails reports that as the reason for its end. -/
theorem Performs.stopReason_of_failed {r : StageResult}
    (h : Performs c stage config limits t (.ok r)) (hf : r.success = false) :
    r.stopReason = some .stageFailed := by
  cases h with
  | contained => rfl
  | ended duration hw =>
    cases hw with
    | once hl hs =>
      simp only at hf
      simp [hf]
    | repeated hl hc ha hq =>
      rcases ha.success_or_failed with hsuccess | hreason
      · rw [hsuccess] at hf
        cases hf
      · rw [hreason]

/-! ## The stages of a chain -/

variable {index : Nat} {list : List Stage} {legs : List Leg} {early : Option StopReason}

/-- No stage but the last one to be run has failed, and that one only if the run ended for it. -/
theorem Passes.all_success_iff
    (h : Passes c config index limits list legs t (.ok early)) :
    (legs.map (·.result)).all (·.success) = true ↔ early ≠ some .stageFailed := by
  induction h using Passes.ok_induction with
  | through => simp
  | halted _ _ _ hp => rcases haltReason_eq_some_iff.1 hp with ⟨-, rfl⟩ | ⟨-, -, rfl⟩ <;> simp
  | failed _ _ _ _ _ hf => simp [hf]
  | passed _ _ _ _ hf _ ih => simpa [hf] using ih

/-- Unless a stage failed, the run ended early exactly if there are stages that were not run. -/
theorem Passes.length_lt_iff (h : Passes c config index limits list legs t (.ok early))
    (hf : early ≠ some .stageFailed) : legs.length < list.length ↔ early.isSome := by
  induction h using Passes.ok_induction with
  | through | halted => simp
  | failed => exact absurd rfl hf
  | passed _ _ _ _ _ _ ih => simpa using ih hf

/-- Before a stage there is a poll. -/
theorem Passes.answers_ne_nil {s : Stage} {rest : List Stage}
    {o : Except Abort (Option StopReason)}
    (h : Passes c config index limits (s :: rest) legs t o) : answers t ≠ [] := by
  cases h <;> simp [Entry.answer?]

/-- A reason of the whole chain shows the halt of its last stage. -/
theorem filter_finalReason (results : List StageResult) :
    (some (finalReason results false)).filter StopReason.isHalt =
      (results.getLast?.bind (·.stopReason)).filter StopReason.isHalt := by
  unfold finalReason
  cases results.getLast?.bind (·.stopReason) with
  | none => rfl
  | some reason => cases reason <;> rfl

/-- The last answer before the next stage is the one that the stage got, if it asked. -/
theorem lastAnswer_leg {s : Stage} {i : Int} {b : Bool} {now : Float} {r : StageResult}
    {u v : List Entry} (hp : haltReason b limits.deadline now = none)
    (hs : Emits config.sink (.stageStart s i) t) (hr : Performs c s config limits u (.ok r))
    (he : Emits config.sink (.stageEnd s r) v) :
    Run.lastAnswer (.poll b limits.deadline now :: (t ++ (u ++ v))) =
      r.stopReason.filter StopReason.isHalt := by
  rw [lastAnswer_of_goes_on hp hs.unasked.answers, lastAnswer_append_of_nil he.unasked.answers]
  exact hr.lastAnswer

/-- The reason for which the stages ended, before the signal is asked for again, is the last answer
of a poll if it is one that a poll may give. -/
theorem Passes.lastAnswer (h : Passes c config index limits list legs t (.ok early)) :
    Run.lastAnswer t =
      (some (early.getD (finalReason (legs.map (·.result)) false))).filter StopReason.isHalt := by
  -- a halt before a stage is the last answer of all; otherwise the last stage has it
  induction h using Passes.ok_induction with
  | through => rfl
  | halted index s rest hp =>
    simp [Run.lastAnswer, Entry.answer?, hp, stopEntry, Option.filter, isHalt_of_haltReason hp]
  | failed rest hp hs hr he hf =>
    rw [lastAnswer_leg hp hs hr.performs he, hr.performs.stopReason_of_failed hf]
    rfl
  | @passed _ limits _ rest b now t u v x r legs early hp hs hr he hf hrest ih =>
    -- a later stage has a poll before it, so only the last one can have the last answer
    cases rest with
    | nil =>
      cases hrest
      rw [List.append_nil, lastAnswer_leg hp hs hr.performs he]
      exact (filter_finalReason [r]).symm
    | cons s' rest' =>
      have hlast : Run.lastAnswer (.poll b limits.deadline now :: (t ++ (u ++ (v ++ x)))) =
          Run.lastAnswer x := by
        have hassoc : Entry.poll b limits.deadline now :: (t ++ (u ++ (v ++ x))) =
            (.poll b limits.deadline now :: (t ++ (u ++ v))) ++ x := by
          simp
        rw [hassoc]
        exact lastAnswer_append_of_ne_nil hrest.answers_ne_nil
      rw [hlast, ih]
      cases early with
      | some reason => rfl
      | none =>
        -- all stages were run, so the last leg is one of the later ones
        have hlt := hrest.length_lt_iff (by simp)
        simp only [Option.getD_none, filter_finalReason]
        cases legs with
        | nil => simp at hlt
        | cons leg legs => simp [List.getLast?_cons_cons]

/-! ## The verdict -/

/-- The two halves of the verdict on a chain are at odds: the signal was cleared after the poll that
stopped the run as cancelled, or set after one that stopped it out of time before a stage. -/
def AtOdds (config : Config) (t : List Entry) (R : ChainResult) : Prop :=
  (Run.lastAnswer t = some .cancelled ∧ lastSignal t = some false) ∨
    (Run.lastAnswer t = some .timeout ∧ lastSignal t = some true ∧
      R.stageResults.length < config.stages.length)

/-- Without a signal, the reason of a chain is a halt of its last stage, or that it was
completed. -/
theorem finalReason_cases (results : List StageResult) :
    finalReason results false = .timeout ∨ finalReason results false = .cancelled ∨
      finalReason results false = .completed := by
  unfold finalReason
  cases results.getLast?.bind (·.stopReason) with
  | none => simp
  | some reason => cases reason <;> simp

/-- The result of a run sums up its legs. The last answer of its polls is the last one that its
stages got, and what it found of its signal after the disposal is what its success depends on. -/
theorem Runs.polls {start : Float} {R : ChainResult} (h : Runs c config start legs t (.ok R)) :
    ∃ u early cancelled duration, R = summary legs early cancelled duration ∧
      Passes c config 0 (fullConstraints config start) config.stages legs u (.ok early) ∧
      Run.lastAnswer t = Run.lastAnswer u ∧ lastSignal t = some cancelled := by
  cases h with
  | @returned logs t u v x y duration _ early cancelled hq hs hp hd hx he =>
    refine ⟨u, early, cancelled, duration, rfl, hp, ?_, ?_⟩
    · -- nothing is asked before the stages, nor the deadline after them
      have hbefore : answers (logs ++ t) = [] := (hq.unasked.append hs.unasked).answers
      have hafter : answers (v ++ .lastPoll cancelled :: (x ++ y)) = [] := by
        simp [Entry.answer?, hd.unasked.answers, hx.unasked.answers, he.unasked.answers]
      simp only [answers_append, List.append_eq_nil_iff] at hbefore
      simp [Run.lastAnswer, Entry.answer?, hbefore, hafter]
    · have hend : lastPolls (x ++ y) = [] := (hx.unasked.append he.unasked).lastPolls
      simp [lastSignal, Entry.lastPoll?, hend]

/-- For a run that returns, the verdict is as it should be exactly if its halves are not at odds:
success depends on what was found after the disposal, and the reason on the last answer. -/
theorem Runs.agrees_iff {start : Float} {R : ChainResult}
    (h : Runs c config start legs t (.ok R)) :
    (R.success = false ↔ R.stopReason = some .stageFailed ∨ R.stopReason = some .cancelled) ↔
      ¬ AtOdds config t R := by
  rcases h.polls with ⟨u, early, cancelled, duration, rfl, hp, hanswer, hsignal⟩
  unfold AtOdds
  rw [hanswer, hsignal, hp.lastAnswer]
  have hsuccess := hp.all_success_iff
  have hlt := hp.length_lt_iff
  cases early with
  | none =>
    -- all stages were run, and what was found after the disposal goes before their reasons
    have hall : (legs.map (·.result)).all (·.success) = true := hsuccess.2 (by simp)
    have hlen : ¬ legs.length < config.stages.length := by
      rw [hlt (by simp)]
      simp
    cases cancelled with
    | true => simp [summary, finalReason, hlen]
    | false =>
      rcases finalReason_cases (legs.map (·.result)) with hr | hr | hr <;>
        simp [summary, hall, hr, Option.filter, StopReason.isHalt]
  | some reason =>
    -- the reason stands, and only success depends on what was found after the disposal
    rcases hp.early with rfl | ⟨_, b, now, s, hhalt, -⟩
    · have hfail : (legs.map (·.result)).all (·.success) = false := by
        rw [← Bool.not_eq_true, hsuccess]
        simp
      simp [summary, hfail, Option.filter, StopReason.isHalt]
    have hne : some reason ≠ some StopReason.stageFailed := by
      intro heq
      cases heq
      exact absurd (isHalt_of_haltReason hhalt) (by decide)
    have hall : (legs.map (·.result)).all (·.success) = true := hsuccess.2 hne
    have hshort : legs.length < config.stages.length := (hlt hne).2 rfl
    rcases haltReason_eq_some_iff.1 hhalt with ⟨-, rfl⟩ | ⟨-, -, rfl⟩
    · cases cancelled <;> simp [summary, hall, Option.filter, StopReason.isHalt]
    · cases cancelled <;> simp [summary, hall, hshort, Option.filter, StopReason.isHalt]

/-- A chain counts as failed exactly if it stopped at a failed stage or as cancelled, unless what
the run found of its signal after the disposal is at odds with its last poll. -/
theorem verdict_agrees_iff {w : σ} {R : ChainResult}
    (h : outcomeFrom (chain c config) w = .ok R) :
    (R.success = false ↔ R.stopReason = some .stageFailed ∨ R.stopReason = some .cancelled) ↔
      ¬ AtOdds config (journalFrom (chain c config) w) R := by
  -- every run of a chain has legs, whatever comes of it
  rcases chain_runs c config w with ⟨legs, hr⟩
  rw [h] at hr
  exact hr.agrees_iff

/-- An executor whose disposal sets the signal or clears it, and whose agents take a minute. The
world is whether the signal is set, and the time. -/
def disposing (set : Bool) : Collaborators (Bool × Float) where
  clock w := (w.2, w)
  isSet _ w := (w.1, w)
  sink _ _ w := { outcome := .answered (), state := w }
  check _ _ w := (.answered true, w)
  executor := {
    name := "agents"
    spawn := fun _ w => (.answered { success := true, sessionId := "s" }, (w.1, w.2 + 60))
    dispose := fun w => (.answered (), (set, w.2)) }

/-- Two stages that do not loop, with half a minute for both. -/
def hurriedConfig : Config where
  stages := [{ name := sampleName }, { name := sampleName }]
  root := ⟨.root, ["p"]⟩
  signal := some ⟨.thread, 0⟩
  timeLimit := .seconds 30

/-- A signal that is set after the run was stopped out of time. -/
theorem set_after_timeout_at_odds :
    ∃ R, outcomeFrom (chain (disposing true) hurriedConfig) (false, 0) = .ok R ∧
      R.success = false ∧ R.stopReason = some .timeout ∧
      AtOdds hurriedConfig (journalFrom (chain (disposing true) hurriedConfig) (false, 0)) R := by
  have hrun : (outcomeFrom (chain (disposing true) hurriedConfig) (false, 0)).toOption.map
      (fun R => (R.success, R.stopReason)) = some (false, some .timeout) := by
    decide +kernel
  rcases exists_of_toOption_map hrun with ⟨R, hR, hmap⟩
  rcases Prod.mk.inj hmap with ⟨hsuccess, hreason⟩
  refine ⟨R, hR, hsuccess, hreason, ?_⟩
  -- the verdict does not agree, so that its halves must be at odds
  apply Classical.byContradiction
  intro hodds
  have hagree := (verdict_agrees_iff hR).2 hodds
  rw [hsuccess, hreason] at hagree
  simp at hagree

/-- A signal that is cleared after the run was stopped by it: the chain is reported as cancelled and
as successful. -/
theorem cleared_after_cancellation_succeeds :
    ∃ R, outcomeFrom (chain (disposing false) hurriedConfig) (true, 0) = .ok R ∧
      R.stopReason = some .cancelled ∧ R.success = true ∧
      ¬ (R.success = false ↔
        R.stopReason = some .stageFailed ∨ R.stopReason = some .cancelled) := by
  have hrun : (outcomeFrom (chain (disposing false) hurriedConfig) (true, 0)).toOption.map
      (fun R => (R.success, R.stopReason)) = some (true, some .cancelled) := by
    decide +kernel
  rcases exists_of_toOption_map hrun with ⟨R, hR, hmap⟩
  rcases Prod.mk.inj hmap with ⟨hsuccess, hreason⟩
  refine ⟨R, hR, hreason, hsuccess, ?_⟩
  rw [hsuccess, hreason]
  simp

end Run

end AgentChain
