import AgentChain.Proofs.Course

/-!
# The disposal of the executor

However a run ends, the executor is disposed of once, after all that is done for the stages and
before the end of the chain is reported. There is one exception: a sink that is given the start of
the chain may ask for everything to stop there, and then the executor is not disposed of at all.
What the executor does at its disposal may change the world that is left; a fault that it raises
does not change the result.

Main statement: `disposed_once_iff`.
-/

namespace AgentChain

/-- What a run may leave in the journal before the disposal of the executor. -/
def Entry.beforeDisposal : Entry → Bool
  | .event (.chainEnd _) | .lastPoll _ | .dispose => false
  | _ => true

/-- What a run may leave in the journal after the disposal of the executor: its last poll, the end
of the chain, and what is written to the log. -/
def Entry.afterDisposal : Entry → Bool
  | .event (.chainEnd _) | .lastPoll _ | .log _ | .sinkLog _ => true
  | _ => false

/-- What the stages of a chain may leave may come before the disposal. -/
theorem Entry.beforeDisposal_of_ofStages {x : Entry} (h : x.ofStages = true) :
    x.beforeDisposal = true := by
  cases x with
  | event e => cases e <;> simp_all [ofStages, beforeDisposal]
  | lastPoll | dispose => simp [ofStages] at h
  | _ => rfl

namespace Run

/-! ## Once, and in its place -/

/-- The executor was disposed of once: all calls for stages and all events but the end of the chain
came before, and nothing but that event and the last poll came after. -/
def DisposedOnce (t : List Entry) : Prop :=
  ∃ pre post, t = pre ++ .dispose :: post ∧ Each Entry.beforeDisposal pre ∧
    Each Entry.afterDisposal post

variable {σ : Type}

/-- The sink aborts the run when it is given the start of the chain. -/
def CutAtStart (c : Collaborators σ) (config : Config) (w : σ) : Prop :=
  ∃ h e, config.sink = some h ∧
    (c.sink h (.chainStart config.stages) (c.clock w).2).outcome = .aborted e

theorem Quiet.beforeDisposal {t : List Entry} (h : Quiet t) : Each Entry.beforeDisposal t :=
  h.each (fun _ => rfl) fun _ => rfl

theorem Quiet.afterDisposal {t : List Entry} (h : Quiet t) : Each Entry.afterDisposal t :=
  h.each (fun _ => rfl) fun _ => rfl

theorem DisposedOnce.dispose_mem {t : List Entry} (h : DisposedOnce t) : .dispose ∈ t := by
  rcases h with ⟨pre, post, rfl, -⟩
  simp

variable {c : Collaborators σ} {config : Config}

/-- A run that gets past its start disposes of the executor once. -/
theorem Runs.disposedOnce {start : Float} {legs : List Leg} {t : List Entry}
    {o : Except Abort ChainResult} (h : Runs c config start legs t o) (hd : .dispose ∈ t) :
    DisposedOnce t := by
  cases h with
  | startCut e hq hs =>
    -- such a run has no disposal: it leaves only its first log record and the event
    have hbefore : Each Entry.beforeDisposal _ :=
      hq.beforeDisposal.append (hs.each rfl (fun _ => rfl) fun _ => rfl)
    exact absurd (hbefore _ hd) (by decide)
  | @stagesCut logs s u v _ _ e hq hs hp hv =>
    refine ⟨logs ++ (s ++ u), v, by simp, ?_, hv.afterDisposal⟩
    have hu := hp.ofStages.mono fun _ => Entry.beforeDisposal_of_ofStages
    exact hq.beforeDisposal.append ((hs.each rfl (fun _ => rfl) fun _ => rfl).append hu)
  | @endCut logs s u v x y _ _ _ cancelled e hq hs hp hv hx he
  | @returned logs s u v x y _ _ _ cancelled hq hs hp hv hx he =>
    refine ⟨logs ++ (s ++ u), v ++ .lastPoll cancelled :: (x ++ y), by simp, ?_, ?_⟩
    · have hu := hp.ofStages.mono fun _ => Entry.beforeDisposal_of_ofStages
      exact hq.beforeDisposal.append ((hs.each rfl (fun _ => rfl) fun _ => rfl).append hu)
    · have hend : Each Entry.afterDisposal y := he.each rfl (fun _ => rfl) fun _ => rfl
      exact hv.afterDisposal.append ((hx.afterDisposal.append hend).cons rfl)

/-! ## Past the start -/

/-- Once the start of the chain has been sent, the executor is disposed of in any case. -/
theorem traced_past_start (config : Config) (start : Float) :
    Traced (finallyDo (stages c config 0 (fullConstraints config start) config.stages) (dispose c)
      >>= conclude c config start) fun t _ => .dispose ∈ t := by
  apply Traced.bind (traced_guarded c config (fullConstraints config start))
  · rintro ⟨results, early⟩ t ⟨u, v, legs, o, -, rfl, -, hl⟩
    rcases hl _ rfl with ⟨rfl, -⟩
    apply (traced_conclude c config start legs early).mono
    intro x o _
    simp
  · rintro e t ⟨u, v, legs, o, -, rfl, -⟩
    simp

/-- The executor is disposed of exactly if the run gets past its start. -/
theorem dispose_mem_iff (config : Config) (w : σ) :
    .dispose ∈ journalFrom (chain c config) w ↔ ¬ CutAtStart c config w := by
  have hnow : Steps (now c) w [] (.ok (c.clock w).1) (c.clock w).2 := steps_observe c.clock w
  have hlog : Steps (log .info (startText config)) (c.clock w).2
      [.log ⟨.info, .runner, startText config⟩] (.ok ()) (c.clock w).2 := fun _ => rfl
  rcases traced_emit c config.sink (.chainStart config.stages) (c.clock w).2 with
    ⟨t, o, w', hs, he⟩
  rw [chain_eq]
  cases o with
  -- the sink has aborted the run at its first event, and nothing comes after that
  | error a =>
    have hcut : CutAtStart c config w := by
      rcases outcomeFrom_emit_eq_error_iff.1 hs.outcomeFrom_eq with ⟨h, hsink, hout⟩
      exact ⟨h, a, hsink, hout⟩
    have hbefore : Each Entry.beforeDisposal t := he.each rfl (fun _ => rfl) fun _ => rfl
    rw [(hnow.bind (hlog.bind hs.bind_error)).journalFrom_eq]
    simp only [List.nil_append, List.cons_append, List.mem_cons, hcut, not_true_eq_false,
      iff_false, not_or]
    exact ⟨by simp, fun hd => absurd (hbefore _ hd) (by decide)⟩
  | ok u =>
    have hcut : ¬ CutAtStart c config w := by
      rintro ⟨h, a, hsink, hout⟩
      have herror := outcomeFrom_emit_eq_error_iff.2 ⟨h, hsink, hout⟩
      rw [hs.outcomeFrom_eq] at herror
      cases herror
    rcases traced_past_start config (c.clock w).1 w' with ⟨v, o', w'', hrest, hd⟩
    rw [(hnow.bind (hlog.bind (hs.bind hrest))).journalFrom_eq]
    simp [hd, hcut]

/-! ## A fault of the disposal -/

/-- From every world the two end in the same way and in the same world, whatever they leave in the
journal. -/
def Alike {α : Type} (m m' : Run σ α) : Prop :=
  ∀ w, ∃ t t' o w', Steps m w t o w' ∧ Steps m' w t' o w'

section

variable {α β : Type} {m m' : Run σ α}

/-- A run is like itself. -/
theorem Alike.refl {R : List Entry → Except Abort α → Prop} (h : Traced m R) : Alike m m := by
  intro w
  rcases h w with ⟨t, o, w', hs, -⟩
  exact ⟨t, t, o, w', hs, hs⟩

/-- Sequences are alike part by part. -/
theorem Alike.bind {f f' : α → Run σ β} (hm : Alike m m') (hf : ∀ a, Alike (f a) (f' a)) :
    Alike (m >>= f) (m' >>= f') := by
  intro w
  rcases hm w with ⟨t, t', o, w₁, hs, hs'⟩
  -- the second parts start from the same world, since the first parts have left the same
  cases o with
  | error e => exact ⟨t, t', .error e, w₁, hs.bind_error, hs'.bind_error⟩
  | ok a =>
    rcases hf a w₁ with ⟨u, u', o, w₂, hu, hu'⟩
    exact ⟨t ++ u, t' ++ u', o, w₂, hs.bind hu, hs'.bind hu'⟩

/-- Parts with a cleanup are alike if the parts are, and if the cleanups are. -/
theorem Alike.finallyDo {cleanup cleanup' : Run σ Unit} (hm : Alike m m')
    (hc : Alike cleanup cleanup') :
    Alike (Run.finallyDo m cleanup) (Run.finallyDo m' cleanup') := by
  intro w
  rcases hm w with ⟨t, t', o, w₁, hs, hs'⟩
  rcases hc w₁ with ⟨u, u', oc, w₂, hu, hu'⟩
  cases oc with
  | ok a => exact ⟨t ++ u, t' ++ u', o, w₂, hs.finallyDo hu, hs'.finallyDo hu'⟩
  | error e =>
    exact ⟨t ++ u, t' ++ u', .error e, w₂, hs.finallyDo_error hu, hs'.finallyDo_error hu'⟩

/-- Runs that are alike have the same outcome. -/
theorem Alike.outcome_eq (h : Alike m m') (w : σ) : outcomeFrom m w = outcomeFrom m' w := by
  rcases h w with ⟨t, t', o, w', hs, hs'⟩
  rw [hs.outcomeFrom_eq, hs'.outcomeFrom_eq]

end

/-- The same collaborators, but the executor is disposed of in this way. -/
def withDisposal (c : Collaborators σ) (disposal : Call σ Unit) : Collaborators σ :=
  { c with executor := { c.executor with dispose := disposal } }

/-- The same disposal, except that it answers where it would raise a fault. -/
def faultless (disposal : Call σ Unit) : Call σ Unit := fun w =>
  match disposal w with
  | (.raised _, w') => (.answered (), w')
  | call => call

/-- The rounds of a loop stage do not depend on how the executor is disposed of. -/
theorem attempts_withDisposal (disposal : Call σ Unit) (stage : Stage) (config : Config)
    (check : CompletionCheck σ) (deadline : Float) (done left : Nat) :
    attempts (withDisposal c disposal) stage config check deadline done left =
      attempts c stage config check deadline done left := by
  -- a round does not ask for the disposal, so that only the rounds after it are to be compared
  induction left generalizing done with
  | zero => rfl
  | succ left ih =>
    simp only [attempts, ih]
    rfl

/-- A stage does not depend on how the executor is disposed of. -/
theorem stage_withDisposal (disposal : Call σ Unit) (s : Stage) (config : Config)
    (limits : Option Constraints) :
    stage (withDisposal c disposal) s config limits = stage c s config limits := by
  unfold stage repeatedly
  simp only [attempts_withDisposal]
  rfl

/-- The stages do not depend on how the executor is disposed of. -/
theorem stages_withDisposal (disposal : Call σ Unit) (config : Config) (index : Nat)
    (limits : Constraints) (list : List Stage) :
    stages (withDisposal c disposal) config index limits list =
      stages c config index limits list := by
  induction list generalizing index limits with
  | nil => rfl
  | cons s rest ih =>
    simp only [stages, stage_withDisposal, ih]
    rfl

/-- Of a disposal, only an abort shows in how the run goes on. -/
theorem steps_dispose (c : Collaborators σ) (w : σ) :
    ∃ t, Steps (dispose c) w t (carriedOn (c.executor.dispose w).1) (c.executor.dispose w).2 := by
  apply (steps_attempt c.executor.dispose (fun _ => .dispose) w).carryOn
  rintro (fault | _)
  · exact ⟨_, steps_note _ _⟩
  · exact ⟨_, steps_pure () _⟩

/-- Without its faults a disposal leaves the same world, and shows in the same way. -/
theorem faultless_eq (disposal : Call σ Unit) (w : σ) :
    carriedOn (faultless disposal w).1 = carriedOn (disposal w).1 ∧
      (faultless disposal w).2 = (disposal w).2 := by
  unfold faultless
  rcases disposal w with ⟨_ | _ | _, w'⟩ <;> exact ⟨rfl, rfl⟩

/-- A fault of the disposal leaves a record in the log, and the run goes on as it would have. -/
theorem dispose_alike (c : Collaborators σ) :
    Alike (dispose c) (dispose (withDisposal c (faultless c.executor.dispose))) := by
  intro w
  rcases steps_dispose c w with ⟨t, hs⟩
  rcases steps_dispose (withDisposal c (faultless c.executor.dispose)) w with ⟨t', hs'⟩
  rcases faultless_eq c.executor.dispose w with ⟨ho, hw⟩
  refine ⟨t, t', _, _, hs, ?_⟩
  rw [← ho, ← hw]
  exact hs'

/-- The conclusion of a chain does not depend on how the executor was disposed of. -/
theorem conclude_alike (c : Collaborators σ) (disposal : Call σ Unit) (config : Config)
    (start : Float) (left : List StageResult × Option StopReason) :
    Alike (conclude c config start left)
      (conclude (withDisposal c disposal) config start left) := by
  -- any results are those of some legs
  have hlegs : (left.1.map (Leg.mk [])).map (·.result) = left.1 := by simp [Function.comp_def]
  have ht := traced_conclude c config start (left.1.map (Leg.mk [])) left.2
  rw [hlegs] at ht
  exact Alike.refl ht

/-- A chain ends as it would if its disposal could not raise a fault. -/
theorem chain_alike (c : Collaborators σ) (config : Config) :
    Alike (chain c config) (chain (withDisposal c (faultless c.executor.dispose)) config) := by
  rw [chain_eq, chain_eq]
  apply Alike.bind (Alike.refl (Traced.observe (R := fun _ _ => True) fun _ => trivial))
  intro start
  apply Alike.bind (Alike.refl (Traced.note (R := fun _ _ => True) trivial))
  intro _
  apply Alike.bind (Alike.refl (traced_emit c _ _))
  intro _
  apply Alike.bind
  · rw [stages_withDisposal]
    exact (Alike.refl (traced_stages c config 0 _ _)).finallyDo (dispose_alike c)
  · exact conclude_alike c _ config start

/-! ## The lifecycle of the executor -/

/-- The executor is disposed of once and in its place, unless the sink aborts the run at the start
of the chain; and a fault of its disposal changes nothing in how the run ends. -/
theorem disposed_once_iff (c : Collaborators σ) (config : Config) (w : σ) :
    (DisposedOnce (journalFrom (chain c config) w) ↔ ¬ CutAtStart c config w) ∧
      outcomeFrom (chain c config) w =
        outcomeFrom (chain (withDisposal c (faultless c.executor.dispose)) config) w := by
  refine ⟨⟨?_, ?_⟩, (chain_alike c config).outcome_eq w⟩
  · intro h
    exact (dispose_mem_iff config w).1 h.dispose_mem
  · intro h
    rcases chain_runs c config w with ⟨legs, hr⟩
    exact hr.disposedOnce ((dispose_mem_iff config w).2 h)

/-- A sink that aborts the run at once. -/
def impatient : Collaborators Unit where
  clock w := (0, w)
  isSet _ w := (false, w)
  sink _ _ w := { outcome := .aborted ⟨"stop"⟩, state := w }
  check _ _ w := (.answered true, w)
  executor := {
    name := "agents"
    spawn := fun _ w => (.answered { success := true, sessionId := "s" }, w)
    dispose := fun w => (.answered (), w) }

/-- One stage that does not loop, with a sink. -/
def watchedConfig : Config where
  stages := [{ name := sampleName }]
  root := ⟨.root, ["p"]⟩
  sink := some ⟨0⟩

/-- The executor is not disposed of if the sink aborts the run at the start of the chain. -/
theorem cut_at_start_not_disposed :
    ¬ DisposedOnce (journalFrom (chain impatient watchedConfig) ()) := by
  intro h
  have hmem := h.dispose_mem
  -- the journal is short enough to be looked through
  have hnone :
      (journalFrom (chain impatient watchedConfig) ()).any (· matches .dispose) = false := by
    decide +kernel
  simp only [List.any_eq_false] at hnone
  exact hnone _ hmem rfl

end Run

end AgentChain
