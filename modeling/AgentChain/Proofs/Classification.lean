import AgentChain.Proofs.Verdict

/-!
# The classes of results

A chain stops at a failed stage, as cancelled, out of time, or complete, and the reason that it
gives tells what its stages did. Only the last stage that was run can have failed; it has failed
exactly if that is the reason, and exactly then there is an error to report. A chain is complete
exactly if all of its stages succeeded and none of them was left out or, as the last one, cut short,
and the signal was not set in the end.

Main statement: `results_classified`.
-/

namespace AgentChain.Run

variable {σ : Type} {c : Collaborators σ} {config : Config} {limits : Constraints} {index : Nat}
  {list : List Stage} {legs : List Leg} {early : Option StopReason} {t : List Entry}
  {results : List StageResult} {r : StageResult}

/-! ## The message for a failed stage -/

/-- The message reports the failure of a stage: it is the error of the stage, or names the stage if
there is no error or an empty one. -/
structure Reports (r : StageResult) (message : String) : Prop where
  ne_empty : message ≠ ""
  tells : r.error = some message ∨
    ((r.error = none ∨ r.error = some "") ∧
      message = "Stage '" ++ r.stage.name.text ++ "' failed")

theorem reports_failureText (r : StageResult) : Reports r (failureText r) := by
  have hnamed : "Stage '" ++ r.stage.name.text ++ "' failed" ≠ "" := by
    intro h
    have hlen := congrArg String.length h
    simp only [String.length_append] at hlen
    have hone : ("Stage '" : String).length = 7 := by decide
    have hnone : ("" : String).length = 0 := rfl
    omega
  have htext : Prefers r.error _ (failureText r) := prefers_getD r.error _
  exact ⟨htext.ne_empty hnamed, htext.eq_or⟩

/-! ## Only the last stage may fail -/

theorem Passes.success_of_mem_dropLast
    (h : Passes c config index limits list legs t (.ok early)) :
    ∀ r ∈ (legs.map (·.result)).dropLast, r.success = true := by
  induction h using Passes.ok_induction with
  | through | halted | failed => simp
  | @passed _ _ _ _ _ _ _ _ _ _ r legs _ _ _ _ _ hf _ ih =>
    cases legs with
    | nil => simp
    | cons leg legs => simpa [hf] using ih

/-- If all stages but the last succeeded, what failed is the last or nothing. -/
theorem filter_failed (h : ∀ r ∈ results.dropLast, r.success = true) :
    results.filter (!·.success) = results.getLast?.toList.filter (!·.success) := by
  rcases List.eq_nil_or_concat results with rfl | ⟨front, last, rfl⟩
  · rfl
  · have hnone : front.filter (!·.success) = [] := by
      rw [List.concat_eq_append, List.dropLast_concat] at h
      simpa using h
    simp [hnone]

/-- If all stages before the last one succeeded, then one failed exactly if the last one did. -/
theorem all_success_eq_false_iff (h : ∀ r ∈ results.dropLast, r.success = true) :
    results.all (·.success) = false ↔ ∃ r, results.getLast? = some r ∧ r.success = false := by
  calc results.all (·.success) = false
      ↔ results.filter (!·.success) ≠ [] := by simp
    _ ↔ ∃ r, results.getLast? = some r ∧ r.success = false := by
        rw [filter_failed h]
        cases results.getLast? <;> simp

/-- The stages ended early at a failed one exactly if the last one failed. -/
theorem Passes.failed_iff (h : Passes c config index limits list legs t (.ok early)) :
    early = some .stageFailed ↔
      ∃ r, (legs.map (·.result)).getLast? = some r ∧ r.success = false := by
  rw [← all_success_eq_false_iff h.success_of_mem_dropLast, ← Bool.not_eq_true,
    h.all_success_iff, ne_eq, Decidable.not_not]

/-! ## All stages succeeded -/

/-- Every stage was run and succeeded exactly if the stages did not end early. -/
theorem Passes.complete_iff (h : Passes c config index limits list legs t (.ok early)) :
    early = none ↔ legs.map (·.result.stage) = list ∧
      (legs.map (·.result)).all (·.success) = true := by
  have horder := h.stages_in_order
  rw [h.all_success_iff]
  constructor
  -- no stage was left out, so that the stages of the results are all there are
  · rintro rfl
    have hlen := h.length_lt_iff (by simp)
    refine ⟨horder.eq_of_length_le ?_, by simp⟩
    simpa using hlen
  · rintro ⟨hall, hfail⟩
    have hlen := h.length_lt_iff hfail
    have hsame := congrArg List.length hall
    rw [List.length_map] at hsame
    simpa [hsame] using hlen

/-- A chain that did not end early is complete unless it was cancelled or its last stage was cut
short. -/
theorem finalReason_eq_completed_iff {cancelled : Bool} :
    finalReason results cancelled = .completed ↔ cancelled = false ∧
      ∀ r, results.getLast? = some r →
        r.stopReason ≠ some .timeout ∧ r.stopReason ≠ some .cancelled := by
  cases cancelled with
  | true => simp [finalReason]
  | false =>
    cases hlast : results.getLast? with
    | none => simp [finalReason, hlast]
    | some r =>
      cases hreason : r.stopReason with
      | none => simp [finalReason, hlast, hreason]
      | some reason => cases reason <;> simp [finalReason, hlast, hreason]

/-- The reason that is found in the end is never a failed stage. -/
theorem finalReason_mem (results : List StageResult) (cancelled : Bool) :
    finalReason results cancelled ∈ [StopReason.cancelled, .timeout, .completed] := by
  cases cancelled with
  | true => simp [finalReason]
  | false => rcases finalReason_cases results with h | h | h <;> simp [h]

/-! ## The classes -/

/-- What the result of a chain with this journal is like, by the reason that it gives. -/
structure Classified (config : Config) (t : List Entry) (R : ChainResult) : Prop where
  /-- There are results for the first so many stages. -/
  stages_in_order : R.stageResults.map (·.stage) <+: config.stages
  success_of_mem_dropLast : ∀ r ∈ R.stageResults.dropLast, r.success = true
  reason_mem : ∃ reason ∈ [StopReason.stageFailed, .cancelled, .timeout, .completed],
    R.stopReason = some reason
  failed_iff : R.stopReason = some .stageFailed ↔
    ∃ r, R.stageResults.getLast? = some r ∧ r.success = false
  errors_ne_nil_iff : R.errors ≠ [] ↔ R.stopReason = some .stageFailed
  /-- The only error is that of the stage that failed. -/
  errors_eq : ∀ r, R.stageResults.getLast? = some r → r.success = false →
    ∃ message, R.errors = [message] ∧ Reports r message
  completed_iff : R.stopReason = some .completed ↔
    R.stageResults.map (·.stage) = config.stages ∧ (∀ r ∈ R.stageResults, r.success = true) ∧
      lastSignal t = some false ∧
      ∀ r, R.stageResults.getLast? = some r →
        r.stopReason ≠ some .timeout ∧ r.stopReason ≠ some .cancelled
  ne_completed_of_skipped : R.stageResults.length < config.stages.length →
    R.stopReason ≠ some .completed

/-- The reasons for which stages end early. -/
theorem Passes.early_cases {reason : StopReason}
    (h : Passes c config index limits list legs t (.ok (some reason))) :
    reason = .stageFailed ∨ reason = .cancelled ∨ reason = .timeout := by
  rcases h.early with rfl | ⟨_, b, now, s, hhalt, -⟩
  · exact Or.inl rfl
  · rcases haltReason_eq_some_iff.1 hhalt with ⟨-, rfl⟩ | ⟨-, -, rfl⟩
    · exact Or.inr (Or.inl rfl)
    · exact Or.inr (Or.inr rfl)

/-- A reason that is recorded of a chain is the one for which its stages ended early, or the one
found in the end. -/
theorem Passes.reason_cases (h : Passes c config index limits list legs t (.ok early))
    (results : List StageResult) (cancelled : Bool) :
    let reason := early.getD (finalReason results cancelled)
    reason ∈ [StopReason.stageFailed, .cancelled, .timeout, .completed] ∧
      (reason = .stageFailed ↔ early = some .stageFailed) ∧
      (reason = .completed ↔ early = none ∧ finalReason results cancelled = .completed) := by
  -- without an early end the reason is one of three, of which only one is that of completion
  cases early with
  | none =>
    have hmem := finalReason_mem results cancelled
    simp only [List.mem_cons, List.not_mem_nil, or_false] at hmem
    rcases hmem with hr | hr | hr <;> simp [hr]
  | some reason => rcases h.early_cases with rfl | rfl | rfl <;> simp

/-- The result of a course that returns one belongs to one of the classes. -/
theorem Runs.classified {start : Float} {R : ChainResult}
    (h : Runs c config start legs t (.ok R)) : Classified config t R := by
  rcases h.polls with ⟨u, early, cancelled, duration, rfl, hp, -, hsignal⟩
  have hlast := hp.success_of_mem_dropLast
  have hfailed := hp.failed_iff
  rcases hp.reason_cases (legs.map (·.result)) cancelled with
    ⟨hmem, hreason, hcompleted⟩
  have hstages : (legs.map (·.result)).map (·.stage) = legs.map (·.result.stage) := by
    simp [List.map_map, Function.comp_def]
  -- complete is a chain of which all stages succeeded, and which was found so in the end
  have hcomplete : (summary legs early cancelled duration).stopReason = some .completed ↔
      legs.map (·.result.stage) = config.stages ∧
        (∀ r ∈ legs.map (·.result), r.success = true) ∧ lastSignal t = some false ∧
        ∀ r, (legs.map (·.result)).getLast? = some r →
          r.stopReason ≠ some .timeout ∧ r.stopReason ≠ some .cancelled := by
    simp only [summary, Option.some.injEq, hcompleted, hp.complete_iff,
      finalReason_eq_completed_iff, List.all_eq_true, hsignal, and_assoc]
  refine ⟨?_, hlast, ⟨_, hmem, rfl⟩, ?_, ?_, ?_, ?_, ?_⟩
  · simpa only [summary, hstages] using hp.stages_in_order
  · simpa only [summary, Option.some.injEq, hreason] using hfailed
  -- the errors are those of the failed stages, and only the last one may have failed
  · simp only [summary, Option.some.injEq, hreason, hfailed, ne_eq, List.map_eq_nil_iff]
    rw [filter_failed hlast]
    cases (legs.map (·.result)).getLast? <;> simp
  · intro r hr hf
    refine ⟨failureText r, ?_, reports_failureText r⟩
    simp only [summary] at hr ⊢
    rw [filter_failed hlast, hr]
    simp [hf]
  · simpa only [summary, hstages] using hcomplete
  -- a chain that is complete has as many results as stages
  · intro hskipped hreason
    have hall := congrArg List.length (hcomplete.1 hreason).1
    simp only [summary, List.length_map] at hskipped hall
    omega

/-- The result of every chain belongs to one of the classes, and its reason says to which. -/
theorem results_classified {w : σ} {R : ChainResult}
    (h : outcomeFrom (chain c config) w = .ok R) :
    Classified config (journalFrom (chain c config) w) R := by
  rcases chain_runs c config w with ⟨legs, hr⟩
  rw [h] at hr
  exact hr.classified

/-- Collaborators whose second agent fails with an empty error. The world counts the agents. -/
def faltering : Collaborators Nat where
  clock w := (0, w)
  isSet _ w := (false, w)
  sink _ _ w := { outcome := .answered (), state := w }
  check _ _ w := (.answered true, w)
  executor := {
    name := "agents"
    spawn := fun _ w => (.answered { success := w = 0, error := some "" }, w + 1)
    dispose := fun w => (.answered (), w) }

/-- Three stages that do not loop. -/
def threeStages : Config where
  stages := [{ name := sampleName }, { name := sampleName }, { name := sampleName }]
  root := ⟨.root, ["p"]⟩

/-- The second stage fails and is named for want of an error; the third is left out. -/
theorem second_stage_failed :
    ∃ R, outcomeFrom (chain faltering threeStages) 0 = .ok R ∧
      R.stageResults.map (·.success) = [true, false] ∧ R.errors = ["Stage 'worker' failed"] ∧
      R.stopReason = some .stageFailed ∧
      Classified threeStages (journalFrom (chain faltering threeStages) 0) R := by
  have hrun : (outcomeFrom (chain faltering threeStages) 0).toOption.map
      (fun R => (R.stageResults.map (·.success), R.errors, R.stopReason)) =
        some ([true, false], ["Stage 'worker' failed"], some .stageFailed) := by
    decide +kernel
  rcases exists_of_toOption_map hrun with ⟨R, hR, hmap⟩
  simp only [Prod.mk.injEq] at hmap
  exact ⟨R, hR, hmap.1, hmap.2.1, hmap.2.2, results_classified hR⟩

end AgentChain.Run
