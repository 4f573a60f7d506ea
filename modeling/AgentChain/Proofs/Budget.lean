import Mathlib.Algebra.Order.BigOperators.Group.List
import Mathlib.Algebra.Ring.Int.Defs
import AgentChain.Echo
import AgentChain.Proofs.Course

/-!
# The shared budget

Loop stages draw on one budget. What is left of it before a stage is exactly the budget less the
iterations of the loop stages before, so nothing is ever lost to the lower bound of zero, and a loop
stage takes no more than is left. Once it is used up, loop stages pass without an attempt, while
stages that do not loop still make theirs.

Main statement: `iterations_share_budget`, by which the results of every run fit `SharesBudget`.
-/

namespace AgentChain.Run

variable {σ : Type} {c : Collaborators σ} {stage : Stage} {config : Config} {limits : Constraints}
  {t : List Entry}

/-! ## One stage -/

/-- Rounds stop at the last attempt that is left, and are spent only there. -/
theorem Attempts.iterations_le {check : CompletionCheck σ} {deadline : Float} {done left : Nat}
    {work : Work} (h : Attempts stage config check deadline done left t (.ok work)) :
    work.iterations ≤ done + left ∧
      ∀ e, work.ending = .ok e → e.reason = .budgetExhausted → work.iterations = done + left := by
  -- the attempts made and the attempts left add up to the same all along
  induction h using Attempts.ok_induction with
  | spent done => simp
  | halted hp =>
    constructor
    · simp
    · intro e he hr
      cases he
      -- a poll never says that the budget is exhausted
      rcases haltReason_eq_some_iff.1 hp with ⟨-, rfl⟩ | ⟨-, -, rfl⟩ <;> cases hr
  | ended hp hr =>
    constructor
    · simp
    · intro e he hb
      cases he
      rcases hr.ending with rfl | ⟨error, rfl⟩ <;> cases hb
  | again hp hr hrest ih =>
    rcases ih with ⟨hle, hspent⟩
    constructor
    · omega
    · intro e he hr
      have hall := hspent e he hr
      omega

/-- A loop stage takes no more than is left, and reports the budget as exhausted only if it took all
of that. -/
theorem Performs.iterations_le {r : StageResult} (h : Performs c stage config limits t (.ok r))
    (hl : stage.loop = true) :
    r.iterations ≤ limits.remaining.toNat ∧
      (r.stopReason = some .budgetExhausted → r.iterations = limits.remaining.toNat) := by
  cases h with
  | ended duration hw =>
    cases hw with
    | once hf => simp [hl] at hf
    | repeated _ hc ha hq =>
      rcases ha.iterations_le with ⟨hle, hspent⟩
      simp only at hle ⊢
      constructor
      · omega
      · intro hr
        have hall := hspent _ rfl (Option.some.inj hr)
        simp only at hall
        omega
  | contained duration hw hq he =>
    constructor
    · cases hw with
      | onceRaised hf => simp [hl] at hf
      | unchecked => exact Int.natCast_nonneg _
      | repeated _ hc ha hq =>
        have hle := ha.iterations_le.1
        simp only at hle ⊢
        omega
    · intro hr
      cases hr

/-- A stage that does not loop makes one attempt. -/
theorem Performs.single {r : StageResult} (h : Performs c stage config limits t (.ok r))
    (hl : stage.loop = false) : r.iterations = 1 := by
  cases h with
  | ended duration hw =>
    cases hw with
    | once => rfl
    | repeated ht => simp [hl] at ht
  | contained duration hw hq he =>
    cases hw with
    | onceRaised => rfl
    | unchecked ht => simp [hl] at ht
    | repeated ht => simp [hl] at ht

variable (c) in
/-- What a stage does that starts with nothing left of the budget. -/
def PassesUnfunded (leg : Leg) : Prop :=
  if leg.result.stage.loop then
    leg.result.iterations = 0 ∧ spawns leg.part = [] ∧
      leg.result.stopReason = some
        (if leg.result.stage.check = none ∧ c.store.isNone then .stageFailed else .budgetExhausted)
  else (spawns leg.part).length = 1

/-- A loop stage with nothing left makes no attempt, and says so, unless it has no completion
check. -/
theorem Performs.stopReason_unfunded {r : StageResult}
    (h : Performs c stage config limits t (.ok r)) (hl : stage.loop = true)
    (hz : limits.remaining.toNat = 0) :
    r.stopReason = some
      (if stage.check = none ∧ c.store.isNone then .stageFailed else .budgetExhausted) := by
  simp only [← CompletionCheck.of?_eq_none_iff]
  cases h with
  | ended duration hw =>
    cases hw with
    | once hf => simp [hl] at hf
    | repeated _ hc ha hq =>
      -- with nothing left there is no round, and the attempts are spent at once
      rw [hz] at ha
      cases ha
      simp [hc]
  | contained duration hw hq he =>
    cases hw with
    | onceRaised hf => simp [hl] at hf
    | unchecked _ hc => simp [hc]
    | repeated _ hc ha hq =>
      rw [hz] at ha
      cases ha

/-- A leg with nothing left of the budget before it passes unfunded. -/
theorem Takes.passesUnfunded {leg : Leg}
    (h : Takes c leg.result.stage config limits leg.part (.ok leg.result))
    (hz : limits.remaining = 0) : PassesUnfunded c leg := by
  have hp := h.performs
  have hn := hp.length_spawns
  unfold PassesUnfunded
  cases hl : leg.result.stage.loop with
  | true =>
    have hle := (hp.iterations_le hl).1
    rw [hz, Int.toNat_zero] at hle
    have hi : leg.result.iterations = 0 := by omega
    refine ⟨hi, ?_, hp.stopReason_unfunded hl (by simp [hz])⟩
    apply List.length_eq_zero_iff.1
    omega
  | false =>
    have := hp.single hl
    simp only [Bool.false_eq_true, if_false]
    omega

/-! ## The stages of a chain -/

/-- The iterations that loop stages took. -/
def loopIterations (results : List StageResult) : Int :=
  ((results.filter (·.stage.loop)).map (·.iterations)).sum

@[simp] theorem loopIterations_nil : loopIterations [] = 0 := rfl

/-- The iterations of a stage count if it loops. -/
theorem loopIterations_cons (r : StageResult) (results : List StageResult) :
    loopIterations (r :: results) =
      (if r.stage.loop then r.iterations else 0) + loopIterations results := by
  cases hl : r.stage.loop <;> simp [loopIterations, hl]

/-- Further results take no less, unless a loop stage gives iterations back. -/
theorem loopIterations_le_of_sublist {part whole : List StageResult} (h : part.Sublist whole)
    (hwhole : ∀ r ∈ whole, r.stage.loop = true → 0 ≤ r.iterations) :
    loopIterations part ≤ loopIterations whole := by
  apply ((h.filter (·.stage.loop)).map (·.iterations)).sum_le_sum
  intro n hn
  rcases List.mem_map.1 hn with ⟨r, hr, rfl⟩
  rcases List.mem_filter.1 hr with ⟨hmem, hl⟩
  exact hwhole r hmem hl

variable {start : Float} {results : List StageResult} {legs : List Leg}

/-- A further result adds the iterations of its stage if that loops. -/
theorem loopIterations_take_succ {k : Nat} {r : StageResult} (hk : results[k]? = some r) :
    loopIterations (results.take (k + 1)) =
      loopIterations (results.take k) + if r.stage.loop then r.iterations else 0 := by
  cases hl : r.stage.loop <;> simp [loopIterations, List.take_add_one, hk, List.filter_append, hl]

/-- For each result there is a leg that has it. -/
theorem HasLegs.exists_leg (h : HasLegs c config start t results legs) {k : Nat} {r : StageResult}
    (hk : results[k]? = some r) : ∃ part, legs[k]? = some ⟨part, r⟩ := by
  rw [h.results_eq, List.getElem?_map] at hk
  rcases Option.map_eq_some_iff.1 hk with ⟨⟨part, r'⟩, hleg, rfl⟩
  exact ⟨part, hleg⟩

/-- The result of a leg stands at the number of the leg. -/
theorem HasLegs.result_eq (h : HasLegs c config start t results legs) {k : Nat} {leg : Leg}
    (hk : legs[k]? = some leg) : results[k]? = some leg.result := by
  rw [h.results_eq, List.getElem?_map, hk]
  rfl

/-- A loop stage takes no more than the stages before it left. -/
theorem HasLegs.iterations_le (h : HasLegs c config start t results legs) {k : Nat} {leg : Leg}
    (hk : legs[k]? = some leg) (hl : leg.result.stage.loop = true) :
    0 ≤ leg.result.iterations ∧
      leg.result.iterations ≤ (limitsBefore config start results k).remaining.toNat := by
  have hp := (h.takes k leg hk).performs
  constructor
  · rw [← hp.length_spawns]
    exact Int.natCast_nonneg _
  · exact (hp.iterations_le hl).1

/-- What is left before a stage is the budget less what loop stages took, and never negative. -/
theorem HasLegs.remaining_eq (h : HasLegs c config start t results legs) (k : Nat) :
    0 ≤ (limitsBefore config start results k).remaining ∧
      (limitsBefore config start results k).remaining =
        config.budget.val - loopIterations (results.take k) := by
  induction k with
  | zero =>
    have hpos := config.budget.property
    have hnone : loopIterations (results.take 0) = 0 := rfl
    simp only [limitsBefore_zero, fullConstraints, hnone]
    omega
  | succ k ih =>
    rcases ih with ⟨hpos, heq⟩
    cases hk : results[k]? with
    | none =>
      -- there is no such stage, and what is left is what was left at the end
      have hlen := List.getElem?_eq_none_iff.1 hk
      simp only [limitsBefore, List.take_of_length_le hlen,
        List.take_of_length_le (Nat.le_succ_of_le hlen)] at hpos heq ⊢
      exact ⟨hpos, heq⟩
    | some r =>
      rcases h.exists_leg hk with ⟨part, hleg⟩
      rw [limitsBefore_succ config start hk, loopIterations_take_succ hk]
      cases hl : r.stage.loop with
      | false => simpa [Constraints.after, hl] using ⟨hpos, heq⟩
      | true =>
        -- the stage took no more than was left, so the lower bound does not come in
        have := h.iterations_le hleg hl
        simp only [Constraints.after, hl, if_true] at this ⊢
        omega

/-- Once nothing is left, nothing is left later. -/
theorem HasLegs.remaining_eq_zero (h : HasLegs c config start t results legs) {k m : Nat}
    (hz : (limitsBefore config start results k).remaining = 0) (hm : k ≤ m) :
    (limitsBefore config start results m).remaining = 0 := by
  have hnonneg : ∀ r ∈ results.take m, r.stage.loop = true → 0 ≤ r.iterations := by
    intro r hr hl
    rcases List.getElem?_of_mem (List.mem_of_mem_take hr) with ⟨i, hi⟩
    rcases h.exists_leg hi with ⟨part, hleg⟩
    exact (h.iterations_le hleg hl).1
  -- the sum of the iterations grows with the stages, and it has reached the budget at `k`
  have hle := loopIterations_le_of_sublist (List.take_prefix_take_left hm).sublist hnonneg
  have hbefore := h.remaining_eq k
  have hafter := h.remaining_eq m
  omega

variable (c) in
/-- How the loop stages of a chain share its budget, by its legs and their results. -/
structure SharesBudget (config : Config) (start : Float) (results : List StageResult)
    (legs : List Leg) : Prop where
  /-- A loop stage takes no more iterations than the loop stages before it left. -/
  within : ∀ k leg, legs[k]? = some leg → leg.result.stage.loop = true →
    0 ≤ leg.result.iterations ∧
      leg.result.iterations ≤ config.budget.val - loopIterations (results.take k)
  total : loopIterations results ≤ config.budget.val
  /-- Nothing but the iterations of loop stages is taken off, and nothing is lost at zero. -/
  exact : ∀ k, (limitsBefore config start results k).remaining =
    config.budget.val - loopIterations (results.take k)
  /-- With the stage that reports the budget as exhausted exactly the budget has been used, and the
  stages after it do without. -/
  exhausted : ∀ k leg, legs[k]? = some leg → leg.result.stage.loop = true →
    leg.result.stopReason = some .budgetExhausted →
      loopIterations (results.take (k + 1)) = config.budget.val ∧
        ∀ m later, k < m → legs[m]? = some later → PassesUnfunded c later

/-- A loop stage that reports the budget as exhausted has used up all that was left, and the stages
after it pass unfunded. -/
theorem HasLegs.exhausted (h : HasLegs c config start t results legs) {k : Nat} {leg : Leg}
    (hk : legs[k]? = some leg) (hl : leg.result.stage.loop = true)
    (hr : leg.result.stopReason = some .budgetExhausted) :
    loopIterations (results.take (k + 1)) = config.budget.val ∧
      ∀ m later, k < m → legs[m]? = some later → PassesUnfunded c later := by
  -- the stage took all that was left, so nothing is left after it
  have hall := ((h.takes k leg hk).performs.iterations_le hl).2 hr
  have heq := h.remaining_eq k
  have hsum : loopIterations (results.take (k + 1)) = config.budget.val := by
    rw [loopIterations_take_succ (h.result_eq hk), hl, if_pos rfl]
    omega
  have hz : (limitsBefore config start results (k + 1)).remaining = 0 := by
    have heq := (h.remaining_eq (k + 1)).2
    omega
  constructor
  · exact hsum
  · intro m later hm hlater
    exact (h.takes m later hlater).passesUnfunded (h.remaining_eq_zero hz hm)

/-- The loop stages of a chain share its budget. -/
theorem iterations_share_budget {w : σ} {R : ChainResult}
    (h : outcomeFrom (chain c config) w = .ok R) :
    ∃ legs,
      HasLegs c config (startTime c w) (journalFrom (chain c config) w) R.stageResults legs ∧
        SharesBudget c config (startTime c w) R.stageResults legs := by
  rcases chain_legs h with ⟨legs, hlegs⟩
  refine ⟨legs, hlegs, ⟨?_, ?_, fun k => (hlegs.remaining_eq k).2, ?_⟩⟩
  · intro k leg hk hl
    have hle := hlegs.iterations_le hk hl
    have heq := hlegs.remaining_eq k
    omega
  -- the total is the sum before a stage that is not there
  · have heq := hlegs.remaining_eq R.stageResults.length
    rw [List.take_length] at heq
    omega
  · intro k leg hk hl hr
    exact hlegs.exhausted hk hl hr

/-- A loop stage, one that does not loop, and another loop stage, with two iterations to share. -/
def scarceConfig : Config where
  stages := [{ name := sampleName, loop := true }, { name := sampleName },
    { name := sampleName, loop := true }]
  root := ⟨.root, ["p"]⟩
  budget := ⟨2, by decide⟩

/-- With more rounds to go than the budget allows, the first loop stage uses all of it up. -/
theorem scarce_budget_used_up :
    ∃ R, outcomeFrom (chain (Echo.collaborators 10) scarceConfig) 0 = .ok R ∧
      R.stageResults.map (fun r => (r.iterations, r.stopReason)) =
        [(2, some .budgetExhausted), (1, some .singlePass), (0, some .budgetExhausted)] ∧
      ∃ legs, HasLegs (Echo.collaborators 10) scarceConfig 0
          (journalFrom (chain (Echo.collaborators 10) scarceConfig) 0) R.stageResults legs ∧
        SharesBudget (Echo.collaborators 10) scarceConfig 0 R.stageResults legs := by
  have hrun : (outcomeFrom (chain (Echo.collaborators 10) scarceConfig) 0).toOption.map
      (fun R => R.stageResults.map fun r => (r.iterations, r.stopReason)) =
        some [(2, some .budgetExhausted), (1, some .singlePass), (0, some .budgetExhausted)] := by
    decide +kernel
  rcases exists_of_toOption_map hrun with ⟨R, hR, hmap⟩
  exact ⟨R, hR, hmap, iterations_share_budget hR⟩

end AgentChain.Run
