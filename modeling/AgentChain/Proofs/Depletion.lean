import Mathlib.Algebra.BigOperators.Group.List.Basic
import AgentChain.Proofs.Budget

/-!
# Depletion of the constraints

Stage by stage, the iterations of loop stages are taken off what is left, and each step on its own
stops at zero. A whole sequence of results nevertheless leaves what taking off their total in one
step would leave, wherever the steps come to zero. So the order of the results and the stages
between them that do not loop make no difference, and what is left never rises.

Main statement: `depleted_by_loop_stages`.
-/

namespace AgentChain.Constraints

open Run (loopIterations)

/-- What is left after stages with these results, one after another. -/
def afterAll (c : Constraints) (results : List StageResult) : Constraints :=
  results.foldl after c

/-- The constraints without this many of their iterations, or with none left if there are fewer. -/
def without (c : Constraints) (n : Int) : Constraints :=
  { c with remaining := max 0 (c.remaining - n) }

variable {c : Constraints} {results other : List StageResult}

/-! ## Taking iterations off -/

@[simp] theorem without_deadline (c : Constraints) (n : Int) :
    (c.without n).deadline = c.deadline := rfl

@[simp] theorem without_remaining (c : Constraints) (n : Int) :
    (c.without n).remaining = max 0 (c.remaining - n) := rfl

/-- To take nothing off changes nothing, unless less than nothing was left. -/
theorem without_zero (hc : 0 ≤ c.remaining) : c.without 0 = c := by
  rw [without, Int.sub_zero, Int.max_eq_right hc]

/-- Taking off in two steps is taking off the sum, also where the first step stops at zero: the
second then gives nothing back. -/
theorem without_without (m : Int) {n : Int} (hn : 0 ≤ n) :
    (c.without m).without n = c.without (m + n) := by
  have hmax : max 0 (max 0 (c.remaining - m) - n) = max 0 (c.remaining - (m + n)) := by omega
  rw [without, without, without, hmax]

/-! ## Sequences of results -/

@[simp] theorem afterAll_nil (c : Constraints) : c.afterAll [] = c := rfl

@[simp] theorem afterAll_cons (c : Constraints) (r : StageResult) (rest : List StageResult) :
    c.afterAll (r :: rest) = (c.after r).afterAll rest := rfl

/-- One result takes off what its stage made, if that loops. -/
theorem after_eq_without (hc : 0 ≤ c.remaining) (r : StageResult) :
    c.after r = c.without (if r.stage.loop then r.iterations else 0) := by
  cases hl : r.stage.loop with
  | true => simp [after, without, hl]
  | false => simp [after, hl, without_zero hc]

/-- A sequence of results takes off the total of its loop stages at once. -/
theorem afterAll_eq_without (hc : 0 ≤ c.remaining)
    (h : ∀ r ∈ results, r.stage.loop = true → 0 ≤ r.iterations) :
    c.afterAll results = c.without (loopIterations results) := by
  induction results generalizing c with
  | nil => rw [afterAll_nil, Run.loopIterations_nil, without_zero hc]
  | cons r rest ih =>
    let n := if r.stage.loop then r.iterations else 0
    have hrest : ∀ q ∈ rest, q.stage.loop = true → 0 ≤ q.iterations :=
      fun q hq => h q (List.mem_cons_of_mem r hq)
    -- with fewer left than `r` takes, the rest finds nothing left, and must not give any back
    have hnonneg : 0 ≤ loopIterations rest :=
      Run.loopIterations_le_of_sublist (List.nil_sublist rest) hrest
    calc c.afterAll (r :: rest)
      _ = (c.without n).afterAll rest := by rw [afterAll_cons, after_eq_without hc]
      _ = (c.without n).without (loopIterations rest) := ih (Int.le_max_left _ _) hrest
      _ = c.without (n + loopIterations rest) := without_without n hnonneg
      _ = c.without (loopIterations (r :: rest)) := by rw [Run.loopIterations_cons]

/-- Nothing but the results of the loop stages counts, in whatever order. -/
theorem afterAll_congr (hc : 0 ≤ c.remaining)
    (h : ∀ r ∈ results, r.stage.loop = true → 0 ≤ r.iterations)
    (hp : (other.filter (·.stage.loop)).Perm (results.filter (·.stage.loop))) :
    c.afterAll other = c.afterAll results := by
  have hother : ∀ r ∈ other, r.stage.loop = true → 0 ≤ r.iterations := by
    intro r hr hl
    have hmem := hp.mem_iff.1 (List.mem_filter.2 ⟨hr, hl⟩)
    exact h r (List.mem_filter.1 hmem).1 hl
  have hsum : loopIterations other = loopIterations results := (hp.map _).sum_eq
  rw [afterAll_eq_without hc hother, afterAll_eq_without hc h, hsum]

/-- What a sequence of results leaves is not negative. -/
theorem remaining_afterAll_nonneg (hc : 0 ≤ c.remaining)
    (h : ∀ r ∈ results, r.stage.loop = true → 0 ≤ r.iterations) :
    0 ≤ (c.afterAll results).remaining := by
  rw [afterAll_eq_without hc h, without_remaining]
  exact Int.le_max_left _ _

/-- Further results leave no more. -/
theorem remaining_afterAll_le (hc : 0 ≤ c.remaining)
    (h : ∀ r ∈ results, r.stage.loop = true → 0 ≤ r.iterations) (hs : other.Sublist results) :
    (c.afterAll results).remaining ≤ (c.afterAll other).remaining := by
  have hother : ∀ r ∈ other, r.stage.loop = true → 0 ≤ r.iterations :=
    fun r hr => h r (hs.subset hr)
  -- the total of the longer sequence is at least that of the shorter one
  have hle := Run.loopIterations_le_of_sublist hs h
  rw [afterAll_eq_without hc h, afterAll_eq_without hc hother]
  simp only [without_remaining]
  omega

/-! ## Depletion -/

/-- What a sequence of results leaves of the constraints. -/
structure DepletedBy (c : Constraints) (results : List StageResult) : Prop where
  deadline_eq : (c.afterAll results).deadline = c.deadline
  /-- The iterations of all loop stages together are taken off, down to zero. -/
  remaining_eq : (c.afterAll results).remaining = max 0 (c.remaining - loopIterations results)
  /-- The order of the results makes no difference. -/
  reordered : ∀ other, other.Perm results → c.afterAll other = c.afterAll results
  /-- Results of stages that do not loop may be put in or left out anywhere. -/
  interspersed : ∀ other, other.filter (·.stage.loop) = results.filter (·.stage.loop) →
    c.afterAll other = c.afterAll results
  /-- After any number of stages, what is left is not negative and not more than at the start. -/
  within : ∀ k, 0 ≤ (c.afterAll (results.take k)).remaining ∧
    (c.afterAll (results.take k)).remaining ≤ c.remaining
  /-- More stages leave no more. -/
  falling : ∀ k m, k ≤ m →
    (c.afterAll (results.take m)).remaining ≤ (c.afterAll (results.take k)).remaining

/-- Results that give no iterations back take the total of their loop stages off the constraints,
whatever their order and whatever stages stand between them. -/
theorem depleted_by_loop_stages (c : Constraints) (results : List StageResult)
    (hc : 0 ≤ c.remaining) (h : ∀ r ∈ results, r.stage.loop = true → 0 ≤ r.iterations) :
    c.DepletedBy results := by
  have htake : ∀ k, ∀ r ∈ results.take k, r.stage.loop = true → 0 ≤ r.iterations :=
    fun k r hr => h r (List.mem_of_mem_take hr)
  constructor
  case deadline_eq => rw [afterAll_eq_without hc h, without_deadline]
  case remaining_eq => rw [afterAll_eq_without hc h, without_remaining]
  case reordered =>
    intro other hp
    exact afterAll_congr hc h (hp.filter _)
  case interspersed =>
    intro other hf
    exact afterAll_congr hc h (List.Perm.of_eq hf)
  case within =>
    intro k
    constructor
    · exact remaining_afterAll_nonneg hc (htake k)
    · exact remaining_afterAll_le hc (htake k) (List.nil_sublist _)
  case falling =>
    intro k m hkm
    exact remaining_afterAll_le hc (htake m) (List.take_prefix_take_left hkm).sublist

/-- Three iterations, and ten seconds to the end. -/
def threeLeft : Constraints := ⟨3, 10⟩

/-- The result of a stage that made this many iterations. -/
def resultOf (loop : Bool) (iterations : Int) : StageResult where
  stage := { name := Run.sampleName, loop }
  iterations := iterations

/-- Three loop stages, of which the second goes beyond what is left, and a stage that does not
loop. -/
def overshooting : List StageResult :=
  [resultOf true 2, resultOf false 1, resultOf true 4, resultOf true 1]

/-- The second loop stage asks for more than is left, and the last finds nothing. -/
theorem depleted_by_overshooting :
    threeLeft.afterAll overshooting = ⟨0, 10⟩ ∧ threeLeft.DepletedBy overshooting := by
  have hc : 0 ≤ threeLeft.remaining := by decide
  have h : ∀ r ∈ overshooting, r.stage.loop = true → 0 ≤ r.iterations := by decide
  exact ⟨by decide, depleted_by_loop_stages threeLeft overshooting hc h⟩

/-- If iterations could be given back, their order would matter. -/
example :
    (threeLeft.afterAll [resultOf true 4, resultOf true (-2)]).remaining = 2 ∧
      (threeLeft.afterAll [resultOf true (-2), resultOf true 4]).remaining = 1 := by
  decide

end AgentChain.Constraints
