import Mathlib.Data.List.Nodup
import AgentChain.Number.Decimal
import AgentChain.Proofs.Budget
import AgentChain.Proofs.Classification
import AgentChain.Proofs.Echoing
import AgentChain.Proofs.Reading
import AgentChain.Proofs.Requests

/-!
# Rehearsals

A rehearsal is a run of the stages of a chain expression with the echo executor and its task store,
without a signal and within the time limit. It is told in advance: every stage gets a result and
succeeds, a stage that does not loop calls the executor once, and a loop stage calls it until its
tasks are done, which is after the first call at the earliest, or until the budget is used up. The
agents are numbered through the whole run, so that no two have the same session id.

Main statement: `rehearsal_closed_form`.
-/

namespace AgentChain

/-- The session id that the executor gave. -/
def Entry.sessionId? : Entry → Option String
  | .spawn _ (.answered r) => some r.sessionId
  | _ => none

/-- If the run asked whether it has to halt, the deadline had not passed. -/
def Entry.isInTime : Entry → Bool
  | .poll _ deadline now => !decide (deadline ≤ now)
  | _ => true

namespace Run

/-! ## Session ids -/

/-- The session ids that the executor gave. -/
def sessionIds (t : List Entry) : List String := t.filterMap Entry.sessionId?

@[simp] theorem sessionIds_cons (x : Entry) (t : List Entry) :
    sessionIds (x :: t) = x.sessionId?.toList ++ sessionIds t :=
  filterMap_cons_toList ..

/-- The session id of the agent with this number. -/
def numberedId (role : String) (n : Nat) : String := role ++ "-" ++ toString n

/-- The session ids of calls with these requests, numbered from `n` on. -/
def numberedIds (n : Nat) (requests : List SpawnRequest) : List String :=
  (requests.zipIdx n).map fun (request, i) => numberedId request.role i

variable {σ : Type} {c : Collaborators σ} {stage : Stage} {config : Config} {limits : Constraints}
  {check : CompletionCheck σ} {root : Path} {rounds : Int} {n : Echo.World} {t : List Entry}

/-- The echo executor numbers its agents one after the other, from the calls on that were made
before. -/
theorem Echoed.sessionIds_eq (h : Echoed rounds n t) :
    sessionIds t = numberedIds (n + 1) (requests t) := by
  induction t generalizing n with
  | nil => rfl
  | cons x t ih =>
    obtain ⟨hx, ht⟩ := h
    have hrest := ih ht
    -- only a call of the executor gives a session id
    cases x with
    | spawn request outcome =>
      cases hx
      have hid : (Entry.spawn request (Echo.spawn request n).1).sessionId? =
          some (numberedId request.role (n + 1)) := rfl
      rw [sessionIds_cons, hid, hrest]
      rfl
    | _ => exact hrest

/-- The text behind the last hyphen. -/
def behindHyphen (s : String) : List Char :=
  (s.toList.reverse.takeWhile (· != '-')).reverse

/-- A number has no hyphen, so that it can be told from the session id. -/
theorem behindHyphen_numberedId (role : String) (n : Nat) :
    behindHyphen (numberedId role n) = (toString n).toList := by
  have hdigits : ∀ d ∈ (toString n).toList.reverse, (d != '-') = true := by
    intro d hd
    have hdigit : d.isDigit = true := Number.isDigit_of_mem_toString (List.mem_reverse.1 hd)
    have hne : d ≠ '-' := by
      rintro rfl
      exact absurd hdigit (by decide)
    simpa using hne
  have hlist : (numberedId role n).toList.reverse =
      (toString n).toList.reverse ++ ('-' :: role.toList.reverse) := by
    simp [numberedId]
  unfold behindHyphen
  rw [hlist, List.takeWhile_append_of_pos hdigits, List.takeWhile_cons_of_neg (by simp),
    List.append_nil, List.reverse_reverse]

/-- Session ids with different numbers are different, whatever the roles. -/
theorem nodup_numberedIds (n : Nat) (requests : List SpawnRequest) :
    (numberedIds n requests).Nodup := by
  apply List.Nodup.of_map behindHyphen
  -- what is behind the last hyphen tells the ids apart, since the roles may be the same
  have hnumbers : (numberedIds n requests).map behindHyphen =
      (List.range' n requests.length).map fun i => (toString i).toList := by
    rw [← List.zipIdx_map_snd, numberedIds, List.map_map, List.map_map]
    apply List.map_congr_left
    rintro ⟨request, i⟩ -
    exact behindHyphen_numberedId request.role i
  rw [hnumbers]
  apply List.Nodup.map _ List.nodup_range'
  intro i j hij
  have hdigits : (toString i).toList = (toString j).toList := hij
  rw [← Number.ofDigitChars_toString i, hdigits, Number.ofDigitChars_toString]

/-! ## In time -/

/-- No poll finds that the deadline has passed. -/
def InTime (t : List Entry) : Prop := ∀ x ∈ t, x.isInTime = true

theorem InTime.mono {u : List Entry} (h : InTime t) (hu : ∀ x ∈ u, x ∈ t) : InTime u :=
  fun x hx => h x (hu x hx)

/-- A poll in time does not halt a run without a signal. -/
theorem Echoed.goes_on {b : Bool} {deadline now : Float} (he : Echoed rounds n t) (ht : InTime t)
    (hmem : .poll b deadline now ∈ t) : haltReason b deadline now = none := by
  obtain ⟨m, hb⟩ := he.isEcho_of_mem hmem
  have hlate : ¬ deadline ≤ now := by simpa [Entry.isInTime] using ht _ hmem
  cases hb
  simp [haltReason, hlate]

/-! ## One stage -/

/-- The calls until the tasks are done, when there have been `calls` calls before. The tasks are not
asked before the first call. -/
def callsNeeded (rounds : Int) (calls : Echo.World) : Int := max 1 (rounds - calls)

/-- Why a loop stage ends with so many iterations left: its tasks are done, or it has used them
up. -/
def loopReason (rounds : Int) (calls : Echo.World) (left : Int) : StopReason :=
  if callsNeeded rounds calls ≤ left then .goalMet else .budgetExhausted

/-- The tasks are never done without a call. -/
theorem one_le_callsNeeded (rounds : Int) (n : Echo.World) : 1 ≤ callsNeeded rounds n := by
  unfold callsNeeded
  omega

/-- The tasks that are done after the next call need only that one. -/
theorem callsNeeded_of_le (h : rounds ≤ (n + 1 : Nat)) : callsNeeded rounds n = 1 := by
  unfold callsNeeded
  omega

/-- Every call but the last brings the end one call nearer. -/
theorem callsNeeded_of_lt (h : ¬ rounds ≤ (n + 1 : Nat)) :
    callsNeeded rounds n = callsNeeded rounds (n + 1) + 1 := by
  unfold callsNeeded
  omega

/-- The echo executor always succeeds. -/
theorem Spawns.echoed {o : Except Fault SpawnResult} (h : Spawns stage config t (.ok o))
    (he : Echoed rounds n t) : ∃ r, o = .ok r ∧ r.success = true := by
  cases h with
  | raised f =>
    obtain ⟨hf, -⟩ := he
    cases hf
  | failed hr hq =>
    obtain ⟨hr', -⟩ := he
    cases hr'
    cases hr
  | succeeded hr ht hu =>
    obtain ⟨hr', -⟩ := he
    cases hr'
    exact ⟨_, rfl, rfl⟩

/-- The tasks are done exactly if there have been as many calls as rounds. -/
theorem Asks.echoed {answer : Except Fault Bool} (h : Asks check root t (.ok answer))
    (he : Echoed rounds n t) : answer = .ok (decide (rounds ≤ n)) := by
  cases h with
  | @answered u ht =>
    have hnone : Run.spawns (checkEntry check root :: u) = [] := by
      cases check <;> simp [checkEntry, Entry.spawn?, ht.spawns]
    obtain ⟨-, hverdict, -⟩ := echoed_append.1 he
    rw [hnone] at hverdict
    exact hverdict

/-- A round makes one call, and ends the stage exactly if the tasks are done with it. -/
theorem Round.echoed {k : Nat} {p : Option (Except Fault Ending)}
    (h : Round stage config check k t (.ok p)) (he : Echoed rounds n t) :
    p = if rounds ≤ (n + 1 : Nat) then some (.ok ⟨true, none, .goalMet⟩) else none := by
  cases h with
  | @made _ _ _ o _ hemits hs hf =>
    obtain ⟨-, hrest⟩ := echoed_append.1 he
    obtain ⟨hspawn, hfollows⟩ := echoed_append.1 hrest
    rw [hemits.spawns] at hspawn hfollows
    cases o with
    | error e => cases hf
    | ok o =>
      obtain ⟨outcome, hone, -⟩ := hs.spawns
      obtain ⟨r, rfl, hr⟩ := hs.echoed hspawn
      rw [hone] at hfollows
      cases hf with
      | failed hfail =>
        rw [hr] at hfail
        cases hfail
      | checkRaised _ ha => cases ha.echoed hfollows
      | met _ ha =>
        have hdone := ha.echoed hfollows
        simp_all
      | unmet _ ha =>
        have hdone := ha.echoed hfollows
        simp_all

/-- A loop stage calls the executor until its tasks are done or nothing is left, and succeeds. -/
theorem Attempts.echoed {deadline : Float} {done left : Nat} {work : Work}
    (h : Attempts stage config check deadline done left t (.ok work)) (he : Echoed rounds n t)
    (ht : InTime t) :
    (work.iterations : Int) = done + min (left : Int) (callsNeeded rounds n) ∧
      work.ending = .ok ⟨true, none, loopReason rounds n left⟩ := by
  -- the calls are counted by `n`, the iterations by `done`; both grow with a round
  induction h using Attempts.ok_induction generalizing n with
  | spent done =>
    have hone : 1 ≤ callsNeeded rounds n := one_le_callsNeeded rounds n
    have hnot : ¬ callsNeeded rounds n ≤ (0 : Nat) := by omega
    rw [loopReason, if_neg hnot]
    refine ⟨?_, rfl⟩
    simp only
    omega
  | halted hp =>
    rw [he.goes_on ht List.mem_cons_self] at hp
    cases hp
  | @ended done left _ _ _ _ hp hr =>
    have hend := hr.echoed (he.tail rfl)
    by_cases hdone : rounds ≤ (n + 1 : Nat)
    · rw [if_pos hdone] at hend
      cases hend
      have hmet : callsNeeded rounds n ≤ (left + 1 : Nat) := by
        rw [callsNeeded_of_le hdone]
        omega
      rw [loopReason, if_pos hmet, callsNeeded_of_le hdone]
      refine ⟨?_, rfl⟩
      simp only
      omega
    · rw [if_neg hdone] at hend
      cases hend
  | @again done left _ _ _ _ _ hp hr hrest ih =>
    obtain ⟨hround, hafter⟩ := echoed_append.1 (he.tail rfl)
    have hend := hr.echoed hround
    rw [hr.length_spawns] at hafter
    by_cases hdone : rounds ≤ (n + 1 : Nat)
    · rw [if_pos hdone] at hend
      cases hend
    · obtain ⟨hn, hreason⟩ := ih hafter
        (ht.mono fun x hx => List.mem_cons_of_mem _ (List.mem_append_right _ hx))
      -- one call more and one iteration less leave the comparison as it is
      have hnext := callsNeeded_of_lt hdone
      refine ⟨by omega, ?_⟩
      rw [hreason]
      have hsame : callsNeeded rounds (n + 1) ≤ (left : Int) ↔
          callsNeeded rounds n ≤ (left + 1 : Nat) := by omega
      unfold loopReason
      simp only [hsame]

/-- The calls of a stage that starts after `calls` calls, with so many iterations left. -/
def stageCalls (rounds : Int) (calls : Echo.World) (left : Int) (stage : Stage) : Int :=
  if stage.loop then min left (callsNeeded rounds calls) else 1

/-- Why such a stage ends. -/
def stageReason (rounds : Int) (calls : Echo.World) (left : Int) (stage : Stage) : StopReason :=
  if stage.loop then loopReason rounds calls left else .singlePass

/-- A stage of either sort makes the calls that are told in advance, and ends as it is told. -/
theorem Works.echoed {work : Work} (h : Works c stage config limits t (.ok work))
    (hc : CompletionCheck.of? c stage ≠ none) (he : Echoed rounds n t) (ht : InTime t)
    (hleft : 0 ≤ limits.remaining) :
    (work.iterations : Int) = stageCalls rounds n limits.remaining stage ∧
      ∃ error, work.ending = .ok ⟨true, error, stageReason rounds n limits.remaining stage⟩ := by
  unfold stageCalls stageReason
  cases h with
  | once hl hs =>
    obtain ⟨r, hr, hsuccess⟩ := hs.echoed he
    cases hr
    simp [hl, hsuccess]
  | onceRaised hl hs =>
    obtain ⟨r, hr, -⟩ := hs.echoed he
    cases hr
  | unchecked hl hnone => exact absurd hnone hc
  | repeated hl _ ha hq =>
    obtain ⟨hattempts, -⟩ := echoed_append.1 he
    obtain ⟨hn, hending⟩ := ha.echoed hattempts (ht.mono fun x hx => List.mem_append_left _ hx)
    have hall : (limits.remaining.toNat : Int) = limits.remaining := Int.toNat_of_nonneg hleft
    rw [hall] at hn hending
    simp only [hl, if_true]
    exact ⟨by omega, none, hending⟩

/-- A stage of a rehearsal succeeds, with the calls and for the reason that are told in advance. -/
theorem Performs.echoed {r : StageResult} (h : Performs c stage config limits t (.ok r))
    (hc : CompletionCheck.of? c stage ≠ none) (he : Echoed rounds n t) (ht : InTime t)
    (hleft : 0 ≤ limits.remaining) :
    r.success = true ∧ r.iterations = stageCalls rounds n limits.remaining stage ∧
      r.stopReason = some (stageReason rounds n limits.remaining stage) := by
  cases h with
  | ended duration hw =>
    obtain ⟨hn, error, hending⟩ := hw.echoed hc he ht hleft
    cases hending
    exact ⟨rfl, hn, rfl⟩
  | contained duration hw hq hemits =>
    obtain ⟨hwork, -⟩ := echoed_append.1 he
    obtain ⟨-, error, hending⟩ :=
      hw.echoed hc hwork (ht.mono fun x hx => List.mem_append_left _ hx) hleft
    cases hending

/-! ## The stages of a chain -/

/-- The calls that the first `k` legs made. -/
def callsBefore (legs : List Leg) (k : Nat) : Nat :=
  ((legs.take k).flatMap fun leg => spawns leg.part).length

/-- A leg as it is told in advance, when there have been `calls` calls before and so many iterations
are left. -/
structure Fits (rounds : Int) (calls : Echo.World) (left : Int) (leg : Leg) : Prop where
  success : leg.result.success = true
  stopReason_eq : leg.result.stopReason = some (stageReason rounds calls left leg.result.stage)
  calls_eq : ((spawns leg.part).length : Int) = stageCalls rounds calls left leg.result.stage
  iterations_eq : leg.result.iterations = (spawns leg.part).length
  role_eq : ∀ request ∈ requests leg.part, request.role = leg.result.stage.name.text

theorem Performs.fits {r : StageResult} (h : Performs c stage config limits t (.ok r))
    (hc : CompletionCheck.of? c stage ≠ none) (he : Echoed rounds n t) (ht : InTime t)
    (hleft : 0 ≤ limits.remaining) : Fits rounds n limits.remaining ⟨t, r⟩ := by
  obtain ⟨hsuccess, hn, hreason⟩ := h.echoed hc he ht hleft
  have hlen := h.length_spawns
  refine ⟨hsuccess, ?_, ?_, hlen.symm, ?_⟩
  · rw [hreason, h.stage_eq]
  · rw [hlen, hn, h.stage_eq]
  · intro request hmem
    rw [h.requests request hmem, h.stage_eq]
    rfl

variable {index : Nat} {list : List Stage} {legs : List Leg}

/-- Between the poll before a stage and the event after it the calls are those of the stage. -/
theorem echoed_between {sink : Option Handle} {e e' : Event} {b : Bool} {deadline now : Float}
    {u v x : List Entry} (hs : Emits sink e t) (hv : Emits sink e' v)
    (he : Echoed rounds n (.poll b deadline now :: (t ++ (u ++ (v ++ x))))) :
    Echoed rounds n u ∧ Echoed rounds (n + (spawns u).length) x := by
  obtain ⟨-, hrest⟩ := echoed_append.1 (he.tail rfl)
  rw [hs.spawns] at hrest
  obtain ⟨hu, hvx⟩ := echoed_append.1 hrest
  obtain ⟨-, hx⟩ := echoed_append.1 hvx
  rw [hv.spawns] at hx
  exact ⟨hu, hx⟩

/-- Each leg is an echo from the calls on that the legs before it made. -/
theorem Passes.echoed_leg {early : Option StopReason}
    (h : Passes c config index limits list legs t (.ok early)) (he : Echoed rounds n t) {k : Nat}
    {leg : Leg} (hk : legs[k]? = some leg) :
    Echoed rounds (n + callsBefore legs k) leg.part ∧ ∀ x ∈ leg.part, x ∈ t := by
  induction h using Passes.ok_induction generalizing n k with
  | through | halted => simp at hk
  | @failed _ _ _ _ _ _ t u v _ hp hs hr hv hf =>
    cases k with
    | zero =>
      cases hk
      rw [← List.append_nil v] at he
      exact ⟨(echoed_between hs hv he).1, fun y hy => by simp [hy]⟩
    | succ k => simp at hk
  | @passed _ _ _ _ _ _ t u v x r legs _ hp hs hr hv hf hrest ih =>
    obtain ⟨hu, hx⟩ := echoed_between hs hv he
    cases k with
    | zero =>
      cases hk
      exact ⟨hu, fun y hy => by simp [hy]⟩
    | succ k =>
      obtain ⟨hleg, hmem⟩ := ih hx (by simpa using hk)
      have hcalls : callsBefore (⟨u, r⟩ :: legs) (k + 1) =
          (spawns u).length + callsBefore legs k := by
        simp [callsBefore]
      rw [hcalls, ← Nat.add_assoc]
      exact ⟨hleg, fun y hy => by simp [hmem y hy]⟩

/-- Successful stages without a poll that halts the run do not end early. -/
theorem Passes.early_eq_none {early : Option StopReason}
    (h : Passes c config index limits list legs t (.ok early))
    (hall : (legs.map (·.result)).all (·.success) = true)
    (hgo : ∀ b deadline now, .poll b deadline now ∈ t → haltReason b deadline now = none) :
    early = none := by
  cases early with
  | none => rfl
  | some reason =>
    rcases h.early with rfl | ⟨before, b, now, s, hhalt, rfl⟩
    · exact absurd rfl (h.all_success_iff.1 hall)
    · rw [hgo b _ now (by simp)] at hhalt
      cases hhalt

/-! ## A chain as a whole -/

/-- The run of a chain as it is told in advance. -/
structure Rehearsal (rounds : Int) (config : Config) (t : List Entry) (R : ChainResult)
    (legs : List Leg) : Prop where
  /-- Every stage gets a result. -/
  stages_eq : R.stageResults.map (·.stage) = config.stages
  success : R.success = true
  stopReason_eq : R.stopReason = some .completed
  errors_eq : R.errors = []
  fits : ∀ k leg, legs[k]? = some leg → Fits rounds (callsBefore legs k)
    (config.budget.val - loopIterations (R.stageResults.take k)) leg
  /-- The agents are numbered from one on. -/
  sessionIds_eq : sessionIds t = numberedIds 1 (requests t)
  nodup_sessionIds : (sessionIds t).Nodup

/-- No stage of a rehearsal is cut short. -/
theorem Fits.stopReason_ne {calls : Echo.World} {left : Int} {leg : Leg}
    (h : Fits rounds calls left leg) :
    leg.result.stopReason ≠ some .timeout ∧ leg.result.stopReason ≠ some .cancelled := by
  rw [h.stopReason_eq]
  unfold stageReason loopReason
  split
  · split <;> simp
  · simp

/-- The stages of a run that is an echo start without a call before them, and the signal is not set
after them. -/
theorem Runs.echoed {start : Float} {R : ChainResult}
    (h : Runs c config start legs t (.ok R)) (he : Echoed rounds 0 t) :
    ∃ u early duration, R = summary legs early false duration ∧
      Passes c config 0 (fullConstraints config start) config.stages legs u (.ok early) ∧
      Echoed rounds 0 u ∧ ∀ y ∈ u, y ∈ t := by
  cases h with
  | @returned logs t u v x y duration _ early cancelled hq hs hp hd hx hend =>
    obtain ⟨-, hrest⟩ := echoed_append.1 he
    obtain ⟨-, hrest⟩ := echoed_append.1 hrest
    obtain ⟨hu, hafter⟩ := echoed_append.1 hrest
    obtain ⟨-, hcancelled, -⟩ := echoed_append.1 (hafter.tail rfl)
    cases hcancelled
    rw [hq.spawns, hs.spawns] at hu
    exact ⟨u, early, duration, rfl, hp, hu, fun y hy => by simp [hy]⟩

/-- Each leg of such a run is as it is told in advance. -/
theorem HasLegs.fits {start : Float} {results : List StageResult} {early : Option StopReason}
    {u : List Entry} (h : HasLegs c config start t results legs)
    (hp : Passes c config 0 (fullConstraints config start) config.stages legs u (.ok early))
    (he : Echoed rounds 0 u) (ht : InTime u)
    (hc : ∀ s ∈ config.stages, CompletionCheck.of? c s ≠ none) {k : Nat} {leg : Leg}
    (hk : legs[k]? = some leg) :
    Fits rounds (callsBefore legs k) (config.budget.val - loopIterations (results.take k)) leg := by
  obtain ⟨hleg, hmem⟩ := hp.echoed_leg he hk
  rw [Nat.zero_add] at hleg
  obtain ⟨hpos, hremaining⟩ := h.remaining_eq k
  have hstage : leg.result.stage ∈ config.stages :=
    h.stages_in_order.subset (List.mem_map_of_mem (List.mem_of_getElem? hk))
  have hfits := (h.takes k leg hk).performs.fits (hc _ hstage) hleg (ht.mono hmem) hpos
  rwa [hremaining] at hfits

/-- A run that is an echo in time, with a check for every stage, is a rehearsal. -/
theorem Runs.rehearsal {start : Float} {R : ChainResult}
    (h : Runs c config start legs t (.ok R)) (he : Echoed rounds 0 t) (ht : InTime t)
    (hc : ∀ s ∈ config.stages, CompletionCheck.of? c s ≠ none) :
    Rehearsal rounds config t R legs := by
  have hlegs := h.hasLegs
  have hids := he.sessionIds_eq
  obtain ⟨u, early, duration, rfl, hp, hu, hin⟩ := h.echoed he
  have hfits : ∀ k leg, legs[k]? = some leg → Fits rounds (callsBefore legs k)
      (config.budget.val - loopIterations ((legs.map (·.result)).take k)) leg :=
    fun k leg hk => hlegs.fits hp hu (ht.mono hin) hc hk
  -- every leg fits some number of calls and of iterations, which says enough about its result
  have hall : ∀ leg ∈ legs, ∃ calls left, Fits rounds calls left leg := by
    intro leg hleg
    obtain ⟨k, hk⟩ := List.getElem?_of_mem hleg
    exact ⟨_, _, hfits k leg hk⟩
  have hsuccess : ∀ r ∈ legs.map (·.result), r.success = true := by
    rw [List.forall_mem_map]
    intro leg hleg
    obtain ⟨calls, left, hfit⟩ := hall leg hleg
    exact hfit.success
  have hreasons : ∀ r ∈ legs.map (·.result),
      r.stopReason ≠ some .timeout ∧ r.stopReason ≠ some .cancelled := by
    rw [List.forall_mem_map]
    intro leg hleg
    obtain ⟨calls, left, hfit⟩ := hall leg hleg
    exact hfit.stopReason_ne
  have hearly : early = none := hp.early_eq_none (List.all_eq_true.2 hsuccess)
    fun b deadline now hmem => hu.goes_on (ht.mono hin) hmem
  have hstages : (legs.map (·.result)).map (·.stage) = config.stages := by
    rw [List.map_map]
    exact (hp.complete_iff.1 hearly).1
  have hreason : finalReason (legs.map (·.result)) false = .completed :=
    finalReason_eq_completed_iff.2 ⟨rfl, fun r hr => hreasons r (List.mem_of_getLast? hr)⟩
  refine ⟨hstages, ?_, ?_, ?_, hfits, hids, ?_⟩
  · simpa [summary] using hsuccess
  · simp [summary, hearly, hreason]
  · simpa [summary] using hsuccess
  · rw [hids]
    exact nodup_numberedIds _ _

variable {calls : σ → Echo.World}

/-- Whatever expression is accepted, a run of its stages with the echo executor and its task store
returns, without a signal and in time, the result that is told in advance. -/
theorem rehearsal_closed_form {expression : String}
    (hread : (Expression.read expression).2 = .ok config.stages) (hsignal : config.signal = none)
    (hechoes : Echoes rounds calls c) {w : σ} (hfresh : calls w = 0)
    (htime : InTime (journalFrom (chain c config) w)) :
    ∃ R legs, outcomeFrom (chain c config) w = .ok R ∧
      HasLegs c config (startTime c w) (journalFrom (chain c config) w) R.stageResults legs ∧
      Rehearsal rounds config (journalFrom (chain c config) w) R legs := by
  have hchecks : ∀ s ∈ config.stages, s.check = none := by
    intro s hs
    obtain ⟨-, hforall⟩ := Expression.read_eq_ok_iff.1 hread
    obtain ⟨segment, -, hreads⟩ := Expression.exists_reads_of_mem hforall hs
    exact hreads.check_eq
  -- a stage that was read has no check of its own, and takes the one of the task store
  have hc : ∀ s ∈ config.stages, CompletionCheck.of? c s ≠ none := by
    intro s hs
    obtain ⟨store, -, hcheck⟩ := hechoes.of?_eq (hchecks s hs)
    simp [hcheck]
  obtain ⟨t, R, w', hsteps, -, hechoed⟩ := hechoes.echoing_chain hsignal hchecks w
  obtain ⟨legs, hruns⟩ := chain_runs c config w
  rw [hsteps.outcomeFrom_eq] at hruns
  rw [hfresh, ← hsteps.journalFrom_eq] at hechoed
  exact ⟨R, legs, hsteps.outcomeFrom_eq, hruns.hasLegs, hruns.rehearsal hechoed htime hc⟩

/-- The collaborators of the command echo. -/
theorem echoes_collaborators (rounds : Int) : Echoes rounds id (Echo.collaborators rounds) where
  spawn request := by
    rintro w _ rfl
    exact ⟨.answered rfl, rfl⟩
  dispose := by
    rintro w _ rfl
    exact ⟨.answered rfl, rfl⟩
  store := by
    refine ⟨Echo.store rounds, rfl, ?_⟩
    rintro root w _ rfl
    refine ⟨.answered (.some (.cons ?_ .nil)), rfl⟩
    rintro v _ rfl
    exact ⟨.refl _, rfl⟩
  clock _ := rfl
  sink h e w := by
    show id (loggingSink .events e w).state = id w ∧ ∀ a, (loggingSink .events e w).outcome ≠ _
    unfold loggingSink
    cases e.record? .events <;> simp

/-- Four stages with three iterations to share. -/
def rehearsedConfig : Config where
  stages := [{ name := ⟨"planner", by decide, by decide +kernel⟩ },
    { name := ⟨"coordinator", by decide, by decide +kernel⟩, loop := true },
    { name := ⟨"a-1", by decide, by decide +kernel⟩ },
    { name := ⟨"coordinator", by decide, by decide +kernel⟩, loop := true }]
  root := ⟨.root, ["p"]⟩
  sink := some ⟨0⟩
  budget := ⟨3, by decide⟩

/-- The first loop stage waits for the fourth call and uses up the budget. -/
theorem four_stages_rehearsed :
    ∃ R legs,
      (Expression.read "planner -> Coordinator -> a-1 -> coordinator").2 =
        .ok rehearsedConfig.stages ∧
      Rehearsal 4 rehearsedConfig (journalFrom (chain (Echo.collaborators 4) rehearsedConfig) 0) R
        legs ∧
      R.stageResults.map (fun r => (r.iterations, r.stopReason)) =
        [(1, some .singlePass), (3, some .goalMet), (1, some .singlePass),
          (0, some .budgetExhausted)] ∧
      sessionIds (journalFrom (chain (Echo.collaborators 4) rehearsedConfig) 0) =
        ["planner-1", "coordinator-2", "coordinator-3", "coordinator-4", "a-1-5"] := by
  have hread : (Expression.read "planner -> Coordinator -> a-1 -> coordinator").2 =
      .ok rehearsedConfig.stages := by
    decide +kernel
  have hrun : (outcomeFrom (chain (Echo.collaborators 4) rehearsedConfig) 0).toOption.map
      (fun R => R.stageResults.map fun r => (r.iterations, r.stopReason)) =
        some [(1, some .singlePass), (3, some .goalMet), (1, some .singlePass),
          (0, some .budgetExhausted)] := by
    decide +kernel
  have hids : sessionIds (journalFrom (chain (Echo.collaborators 4) rehearsedConfig) 0) =
      ["planner-1", "coordinator-2", "coordinator-3", "coordinator-4", "a-1-5"] := by
    decide +kernel
  have htime : (journalFrom (chain (Echo.collaborators 4) rehearsedConfig) 0).all
      Entry.isInTime = true := by
    decide +kernel
  obtain ⟨R, legs, hR, -, hrehearsal⟩ := rehearsal_closed_form hread rfl (echoes_collaborators 4)
    rfl (List.all_eq_true.1 htime)
  obtain ⟨R', hR', hmap⟩ := exists_of_toOption_map hrun
  rw [hR] at hR'
  cases hR'
  exact ⟨R, legs, hread, hrehearsal, hmap, hids⟩

end Run

end AgentChain
