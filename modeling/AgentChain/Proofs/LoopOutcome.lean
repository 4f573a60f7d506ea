import AgentChain.Proofs.Aborts
import AgentChain.Proofs.EventStream
import AgentChain.Proofs.Verdict

/-!
# How a loop stage ends

What a loop stage leaves in the journal tells how it ends. Its marks are its polls, its calls of the
executor, and its completion checks with their answers. They make up one try after another: a poll
that lets the stage go on, a call of the executor, and a completion check exactly if the agent
succeeded. Behind the tries there is a poll that halts the stage, or nothing. Every try but the last
has found the work unfinished. How the last one went, whether there is a poll behind it, and how
many tries there are decide the reason for which the stage ends, so that no two reasons can hold at
once.

Main statement: `loop_outcome_from_trace`.
-/

namespace AgentChain

/-- What shows of the rounds of a loop stage. -/
inductive Mark where
  /-- A poll, and the reason to halt that it gave. -/
  | polled (answer : Option StopReason)
  /-- A call of the executor, and how it ended. -/
  | called (outcome : Outcome SpawnResult)
  /-- A completion check begins. -/
  | checking
  /-- A completion check comes to its end. -/
  | answered (answer : Except Fault Bool)

/-- The mark that an entry is. -/
def Entry.mark? : Entry → Option Mark
  | .poll cancelled deadline now => some (.polled (haltReason cancelled deadline now))
  | .spawn _ outcome => some (.called outcome)
  | .check .. | .listTasks _ => some .checking
  | .verdict answer => some (.answered answer)
  | _ => none

/-- The answer of a poll. -/
def Mark.answer? : Mark → Option (Option StopReason)
  | .polled answer => some answer
  | _ => none

/-- The answer of a poll shows in its mark. -/
theorem Entry.mark?_answer? (x : Entry) : x.mark?.bind Mark.answer? = x.answer? := by
  cases x <;> rfl

namespace Run

/-- The marks in a journal. -/
def marks (t : List Entry) : List Mark := t.filterMap Entry.mark?

@[simp] theorem marks_nil : marks [] = [] := rfl

@[simp] theorem marks_append (t u : List Entry) : marks (t ++ u) = marks t ++ marks u :=
  List.filterMap_append

@[simp] theorem marks_cons (x : Entry) (t : List Entry) :
    marks (x :: t) = x.mark?.toList ++ marks t :=
  filterMap_cons_toList ..

/-- Among the marks are all answers of polls. -/
theorem filterMap_marks (t : List Entry) : (marks t).filterMap Mark.answer? = answers t := by
  unfold marks answers
  rw [List.filterMap_filterMap]
  congr 1
  funext x
  exact x.mark?_answer?

/-! ## Tries -/

/-- A try at a loop stage: how the call of the executor ended, and what the completion check
answered, if it was asked. -/
structure Try where
  outcome : Outcome SpawnResult
  answer : Option (Except Fault Bool)

/-- What shows of a try, with the poll before it. -/
def Try.marks (a : Try) : List Mark :=
  .polled none :: .called a.outcome ::
    (match a.answer with
      | none => []
      | some answer => [.checking, .answered answer])

/-- The completion check was asked and found the work unfinished. -/
def Try.IsUnmet (a : Try) : Prop := a.answer = some (.ok false)

/-- The tries end with one of this sort, after others that all found the work unfinished. -/
def ClosesWith (P : Try → Prop) (tries : List Try) : Prop :=
  ∃ front last, tries = front ++ [last] ∧ (∀ a ∈ front, a.IsUnmet) ∧ P last

section
variable {front tries : List Try} {final : Option Try} {P : Try → Prop}

/-- Tries behind unfinished ones close as the last of them does, if there is one. -/
theorem closesWith_iff (hfront : ∀ a ∈ front, a.IsUnmet) (hP : ∀ a ∈ front, ¬ P a) :
    ClosesWith P (front ++ final.toList) ↔ ∃ a, final = some a ∧ P a := by
  constructor
  · rintro ⟨front', last, heq, -, hlast⟩
    -- none of the tries in front is of the sort, so that the last one would have to be
    cases final with
    | none =>
      rw [Option.toList_none, List.append_nil] at heq
      have hmem : last ∈ front := by simp [heq]
      exact absurd hlast (hP last hmem)
    | some a =>
      have hsame : a = last := List.head_eq_of_cons_eq (List.append_inj' heq rfl).2
      exact ⟨a, rfl, hsame ▸ hlast⟩
  · rintro ⟨a, rfl, ha⟩
    exact ⟨front, a, rfl, hfront, ha⟩

/-- All tries found the work unfinished exactly if none comes behind those that did. -/
theorem forall_isUnmet_iff (hfront : ∀ a ∈ front, a.IsUnmet)
    (hfinal : ∀ a, final = some a → ¬ a.IsUnmet) :
    (∀ a ∈ front ++ final.toList, a.IsUnmet) ↔ final = none := by
  constructor
  · intro h
    cases final with
    | none => rfl
    | some a => exact absurd (h a (by simp)) (hfinal a rfl)
  · rintro rfl
    simpa using hfront

/-- The polls before the tries let the stage go on. -/
theorem filterMap_flatMap_marks (tries : List Try) :
    (tries.flatMap Try.marks).filterMap Mark.answer? = List.replicate tries.length none := by
  induction tries with
  | nil => rfl
  | cons a tries ih =>
    have hone : a.marks.filterMap Mark.answer? = [none] := by
      unfold Try.marks
      cases a.answer <;> rfl
    rw [List.flatMap_cons, List.filterMap_append, hone, ih]
    rfl

end

/-! ## Marks of the parts of a stage -/

variable {σ : Type} {c : Collaborators σ} {stage : Stage} {config : Config}
  {check : CompletionCheck σ} {root : Path} {limits : Constraints} {t : List Entry}

theorem Quiet.marks (h : Quiet t) : Run.marks t = [] :=
  h.filterMap (fun _ => rfl) fun _ => rfl

theorem Emits.marks {sink : Option Handle} {e : Event} (h : Emits sink e t) : Run.marks t = [] :=
  h.filterMap rfl (fun _ => rfl) fun _ => rfl

theorem Statuses.marks (h : Statuses t) : Run.marks t = [] :=
  h.filterMap fun _ => rfl

/-- An attempt shows how its call ended. -/
theorem Spawns.marks {o : Except Fault SpawnResult} (h : Spawns stage config t (.ok o)) :
    Run.marks t = [.called (.of o)] := by
  cases h with
  | raised f => rfl
  | failed hr hq => simp [Entry.mark?, hq.marks, Outcome.of]
  | succeeded hr ht hu => simp [Entry.mark?, ht.marks, hu.marks, Outcome.of]

/-- A completion check shows its beginning and its answer. -/
theorem Asks.marks {answer : Except Fault Bool} (h : Asks check root t (.ok answer)) :
    Run.marks t = [.checking, .answered answer] := by
  cases h with
  | answered ht => cases check <;> simp [checkEntry, Entry.mark?, ht.marks]

/-- How a round of a loop stage goes: the try that it makes, and how the stage ends with it, if it
does. -/
inductive Goes : Try → Option (Except Fault Ending) → Prop where
  | raised (f : Fault) : Goes ⟨.raised f, none⟩ (some (.error f))
  | failed {r : SpawnResult} (hr : r.success = false) :
      Goes ⟨.answered r, none⟩ (some (.ok ⟨false, r.error, .stageFailed⟩))
  | checkRaised {r : SpawnResult} (hr : r.success = true) (f : Fault) :
      Goes ⟨.answered r, some (.error f)⟩ (some (.error f))
  | met {r : SpawnResult} (hr : r.success = true) :
      Goes ⟨.answered r, some (.ok true)⟩ (some (.ok ⟨true, none, .goalMet⟩))
  | unmet {r : SpawnResult} (hr : r.success = true) : Goes ⟨.answered r, some (.ok false)⟩ none

/-- The completion check is asked exactly if the agent succeeded. -/
theorem Goes.isSome_answer {a : Try} {p : Option (Except Fault Ending)} (h : Goes a p) :
    a.answer.isSome = a.outcome.succeeds := by
  cases h with
  | raised f => rfl
  | failed hr | checkRaised hr | met hr | unmet hr => simp [Outcome.succeeds, hr]

/-- A round that does not end the stage has found the work unfinished, and the others have not. -/
theorem Goes.isUnmet_iff {a : Try} {p : Option (Except Fault Ending)} (h : Goes a p) :
    a.IsUnmet ↔ p = none := by
  cases h <;> simp [Try.IsUnmet]

/-- A round shows one try, behind the poll that lets it begin. -/
theorem Round.goes {n : Nat} {p : Option (Except Fault Ending)}
    (h : Round stage config check n t (.ok p)) :
    ∃ a, Goes a p ∧ .polled none :: Run.marks t = a.marks := by
  cases h with
  | made he hs hf =>
    cases hf with
    | raised f => exact ⟨_, .raised f, by simp [he.marks, hs.marks, Try.marks, Outcome.of]⟩
    | failed hr => exact ⟨_, .failed hr, by simp [he.marks, hs.marks, Try.marks, Outcome.of]⟩
    | checkRaised hr ha =>
      exact ⟨_, .checkRaised hr _, by simp [he.marks, hs.marks, ha.marks, Try.marks, Outcome.of]⟩
    | met hr ha =>
      exact ⟨_, .met hr, by simp [he.marks, hs.marks, ha.marks, Try.marks, Outcome.of]⟩
    | unmet hr ha =>
      exact ⟨_, .unmet hr, by simp [he.marks, hs.marks, ha.marks, Try.marks, Outcome.of]⟩

/-! ## All rounds -/

/-- How a loop stage comes to its end when `left` more tries may follow: the try that ends it or the
reason for which a poll halts it, if there is one, and how it ends. -/
inductive Closes : (left : Nat) → Option Try → Option StopReason → Except Fault Ending → Prop where
  | spent : Closes 0 none none (.ok ⟨true, none, .budgetExhausted⟩)
  | halted {left : Nat} {reason : StopReason} (h : reason.isHalt = true) :
      Closes (left + 1) none (some reason) (.ok ⟨true, none, reason⟩)
  | ended {left : Nat} {a : Try} {e : Except Fault Ending} (h : Goes a (some e)) :
      Closes (left + 1) (some a) none e

/-- The rounds of a loop stage are tries that find the work unfinished, and then the stage
closes. -/
theorem Attempts.closes {deadline : Float} {done left : Nat} {work : Work}
    (h : Attempts stage config check deadline done left t (.ok work)) :
    ∃ (front : List Try) (rest : Nat) (final : Option Try) (halt : Option StopReason),
      (∀ a ∈ front, Goes a none) ∧ front.length + rest = left ∧
        Closes rest final halt work.ending ∧
        work.iterations = done + (front ++ final.toList).length ∧
        Run.marks t = (front ++ final.toList).flatMap Try.marks ++
          (halt.toList.map fun reason => .polled (some reason)) := by
  -- the tries in front and those that may still follow add up to the same all along
  induction h using Attempts.ok_induction with
  | spent done => exact ⟨[], 0, none, none, by simp, rfl, .spent, rfl, rfl⟩
  | @halted _ left _ _ reason hp =>
    exact ⟨[], left + 1, none, some reason, by simp, by simp, .halted (isHalt_of_haltReason hp),
      rfl, by simp [Entry.mark?, hp]⟩
  | @ended _ left _ _ _ _ hp hr =>
    obtain ⟨a, ha, hmarks⟩ := hr.goes
    exact ⟨[], left + 1, some a, none, by simp, by simp, .ended ha, rfl,
      by simpa [Entry.mark?, hp] using hmarks⟩
  | again hp hr hrest ih =>
    obtain ⟨a, ha, hmarks⟩ := hr.goes
    obtain ⟨front, rest, final, halt, hfront, hlen, hcloses, hn, hrest⟩ := ih
    refine ⟨a :: front, rest, final, halt, ?_, ?_, hcloses, ?_, ?_⟩
    · exact List.forall_mem_cons.2 ⟨ha, hfront⟩
    · rw [List.length_cons]
      omega
    · rw [hn, List.cons_append, List.length_cons]
      omega
    · rw [List.cons_append, List.flatMap_cons, ← hmarks]
      simp [Entry.mark?, hp, hrest]

/-! ## How it ends -/

/-- The reason that is recorded of a stage which ends in this way. -/
def endReason : Except Fault Ending → StopReason
  | .ok e => e.reason
  | .error _ => .stageFailed

/-- What is recorded of a stage which ends in this way. -/
structure Records (e : Except Fault Ending) (r : StageResult) : Prop where
  stopReason_eq : r.stopReason = some (endReason e)
  success_iff : r.success = true ↔ endReason e ≠ .stageFailed
  error_eq : r.success = true → r.error = none

/-- The call of the executor has failed or raised a fault, or the completion check has raised
one. -/
def Try.Fails (a : Try) : Prop :=
  a.outcome.succeeds = false ∨ ∃ f, a.answer = some (.error f)

/-- A round after which the stage goes on has not failed. -/
theorem Goes.not_fails {a : Try} (h : Goes a none) : ¬ a.Fails := by
  cases h with
  | unmet hr => simp [Try.Fails, Outcome.succeeds, hr]

namespace Closes

variable {left : Nat} {final : Option Try} {halt : Option StopReason} {e : Except Fault Ending}

/-- The try that ends a stage is that of its last round. -/
theorem goes (h : Closes left final halt e) : ∀ a, final = some a → Goes a (some e) := by
  intro a ha
  cases h with
  | spent | halted => cases ha
  | ended hgoes =>
    cases ha
    exact hgoes

/-- The goal is met exactly if the last try found it met. -/
theorem goalMet_iff (h : Closes left final halt e) :
    endReason e = .goalMet ↔ ∃ a, final = some a ∧ a.answer = some (.ok true) := by
  cases h with
  | spent => simp [endReason]
  | @halted _ reason hr => cases reason <;> simp_all [endReason, StopReason.isHalt]
  | ended hgoes => cases hgoes <;> simp [endReason]

/-- The budget is exhausted exactly if no tries are left and none ended the stage. -/
theorem exhausted_iff (h : Closes left final halt e) :
    endReason e = .budgetExhausted ↔ left = 0 ∧ final = none := by
  cases h with
  | spent => simp [endReason]
  | @halted _ reason hr => cases reason <;> simp_all [endReason, StopReason.isHalt]
  | ended hgoes => cases hgoes <;> simp [endReason]

/-- The stage is halted exactly if tries are left, none ended the stage, and a poll gave the
reason. -/
theorem halted_iff (h : Closes left final halt e) {reason : StopReason}
    (hr : reason.isHalt = true) :
    endReason e = reason ↔ 0 < left ∧ final = none ∧ halt = some reason := by
  cases h with
  | spent => cases reason <;> simp_all [endReason, StopReason.isHalt]
  | halted => simp [endReason]
  | ended hgoes => cases hgoes <;> cases reason <;> simp_all [endReason, StopReason.isHalt]

/-- The stage fails exactly if its last try does. -/
theorem failed_iff (h : Closes left final halt e) :
    endReason e = .stageFailed ↔ ∃ a, final = some a ∧ a.Fails := by
  cases h with
  | spent => simp [endReason]
  | @halted _ reason hr => cases reason <;> simp_all [endReason, StopReason.isHalt]
  | ended hgoes => cases hgoes <;> simp_all [endReason, Try.Fails, Outcome.succeeds]

/-- Of the reasons for which a stage may end, a loop stage has five. -/
theorem endReason_ne (h : Closes left final halt e) :
    endReason e ≠ .singlePass ∧ endReason e ≠ .completed := by
  cases h with
  | spent => simp [endReason]
  | @halted _ reason hr => cases reason <;> simp_all [endReason, StopReason.isHalt]
  | ended hgoes => cases hgoes <;> simp [endReason]

/-- A stage that ends without a fault has an error only if it failed. -/
theorem error_eq {ending : Ending} (h : Closes left final halt (.ok ending)) :
    (ending.success = true ↔ ending.reason ≠ .stageFailed) ∧
      (ending.success = true → ending.error = none) := by
  cases h with
  | spent => simp
  | @halted _ reason hr => cases reason <;> simp_all [StopReason.isHalt]
  | ended hgoes => cases hgoes <;> simp

end Closes

/-- A loop stage with a completion check makes its tries, closes, and is recorded to have ended
so. -/
theorem Performs.closes {r : StageResult} (h : Performs c stage config limits t (.ok r))
    (hl : stage.loop = true) (hc : CompletionCheck.of? c stage ≠ none) :
    ∃ (front : List Try) (rest : Nat) (final : Option Try) (halt : Option StopReason)
        (e : Except Fault Ending),
      (∀ a ∈ front, Goes a none) ∧ front.length + rest = limits.remaining.toNat ∧
        Closes rest final halt e ∧ r.iterations = (front ++ final.toList).length ∧
        Run.marks t = (front ++ final.toList).flatMap Try.marks ++
          (halt.toList.map fun reason => .polled (some reason)) ∧ Records e r := by
  -- the cases of a stage that does not loop are ruled out by this
  have hone : ¬ stage.loop = false := by simp [hl]
  cases h with
  | @ended _ n e duration hw =>
    cases hw with
    | once hfalse => exact absurd hfalse hone
    | repeated _ _ ha hq =>
      obtain ⟨front, rest, final, halt, hfront, hlen, hcloses, hn, hmarks⟩ := ha.closes
      obtain ⟨hsuccess, herror⟩ := hcloses.error_eq
      refine ⟨front, rest, final, halt, _, hfront, hlen, hcloses, ?_, ?_, rfl, hsuccess, herror⟩
      · simp only at hn ⊢
        omega
      · rw [marks_append, hq.marks, List.append_nil, hmarks]
  | @contained _ _ _ n f duration hw hq he =>
    cases hw with
    | onceRaised hfalse => exact absurd hfalse hone
    | unchecked _ hnone => exact absurd hnone hc
    | repeated _ _ ha hq' =>
      obtain ⟨front, rest, final, halt, hfront, hlen, hcloses, hn, hmarks⟩ := ha.closes
      refine ⟨front, rest, final, halt, _, hfront, hlen, hcloses, ?_, ?_, rfl, ?_, ?_⟩
      · simp only at hn ⊢
        omega
      · simp [hq.marks, hq'.marks, he.marks, hmarks]
      · simp [endReason]
      · simp

/-- How a loop stage ends, by its tries and the reason for which a poll behind them halts it, if one
does. -/
structure LoopOutcome (remaining : Int) (t : List Entry) (tries : List Try)
    (halt : Option StopReason) (r : StageResult) : Prop where
  marks_eq : marks t = tries.flatMap Try.marks ++
    (halt.toList.map fun reason => .polled (some reason))
  iterations_eq : r.iterations = tries.length
  /-- The completion check is asked after the calls that succeeded, and only after these. -/
  asked : ∀ a ∈ tries, a.answer.isSome = a.outcome.succeeds
  goalMet_iff : r.stopReason = some .goalMet ↔
    ClosesWith (fun a => a.answer = some (.ok true)) tries
  exhausted_iff : r.stopReason = some .budgetExhausted ↔
    (tries.length : Int) = max 0 remaining ∧ ∀ a ∈ tries, a.IsUnmet
  halted_iff : ∀ reason, reason.isHalt = true → (r.stopReason = some reason ↔
    (tries.length : Int) < remaining ∧ (∀ a ∈ tries, a.IsUnmet) ∧
      answers t = List.replicate tries.length none ++ [some reason])
  failed_iff : r.stopReason = some .stageFailed ↔ ClosesWith Try.Fails tries
  /-- There is no other reason. -/
  ends : ∃ reason, r.stopReason = some reason ∧ reason ≠ .singlePass ∧ reason ≠ .completed
  success_iff : r.success = true ↔ r.stopReason ≠ some .stageFailed
  error_eq : r.success = true → r.error = none

/-- A loop stage with a completion check ends as its tries and the polls say. -/
theorem Performs.loopOutcome {r : StageResult} (h : Performs c stage config limits t (.ok r))
    (hl : stage.loop = true) (hc : CompletionCheck.of? c stage ≠ none) :
    ∃ tries halt, LoopOutcome limits.remaining t tries halt r := by
  obtain ⟨front, rest, final, halt, e, hfront, hlen, hcloses, hn, hmarks, hrecords⟩ :=
    h.closes hl hc
  have hunmet : ∀ a ∈ front, a.IsUnmet := fun a ha => (hfront a ha).isUnmet_iff.2 rfl
  have hfinal : ∀ a, final = some a → ¬ a.IsUnmet := by
    intro a ha
    simp [(hcloses.goes a ha).isUnmet_iff]
  have hall := forall_isUnmet_iff hunmet hfinal
  -- each try has a poll before it that let it begin, and one more may have halted the stage
  have hanswers : answers t = List.replicate (front ++ final.toList).length none ++
      halt.toList.map some := by
    rw [← filterMap_marks, hmarks, List.filterMap_append, filterMap_flatMap_marks]
    cases halt <;> rfl
  have hreason : ∀ reason, r.stopReason = some reason ↔ endReason e = reason := by
    intro reason
    rw [hrecords.stopReason_eq, Option.some.injEq]
  refine ⟨front ++ final.toList, halt, hmarks, hn, ?_, ?_, ?_, ?_, ?_, ?_, ?_, hrecords.error_eq⟩
  · intro a ha
    rcases List.mem_append.1 ha with hin | hlast
    · exact (hfront a hin).isSome_answer
    · exact (hcloses.goes a (Option.mem_toList.1 hlast)).isSome_answer
  · rw [hreason, hcloses.goalMet_iff, closesWith_iff hunmet]
    intro a ha
    rw [hunmet a ha]
    simp
  · rw [hreason, hcloses.exhausted_iff, hall]
    apply and_congr_left
    rintro rfl
    simp only [Option.toList_none, List.append_nil]
    omega
  · intro reason hr
    rw [hreason, hcloses.halted_iff hr, hall, hanswers, List.append_cancel_left_eq]
    have hroom : final = none →
        (0 < rest ↔ ((front ++ final.toList).length : Int) < limits.remaining) := by
      rintro rfl
      simp only [Option.toList_none, List.append_nil]
      omega
    have hhalt : halt.toList.map some = [some reason] ↔ halt = some reason := by
      cases halt <;> simp
    rw [hhalt]
    constructor
    · rintro ⟨hpos, hnone, hsome⟩
      exact ⟨(hroom hnone).1 hpos, hnone, hsome⟩
    · rintro ⟨hlt, hnone, hsome⟩
      exact ⟨(hroom hnone).2 hlt, hnone, hsome⟩
  · rw [hreason, hcloses.failed_iff, closesWith_iff hunmet]
    intro a ha
    exact (hfront a ha).not_fails
  · exact ⟨endReason e, hrecords.stopReason_eq, hcloses.endReason_ne⟩
  · rw [ne_eq, hreason]
    exact hrecords.success_iff

/-- Unless a collaborator aborts it, a loop stage with a completion check returns a result, and its
trace tells which: the reason, success, and that there is no error with success. -/
theorem loop_outcome_from_trace (hl : stage.loop = true)
    (hc : CompletionCheck.of? c stage ≠ none) (ha : ∀ e, ¬ Aborts c e) (config : Config)
    (limits : Constraints) (w : σ) :
    ∃ r tries halt, outcomeFrom (Run.stage c stage config (some limits)) w = .ok r ∧
      LoopOutcome limits.remaining (journalFrom (Run.stage c stage config (some limits)) w) tries
        halt r := by
  have hperforms := (traced_stage c stage config limits).apply w
  cases hr : outcomeFrom (Run.stage c stage config (some limits)) w with
  | error e => exact absurd ((abortsOnly_stage c stage config (some limits)).apply w e hr) (ha e)
  | ok r =>
    rw [hr] at hperforms
    obtain ⟨tries, halt, houtcome⟩ := hperforms.loopOutcome hl hc
    exact ⟨r, tries, halt, rfl, houtcome⟩

/-- Agents that take a minute each, and whose work is complete after the second of them. The world
counts them. -/
def twoMinutes : Collaborators Nat where
  clock w := (60 * Float.ofNat w, w)
  isSet _ w := (decide (2 ≤ w), w)
  sink _ _ w := { outcome := .answered (), state := w }
  check _ _ w := (.answered (decide (2 ≤ w)), w)
  executor := {
    name := "agents"
    spawn := fun _ w => (.answered { success := true, sessionId := "s" }, w + 1)
    dispose := fun w => (.answered (), w) }

theorem not_aborts_twoMinutes (e : Abort) : ¬ Aborts twoMinutes e := by
  intro h
  cases h with
  | sink | spawn | dispose | check => simp_all [twoMinutes]
  | listTasks hs | status hs => cases hs

/-- The goal is met with the last try that is left, when the signal is set and the deadline has
passed. -/
theorem met_with_last_try :
    ∃ stage config r tries halt, stage.loop = true ∧
      outcomeFrom (Run.stage twoMinutes stage config (some ⟨2, 100⟩)) 0 = .ok r ∧
      LoopOutcome 2 (journalFrom (Run.stage twoMinutes stage config (some ⟨2, 100⟩)) 0) tries halt
        r ∧
      r.stopReason = some .goalMet ∧ tries.length = 2 := by
  let stage : Stage := { name := sampleName, loop := true, check := some ⟨0⟩ }
  let config : Config := { root := ⟨.root, ["p"]⟩, signal := some ⟨.thread, 0⟩ }
  have hrun : (outcomeFrom (Run.stage twoMinutes stage config (some ⟨2, 100⟩)) 0).toOption.map
      (fun r => (r.iterations, r.stopReason)) = some (2, some .goalMet) := by
    decide +kernel
  have hloop : stage.loop = true := rfl
  have hcheck : CompletionCheck.of? twoMinutes stage ≠ none := by
    simp [CompletionCheck.of?, stage]
  obtain ⟨r, tries, halt, hr, houtcome⟩ :=
    loop_outcome_from_trace hloop hcheck not_aborts_twoMinutes config ⟨2, 100⟩ 0
  obtain ⟨r', hr', hmap⟩ := exists_of_toOption_map hrun
  rw [hr] at hr'
  cases hr'
  obtain ⟨hn, hreason⟩ := Prod.mk.inj hmap
  refine ⟨stage, config, r, tries, halt, rfl, hr, houtcome, hreason, ?_⟩
  have hlen := houtcome.iterations_eq
  omega

end Run

end AgentChain
