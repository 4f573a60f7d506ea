import AgentChain.Data.Status
import AgentChain.Echo
import AgentChain.Proofs.Sparing

/-!
# Completion by tasks

A loop stage without a completion check of its own is complete once its project has a task and all
of its tasks are done. The tasks are listed, and their statuses are read one after another up to the
first that is not the status of a task that is done.

Main statement: `completion_by_tasks`.
-/

namespace AgentChain

/-- The status that was read is that of a task that is done. -/
def FoundDone (o : Outcome TaskStatus) : Prop :=
  o = .answered (.text TaskState.done.text) ∨ o = .answered (.state .done)

instance : DecidablePred FoundDone := fun _ => inferInstanceAs (Decidable (_ ∨ _))

/-- The test that the check makes finds exactly the tasks that are done. -/
theorem foundDone_answered_iff {s : TaskStatus} :
    FoundDone (.answered s) ↔ s.isDone = true := by
  cases s <;> simp [FoundDone, TaskStatus.isDone]

/-- A task whose status cannot be read does not count as done. -/
theorem not_foundDone_raised (f : Fault) : ¬ FoundDone (.raised f) := by simp [FoundDone]

theorem not_foundDone_aborted (e : Abort) : ¬ FoundDone (.aborted e) := by simp [FoundDone]

/-- Whether data says that a task is done shows in its text alone. -/
theorem foundDone_ofData_iff (d : Data) :
    FoundDone (.answered (.ofData d)) ↔ d.statusText = TaskState.done.text :=
  foundDone_answered_iff.trans (TaskStatus.isDone_ofData_iff d)

/-- The first of the outcomes that is not the status of a task that is done. -/
def FirstOther (os : List (Outcome TaskStatus)) (o : Outcome TaskStatus) : Prop :=
  ∃ front back, os = front ++ o :: back ∧ (∀ x ∈ front, FoundDone x) ∧ ¬ FoundDone o

/-- The outcomes up to the first that is not the status of a task that is done. -/
def untilOther : List (Outcome TaskStatus) → List (Outcome TaskStatus)
  | [] => []
  | o :: os => if FoundDone o then o :: untilOther os else [o]

/-! ## What statuses decide -/

/-- The first of the outcomes that is not the status of a task that is done, if there is one. -/
def firstOther? (os : List (Outcome TaskStatus)) : Option (Outcome TaskStatus) :=
  os.find? fun o => ¬ FoundDone o

/-- What is found out about the tasks by reading their statuses one after another. -/
def decided (os : List (Outcome TaskStatus)) : Except Abort (Except Fault Bool) :=
  match firstOther? os with
  | none => .ok (.ok true)
  | some (.answered _) => .ok (.ok false)
  | some (.raised f) => .ok (.error f)
  | some (.aborted e) => .error e

section Decided

variable {o : Outcome TaskStatus} {os : List (Outcome TaskStatus)}

/-- The search finds the first outcome that is not the status of a task that is done. -/
theorem firstOther?_eq_some_iff : firstOther? os = some o ↔ FirstOther os o := by
  unfold firstOther?
  rw [List.find?_eq_some_iff_append]
  constructor
  · rintro ⟨ho, front, back, rfl, hfront⟩
    exact ⟨front, back, rfl, by simpa using hfront, by simpa using ho⟩
  · rintro ⟨front, back, rfl, hfront, ho⟩
    exact ⟨by simpa using ho, front, back, rfl, by simpa using hfront⟩

/-- The search finds nothing exactly if all tasks are done. -/
theorem firstOther?_eq_none_iff : firstOther? os = none ↔ ∀ o ∈ os, FoundDone o := by
  simp [firstOther?]

theorem firstOther?_cons_of_done (ho : FoundDone o) : firstOther? (o :: os) = firstOther? os :=
  List.find?_cons_of_neg (by simpa using ho)

theorem firstOther?_cons_of_other (ho : ¬ FoundDone o) : firstOther? (o :: os) = some o :=
  List.find?_cons_of_pos (by simpa using ho)

/-- A task that is done decides nothing. -/
theorem decided_cons_of_done (ho : FoundDone o) : decided (o :: os) = decided os := by
  unfold decided
  rw [firstOther?_cons_of_done ho]

theorem untilOther_cons_of_done (ho : FoundDone o) : untilOther (o :: os) = o :: untilOther os :=
  if_pos ho

theorem untilOther_cons_of_other (ho : ¬ FoundDone o) : untilOther (o :: os) = [o] :=
  if_neg ho

/-- The answer is yes exactly if all tasks are done, as they are where there are none. -/
theorem decided_eq_true_iff : decided os = .ok (.ok true) ↔ ∀ o ∈ os, FoundDone o := by
  rw [← firstOther?_eq_none_iff]
  unfold decided
  rcases firstOther? os with _ | _ | _ | _ <;> simp

/-- The answer is no exactly if a task that is not done comes before any fault. -/
theorem decided_eq_false_iff : decided os = .ok (.ok false) ↔ ∃ s, FirstOther os (.answered s) := by
  simp only [← firstOther?_eq_some_iff]
  unfold decided
  rcases firstOther? os with _ | _ | _ | _ <;> simp

/-- A fault is raised exactly if it comes before any task that is not done. -/
theorem decided_eq_raised_iff {f : Fault} :
    decided os = .ok (.error f) ↔ FirstOther os (.raised f) := by
  rw [← firstOther?_eq_some_iff]
  unfold decided
  rcases firstOther? os with _ | _ | _ | _ <;> simp

theorem decided_eq_aborted_iff {e : Abort} :
    decided os = .error e ↔ FirstOther os (.aborted e) := by
  rw [← firstOther?_eq_some_iff]
  unfold decided
  rcases firstOther? os with _ | _ | _ | _ <;> simp

end Decided

namespace Run

variable {σ : Type}

/-- What comes of reading the statuses of the tasks, one after another. -/
def readings : List (TaskRecord σ) → σ → List (Outcome TaskStatus)
  | [], _ => []
  | task :: tasks, w => (task.status w).1 :: readings tasks (task.status w).2

/-- Reading stops at the first status that decides. -/
theorem steps_allDone_readings (tasks : List (TaskRecord σ)) (w : σ) :
    ∃ v, Steps (CompletionCheck.allDone tasks) w ((untilOther (readings tasks w)).map .status)
      (decided (readings tasks w)) v := by
  induction tasks generalizing w with
  | nil => exact ⟨w, steps_pure _ w⟩
  | cons task tasks ih =>
    have hread := steps_attempt task.status .status w
    obtain ⟨v, hrest⟩ := ih (task.status w).2
    unfold CompletionCheck.allDone readings
    -- only a task that is done lets reading go on, and the induction says how
    cases hout : (task.status w).1 with
    | answered s =>
      rw [hout] at hread
      by_cases hdone : FoundDone (.answered s)
      · rw [untilOther_cons_of_done hdone, decided_cons_of_done hdone]
        refine ⟨v, hread.bind ?_⟩
        dsimp only
        rw [if_pos (foundDone_answered_iff.1 hdone)]
        exact hrest
      · rw [untilOther_cons_of_other hdone]
        refine ⟨(task.status w).2, hread.bind ?_⟩
        dsimp only
        rw [if_neg (mt foundDone_answered_iff.2 hdone), decided, firstOther?_cons_of_other hdone]
        exact steps_pure _ _
    | raised f =>
      rw [hout] at hread
      have hother := not_foundDone_raised f
      rw [untilOther_cons_of_other hother, decided, firstOther?_cons_of_other hother]
      exact ⟨_, hread.bind (steps_pure _ _)⟩
    | aborted e =>
      rw [hout] at hread
      have hother := not_foundDone_aborted e
      rw [untilOther_cons_of_other hother, decided, firstOther?_cons_of_other hother]
      exact ⟨_, hread.bind_error⟩

/-! ## A call of the check -/

/-- What comes of listing the tasks of a project and reading their statuses, one after another. -/
def statuses (store : TaskStore σ) (root : Path) (w : σ) : List (Outcome TaskStatus) :=
  match store.listTasks root w with
  | (.answered listing, v) => readings (listing.getD []) v
  | _ => []

/-- The listing has a task, and all of its tasks are done. -/
def AllDone (store : TaskStore σ) (root : Path) (w : σ) : Prop :=
  (∃ tasks, (store.listTasks root w).1 = .answered (some tasks) ∧ tasks ≠ []) ∧
    ∀ o ∈ statuses store root w, FoundDone o

/-- There is no listing, or there is none of its tasks. -/
def NoTasks (store : TaskStore σ) (root : Path) (w : σ) : Prop :=
  (store.listTasks root w).1 = .answered none ∨ (store.listTasks root w).1 = .answered (some [])

/-- How a call of the check from the world `w` goes that has the trace `t` and ends in `o`. -/
structure Answers (store : TaskStore σ) (root : Path) (w : σ) (t : List Entry)
    (o : Except Abort (Except Fault Bool)) : Prop where
  /-- The tasks are listed once, and no status is read after the first that is not done. -/
  trace_eq : t = .listTasks root :: (untilOther (statuses store root w)).map .status
  true_iff : o = .ok (.ok true) ↔ AllDone store root w
  false_iff : o = .ok (.ok false) ↔
    NoTasks store root w ∨ ∃ s, FirstOther (statuses store root w) (.answered s)
  raised_iff : ∀ f, o = .ok (.error f) ↔
    (store.listTasks root w).1 = .raised f ∨ FirstOther (statuses store root w) (.raised f)
  aborted_iff : ∀ e, o = .error e ↔
    (store.listTasks root w).1 = .aborted e ∨ FirstOther (statuses store root w) (.aborted e)

@[simp] theorem not_firstOther_nil (o : Outcome TaskStatus) : ¬ FirstOther [] o := by
  simp [← firstOther?_eq_some_iff, firstOther?]

section Answers

variable {store : TaskStore σ} {root : Path} {w v : σ}

/-- A listing with tasks is answered by their statuses. -/
theorem answers_of_tasks {task : TaskRecord σ} {tasks : List (TaskRecord σ)}
    (hlist : store.listTasks root w = (.answered (some (task :: tasks)), v)) :
    Answers store root w
      (.listTasks root :: (untilOther (readings (task :: tasks) v)).map .status)
      (decided (readings (task :: tasks) v)) := by
  have hstatuses : statuses store root w = readings (task :: tasks) v := by
    simp [statuses, hlist]
  constructor
  · rw [hstatuses]
  · simp [decided_eq_true_iff, AllDone, hlist, hstatuses]
  · simp [decided_eq_false_iff, NoTasks, hlist, hstatuses]
  · simp [decided_eq_raised_iff, hlist, hstatuses]
  · simp [decided_eq_aborted_iff, hlist, hstatuses]

/-- A call of the check lists the tasks, and reads what it has to of their statuses. -/
theorem steps_ofTasks (store : TaskStore σ) (root : Path) (w : σ) :
    ∃ t o v, Steps (CompletionCheck.ofTasks store root) w t o v ∧ Answers store root w t o := by
  have hcall := steps_attempt (store.listTasks root) (fun _ => .listTasks root) w
  unfold CompletionCheck.ofTasks
  -- the listing is missing, empty or has tasks, or the call of it did not return
  rcases hlist : store.listTasks root w with ⟨listing | f | e, v⟩
  · rw [hlist] at hcall
    rcases listing with _ | _ | ⟨task, tasks⟩
    · refine ⟨_, _, _, hcall.bind (steps_pure _ _), ?_⟩
      constructor <;> simp [statuses, hlist, NoTasks, AllDone, readings, untilOther]
    · refine ⟨_, _, _, hcall.bind (steps_pure _ _), ?_⟩
      constructor <;> simp [statuses, hlist, NoTasks, AllDone, readings, untilOther]
    · obtain ⟨x, hread⟩ := steps_allDone_readings (task :: tasks) v
      exact ⟨_, _, x, hcall.bind hread, answers_of_tasks hlist⟩
  · rw [hlist] at hcall
    refine ⟨_, _, _, hcall.bind (steps_pure _ _), ?_⟩
    constructor <;> simp [statuses, hlist, NoTasks, AllDone, untilOther, eq_comm]
  · rw [hlist] at hcall
    refine ⟨_, _, _, hcall.bind_error, ?_⟩
    constructor <;> simp [statuses, hlist, NoTasks, AllDone, untilOther, eq_comm (a := e)]

end Answers

/-! ## Calls in sequence -/

/-- The world in which a run from the world `w` ends. -/
def worldFrom {α : Type} (m : Run σ α) (w : σ) : σ :=
  match m ⟨w, []⟩ with
  | .ok _ s => s.world
  | .error _ s => s.world

/-- A call of the check: what happens to the world before it, and the directory that it is about. -/
structure CheckCall (σ : Type) where
  before : σ → σ
  root : Path

/-- What came of a call of the check: the world that it found, its trace and its end. -/
structure CheckRecord (σ : Type) where
  world : σ
  trace : List Entry
  outcome : Except Abort (Except Fault Bool)

/-- What came of calls of one check. Each finds the world as the one before has left it, but for
what has happened to it meanwhile. -/
def consult (store : TaskStore σ) : List (CheckCall σ) → σ → List (CheckRecord σ)
  | [], _ => []
  | call :: calls, w =>
    let check := CompletionCheck.ofTasks store call.root
    let world := call.before w
    ⟨world, journalFrom check world, outcomeFrom check world⟩ ::
      consult store calls (worldFrom check world)

/-- Every call answers by the listing that it finds. -/
theorem consult_answers (store : TaskStore σ) (calls : List (CheckCall σ)) (w : σ) :
    List.Forall₂ (fun call x => Answers store call.root x.world x.trace x.outcome) calls
      (consult store calls w) := by
  induction calls generalizing w with
  | nil => exact .nil
  | cons call calls ih =>
    obtain ⟨t, o, v, hs, hanswers⟩ := steps_ofTasks store call.root (call.before w)
    rw [← hs.journalFrom_eq, ← hs.outcomeFrom_eq] at hanswers
    exact .cons hanswers (ih _)

/-! ## Loop stages -/

variable (c : Collaborators σ) (s : Stage) (config : Config)

/-- A round of a loop stage up to the call of its completion check: what comes of the work, unless
the check is to be called. -/
def trial (deadline : Float) (done : Nat) : Run σ (Option Work) := do
  match ← poll c config.signal deadline with
  | some reason => pure (some ⟨done, .ok ⟨true, none, reason⟩⟩)
  | none =>
    emit c config.sink (.stageIteration s ↑(done + 1))
    log .info ("[" ++ s.name.text ++ "] iteration " ++ toString (done + 1))
    match ← spawn c s config with
    | .error f => pure (some ⟨done + 1, .error f⟩)
    | .ok r =>
      if !r.success then pure (some ⟨done + 1, .ok ⟨false, r.error, .stageFailed⟩⟩)
      else pure none

/-- What comes of the work with the answer of the completion check, unless another round is to
follow. -/
def verdictOf (done : Nat) : Except Fault Bool → Option Work
  | .error f => some ⟨done, .error f⟩
  | .ok true => some ⟨done, .ok ⟨true, none, .goalMet⟩⟩
  | .ok false => none

/-- A loop stage with attempts left makes a trial, and asks its completion check if it succeeds. -/
theorem attempts_succ_trial (check : CompletionCheck σ) (deadline : Float) (done left : Nat) :
    attempts c s config check deadline done (left + 1) =
      trial c s config deadline done >>= fun
        | some work => pure work
        | none => check.ask c config.root >>= fun answer =>
            match verdictOf (done + 1) answer with
            | some work => pure work
            | none => attempts c s config check deadline (done + 1) left := by
  simp only [attempts, trial, bind_assoc]
  apply bind_congr
  rintro (_ | reason)
  · simp only [bind_assoc]
    apply bind_congr
    intro _
    apply bind_congr
    intro _
    apply bind_congr
    rintro (f | r)
    · simp
    · cases hr : r.success with
      | false => simp [hr]
      | true =>
        simp only [hr, Bool.not_true, Bool.false_eq_true, if_false, pure_bind]
        apply bind_congr
        rintro (f | _ | _) <;> rfl
  · simp

/-- A loop stage does not meet its goal before the completion check is called. -/
theorem traced_trial (deadline : Float) (done : Nat) :
    Traced (trial c s config deadline done) fun _ o => ∀ work, o = .ok (some work) →
      ∀ ending, work.ending = .ok ending → ending.reason ≠ .goalMet := by
  unfold trial
  apply Traced.poll_bind
  intro b time
  -- a poll that halts the run gives one of its two reasons, neither of which is the goal
  cases hhalt : haltReason b deadline time with
  | some reason =>
    apply Traced.pure
    rintro _ ⟨⟩ _ ⟨⟩
    rw [haltReason_eq_some_iff] at hhalt
    rcases hhalt with ⟨-, rfl⟩ | ⟨-, -, rfl⟩ <;> simp
  | none =>
    apply Traced.emit_log_bind c _ (by simp)
    intro _ _
    apply Traced.bind (traced_spawn c s config) _ (by simp)
    rintro (f | r) _ -
    · exact Traced.pure (by simp)
    · dsimp only
      split <;> exact Traced.pure (by simp)

/-- From the world `w`, when `done` attempts have been made, a loop stage has the tasks listed in
the `worlds`, each time right after an attempt, until they are found to be done. The attempts and
the calls of the check leave the trace. -/
inductive Listings (store : TaskStore σ) (deadline : Float) :
    (done : Nat) → σ → List Entry → List σ → Prop where
  | last {done : Nat} {w v x : σ} {t u : List Entry}
      (htrial : Steps (trial c s config deadline done) w t (.ok none) v)
      (hask : Steps ((CompletionCheck.tasks store).ask c config.root) v u (.ok (.ok true)) x) :
      Listings store deadline done w (t ++ u) [v]
  | again {done : Nat} {w v x : σ} {t u rest : List Entry} {worlds : List σ}
      (htrial : Steps (trial c s config deadline done) w t (.ok none) v)
      (hask : Steps ((CompletionCheck.tasks store).ask c config.root) v u (.ok (.ok false)) x)
      (hrest : Listings store deadline (done + 1) x rest worlds) :
      Listings store deadline done w (t ++ (u ++ rest)) (v :: worlds)

section Listings

variable {c s config} {store : TaskStore σ} {deadline : Float}

/-- The answer of the check is the one that the listing gives. -/
theorem allDone_iff_of_ask {root : Path} {w v : σ} {t : List Entry} {b : Bool}
    (hask : Steps ((CompletionCheck.tasks store).ask c root) w t (.ok (.ok b)) v) :
    b = true ↔ AllDone store root w := by
  obtain ⟨u, o, x, hs, hanswers⟩ := steps_ofTasks store root w
  -- asking notes the answer, and leaves it as it is
  have ho : o = .ok (.ok b) := by
    cases o with
    | error e =>
      have hcut : Steps ((CompletionCheck.tasks store).ask c root) w u (.error e) x := hs.bind_error
      exact hcut.outcomeFrom_eq.symm.trans hask.outcomeFrom_eq
    | ok answer =>
      have hnoted : Steps ((CompletionCheck.tasks store).ask c root) w _ (.ok answer) x :=
        hs.bind ((steps_note [.verdict answer] x).bind (steps_pure answer x))
      exact hnoted.outcomeFrom_eq.symm.trans hask.outcomeFrom_eq
  rw [← hanswers.true_iff, ho]
  simp

/-- All listings but the last have a task that is not done, or no task. -/
theorem Listings.split {done : Nat} {w : σ} {t : List Entry} {worlds : List σ}
    (h : Listings c s config store deadline done w t worlds) :
    ∃ earlier last, worlds = earlier ++ [last] ∧ AllDone store config.root last ∧
      ∀ v ∈ earlier, ¬ AllDone store config.root v := by
  -- the last listing was answered by yes, and every one before it by no
  induction h with
  | last htrial hask => exact ⟨[], _, rfl, (allDone_iff_of_ask hask).1 rfl, by simp⟩
  | @again _ _ v _ _ _ _ _ htrial hask hrest ih =>
    obtain ⟨earlier, last, rfl, hlast, hearlier⟩ := ih
    refine ⟨v :: earlier, last, rfl, hlast, List.forall_mem_cons.2 ⟨?_, hearlier⟩⟩
    rw [← allDone_iff_of_ask hask]
    exact Bool.false_ne_true

variable (c s config) in
/-- Attempts that meet the goal were each followed by a listing. -/
theorem steps_attempts_listings (store : TaskStore σ) (deadline : Float) (done left : Nat) (w : σ) :
    ∃ t o v, Steps (attempts c s config (.tasks store) deadline done left) w t o v ∧
      ∀ work ending, o = .ok work → work.ending = .ok ending → ending.reason = .goalMet →
        ending.success = true ∧ ∃ worlds, work.iterations = done + worlds.length ∧
          Listings c s config store deadline done w t worlds := by
  -- each round takes one from the attempts that are left
  induction left generalizing done w with
  | zero =>
    refine ⟨[], _, w, steps_pure _ w, ?_⟩
    rintro _ _ ⟨⟩ ⟨⟩ ⟨⟩
  | succ left ih =>
    rw [attempts_succ_trial]
    obtain ⟨t, o, v, htrial, hreason⟩ := traced_trial c s config deadline done w
    -- a trial may abort, call for the check, or end the stage for a reason of its own
    rcases o with e | _ | work
    · exact ⟨t, _, v, htrial.bind_error, by simp⟩
    · obtain ⟨u, o, x, hask, -⟩ := traced_ask c (.tasks store) config.root v
      rcases o with e | f | _ | _
      · exact ⟨_, _, x, htrial.bind hask.bind_error, by simp⟩
      · refine ⟨_, _, x, htrial.bind (hask.bind (steps_pure _ x)), ?_⟩
        rintro _ _ ⟨⟩ ⟨⟩
      · obtain ⟨rest, o, y, hrest, hlistings⟩ := ih (done + 1) x
        refine ⟨_, o, y, htrial.bind (hask.bind hrest), ?_⟩
        intro work ending hwork hending hmet
        obtain ⟨hsuccess, worlds, hlength, hworlds⟩ := hlistings work ending hwork hending hmet
        refine ⟨hsuccess, v :: worlds, ?_, .again htrial hask hworlds⟩
        rw [hlength, List.length_cons]
        omega
      · refine ⟨_, _, x, htrial.bind (hask.bind (steps_pure _ x)), ?_⟩
        rintro _ _ ⟨⟩ ⟨⟩ -
        rw [List.append_nil]
        exact ⟨rfl, [v], rfl, .last htrial hask⟩
    · refine ⟨_, _, v, htrial.bind (steps_pure work v), ?_⟩
      rintro _ ending ⟨⟩ hending hmet
      exact absurd hmet (hreason work rfl ending hending)

/-- A loop stage that asks the tasks meets its goal with the first listing in which all are done. -/
theorem listings_of_goalMet (config : Config) (hl : s.loop = true) (hcheck : s.check = none)
    (hstore : c.store = some store) (limits : Constraints) (w : σ) :
    ∃ t o v, Steps (stage c s config (some limits)) w t o v ∧ ∀ r, o = .ok r →
      r.stopReason = some .goalMet → ∃ u entry worlds,
        t = u ++ [.log entry] ∧ r.iterations = worlds.length ∧
          Listings c s config store limits.deadline 0 (c.clock w).2 u worlds := by
  have hof : CompletionCheck.of? c s = some (.tasks store) := by
    simp [CompletionCheck.of?, hcheck, hstore]
  rw [stage_eq, hl, if_pos rfl, repeatedly_eq hof]
  obtain ⟨t, o, v, hattempts, hlistings⟩ := steps_attempts_listings c s config store
    limits.deadline 0 limits.remaining.toNat (c.clock w).2
  have hnow := steps_observe c.clock w
  cases o with
  | error e => exact ⟨_, _, v, hnow.bind hattempts.bind_error.bind_error, by simp⟩
  | ok work =>
    obtain ⟨t', o, v', hreport, rfl, hlog⟩ := traced_report s work v
    obtain ⟨t'', o, v'', hrecord, hrecorded⟩ := traced_record c s config (c.clock w).1 work v'
    refine ⟨_, o, v'', hnow.bind ((hattempts.bind hreport).bind hrecord), ?_⟩
    intro r hr hmet
    obtain ⟨-, hiterations, ⟨ending, hending, rfl, hreason⟩ | ⟨f, -, hreason⟩⟩ := hrecorded r hr
    · have hgoal : ending.reason = .goalMet := Option.some.inj (hreason.symm.trans hmet)
      obtain ⟨hsuccess, worlds, hlength, hworlds⟩ := hlistings work ending rfl hending hgoal
      obtain rfl := hlog ending hending hsuccess
      have hiterations' : r.iterations = worlds.length := by
        rw [hiterations, hlength, Nat.zero_add]
      exact ⟨t, _, worlds, List.append_nil _, hiterations', hworlds⟩
    · cases hreason.symm.trans hmet

end Listings

/-- The check that asks the tasks compares the texts of their statuses. Each call of it, wherever it
stands among other calls and whatever has happened meanwhile, lists the tasks once, and answers by
what it finds in that listing. A loop stage that has met its goal by it has found all tasks done in
the listing after its last attempt, and in no listing before. -/
theorem completion_by_tasks (store : TaskStore σ) :
    (∀ d : Data, (FoundDone (.answered (.ofData d)) ↔ d.statusText = TaskState.done.text) ∧
        (d.statusText = TaskState.done.text ↔ d = .text TaskState.done.text ∨ d = .state .done)) ∧
      (∀ calls w, List.Forall₂ (fun call x => Answers store call.root x.world x.trace x.outcome)
        calls (consult store calls w)) ∧
      ∀ (c : Collaborators σ) (s : Stage) (config : Config) (limits : Option Constraints) (w : σ)
          (r : StageResult),
        s.loop = true → s.check = none → c.store = some store →
        outcomeFrom (stage c s config limits) w = .ok r → r.stopReason = some .goalMet →
        ∃ t entry earlier last,
          journalFrom (stage c s config limits) w = t ++ [.log entry] ∧
          r.iterations = (earlier ++ [last]).length ∧
          Listings c s config store
            (limits.getD (fullConstraints config (c.clock w).1)).deadline 0 (c.clock w).2 t
            (earlier ++ [last]) ∧
          AllDone store config.root last ∧ ∀ v ∈ earlier, ¬ AllDone store config.root v := by
  refine ⟨fun d => ⟨foundDone_ofData_iff d, d.statusText_eq_done_iff⟩, consult_answers store, ?_⟩
  intro c s config limits w r hl hcheck hstore hr hmet
  obtain ⟨t, o, v, hsteps, hgoal⟩ := listings_of_goalMet config hl hcheck hstore
    (limits.getD (fullConstraints config (c.clock w).1)) w
  have hstage : Steps (stage c s config limits) w t o v :=
    fun j => (stage_within s config limits ⟨w, j⟩).trans (hsteps j)
  rw [hstage.outcomeFrom_eq] at hr
  obtain ⟨u, entry, worlds, rfl, hiterations, hlistings⟩ := hgoal r hr hmet
  obtain ⟨earlier, last, rfl, hlast, hearlier⟩ := hlistings.split
  exact ⟨u, entry, earlier, last, hstage.journalFrom_eq, hiterations, hlistings, hlast, hearlier⟩

/-- After the first attempt there is no listing. After the second there is a task in progress, and
one behind it whose status cannot be read. Later on all tasks are done. -/
def laggingStore : TaskStore Echo.World where
  listTasks _ calls := (.answered <| match calls with
    | 1 => none
    | 2 => some [⟨fun w => (.answered (.state .inProgress), w)⟩,
        ⟨fun w => (.raised ⟨"ValueError", "no status"⟩, w)⟩]
    | _ => some [⟨fun w => (.answered (.text "Done"), w)⟩,
        ⟨fun w => (.answered (.state .done), w)⟩], calls)

/-- A loop stage asks that store three times. -/
theorem goal_met_at_third_listing :
    let c := { Echo.collaborators 0 with store := some laggingStore }
    let s : Stage := { name := sampleName, loop := true }
    let config : Config := { root := ⟨.root, ["p"]⟩ }
    ∃ (r : StageResult) (earlier : List Echo.World) (last : Echo.World),
      outcomeFrom (stage c s config) 0 = .ok r ∧ r.stopReason = some .goalMet ∧ earlier.length = 2 ∧
      AllDone laggingStore config.root last ∧
      ∀ v ∈ earlier, ¬ AllDone laggingStore config.root v := by
  intro c s config
  have hrun : (outcomeFrom (stage c s config) 0).toOption.map
      (fun r => (r.iterations, r.stopReason)) = some (3, some .goalMet) := by
    decide +kernel
  obtain ⟨r, hr, hmap⟩ := exists_of_toOption_map hrun
  obtain ⟨hthree, hmet⟩ := Prod.mk.inj hmap
  obtain ⟨t, entry, earlier, last, -, hiterations, -, hlast, hearlier⟩ :=
    (completion_by_tasks laggingStore).2.2 c s config none 0 r rfl rfl rfl hr hmet
  rw [hthree] at hiterations
  refine ⟨r, earlier, last, hr, hmet, ?_, hlast, hearlier⟩
  simp only [List.length_append, List.length_singleton] at hiterations
  omega

end Run

end AgentChain
