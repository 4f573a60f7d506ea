import AgentChain.Echo
import AgentChain.Proofs.Coupling

/-!
# Runs that echo

Collaborators echo if their executor and their task store act as the echo executor and its task
store do, as far as the number of calls goes, which is part of their world. Their clock may show any
time, and their sink may do anything but abort the run or call the executor. A run with them
returns, and its journal is an echo: each call of the executor is answered by its number, and each
completion check by the number of the calls before it.

`Echoing` says so of a part of a run. It follows the way in which runs are put together, and has one
lemma for each part.

Main statement: `echoing_chain`.
-/

namespace AgentChain

/-- The entry is as the echo executor and its task store leave it after so many calls, and the run
is not cancelled. -/
def Entry.IsEcho (rounds : Int) (calls : Echo.World) : Entry → Prop
  | .spawn request outcome => outcome = (Echo.spawn request calls).1
  | .verdict answer => answer = .ok (decide (rounds ≤ calls))
  | .poll cancelled _ _ => cancelled = false
  | .lastPoll cancelled => cancelled = false
  | _ => True

/-- Nothing that the echo executor or its task store answers, nor a question for the signal. -/
def Entry.isAside : Entry → Bool
  | .spawn .. | .verdict _ | .poll .. | .lastPoll _ => false
  | _ => true

/-- Entries of no other sort need agree with the echo executor. -/
theorem Entry.isEcho_of_isAside {x : Entry} (h : x.isAside = true) (rounds : Int)
    (calls : Echo.World) : x.IsEcho rounds calls := by
  cases x with
  | spawn | verdict | poll | lastPoll => simp [isAside] at h
  | _ => trivial

/-- No such entry is a call of the executor. -/
theorem Entry.spawn?_of_isAside {x : Entry} (h : x.isAside = true) : x.spawn? = none := by
  cases x with
  | spawn => simp [isAside] at h
  | _ => rfl

namespace Run

/-! ## Journals that are an echo -/

/-- Every entry is as the echo executor and its task store leave it, when there have been `calls`
calls before. -/
def Echoed (rounds : Int) : (calls : Echo.World) → List Entry → Prop
  | _, [] => True
  | calls, x :: t => x.IsEcho rounds calls ∧ Echoed rounds (calls + (spawns [x]).length) t

section
variable {rounds : Int} {calls : Echo.World} {t u : List Entry}

/-- The second part of an echo starts with the calls that the first part made. -/
theorem echoed_append : Echoed rounds calls (t ++ u) ↔
    Echoed rounds calls t ∧ Echoed rounds (calls + (spawns t).length) u := by
  induction t generalizing calls with
  | nil => simp [Echoed]
  | cons x t ih =>
    -- the calls are counted entry by entry, as `Echoed` does
    have hcount : (spawns (x :: t)).length = (spawns [x]).length + (spawns t).length := by
      simp
    rw [List.cons_append, Echoed, Echoed, ih, and_assoc, hcount, Nat.add_assoc]

/-- An entry that is no call may come before. -/
theorem Echoed.cons {x : Entry} (hx : x.IsEcho rounds calls) (hs : x.spawn? = none)
    (ht : Echoed rounds calls t) : Echoed rounds calls (x :: t) := by
  refine ⟨hx, ?_⟩
  simpa [hs] using ht

/-- What comes after an entry that is no call is an echo with the same number of calls. -/
theorem Echoed.tail {x : Entry} (h : Echoed rounds calls (x :: t)) (hs : x.spawn? = none) :
    Echoed rounds calls t := by
  obtain ⟨-, ht⟩ := h
  simpa [hs] using ht

/-- Each entry of an echo agrees with the echo executor after some number of calls. -/
theorem Echoed.isEcho_of_mem {x : Entry} (h : Echoed rounds calls t) (hx : x ∈ t) :
    ∃ n, x.IsEcho rounds n := by
  obtain ⟨u, v, rfl⟩ := List.append_of_mem hx
  exact ⟨_, (echoed_append.1 h).2.1⟩

/-- A trace without calls, answers and polls is an echo. -/
theorem Each.echoed (h : Each Entry.isAside t) : Echoed rounds calls t := by
  induction t with
  | nil => trivial
  | cons x t ih =>
    obtain ⟨hx, ht⟩ := List.forall_mem_cons.1 h
    exact Echoed.cons (Entry.isEcho_of_isAside hx rounds calls) (Entry.spawn?_of_isAside hx) (ih ht)

/-- A trace of such entries calls no executor. -/
theorem Each.spawns_eq_nil (h : Each Entry.isAside t) : spawns t = [] :=
  List.filterMap_eq_nil_iff.2 fun x hx => Entry.spawn?_of_isAside (h x hx)

/-- An emission leaves neither calls nor answers. -/
theorem Emits.isAside {sink : Option Handle} {e : Event} (h : Emits sink e t) :
    Each Entry.isAside t :=
  h.each rfl (fun _ => rfl) fun _ => rfl

end

/-! ## Collaborators that echo -/

variable {σ α β : Type} {rounds : Int} {calls : σ → Echo.World}

/-- The number of calls so far is this one. -/
def HasCalls (calls : σ → Echo.World) (w : σ) (n : Echo.World) : Prop := calls w = n

/-- The executor and the task store act as the echo executor and its task store do, as far as the
number of calls goes. The clock and the sink call nothing, and the sink aborts nothing. -/
structure Echoes (rounds : Int) (calls : σ → Echo.World) (c : Collaborators σ) : Prop where
  spawn : ∀ request,
    CallsMatch (HasCalls calls) Eq (c.executor.spawn request) (Echo.executor.spawn request)
  dispose : CallsMatch (HasCalls calls) Eq c.executor.dispose Echo.executor.dispose
  store : ∃ store, c.store = some store ∧ StoresMatch (HasCalls calls) store (Echo.store rounds)
  clock : ∀ w, calls (c.clock w).2 = calls w
  sink : ∀ h e w, calls (c.sink h e w).state = calls w ∧
    ∀ a, (c.sink h e w).outcome ≠ .aborted a

/-- From any world the part of a run returns, its trace is an echo, and its calls are counted. -/
def Echoing (rounds : Int) (calls : σ → Echo.World) (m : Run σ α) : Prop :=
  ∀ w, ∃ t a w', Steps m w t (.ok a) w' ∧ calls w' = calls w + (spawns t).length ∧
    Echoed rounds (calls w) t

namespace Echoing

variable {m : Run σ α}

theorem pure (a : α) : Echoing rounds calls (Pure.pure a : Run σ α) := by
  intro w
  exact ⟨[], a, w, steps_pure a w, rfl, trivial⟩

theorem note {x : Entry} (hs : x.spawn? = none) (hx : ∀ n, x.IsEcho rounds n) :
    Echoing rounds calls (Run.note [x] : Run σ Unit) := by
  intro w
  exact ⟨[x], (), w, steps_note [x] w, by simp [hs], Echoed.cons (hx _) hs trivial⟩

theorem log (level : Level) (message : String) :
    Echoing rounds calls (Run.log level message : Run σ Unit) :=
  note rfl fun _ => trivial

theorem observe {f : σ → α × σ} (h : ∀ w, calls (f w).2 = calls w) :
    Echoing rounds calls (Run.observe f) := by
  intro w
  exact ⟨[], (f w).1, (f w).2, steps_observe f w, h w, trivial⟩

/-- A sequence echoes part by part, since the calls are counted in the world. -/
theorem bind {f : α → Run σ β} (hm : Echoing rounds calls m)
    (hf : ∀ a, Echoing rounds calls (f a)) : Echoing rounds calls (m >>= f) := by
  intro w
  obtain ⟨t, a, w₁, hs, hcalls, ht⟩ := hm w
  obtain ⟨u, b, w₂, hs', hcalls', hu⟩ := hf a w₁
  -- the second part starts with the calls of the first part counted in
  rw [hcalls] at hcalls' hu
  refine ⟨t ++ u, b, w₂, hs.bind hs', ?_, echoed_append.2 ⟨ht, hu⟩⟩
  rw [hcalls', spawns_append, List.length_append, Nat.add_assoc]

/-- A part with a cleanup echoes if both do. -/
theorem finallyDo {cleanup : Run σ Unit} (hm : Echoing rounds calls m)
    (hc : Echoing rounds calls cleanup) : Echoing rounds calls (Run.finallyDo m cleanup) := by
  intro w
  obtain ⟨t, a, w₁, hs, hcalls, ht⟩ := hm w
  obtain ⟨u, ⟨⟩, w₂, hs', hcalls', hu⟩ := hc w₁
  rw [hcalls] at hcalls' hu
  refine ⟨t ++ u, a, w₂, hs.finallyDo hs', ?_, echoed_append.2 ⟨ht, hu⟩⟩
  rw [hcalls', spawns_append, List.length_append, Nat.add_assoc]

end Echoing

/-! ## The parts of a run -/

variable {c : Collaborators σ}

namespace Echoes

variable (h : Echoes rounds calls c)
include h

/-- An emission echoes, since the sink calls nothing and aborts nothing. -/
theorem echoing_emit (sink : Option Handle) (e : Event) :
    Echoing rounds calls (emit c sink e) := by
  cases sink with
  | none => exact Echoing.pure ()
  | some handle =>
    intro w
    obtain ⟨hcalls, hgoes⟩ := h.sink handle e w
    have hs := steps_emit c handle e w
    have hok : carriedOn (c.sink handle e w).outcome = .ok () := by
      cases hout : (c.sink handle e w).outcome with
      | answered | raised => rfl
      | aborted a => exact absurd hout (hgoes a)
    rw [hok] at hs
    -- nothing that an emission leaves is a call or an answer
    have haside := ((traced_emit c (some handle) e).apply w).isAside
    rw [hs.journalFrom_eq] at haside
    refine ⟨_, (), _, hs, ?_, haside.echoed⟩
    rw [hcalls, haside.spawns_eq_nil]
    rfl

/-- A poll echoes if there is no signal. -/
theorem echoing_poll (deadline : Float) : Echoing rounds calls (poll c none deadline) := by
  unfold poll
  apply Echoing.bind (Echoing.observe h.clock)
  intro now
  have hnote : ∀ b, b = false → Echoing rounds calls
      (note [.poll b deadline now] >>= fun _ => pure (haltReason b deadline now)) :=
    fun b hb => Echoing.bind (Echoing.note rfl fun _ => hb) fun _ => Echoing.pure _
  exact hnote false rfl

/-- An attempt echoes: its call is answered by its number. -/
theorem echoing_spawn (s : Stage) (config : Config) :
    Echoing rounds calls (Run.spawn c s config) := by
  -- the call finds as many calls before it as its world counts
  have hcall : ∀ request,
      Echoing rounds calls (attempt (c.executor.spawn request) (.spawn request)) := by
    intro request w
    obtain ⟨hout, hcalls⟩ := h.spawn request w (calls w) rfl
    have hs := steps_attempt (c.executor.spawn request) (.spawn request) w
    rw [hout.eq] at hs
    exact ⟨_, _, _, hs, hcalls, rfl, trivial⟩
  unfold Run.spawn
  apply Echoing.bind (hcall _)
  rintro (f | r)
  · exact Echoing.pure _
  dsimp only
  cases r.success with
  | true =>
    apply Echoing.bind (h.echoing_emit _ _)
    intro _
    exact Echoing.bind (h.echoing_emit _ _) fun _ => Echoing.pure _
  | false => exact Echoing.bind (Echoing.log _ _) fun _ => Echoing.pure _

omit h in
/-- The task is done once there have been as many calls as there are rounds. -/
theorem isDone_taskState (n : Echo.World) :
    (TaskStatus.text (Echo.taskState rounds n).text).isDone = decide (rounds ≤ n) := by
  unfold Echo.taskState
  by_cases hle : rounds ≤ n
  · simp [hle, TaskStatus.isDone]
  · simp [hle, TaskStatus.isDone, TaskState.text]

omit h in
/-- The only task is done once there have been as many calls as there are rounds. -/
theorem steps_allDone {task : TaskRecord σ} {w : σ} {n : Echo.World}
    (htask : OutcomesMatch Eq (task.status w).1
      (.answered (.text (Echo.taskState rounds n).text))) :
    Steps (CompletionCheck.allDone [task]) w
      [.status (.answered (.text (Echo.taskState rounds n).text))]
      (.ok (.ok (decide (rounds ≤ n)))) (task.status w).2 := by
  have hs := steps_attempt task.status .status w
  rw [htask.eq] at hs
  have hrest : Steps
      (if (TaskStatus.text (Echo.taskState rounds n).text).isDone then
        CompletionCheck.allDone ([] : List (TaskRecord σ)) else pure (.ok false))
      (task.status w).2 [] (.ok (.ok (decide (rounds ≤ n)))) (task.status w).2 := by
    rw [isDone_taskState]
    by_cases hle : rounds ≤ n
    · simp only [hle, decide_true, if_true]
      exact steps_pure _ _
    · simp only [hle, decide_false, Bool.false_eq_true, if_false]
      exact steps_pure _ _
  exact hs.bind hrest

/-- A completion check echoes: the one task that is listed decides it. -/
theorem echoing_ask {store : TaskStore σ} (hstore : c.store = some store) (root : Path) :
    Echoing rounds calls ((CompletionCheck.tasks store).ask c root) := by
  intro w
  obtain ⟨store', hstore', hmatch⟩ := h.store
  rw [hstore] at hstore'
  cases hstore'
  obtain ⟨hlist, hcalls⟩ := hmatch root w (calls w) rfl
  have hs := steps_attempt (store.listTasks root) (fun _ => .listTasks root) w
  generalize (store.listTasks root w).1 = listing at hlist hs
  generalize (store.listTasks root w).2 = v at hcalls hs
  -- what is listed matches the listing of the echo store, which is a single task
  cases hlist with
  | answered hlist =>
    cases hlist with
    | some htasks =>
      cases htasks with
      | cons htask hnone =>
        cases hnone
        obtain ⟨hstatus, hcalls'⟩ := htask v _ hcalls
        have hdone := steps_allDone hstatus
        refine ⟨_, _, _, (hs.bind hdone).bind ((steps_note _ _).bind (steps_pure _ _)), ?_, ?_⟩
        · exact hcalls'
        · exact ⟨trivial, trivial, rfl, trivial⟩

/-- The rounds of a loop stage echo. -/
theorem echoing_attempts {store : TaskStore σ} (hstore : c.store = some store) (s : Stage)
    {config : Config} (hsignal : config.signal = none) (deadline : Float) (done left : Nat) :
    Echoing rounds calls (attempts c s config (.tasks store) deadline done left) := by
  -- each round takes one from the attempts that are left
  induction left generalizing done with
  | zero => exact Echoing.pure _
  | succ left ih =>
    unfold attempts
    rw [hsignal]
    apply Echoing.bind (h.echoing_poll deadline)
    rintro (_ | reason)
    · apply Echoing.bind (h.echoing_emit _ _)
      intro _
      apply Echoing.bind (Echoing.log _ _)
      intro _
      apply Echoing.bind (h.echoing_spawn s config)
      rintro (fault | r)
      · exact Echoing.pure _
      dsimp only
      split
      · exact Echoing.pure _
      · apply Echoing.bind (h.echoing_ask hstore config.root)
        rintro (fault | _ | _)
        · exact Echoing.pure _
        · exact ih (done + 1)
        · exact Echoing.pure _
    · exact Echoing.pure _

/-- The tasks decide about a stage without a completion check of its own. -/
theorem of?_eq {s : Stage} (hs : s.check = none) :
    ∃ store, c.store = some store ∧ CompletionCheck.of? c s = some (.tasks store) := by
  obtain ⟨store, hstore, -⟩ := h.store
  exact ⟨store, hstore, by simp [CompletionCheck.of?, hs, hstore]⟩

/-- The work on a stage without a completion check of its own echoes. -/
theorem echoing_work {s : Stage} (hs : s.check = none) {config : Config}
    (hsignal : config.signal = none) (limits : Constraints) : Echoing rounds calls
      (if s.loop then repeatedly c s config limits else once c s config) := by
  split
  · obtain ⟨store, hstore, hcheck⟩ := h.of?_eq hs
    unfold repeatedly
    rw [hcheck]
    apply Echoing.bind (h.echoing_attempts hstore s hsignal _ _ _)
    intro work
    dsimp only
    split
    · exact Echoing.bind (Echoing.log _ _) fun _ => Echoing.pure _
    · exact Echoing.pure _
  · apply Echoing.bind (h.echoing_spawn s config)
    rintro (fault | r)
    · exact Echoing.pure _
    · exact Echoing.pure _

theorem echoing_contain (s : Stage) (config : Config) (f : Fault) :
    Echoing rounds calls (contain c s config f) := by
  apply Echoing.bind (Echoing.log _ _)
  intro _
  exact Echoing.bind (h.echoing_emit _ _) fun _ => Echoing.pure _

theorem echoing_record (s : Stage) (config : Config) (start : Float) (work : Work) :
    Echoing rounds calls (record c s config start work) := by
  unfold record
  cases work.ending with
  | ok ending =>
    simp only [pure_bind]
    exact Echoing.bind (Echoing.observe h.clock) fun _ => Echoing.pure _
  | error f =>
    apply Echoing.bind (h.echoing_contain s config f)
    intro ending
    exact Echoing.bind (Echoing.observe h.clock) fun _ => Echoing.pure _

/-- A stage without a completion check of its own echoes. -/
theorem echoing_stage {s : Stage} (hs : s.check = none) {config : Config}
    (hsignal : config.signal = none) (limits : Constraints) :
    Echoing rounds calls (stage c s config (some limits)) := by
  rw [stage_eq]
  apply Echoing.bind (Echoing.observe h.clock)
  intro start
  exact Echoing.bind (h.echoing_work hs hsignal limits) (h.echoing_record s config start)

/-- The stages of a chain echo if none has a completion check of its own. -/
theorem echoing_stages {config : Config} (hsignal : config.signal = none) (index : Nat)
    (limits : Constraints) {list : List Stage} (hlist : ∀ s ∈ list, s.check = none) :
    Echoing rounds calls (stages c config index limits list) := by
  induction list generalizing index limits with
  | nil => exact Echoing.pure _
  | cons s rest ih =>
    obtain ⟨hs, hrest⟩ := List.forall_mem_cons.1 hlist
    unfold stages
    rw [hsignal]
    apply Echoing.bind (h.echoing_poll _)
    rintro (_ | reason)
    · apply Echoing.bind (h.echoing_emit _ _)
      intro _
      apply Echoing.bind (h.echoing_stage hs hsignal limits)
      intro result
      apply Echoing.bind (h.echoing_emit _ _)
      intro _
      split
      · exact Echoing.bind (ih _ _ hrest) fun _ => Echoing.pure _
      · exact Echoing.pure _
    · exact Echoing.bind (Echoing.log _ _) fun _ => Echoing.pure _

/-- The disposal echoes, and raises nothing. -/
theorem echoing_dispose : Echoing rounds calls (Run.dispose c) := by
  have hcall : Echoing rounds calls (attempt c.executor.dispose fun _ => .dispose) := by
    intro w
    obtain ⟨hout, hcalls⟩ := h.dispose w (calls w) rfl
    have hs := steps_attempt c.executor.dispose (fun _ => .dispose) w
    rw [hout.eq] at hs
    exact ⟨_, _, _, hs, hcalls, trivial, trivial⟩
  unfold Run.dispose
  apply Echoing.bind hcall
  rintro (fault | _)
  · exact Echoing.log _ _
  · exact Echoing.pure _

/-- The conclusion of a chain echoes if there is no signal. -/
theorem echoing_conclude {config : Config} (hsignal : config.signal = none) (start : Float)
    (left : List StageResult × Option StopReason) :
    Echoing rounds calls (conclude c config start left) := by
  have hpoll : Echoing rounds calls (lastPoll c config.signal) := by
    have hnote : ∀ b, b = false → Echoing rounds calls
        (note [.lastPoll b] >>= fun _ => pure b) :=
      fun b hb => Echoing.bind (Echoing.note rfl fun _ => hb) fun _ => Echoing.pure _
    rw [hsignal]
    exact hnote false rfl
  unfold conclude
  apply Echoing.bind hpoll
  intro cancelled
  apply Echoing.bind (Echoing.observe h.clock)
  intro finish
  apply Echoing.bind (Echoing.log _ _)
  intro _
  exact Echoing.bind (h.echoing_emit _ _) fun _ => Echoing.pure _

/-- A chain whose stages leave their completion to the tasks echoes, if no signal can cancel it. -/
theorem echoing_chain {config : Config} (hsignal : config.signal = none)
    (hstages : ∀ s ∈ config.stages, s.check = none) :
    Echoing rounds calls (chain c config) := by
  rw [chain_eq]
  apply Echoing.bind (Echoing.observe h.clock)
  intro start
  apply Echoing.bind (Echoing.log _ _)
  intro _
  apply Echoing.bind (h.echoing_emit _ _)
  intro _
  have hall := h.echoing_stages hsignal 0 (fullConstraints config start) hstages
  exact (hall.finallyDo h.echoing_dispose).bind (h.echoing_conclude hsignal start)

end Echoes

end Run

end AgentChain
