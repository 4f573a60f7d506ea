import AgentChain.Proofs.Course

/-!
# Halting

Once a run has to halt for good, little more happens. Whatever call of a collaborator was the last
before every poll says so, no stage is started after it, and at most one attempt and one completion
check still begin. A stage is started and an attempt is made only after a poll that lets the run go
on, so a trace that begins at such a poll is empty of both; what is left are the few calls between
two polls.

Main statement: `halting_is_prompt`.
-/

namespace AgentChain

namespace Entry

/-- A call of the sink, the executor, a completion check or the task store. -/
def isCall : Entry → Bool
  | .event _ | .spawn .. | .check .. | .listTasks _ | .status _ | .dispose => true
  | _ => false

/-- If the run asked whether it has to halt, it had to, by its signal or by this deadline. -/
def halts (deadline : Float) : Entry → Bool
  | .poll cancelled _ now => cancelled || decide (deadline ≤ now)
  | _ => true

/-- If the run asked for its signal, it was set. -/
def cancels : Entry → Bool
  | .poll cancelled _ _ => cancelled
  | .lastPoll cancelled => cancelled
  | _ => true

end Entry

namespace Run

/-- The run has to halt at every poll. -/
def Halts (deadline : Float) (t : List Entry) : Prop := ∀ x ∈ t, x.halts deadline = true

theorem Halts.left {deadline : Float} {t u : List Entry} (h : Halts deadline (t ++ u)) :
    Halts deadline t :=
  (List.forall_mem_append.1 h).1

theorem Halts.right {deadline : Float} {t u : List Entry} (h : Halts deadline (t ++ u)) :
    Halts deadline u :=
  (List.forall_mem_append.1 h).2

/-- A poll that lets the run go on does not halt it. -/
theorem not_halts_poll {deadline now : Float} {b : Bool} {t : List Entry}
    (hp : haltReason b deadline now = none) : ¬ Halts deadline (.poll b deadline now :: t) := by
  intro h
  have := h _ List.mem_cons_self
  cases b with
  | true => simp [haltReason] at hp
  | false =>
    simp only [Entry.halts, Bool.false_or, decide_eq_true_eq] at this
    simp [haltReason, this] at hp

/-! ## How much happens -/

/-- No stage is started, and at most `m` attempts and `n` completion checks begin. -/
structure Confined (m n : Nat) (t : List Entry) : Prop where
  starts : ∀ s i, Event.stageStart s i ∉ events t
  spawns : (Run.spawns t).length ≤ m
  checks : (Run.checks t).length ≤ n

/-- What keeps to bounds keeps to wider ones. -/
theorem Confined.mono {m n m' n' : Nat} {t : List Entry} (h : Confined m n t) (hm : m ≤ m')
    (hn : n ≤ n') : Confined m' n' t :=
  ⟨h.starts, Nat.le_trans h.spawns hm, Nat.le_trans h.checks hn⟩

/-- Bounds of parts in sequence add up. -/
theorem Confined.append {m n m' n' : Nat} {t u : List Entry} (ht : Confined m n t)
    (hu : Confined m' n' u) : Confined (m + m') (n + n') (t ++ u) := by
  refine ⟨?_, ?_, ?_⟩
  · intro s i
    simpa using ⟨ht.starts s i, hu.starts s i⟩
  · simpa using Nat.add_le_add ht.spawns hu.spawns
  · simpa using Nat.add_le_add ht.checks hu.checks

/-- The end of a trace keeps to the bounds of the whole. -/
theorem Confined.tail {m n : Nat} {x : Entry} {t : List Entry} (h : Confined m n (x :: t)) :
    Confined m n t := by
  refine ⟨?_, ?_, ?_⟩
  · intro s i hs
    exact h.starts s i (by simp [hs])
  · have hlen := h.spawns
    rw [spawns_cons, List.length_append] at hlen
    omega
  · have hlen := h.checks
    rw [checks_cons, List.length_append] at hlen
    omega

theorem Quiet.confined {t : List Entry} (h : Quiet t) : Confined 0 0 t :=
  ⟨by simp [h.events], by simp [h.spawns], by simp [h.checks]⟩

/-- An entry that begins nothing may come before. -/
theorem Confined.cons {m n : Nat} {x : Entry} {t : List Entry} (h : Confined m n t)
    (he : x.event? = none) (hs : x.spawn? = none) (hc : x.check? = none) :
    Confined m n (x :: t) := by
  refine ⟨?_, by simpa [hs] using h.spawns, by simpa [hc] using h.checks⟩
  intro s i
  simpa [he] using h.starts s i

/-- A call of the executor is one attempt more. -/
theorem Confined.cons_spawn {m n : Nat} {t : List Entry} (h : Confined m n t)
    (request : SpawnRequest) (outcome : Outcome SpawnResult) :
    Confined (m + 1) n (.spawn request outcome :: t) := by
  refine ⟨?_, ?_, by simpa [Entry.check?] using h.checks⟩
  · intro s i
    simpa [Entry.event?] using h.starts s i
  · have hlen := h.spawns
    have hone : (Entry.spawn? (.spawn request outcome)).toList.length = 1 := rfl
    rw [spawns_cons, List.length_append, hone]
    omega

/-- Nothing begins in an emission, unless it is the start of a stage. -/
theorem Emits.confined {sink : Option Handle} {e : Event} {t : List Entry} (h : Emits sink e t)
    (he : ∀ s i, e ≠ .stageStart s i) : Confined 0 0 t := by
  refine ⟨?_, by simp [h.spawns], by simp [h.checks]⟩
  intro s i
  rw [h.events]
  cases sink with
  | none => simp
  | some h => simpa using (he s i).symm

variable {σ : Type} {c : Collaborators σ} {stage : Stage} {config : Config}
  {check : CompletionCheck σ} {limits : Constraints} {t u : List Entry}

/-- An attempt is one attempt. -/
theorem Spawns.confined {o : Except Abort (Except Fault SpawnResult)}
    (h : Spawns stage config t o) : Confined 1 0 t := by
  cases h with
  | raised | aborted => exact Quiet.nil.confined.cons_spawn _ _
  | failed hr hq => exact hq.confined.cons_spawn _ _
  | succeeded hr ht hu | completedCut e hr ht hu =>
    exact ((ht.confined (by simp)).append (hu.confined (by simp))).cons_spawn _ _
  | spawnedCut e hr ht => exact (ht.confined (by simp)).cons_spawn _ _

theorem Asks.confined {root : Path} {o : Except Abort (Except Fault Bool)}
    (h : Asks check root t o) : Confined 0 1 t :=
  ⟨by simp [h.events], by simp [h.spawns], by simp [h.checks]⟩

/-- After an attempt comes one completion check at most. -/
theorem Follows.confined {root : Path} {o : Except Abort (Except Fault SpawnResult)}
    {p : Except Abort (Option (Except Fault Ending))} (h : Follows check root o t p) :
    Confined 0 1 t := by
  cases h with
  | cut | raised | failed => exact Quiet.nil.confined.mono (Nat.le_refl 0) (Nat.zero_le 1)
  | checkCut _ ha | checkRaised _ ha | met _ ha | unmet _ ha => exact ha.confined

/-- A round is at most one attempt and one completion check. -/
theorem Round.confined {n : Nat} {p : Except Abort (Option (Except Fault Ending))}
    (h : Round stage config check n t p) : Confined 1 1 t := by
  cases h with
  | cut e he => exact (he.confined (by simp)).mono (Nat.zero_le 1) (Nat.zero_le 1)
  | made he hs hf => exact (he.confined (by simp)).append (hs.confined.append hf.confined)

/-- So much happens at most if the run has to halt at every poll. -/
def Bounded (deadline : Float) (m n : Nat) (t : List Entry) : Prop :=
  Halts deadline t → Confined m n t

theorem Confined.bounded {deadline : Float} {m n : Nat} (h : Confined m n t) :
    Bounded deadline m n t :=
  fun _ => h

theorem Bounded.mono {deadline : Float} {m n m' n' : Nat} (h : Bounded deadline m n t) (hm : m ≤ m')
    (hn : n ≤ n') : Bounded deadline m' n' t :=
  fun ht => (h ht).mono hm hn

/-- Bounds under which the run has to halt add up too. -/
theorem Bounded.append {deadline : Float} {m n m' n' : Nat} (ht : Bounded deadline m n t)
    (hu : Bounded deadline m' n' u) : Bounded deadline (m + m') (n + n') (t ++ u) :=
  fun h => (ht h.left).append (hu h.right)

/-- What begins with a poll that lets the run go on is no run that has to halt at every poll. -/
theorem bounded_of_poll {deadline now : Float} {b : Bool} {m n : Nat}
    (hp : haltReason b deadline now = none) :
    Bounded deadline m n (.poll b deadline now :: t) :=
  fun h => absurd h (not_halts_poll hp)

/-- A loop stage begins nothing if its first poll halts it. -/
theorem Attempts.bounded {deadline : Float} {done left : Nat} {o : Except Abort Work}
    (h : Attempts stage config check deadline done left t o) : Bounded deadline 0 0 t := by
  cases h with
  | spent => exact Quiet.nil.confined.bounded
  | halted => exact (Quiet.nil.confined.cons rfl rfl rfl).bounded
  | cut hp | ended hp | again hp => exact bounded_of_poll hp

/-- The work on a stage that does not loop is one attempt, since it does not poll. -/
theorem Works.bounded {o : Except Abort Work} (h : Works c stage config limits t o) :
    Bounded limits.deadline 1 0 t := by
  cases h with
  | once hl hs | onceRaised hl hs | onceCut hl hs => exact hs.confined.bounded
  | unchecked => exact (Quiet.nil.confined.mono (Nat.zero_le 1) (Nat.le_refl 0)).bounded
  | repeated hl hc ha hq =>
    -- the first poll of a loop stage halts it
    have hb := ha.bounded.append hq.confined.bounded
    exact hb.mono (Nat.zero_le 1) (Nat.le_refl 0)

/-- A stage that starts when the run has to halt for good makes at most one attempt. -/
theorem Performs.bounded {o : Except Abort StageResult} (h : Performs c stage config limits t o) :
    Bounded limits.deadline 1 0 t := by
  cases h with
  | ended _ hw | cut hw => exact hw.bounded
  | contained _ hw hq he | containCut _ hw hq he =>
    exact hw.bounded.append (hq.confined.append (he.confined (by simp))).bounded

/-- No stage is run when the run has to halt for good. -/
theorem Passes.bounded {index : Nat} {list : List Stage} {legs : List Leg}
    {o : Except Abort (Option StopReason)} (h : Passes c config index limits list legs t o) :
    Bounded limits.deadline 0 0 t := by
  cases h with
  | through => exact Quiet.nil.confined.bounded
  | halted => exact ((quiet_log _).confined.cons rfl rfl rfl).bounded
  | startCut _ _ hp | stageCut _ hp | endCut _ _ hp | failed _ hp | passed hp =>
    exact bounded_of_poll hp

/-! ## After any call -/

/-- Whatever call is the last before the run has to halt for good, at most one attempt and one
completion check begin after it, and no stage is started. -/
def Prompt (deadline : Float) : List Entry → Prop
  | [] => True
  | x :: t => (x.isCall = true → Bounded deadline 1 1 t) ∧ Prompt deadline t

/-- At any call in a prompt part, little begins after it. -/
theorem Prompt.at {deadline : Float} {pre post : List Entry} {x : Entry}
    (h : Prompt deadline (pre ++ x :: post)) (hx : x.isCall = true) :
    Bounded deadline 1 1 post := by
  induction pre with
  | nil => exact h.1 hx
  | cons y pre ih => exact ih h.2

variable {deadline : Float}

/-- Where little happens at all, little happens after any call. -/
theorem Confined.prompt (h : Confined 1 1 t) : Prompt deadline t := by
  induction t with
  | nil => trivial
  | cons x t ih => exact ⟨fun _ => h.tail.bounded, ih h.tail⟩

/-- A part in which nothing begins once the run has to halt may come after. -/
theorem Prompt.append (ht : Prompt deadline t) (hu : Prompt deadline u)
    (hb : Bounded deadline 0 0 u) : Prompt deadline (t ++ u) := by
  -- what is counted after a call in the first part runs on into the second
  induction t with
  | nil => exact hu
  | cons x t ih => exact ⟨fun hx => (ht.1 hx).append hb, ih ht.2⟩

/-- Records of the log may come before. -/
theorem Prompt.append_of_quiet (hq : Quiet t) (hu : Prompt deadline u) :
    Prompt deadline (t ++ u) := by
  induction t with
  | nil => exact hu
  | cons x t ih =>
    rcases List.forall_mem_cons.1 hq with ⟨hx, ht⟩
    refine ⟨?_, ih ht⟩
    -- what is written to the log is no call
    intro hcall
    cases x <;> simp [Entry.record?, Entry.isCall] at hx hcall

/-- An emission is a single call, and nothing happens in it after that. -/
theorem Prompt.append_of_emits {sink : Option Handle} {e : Event} (he : Emits sink e t)
    (hu : Prompt deadline u) (hb : Bounded deadline 1 1 u) : Prompt deadline (t ++ u) := by
  rcases he with ⟨logs, hq, rfl⟩
  have hlogs := Prompt.append_of_quiet hq hu
  cases sink with
  | none => exact hlogs
  | some h =>
    refine ⟨fun _ => ?_, hlogs⟩
    have := hq.confined.bounded.append hb
    rwa [Nat.zero_add] at this

theorem Prompt.poll {b : Bool} {d now : Float} (h : Prompt deadline t) :
    Prompt deadline (.poll b d now :: t) :=
  ⟨by simp [Entry.isCall], h⟩

theorem Quiet.prompt (h : Quiet t) : Prompt deadline t :=
  (h.confined.mono (Nat.zero_le 1) (Nat.zero_le 1)).prompt

/-- An emission is prompt. -/
theorem Emits.prompt {sink : Option Handle} {e : Event} (he : Emits sink e t) :
    Prompt deadline t := by
  have hnil : Prompt deadline [] := trivial
  have := Prompt.append_of_emits he hnil
    (Quiet.nil.confined.bounded.mono (Nat.zero_le 1) (Nat.zero_le 1))
  rwa [List.append_nil] at this

/-- After any call in a loop stage, at most what is left of its round begins before the next
poll. -/
theorem Attempts.prompt {done left : Nat} {o : Except Abort Work}
    (h : Attempts stage config check deadline done left t o) : Prompt deadline t := by
  -- a round is at most an attempt and a check, and the poll after it halts the stage
  induction h with
  | spent => trivial
  | halted => exact Quiet.nil.prompt.poll
  | cut _ hr | ended _ hr => exact hr.confined.prompt.poll
  | again _ hr hrest ih => exact (hr.confined.prompt.append ih hrest.bounded).poll

/-- After any call in the work on a stage, at most one attempt and one completion check begin. -/
theorem Works.prompt {o : Except Abort Work} (h : Works c stage config limits t o) :
    Prompt limits.deadline t := by
  cases h with
  | once hl hs | onceRaised hl hs | onceCut hl hs =>
    exact (hs.confined.mono (Nat.le_refl 1) (Nat.zero_le 1)).prompt
  | unchecked => trivial
  | repeated hl hc ha hq => exact ha.prompt.append hq.prompt hq.confined.bounded

/-- After any call in a stage, at most one attempt and one completion check begin in it. -/
theorem Performs.prompt {o : Except Abort StageResult} (h : Performs c stage config limits t o) :
    Prompt limits.deadline t := by
  cases h with
  | ended _ hw | cut hw => exact hw.prompt
  | contained _ hw hq he | containCut _ hw hq he =>
    have hb : Bounded limits.deadline 0 0 _ := (he.confined (by simp)).bounded
    exact hw.prompt.append (hq.prompt.append he.prompt hb) (hq.confined.bounded.append hb)

/-- A stage that is started makes at most one attempt if the run then has to halt for good, and
nothing after it adds to that. -/
theorem prompt_leg {s : Stage} {index : Int} {r : StageResult} {v x : List Entry}
    {o : Except Abort StageResult} (hs : Emits config.sink (.stageStart s index) t)
    (hr : Performs c s config limits u o) (he : Emits config.sink (.stageEnd s r) v)
    (hx : Prompt limits.deadline x) (hb : Bounded limits.deadline 0 0 x) :
    Prompt limits.deadline (t ++ (u ++ (v ++ x))) := by
  -- from right to left: a part is prompt if it is and what comes after it adds nothing
  have hend := (he.confined (by simp)).bounded.append hb
  have hrest := hr.prompt.append (he.prompt.append hx hb) hend
  have hall := hr.bounded.append hend
  exact Prompt.append_of_emits hs hrest (hall.mono (Nat.le_refl 1) (Nat.zero_le 1))

/-- After any call in the stages of a chain, at most one attempt and one completion check begin, and
no stage is started. -/
theorem Passes.prompt {index : Nat} {list : List Stage} {legs : List Leg}
    {o : Except Abort (Option StopReason)} (h : Passes c config index limits list legs t o) :
    Prompt limits.deadline t := by
  induction h with
  | through => trivial
  | halted => exact (quiet_log _).prompt.poll
  | startCut rest e hp hs => exact hs.prompt.poll
  -- the stage start is a call too: what may follow it is what the stage does when it has to halt
  | stageCut rest hp hs hr =>
    have hp := hr.performs
    have hb := hp.bounded.mono (Nat.le_refl 1) (Nat.zero_le 1)
    exact (Prompt.append_of_emits hs hp.prompt hb).poll
  | endCut rest e hp hs hr he | failed rest hp hs hr he =>
    have := prompt_leg hs hr.performs he Quiet.nil.prompt Quiet.nil.confined.bounded
    rw [List.append_nil] at this
    exact this.poll
  | passed hp hs hr he hf hrest ih =>
    -- the deadline stays the same from stage to stage
    have hb := hrest.bounded
    rw [Constraints.after_deadline] at ih hb
    exact (prompt_leg hs hr.performs he ih hb).poll

/-- In front of the stages is a single event, and nothing after them begins anything. -/
theorem Passes.prompt_between {index : Nat} {list : List Stage} {legs : List Leg}
    {o : Except Abort (Option StopReason)} {logs v : List Entry} {e : Event}
    (hp : Passes c config index limits list legs u o) (hq : Quiet logs)
    (hs : Emits config.sink e t) (hv : Confined 0 0 v) :
    Prompt limits.deadline (logs ++ (t ++ (u ++ v))) := by
  have hb := hp.bounded.append hv.bounded
  have hend : Prompt limits.deadline v := (hv.mono (Nat.zero_le 1) (Nat.zero_le 1)).prompt
  have hu := hp.prompt.append hend hv.bounded
  exact Prompt.append_of_quiet hq (Prompt.append_of_emits hs hu
    (hb.mono (Nat.zero_le 1) (Nat.zero_le 1)))

/-- After any call in a run, at most one attempt and one completion check begin, and no stage is
started. -/
theorem Runs.prompt {start : Float} {legs : List Leg} {o : Except Abort ChainResult}
    (h : Runs c config start legs t o) : Prompt (fullConstraints config start).deadline t := by
  -- besides its stages a run begins nothing, whichever way it was cut
  cases h with
  | startCut e hq hs => exact Prompt.append_of_quiet hq hs.prompt
  | stagesCut e hq hs hp hd => exact hp.prompt_between hq hs (hd.confined.cons rfl rfl rfl)
  | endCut e hq hs hp hd hx he | returned hq hs hp hd hx he =>
    have hend := hx.confined.append (he.confined (by simp))
    exact hp.prompt_between hq hs ((hd.confined.append (hend.cons rfl rfl rfl)).cons rfl rfl rfl)

/-! ## Why the run stopped -/

/-- At a poll between two stages the deadline had passed, while the signal was not set. -/
def TimedOut (deadline : Float) (t : List Entry) : Prop :=
  ∃ before s now after, t = before ++ .poll false deadline now :: stopEntry s .timeout :: after ∧
    deadline ≤ now

/-- An end of a list without `y` in it lies behind every `y` of the list. -/
theorem suffix_of_append_eq {α : Type} {pre post front rest : List α} {x y : α}
    (h : pre ++ x :: post = front ++ y :: rest) (hy : y ∉ x :: post) : x :: post <:+ rest := by
  rcases List.suffix_or_suffix_of_suffix ⟨pre, h⟩ ⟨front, rfl⟩ with hx | hx
  · rcases List.suffix_cons_iff.1 hx with heq | hrest
    · rw [heq] at hy
      exact absurd List.mem_cons_self hy
    · exact hrest
  · exact absurd (hx.subset List.mem_cons_self) hy

/-- A disposal is not quiet. -/
theorem Quiet.dispose_notMem (h : Quiet t) : Entry.dispose ∉ t := by
  intro hmem
  have hrecord := h _ hmem
  cases hrecord

/-- In an emission the executor is not disposed of. -/
theorem Emits.dispose_notMem {sink : Option Handle} {e : Event} (h : Emits sink e t) :
    Entry.dispose ∉ t := by
  rcases h with ⟨logs, hq, rfl⟩
  cases sink <;> simp [heard, hq.dispose_notMem]

section

variable {pre post front rest : List Entry} {x : Entry}

/-- The last poll comes after the disposal. -/
theorem lastPoll_mem_of_dispose_mem {b : Bool}
    (h : pre ++ x :: post = front ++ .lastPoll b :: rest) (hx : x.isCall = true)
    (hd : .dispose ∈ x :: post) (hr : .dispose ∉ rest) : .lastPoll b ∈ post := by
  by_cases hmem : Entry.lastPoll b ∈ x :: post
  · rcases List.mem_cons.1 hmem with rfl | hpost
    · simp [Entry.isCall] at hx
    · exact hpost
  · have hsuf := suffix_of_append_eq h hmem
    exact absurd (hsuf.subset hd) hr

/-- A poll that does not find the signal set comes before the call after which all of them do. -/
theorem timedOut_of_append_eq {now : Float} {s : Stage}
    (h : pre ++ x :: post = front ++ .poll false deadline now :: stopEntry s .timeout :: rest)
    (hx : x.isCall = true) (hc : ∀ y ∈ post, y.cancels = true) (hle : deadline ≤ now) :
    TimedOut deadline pre := by
  have hmem : Entry.poll false deadline now ∉ x :: post := by
    intro hmem
    rcases List.mem_cons.1 hmem with rfl | hpost
    · simp [Entry.isCall] at hx
    · simpa [Entry.cancels] using hc _ hpost
  rcases List.suffix_cons_iff.1 (suffix_of_append_eq h hmem) with heq | ⟨after, rfl⟩
  · cases heq
    simp [stopEntry, Entry.isCall] at hx
  · refine ⟨front, s, now, after, ?_, hle⟩
    have hpre : pre ++ x :: post =
        (front ++ .poll false deadline now :: stopEntry s .timeout :: after) ++ x :: post := by
      simpa using h
    exact List.append_cancel_right hpre

end

/-- A chain whose signal is set from a call on to its end does not succeed, and stops for that
reason unless it had another by then. -/
theorem Runs.cancelled {start : Float} {legs : List Leg} {R : ChainResult} {pre post : List Entry}
    {x : Entry} (h : Runs c config start legs (pre ++ x :: post) (.ok R)) (hx : x.isCall = true)
    (hd : .dispose ∈ x :: post) (hc : ∀ y ∈ post, y.cancels = true) :
    R.success = false ∧
      (R.stopReason = some .cancelled ∨ R.stopReason = some .stageFailed ∨
        (R.stopReason = some .timeout ∧ TimedOut (fullConstraints config start).deadline pre)) := by
  generalize ht : pre ++ x :: post = t at h
  cases h with
  | @returned logs t u v z y duration _ early cancelled hq hs hp hdq hz he =>
    -- the last poll comes after the disposal, and so after the call
    have hlast : Entry.lastPoll cancelled ∈ post := by
      have hend : pre ++ x :: post =
          (logs ++ (t ++ (u ++ .dispose :: v))) ++ .lastPoll cancelled :: (z ++ y) := by
        simpa using ht
      apply lastPoll_mem_of_dispose_mem hend hx hd
      simp [hz.dispose_notMem, he.dispose_notMem]
    -- the last poll found the signal set, which decides the verdict
    have hset : cancelled = true := hc _ hlast
    subst hset
    refine ⟨by simp [summary], ?_⟩
    cases early with
    | none => exact Or.inl (by simp [summary, finalReason])
    | some reason =>
      rcases hp.early with rfl | ⟨before, b, now, s, hhalt, rfl⟩
      · exact Or.inr (Or.inl rfl)
      rcases haltReason_eq_some_iff.1 hhalt with ⟨-, rfl⟩ | ⟨rfl, hle, rfl⟩
      · exact Or.inl rfl
      · have hpoll : pre ++ x :: post = (logs ++ (t ++ before)) ++
            .poll false (fullConstraints config start).deadline now :: stopEntry s .timeout ::
              (.dispose :: (v ++ .lastPoll true :: (z ++ y))) := by
          simpa using ht
        exact Or.inr (Or.inr ⟨rfl, timedOut_of_append_eq hpoll hx hc hle⟩)

/-- Whatever call is the last before the run has to halt for good, no stage is started after it, and
at most one attempt and one completion check still begin. If it has to halt by its signal, it does
not succeed, and it stops as cancelled, at a failed stage, or out of time at an earlier poll. -/
theorem halting_is_prompt {w : σ} {pre post : List Entry} {x : Entry}
    (hj : journalFrom (chain c config) w = pre ++ x :: post) (hx : x.isCall = true) :
    (Halts (fullConstraints config (startTime c w)).deadline post → Confined 1 1 post) ∧
      ∀ R, outcomeFrom (chain c config) w = .ok R → .dispose ∈ x :: post →
        (∀ y ∈ post, y.cancels = true) →
          R.success = false ∧
            (R.stopReason = some .cancelled ∨ R.stopReason = some .stageFailed ∨
              (R.stopReason = some .timeout ∧
                TimedOut (fullConstraints config (startTime c w)).deadline pre)) := by
  rcases chain_runs c config w with ⟨legs, hr⟩
  rw [hj] at hr
  -- the bound holds however the run ends, and the verdict is known if it returns
  constructor
  · exact hr.prompt.at hx
  · intro R hR hd hc
    rw [hR] at hr
    exact hr.cancelled hx hd hc

/-- A sink that sets the signal when an iteration starts. -/
def interrupting : Collaborators Bool where
  clock w := (0, w)
  isSet _ w := (w, w)
  sink _ e w := { outcome := .answered (), state := w || e.kind == .stageIteration }
  check _ _ w := (.answered false, w)
  executor := {
    name := "agents"
    spawn := fun _ w => (.answered { success := true, sessionId := "s" }, w)
    dispose := fun w => (.answered (), w) }

/-- A loop stage and one after it, with a signal and a sink. -/
def interruptedConfig : Config where
  stages := [{ name := sampleName, loop := true, check := some ⟨0⟩ }, { name := sampleName }]
  root := ⟨.root, ["p"]⟩
  signal := some ⟨.thread, 0⟩
  sink := some ⟨1⟩

/-- The iteration that has started goes on to its completion check, and nothing comes after it. -/
theorem interrupted_iteration_is_last :
    ∃ pre x post R, journalFrom (chain interrupting interruptedConfig) false = pre ++ x :: post ∧
      outcomeFrom (chain interrupting interruptedConfig) false = .ok R ∧
      x.isCall = true ∧ .dispose ∈ x :: post ∧ (∀ y ∈ post, y.cancels = true) ∧
      (spawns post).length = 1 ∧ Confined 1 1 post ∧ R.success = false := by
  have hrun : (outcomeFrom (chain interrupting interruptedConfig) false).toOption.isSome := by
    decide +kernel
  have hcall : ((journalFrom (chain interrupting interruptedConfig) false)[5]?).map
      Entry.isCall = some true := by
    decide +kernel
  have hrest : ∃ post, post = (journalFrom (chain interrupting interruptedConfig) false).drop 6 ∧
      post.all (fun y => y.cancels &&
        y.halts (fullConstraints interruptedConfig (startTime interrupting false)).deadline) ∧
      (spawns post).length = 1 ∧ post.any (· matches .dispose) :=
    ⟨_, rfl, by decide +kernel⟩
  rcases Option.map_eq_some_iff.1 hcall with ⟨x, hget, hx⟩
  rcases hrest with ⟨post, hpost, hall, hlen, hany⟩
  have hj : journalFrom (chain interrupting interruptedConfig) false =
      (journalFrom (chain interrupting interruptedConfig) false).take 5 ++ x :: post := by
    rcases List.getElem?_eq_some_iff.1 hget with ⟨hlt, rfl⟩
    rw [hpost, List.getElem_cons_drop, List.take_append_drop]
  have hd : Entry.dispose ∈ x :: post := by
    rcases List.any_eq_true.1 hany with ⟨y, hy, hdis⟩
    cases y <;> simp at hdis
    exact List.mem_cons_of_mem x hy
  have hc : ∀ y ∈ post, y.cancels = true ∧ y.halts
      (fullConstraints interruptedConfig (startTime interrupting false)).deadline = true := by
    simpa using hall
  cases hR : outcomeFrom (chain interrupting interruptedConfig) false with
  | error e => simp [hR, Except.toOption] at hrun
  | ok R =>
    rcases halting_is_prompt hj hx with ⟨hprompt, hcancel⟩
    rcases hcancel R hR hd fun y hy => (hc y hy).1 with ⟨hfail, -⟩
    exact ⟨_, x, post, R, hj, rfl, hx, hd, fun y hy => (hc y hy).1, hlen,
      hprompt fun y hy => (hc y hy).2, hfail⟩

end Run

end AgentChain
