import AgentChain.Proofs.Coupling

/-!
# Runs that their sink lets return

A sink may abort a run. A run that returns has not been aborted at any of its events, so it goes the
same way if the sink answers wherever it would abort. `Persists` says of two runs that the second
does what the first does whenever the first returns. It follows the way in which runs are put
together, and has one lemma for each part.

Main statements: `persists_stage` and `persists_chain`.
-/

namespace AgentChain

/-- The outcome with an answer in place of an abort. -/
def Outcome.spared : Outcome Unit → Outcome Unit
  | .aborted _ => .answered ()
  | outcome => outcome

/-- The same collaborators, except that the sink answers where it would abort. -/
def Collaborators.sparing {σ : Type} (c : Collaborators σ) : Collaborators σ :=
  { c with sink := fun h e w => { c.sink h e w with outcome := (c.sink h e w).outcome.spared } }

namespace Run

variable {σ α β : Type}

/-- Whenever the first run returns, so does the second: with the same result, in the same world, and
with the same journal. -/
def Persists (m m' : Run σ α) : Prop := ∀ s a s', m s = .ok a s' → m' s = .ok a s'

namespace Persists

variable {m m' : Run σ α}

theorem refl (m : Run σ α) : Persists m m := fun _ _ _ h => h

/-- If both parts persist, so does one after the other. -/
theorem bind {f f' : α → Run σ β} (hm : Persists m m') (hf : ∀ a, Persists (f a) (f' a)) :
    Persists (m >>= f) (m' >>= f') := by
  intro s b s' h
  change EStateM.bind m f s = .ok b s' at h
  show EStateM.bind m' f' s = .ok b s'
  unfold EStateM.bind at h ⊢
  cases hs : m s with
  | error e v => simp [hs] at h
  | ok a v =>
    rw [hs] at h
    rw [hm s a v hs]
    exact hf a v b s' h

/-- A cleanup that is the same in both runs does not change that. -/
theorem finallyDo (hm : Persists m m') (cleanup : Run σ Unit) :
    Persists (Run.finallyDo m cleanup) (Run.finallyDo m' cleanup) := by
  intro s a s' h
  unfold Run.finallyDo at h ⊢
  cases hs : m s with
  | error e v =>
    -- a cleanup does not make up for an abort
    rw [hs] at h
    dsimp only at h
    cases hcleanup : cleanup v <;> simp [hcleanup] at h
  | ok b v =>
    rw [hs] at h
    rw [hm s b v hs]
    exact h

/-- Started in a world with an empty journal, the second run returns what the first one does. -/
theorem apply {w : σ} {a : α} (h : Persists m m') (hm : outcomeFrom m w = .ok a) :
    outcomeFrom m' w = .ok a ∧ journalFrom m' w = journalFrom m w := by
  unfold outcomeFrom journalFrom at *
  cases hs : m ⟨w, []⟩ with
  | error e v => simp [hs] at hm
  | ok b v =>
    rw [hs] at hm
    rw [h _ b v hs]
    exact ⟨hm, rfl⟩

end Persists

/-! ## The parts of a run -/

variable (c : Collaborators σ)

/-- A sink that answers or raises a fault is left as it is. -/
theorem persists_emit (sink : Option Handle) (e : Event) :
    Persists (emit c sink e) (emit c.sparing sink e) := by
  cases sink with
  | none => exact Persists.refl _
  | some h =>
    rintro ⟨w, j⟩ a s' hs
    have hemit := steps_emit c h e w j
    have hspared := steps_emit c.sparing h e w j
    have hstate : (c.sparing.sink h e w).state = (c.sink h e w).state := rfl
    have hlog : (c.sparing.sink h e w).log = (c.sink h e w).log := rfl
    have houtcome : (c.sparing.sink h e w).outcome = (c.sink h e w).outcome.spared := rfl
    rw [hstate, hlog, houtcome] at hspared
    rw [hs] at hemit
    -- an abort is not what the run did, as it returned
    cases hout : (c.sink h e w).outcome with
    | aborted x => simp [hout, carriedOn, ending] at hemit
    | answered | raised =>
      rw [hout] at hemit hspared
      rw [hspared]
      exact hemit.symm

/-- An attempt emits events on both sides of the call only if the call succeeds. -/
theorem persists_spawn (s : Stage) (config : Config) :
    Persists (spawn c s config) (spawn c.sparing s config) := by
  apply Persists.bind (Persists.refl _)
  rintro (fault | r)
  · exact Persists.refl _
  · dsimp only
    cases r.success with
    | true =>
      apply Persists.bind (persists_emit c _ _)
      intro _
      exact Persists.bind (persists_emit c _ _) fun _ => Persists.refl _
    | false => exact Persists.refl _

theorem persists_once (s : Stage) (config : Config) :
    Persists (once c s config) (once c.sparing s config) := by
  apply Persists.bind (persists_spawn c s config)
  rintro (fault | r) <;> exact Persists.refl _

theorem persists_round (s : Stage) (config : Config) (check : CompletionCheck σ)
    (deadline : Float) (done : Nat) :
    Persists (round c s config check deadline done)
      (round c.sparing s config check deadline done) := by
  apply Persists.bind (Persists.refl _)
  rintro (_ | reason)
  · apply Persists.bind (persists_emit c _ _)
    intro _
    apply Persists.bind (Persists.refl _)
    intro _
    apply Persists.bind (persists_spawn c s config)
    rintro (fault | r) <;> exact Persists.refl _
  · exact Persists.refl _

/-- Rounds persist one by one. -/
theorem persists_attempts (s : Stage) (config : Config) (check : CompletionCheck σ)
    (deadline : Float) (done left : Nat) :
    Persists (attempts c s config check deadline done left)
      (attempts c.sparing s config check deadline done left) := by
  -- each round takes one from the attempts that are left
  induction left generalizing done with
  | zero => exact Persists.refl _
  | succ left ih =>
    rw [attempts_succ, attempts_succ]
    apply Persists.bind (persists_round c s config check deadline done)
    rintro (_ | work)
    · exact ih (done + 1)
    · exact Persists.refl _

/-- Both runs find the same completion check, as the sink has no part in it. -/
theorem persists_repeatedly (s : Stage) (config : Config) (limits : Constraints) :
    Persists (repeatedly c s config limits) (repeatedly c.sparing s config limits) := by
  have hsame : CompletionCheck.of? c.sparing s = CompletionCheck.of? c s := rfl
  cases hcheck : CompletionCheck.of? c s with
  | none =>
    rw [repeatedly_unchecked hcheck, repeatedly_unchecked (hsame.trans hcheck)]
    exact Persists.refl _
  | some check =>
    rw [repeatedly_eq hcheck, repeatedly_eq (hsame.trans hcheck)]
    exact Persists.bind (persists_attempts c s config check _ _ _) fun _ => Persists.refl _

/-- Only a fault that is contained has an event. -/
theorem persists_record (s : Stage) (config : Config) (start : Float) (work : Work) :
    Persists (record c s config start work) (record c.sparing s config start work) := by
  unfold record
  cases work.ending with
  | ok ending => exact Persists.refl _
  | error f =>
    have hcontain : Persists (contain c s config f) (contain c.sparing s config f) := by
      apply Persists.bind (Persists.refl _)
      intro _
      exact Persists.bind (persists_emit c _ _) fun _ => Persists.refl _
    exact Persists.bind hcontain fun _ => Persists.refl _

/-- A stage without constraints of its own has those of a run that starts with it. -/
theorem stage_none_eq (s : Stage) (config : Config) :
    stage c s config none = now c >>= fun start =>
      (if s.loop then repeatedly c s config (fullConstraints config start) else once c s config) >>=
        record c s config start := by
  unfold stage
  cases s.loop <;> rfl

/-- The time that a stage reads first is the one that its constraints count from. -/
theorem stage_none_apply {c : Collaborators σ} (s : Stage) (config : Config) (scene : Scene σ) :
    stage c s config none scene =
      stage c s config (some (fullConstraints config (c.clock scene.world).1)) scene := by
  have hnow : ∀ f : Float → Run σ StageResult, (now c >>= f) scene =
      f (c.clock scene.world).1 { scene with world := (c.clock scene.world).2 } := fun _ => rfl
  rw [stage_none_eq, stage_eq, hnow, hnow]

/-- A stage goes within the constraints that it is given, or else within those of a run that starts
with it. -/
theorem stage_within {c : Collaborators σ} (s : Stage) (config : Config)
    (limits : Option Constraints) (scene : Scene σ) :
    stage c s config limits scene = stage c s config
      (some (limits.getD (fullConstraints config (c.clock scene.world).1))) scene := by
  cases limits with
  | none => exact stage_none_apply s config scene
  | some limits => rfl

/-- Within given constraints a stage persists. -/
theorem persists_stage_some (s : Stage) (config : Config) (limits : Constraints) :
    Persists (stage c s config (some limits)) (stage c.sparing s config (some limits)) := by
  have hwork : Persists (if s.loop then repeatedly c s config limits else once c s config)
      (if s.loop then repeatedly c.sparing s config limits else once c.sparing s config) := by
    split
    · exact persists_repeatedly c s config limits
    · exact persists_once c s config
  rw [stage_eq, stage_eq]
  apply Persists.bind (Persists.refl _)
  intro start
  exact Persists.bind hwork fun work => persists_record c s config start work

/-- A stage that returns does so too if the sink aborts nothing. -/
theorem persists_stage (s : Stage) (config : Config) (limits : Option Constraints) :
    Persists (stage c s config limits) (stage c.sparing s config limits) := by
  intro scene r scene' h
  rw [stage_within] at h ⊢
  exact persists_stage_some c s config _ scene r scene' h

/-- The stages of a chain persist one by one, with their events. -/
theorem persists_stages (config : Config) (index : Nat) (limits : Constraints)
    (list : List Stage) :
    Persists (stages c config index limits list) (stages c.sparing config index limits list) := by
  -- the constraints of the rest come from the result, which is the same in both runs
  induction list generalizing index limits with
  | nil => exact Persists.refl _
  | cons s rest ih =>
    unfold stages
    apply Persists.bind (Persists.refl _)
    rintro (_ | reason)
    · apply Persists.bind (persists_emit c _ _)
      intro _
      apply Persists.bind (persists_stage c s config _)
      intro r
      apply Persists.bind (persists_emit c _ _)
      intro _
      split
      · exact Persists.bind (ih _ _) fun _ => Persists.refl _
      · exact Persists.refl _
    · exact Persists.refl _

/-- A chain that returns does so too if the sink aborts nothing. -/
theorem persists_chain (config : Config) : Persists (chain c config) (chain c.sparing config) := by
  rw [chain_eq, chain_eq]
  apply Persists.bind (Persists.refl _)
  intro start
  apply Persists.bind (Persists.refl _)
  intro _
  apply Persists.bind (persists_emit c _ _)
  intro _
  -- the executor is disposed of in both runs, and its disposal knows no sink
  apply Persists.bind ((persists_stages c config 0 _ _).finallyDo (dispose c))
  intro left
  unfold conclude
  apply Persists.bind (Persists.refl _)
  intro cancelled
  apply Persists.bind (Persists.refl _)
  intro finish
  apply Persists.bind (Persists.refl _)
  intro _
  exact Persists.bind (persists_emit c _ _) fun _ => Persists.refl _

end Run

end AgentChain
