import AgentChain.Echo
import AgentChain.Proofs.Parting

/-!
# Chains with a larger budget

A chain with a larger budget does what the same chain does with the smaller one until that is used
up. If it never is, then the two runs have the same result and make the same calls. Otherwise they
part at the first stage that has no iterations left: the results before it are the same, and with
the larger budget the stage goes on from there, so that it reports at least as many iterations.

Main statement: `larger_budget`.
-/

namespace AgentChain

/-- A record of what the run itself has written to the log. -/
def Entry.isLog : Entry → Bool
  | .log _ => true
  | _ => false

/-- The same time to the end, and no more iterations. -/
structure Constraints.Within (limits limits' : Constraints) : Prop where
  deadline_eq : limits.deadline = limits'.deadline
  remaining_le : limits.remaining ≤ limits'.remaining

/-- After the same stage, constraints are still within the others. -/
theorem Constraints.Within.after {limits limits' : Constraints} (h : limits.Within limits')
    (r : StageResult) : (limits.after r).Within (limits'.after r) := by
  obtain ⟨hdeadline, hremaining⟩ := h
  refine ⟨by simpa using hdeadline, ?_⟩
  unfold Constraints.after
  split
  · dsimp only
    omega
  · exact hremaining

namespace Run

/-- What the journal says apart from what the run itself has written to the log. -/
def apartFromLog (t : List Entry) : List Entry := t.filter (!·.isLog)

/-! ## Running out of iterations -/

/-- The work has come to an end because there were no iterations left. -/
def Work.Spent (work : Work) : Prop := ∃ e, work.ending = .ok e ∧ e.reason = .budgetExhausted

@[simp] theorem Work.spent_ok (n : Nat) (e : Ending) :
    Work.Spent ⟨n, .ok e⟩ ↔ e.reason = .budgetExhausted := by
  simp [Work.Spent]

@[simp] theorem Work.not_spent_error (n : Nat) (f : Fault) : ¬ Work.Spent ⟨n, .error f⟩ := by
  simp [Work.Spent]

/-- The stage has come to an end because there were no iterations left. -/
def Spent (r : StageResult) : Prop := r.stopReason = some .budgetExhausted

/-- What is written to the log when a stage has no iterations left. -/
def spentEntry (stage : Stage) (iterations : Int) : Entry :=
  .log ⟨.info, .runner, "[" ++ stage.name.text ++ "] loop ended after " ++ toString iterations ++
    " iteration(s): " ++ StopReason.budgetExhausted.text⟩

variable {σ σ' : Type} {p : Entry → Bool} {S : σ → σ' → Prop} {c : Collaborators σ}
  {c' : Collaborators σ'} {config config' : Config} {stage : Stage}

/-- A poll does not say that there are no iterations left. -/
theorem haltReason_ne_budgetExhausted {cancelled : Bool} {deadline now : Float} :
    haltReason cancelled deadline now ≠ some .budgetExhausted := by
  intro h
  rcases haltReason_eq_some_iff.1 h with ⟨-, hr⟩ | ⟨-, -, hr⟩ <;> cases hr

/-- A single round does not use up the iterations that are left. -/
theorem traced_round_not_spent (c : Collaborators σ) (stage : Stage) (config : Config)
    (check : CompletionCheck σ) (deadline : Float) (done : Nat) :
    Traced (round c stage config check deadline done) fun _ o =>
      ∀ answer, o = .ok answer → ∀ work, answer = some work → ¬ work.Spent := by
  unfold round
  apply Traced.poll_bind
  intro b now
  -- a poll that halts the stage gives another reason
  cases hp : haltReason b deadline now with
  | some reason =>
    apply Traced.pure
    rintro _ ⟨⟩ _ ⟨⟩
    rw [Work.spent_ok]
    rintro rfl
    exact haltReason_ne_budgetExhausted hp
  | none =>
    apply Traced.emit_log_bind
    · intro _ _
      apply Traced.bind (traced_spawn c stage config)
      · rintro (f | r) _ _
        · exact Traced.pure (by simp)
        · dsimp only
          split
          · exact Traced.pure (by simp)
          · apply Traced.bind (traced_ask c check config.root)
            · rintro (f | _ | _) _ _ <;> exact Traced.pure (by simp)
            · simp
      · simp
    · simp

/-- A stage that does not loop does not run out of iterations. -/
theorem traced_once_not_spent (c : Collaborators σ) (stage : Stage) (config : Config) :
    Traced (once c stage config) fun _ o => ∀ work, o = .ok work → ¬ work.Spent := by
  unfold once
  apply Traced.bind (traced_spawn c stage config)
  · rintro (f | r) _ _
    · exact Traced.pure (by simp)
    · apply Traced.pure
      cases r.success <;> simp
  · simp

/-! ## A loop stage with more iterations left -/

/-- The first run has no attempts left, and the second makes at least as many. `logs` is what the
first run still writes to the log. -/
structure OutlastsWork (logs : Work → List Entry) (u : List Entry) (work work' : Work) : Prop where
  trace_eq : u = logs work
  ending_eq : work.ending = .ok ⟨true, none, .budgetExhausted⟩
  iterations_le : work.iterations ≤ work'.iterations

/-- All attempts that were made before are counted. -/
theorem traced_attempts_iterations (c : Collaborators σ) (stage : Stage) (config : Config)
    (check : CompletionCheck σ) (deadline : Float) (done left : Nat) :
    Traced (attempts c stage config check deadline done left) fun _ o =>
      ∀ work, o = .ok work → done ≤ work.iterations := by
  apply (traced_attempts c stage config check deadline done left).mono
  rintro t o h work rfl
  have := h.length_spawns
  omega

/-- Two runs of a loop stage go in step until the one with fewer attempts has none left. -/
theorem parting_attempts (h : InStep p S c c' config config') (stage : Stage)
    {check : CompletionCheck σ} {check' : CompletionCheck σ'} (hc : ChecksMatch S check check')
    (deadline : Float) (done : Nat) {left left' : Nat} (hle : left ≤ left') :
    Parting p S (fun work work' => work = work' ∧ ¬ work.Spent) (OutlastsWork fun _ => [])
      (attempts c stage config check deadline done left)
      (attempts c' stage config' check' deadline done left') := by
  -- the smaller number of attempts decides how long the runs stay together
  induction left generalizing done left' with
  | zero =>
    have hspent : Traced (attempts c stage config check deadline done 0) fun u o =>
        u = [] ∧ ∀ work, o = .ok work → work = ⟨done, .ok ⟨true, none, .budgetExhausted⟩⟩ :=
      Traced.pure ⟨rfl, by rintro _ ⟨⟩; rfl⟩
    have hmore := traced_attempts_iterations c' stage config' check' deadline done left'
    apply Parting.at_once hspent hmore
    rintro u u' work work' ⟨rfl, hw⟩ hw'
    rcases hw work rfl with rfl
    exact ⟨rfl, rfl, hw' work' rfl⟩
  | succ left ih =>
    obtain ⟨left', rfl⟩ : ∃ k, left' = k + 1 := ⟨left' - 1, by omega⟩
    rw [attempts_succ, attempts_succ]
    -- as long as both have attempts left, neither is spent in its round
    have hround := (h.round stage hc deadline done).knowing
      (traced_round_not_spent c stage config check deadline done)
    apply Parting.after hround
    rintro (_ | work) _ ⟨rfl, hunspent⟩
    · exact ih (done + 1) (by omega)
    · exact Parting.of_coupled (Coupled.pure ⟨rfl, hunspent work rfl⟩)

/-- Two runs of a loop stage go in step, or part when one has no iterations left, which it writes to
the log. -/
theorem parting_repeatedly (h : InStep p S c c' config config') (stage : Stage)
    {limits limits' : Constraints} (hl : limits.Within limits') :
    Parting p S (fun work work' => work = work' ∧ ¬ work.Spent)
      (OutlastsWork fun work => [spentEntry stage work.iterations])
      (repeatedly c stage config limits) (repeatedly c' stage config' limits') := by
  rcases h.akin.of? stage with ⟨hcheck, hcheck'⟩ | ⟨check, check', hcheck, hcheck', hmatch⟩
  · rw [repeatedly_unchecked hcheck, repeatedly_unchecked hcheck']
    exact Parting.of_coupled (Coupled.pure ⟨rfl, by simp⟩)
  · have hle : limits.remaining.toNat ≤ limits'.remaining.toNat :=
      Int.toNat_le_toNat hl.remaining_le
    rw [repeatedly_eq hcheck, repeatedly_eq hcheck', hl.deadline_eq]
    apply Parting.bind (parting_attempts h stage hmatch limits'.deadline 0 hle) _
      (traced_report stage) (traced_report stage)
    · rintro u work work' ⟨rfl, hending, hiter⟩ x x' _ _ ⟨⟨⟩, hx⟩ ⟨⟨⟩, -⟩
      exact ⟨hx _ hending rfl, hending, hiter⟩
    · rintro work _ ⟨rfl, hunspent⟩
      exact Parting.of_coupled (coupled_report stage ⟨rfl, hunspent⟩)

/-! ## A stage with more iterations left -/

/-- What is recorded of a stage that has no iterations left, and of the same stage in a run with
more of them. -/
structure OutlastsStage (stage : Stage) (u : List Entry) (r r' : StageResult) : Prop where
  trace_eq : u = [spentEntry stage r.iterations]
  stage_eq : r.stage = stage
  stage_eq' : r'.stage = stage
  spent : Spent r
  iterations_le : r.iterations ≤ r'.iterations

/-- Two runs of a stage go in step, or part when one has no iterations left, which its result
says. -/
theorem parting_stage (h : InStep p S c c' config config') (stage : Stage)
    {limits limits' : Constraints} (hl : limits.Within limits') :
    Parting p S (fun r r' => r = r' ∧ ¬ Spent r) (OutlastsStage stage)
      (Run.stage c stage config (some limits)) (Run.stage c' stage config' (some limits')) := by
  -- only loop stages can part, since the others do not look at what is left
  have hwork : Parting p S (fun work work' => work = work' ∧ ¬ work.Spent)
      (OutlastsWork fun work => [spentEntry stage work.iterations])
      (if stage.loop then repeatedly c stage config limits else once c stage config)
      (if stage.loop then repeatedly c' stage config' limits' else once c' stage config') := by
    split
    · exact parting_repeatedly h stage hl
    · exact Parting.of_coupled ((h.once stage).knowing (traced_once_not_spent c stage config))
  rw [stage_eq, stage_eq]
  apply Parting.after_eq h.akin.now
  intro start
  apply Parting.bind hwork _ (traced_record c stage config start)
    (traced_record c' stage config' start)
  · rintro u work work' ⟨rfl, hending, hiter⟩ x x' r r' hr hr'
    obtain ⟨hstage, hn, hreported⟩ := hr r rfl
    obtain ⟨hstage', hn', -⟩ := hr' r' rfl
    rw [hending] at hreported
    obtain ⟨_, ⟨⟩, rfl, hreason⟩ | ⟨_, ⟨⟩, -⟩ := hreported
    rw [← hn]
    exact ⟨rfl, hstage, hstage', hreason, by omega⟩
  · rintro work _ ⟨rfl, hunspent⟩
    -- a record of work that was not spent does not say so
    have hrecord : Traced (record c stage config start work) fun _ o =>
        ∀ r, o = .ok r → ¬ Spent r := by
      apply (traced_record c stage config start work).mono
      intro t o hr r ho hspent
      obtain ⟨-, -, ⟨e, he, -, hreason⟩ | ⟨f, -, hreason⟩⟩ := hr r ho
      · exact hunspent ⟨e, he, Option.some.inj (hreason.symm.trans hspent)⟩
      · cases hreason.symm.trans hspent
    exact Parting.of_coupled ((h.record stage start work).knowing hrecord)

/-! ## The stages of a chain with more iterations left -/

/-- Two runs have the same results up to a stage that has no iterations left in the first run; there
the second reports at least as many. `u` is what the first run leaves from the end of the work on
that stage on: that it has no iterations left, the end of the stage, and all that comes after it. -/
def Outlasts (sink : Option Handle) (u : List Entry) (results results' : List StageResult) : Prop :=
  ∃ front r r' after after',
    results = front ++ r :: after ∧ results' = front ++ r' :: after' ∧
    (∀ x ∈ front, ¬ Spent x) ∧ Spent r ∧ r'.stage = r.stage ∧ r.iterations ≤ r'.iterations ∧
    ∃ v y, Emits sink (.stageEnd r.stage r) v ∧ u = spentEntry r.stage r.iterations :: (v ++ y)

/-- A stage with the same result in both runs may come before. -/
theorem Outlasts.cons {sink : Option Handle} {u : List Entry} {results results' : List StageResult}
    {r : StageResult} (h : Outlasts sink u results results') (hr : ¬ Spent r) :
    Outlasts sink u (r :: results) (r :: results') := by
  obtain ⟨front, s, s', after, after', rfl, rfl, hfront, hrest⟩ := h
  exact ⟨r :: front, s, s', after, after', rfl, rfl, List.forall_mem_cons.2 ⟨hr, hfront⟩, hrest⟩

/-- What comes after the stages does not change what they were like. -/
theorem Outlasts.append {sink : Option Handle} {u : List Entry} (x : List Entry)
    {results results' : List StageResult} (h : Outlasts sink u results results') :
    Outlasts sink (u ++ x) results results' := by
  obtain ⟨front, s, s', after, after', hs, hs', hfront, hspent, hstage, hiter, v, y, hv, rfl⟩ := h
  exact ⟨front, s, s', after, after', hs, hs', hfront, hspent, hstage, hiter, v, y ++ x, hv,
    by simp⟩

/-- What a chain does after a stage: it reports the end of it, and goes on if it has succeeded. -/
def proceed (c : Collaborators σ) (config : Config) (s : Stage) (index : Nat) (limits : Constraints)
    (rest : List Stage) (r : StageResult) : Run σ (List StageResult × Option StopReason) := do
  emit c config.sink (.stageEnd s r)
  if r.success then
    let (results, reason) ← stages c config (index + 1) (limits.after r) rest
    pure (r :: results, reason)
  else pure ([r], some .stageFailed)

/-- The result of a stage is the first of the results from there on, and its end is sent first. -/
theorem traced_proceed (c : Collaborators σ) (config : Config) (s : Stage) (index : Nat)
    (limits : Constraints) (rest : List Stage) (r : StageResult) :
    Traced (proceed c config s index limits rest r) fun x o => ∀ left, o = .ok left →
      ∃ after v y, left.1 = r :: after ∧ Emits config.sink (.stageEnd s r) v ∧ x = v ++ y := by
  unfold proceed
  apply Traced.bind (traced_emit c _ _)
  · intro _ v hv
    split
    · apply Traced.bind (traced_stages c config (index + 1) (limits.after r) rest)
      · rintro ⟨results, reason⟩ y -
        apply Traced.pure
        rintro left ⟨⟩
        exact ⟨results, v, y ++ [], rfl, hv, rfl⟩
      · simp
    · apply Traced.pure
      rintro left ⟨⟩
      exact ⟨[], v, [], rfl, hv, rfl⟩
  · simp

/-- The stages of two chains go in step, or part at a stage that has no iterations left in the
first. -/
theorem parting_stages_within (h : InStep p S c c' config config') (index : Nat)
    {limits limits' : Constraints} (hl : limits.Within limits') (list : List Stage) :
    Parting p S (fun left left' => left = left' ∧ ∀ r ∈ left.1, ¬ Spent r)
      (fun u left left' => Outlasts config.sink u left.1 left'.1)
      (stages c config index limits list) (stages c' config' index limits' list) := by
  induction list generalizing index limits limits' with
  | nil => exact Parting.of_coupled (Coupled.pure ⟨rfl, by simp⟩)
  | cons s rest ih =>
    unfold stages
    rw [hl.deadline_eq]
    apply Parting.after_eq (h.poll limits'.deadline)
    rintro (_ | reason)
    · apply Parting.after_eq (h.emit _)
      intro _
      -- the runs part in this stage, or go on together to the stages after it
      apply Parting.bind (parting_stage h s hl) _ (traced_proceed c config s index limits rest)
        (traced_proceed c' config' s index limits' rest)
      · rintro u r r' ⟨rfl, rfl, hstage', hspent, hiter⟩ x x' left left' hx hx'
        obtain ⟨after, v, y, hleft, hv, rfl⟩ := hx left rfl
        obtain ⟨after', -, -, hleft', -⟩ := hx' left' rfl
        exact ⟨[], r, r', after, after', hleft, hleft', by simp, hspent, hstage', hiter, v, y, hv,
          rfl⟩
      · rintro r _ ⟨rfl, hunspent⟩
        apply Parting.after_eq (h.emit _)
        intro _
        cases hr : r.success with
        | false => exact Parting.of_coupled (Coupled.pure ⟨rfl, by simpa using hunspent⟩)
        | true =>
          simp only [if_true]
          apply Parting.map (fun left => (r :: left.1, left.2)) (ih (index + 1) (hl.after r))
          · rintro left _ ⟨rfl, hall⟩
            exact ⟨rfl, List.forall_mem_cons.2 ⟨hunspent, hall⟩⟩
          · intro u left left' hout
            exact hout.cons hunspent
    · exact Parting.of_coupled (Coupled.bind_eq (Coupled.log _ _) fun _ =>
        Coupled.pure ⟨rfl, by simp⟩)

/-! ## Chains with a larger budget -/

variable {b b' : Budget}

/-- Two chains that differ in their budgets go in step, or part at a stage that has no iterations
left with the smaller budget. -/
theorem parting_budgets (c : Collaborators σ) (config : Config) (hb : b.val ≤ b'.val) :
    Parting (!·.isLog) Eq (fun A A' => A = A' ∧ ∀ r ∈ A.stageResults, ¬ Spent r)
      (fun u A A' => Outlasts config.sink u A.stageResults A'.stageResults)
      (chain c { config with budget := b }) (chain c { config with budget := b' }) := by
  have hstep : InStep (!·.isLog) Eq c c { config with budget := b } { config with budget := b' } :=
    inStep_self c rfl rfl rfl rfl
  rw [chain_eq, chain_eq]
  apply Parting.after_eq hstep.akin.now
  intro start
  refine Parting.after_eq (Coupled.hidden_log fun _ => rfl) fun _ => ?_
  apply Parting.after_eq (hstep.emit _)
  intro _
  have hlimits : (fullConstraints { config with budget := b } start).Within
      (fullConstraints { config with budget := b' } start) := ⟨rfl, hb⟩
  have hstages := parting_stages_within hstep 0 hlimits config.stages
  apply Parting.bind (Parting.finallyDo hstages hstep.akin.disposal (traced_dispose c)
    (traced_dispose c) fun _ x _ _ hout => hout.append x) _
    (traced_conclude_stageResults c _ start) (traced_conclude_stageResults c _ start)
  · intro u left left' hout x _ A A' hA hA'
    rw [hA A rfl, hA' A' rfl]
    exact hout.append x
  · rintro left _ ⟨rfl, hall⟩
    have hconclude := (traced_conclude_stageResults c { config with budget := b } start left).mono
      fun _ _ h A ho => (h A ho).symm ▸ hall
    exact Parting.of_coupled ((hstep.conclude start left).knowing hconclude)

/-- As long as no stage has used up the budget, a chain with a larger budget has the same result and
makes the same calls, those of the sink included. Otherwise the results before the first such stage
are the same, this stage reports at least as many iterations with the larger budget, and all calls
that the chain makes up to the end of its work on the stage, it makes first with the larger budget
as well. -/
theorem larger_budget (hb : b.val ≤ b'.val) {w : σ} {A A' : ChainResult}
    (hA : outcomeFrom (chain c { config with budget := b }) w = .ok A)
    (hA' : outcomeFrom (chain c { config with budget := b' }) w = .ok A') :
    ((∀ r ∈ A.stageResults, ¬ Spent r) → A = A' ∧
        apartFromLog (journalFrom (chain c { config with budget := b }) w) =
          apartFromLog (journalFrom (chain c { config with budget := b' }) w)) ∧
      ((∃ r ∈ A.stageResults, Spent r) → ∃ made u,
        journalFrom (chain c { config with budget := b }) w = made ++ u ∧
          Outlasts config.sink u A.stageResults A'.stageResults ∧
          apartFromLog made <+:
            apartFromLog (journalFrom (chain c { config with budget := b' }) w)) := by
  obtain ⟨⟨rfl, hunspent⟩, hcalls⟩ | ⟨t, u, t', u', ht, ht', hcalls, hout⟩ :=
    (parting_budgets c config hb).apply rfl hA hA'
  · refine ⟨fun _ => ⟨rfl, hcalls⟩, ?_⟩
    rintro ⟨r, hr, hspent⟩
    exact absurd hspent (hunspent r hr)
  · constructor
    · intro hunspent
      obtain ⟨front, r, -, after, -, hresults, -, -, hspent, -⟩ := hout
      exact absurd hspent (hunspent r (by simp [hresults]))
    · intro _
      refine ⟨t, u, ht, hout, ?_⟩
      rw [ht', apartFromLog, hcalls, apartFromLog, List.filter_append]
      exact List.prefix_append ..

/-- A loop stage and another stage. -/
def loopFirst : Config where
  stages := [{ name := sampleName, loop := true }, { name := sampleName }]
  root := ⟨.root, ["p"]⟩

/-- A stage that takes three rounds uses up a budget of two, and meets its goal with a budget of
three. -/
theorem third_round_funded :
    ∃ A A' made u,
      outcomeFrom (chain (Echo.collaborators 3) { loopFirst with budget := ⟨2, by decide⟩ }) 0 =
        .ok A ∧
      outcomeFrom (chain (Echo.collaborators 3) { loopFirst with budget := ⟨3, by decide⟩ }) 0 =
        .ok A' ∧
      A.stageResults.map (fun r => (r.iterations, r.stopReason)) =
        [(2, some .budgetExhausted), (1, some .singlePass)] ∧
      A'.stageResults.map (fun r => (r.iterations, r.stopReason)) =
        [(3, some .goalMet), (1, some .singlePass)] ∧
      journalFrom (chain (Echo.collaborators 3) { loopFirst with budget := ⟨2, by decide⟩ }) 0 =
        made ++ u ∧ Outlasts none u A.stageResults A'.stageResults := by
  have hrun : (outcomeFrom (chain (Echo.collaborators 3)
      { loopFirst with budget := ⟨2, by decide⟩ }) 0).toOption.map
        (fun R => R.stageResults.map fun r => (r.iterations, r.stopReason)) =
          some [(2, some .budgetExhausted), (1, some .singlePass)] := by
    decide +kernel
  have hrun' : (outcomeFrom (chain (Echo.collaborators 3)
      { loopFirst with budget := ⟨3, by decide⟩ }) 0).toOption.map
        (fun R => R.stageResults.map fun r => (r.iterations, r.stopReason)) =
          some [(3, some .goalMet), (1, some .singlePass)] := by
    decide +kernel
  obtain ⟨A, hA, hmap⟩ := exists_of_toOption_map hrun
  obtain ⟨A', hA', hmap'⟩ := exists_of_toOption_map hrun'
  have hmem : (2, some .budgetExhausted) ∈
      A.stageResults.map (fun r => (r.iterations, r.stopReason)) := by simp [hmap]
  obtain ⟨r, hr, heq⟩ := List.mem_map.1 hmem
  have hspent : Spent r := congrArg Prod.snd heq
  obtain ⟨made, u, hjournal, hout, -⟩ := (larger_budget (by decide) hA hA').2 ⟨r, hr, hspent⟩
  exact ⟨A, A', made, u, hA, hA', hmap, hmap', hjournal, hout⟩

end Run

end AgentChain
