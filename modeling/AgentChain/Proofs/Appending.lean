import AgentChain.Proofs.Parting

/-!
# Chains with stages appended

A chain does with its first stages what it would do if there were no others. If the collaborators do
not act on which stages the chain was announced with, then a chain with further stages appended goes
in step with the shorter chain until that one has run all of its stages. If the shorter chain ends
before that, at a stage that fails or a poll that halts it, the longer chain has the same result and
makes the same calls.

Main statement: `appended_stages_change_nothing`.
-/

namespace AgentChain

/-- A call of a collaborator other than the sink, or what was learnt from it. -/
def Entry.ofCalls : Entry → Bool
  | .event _ | .log _ | .sinkLog _ => false
  | _ => true

namespace Run

variable {σ : Type} {S : σ → σ → Prop} {c : Collaborators σ} {config : Config}
  {sink : Option Handle}

/-- The calls in a journal, apart from those of the sink. -/
def calls (t : List Entry) : List Entry := t.filter Entry.ofCalls

/-- In related worlds the sink, if there is one, takes the two events in the same way, and leaves
related worlds. -/
def TakesAlike (S : σ → σ → Prop) (c : Collaborators σ) (sink : Option Handle) (e e' : Event) :
    Prop :=
  ∀ h, sink = some h → ∀ w w', S w w' → (c.sink h e w).outcome = (c.sink h e' w').outcome ∧
    S (c.sink h e w).state (c.sink h e' w').state

/-- Nothing that the collaborators do depends on the stages that the sink is given at the start of a
chain: worlds that differ in these are related, and in related worlds all act alike. -/
structure IgnoresStart (S : σ → σ → Prop) (c : Collaborators σ) (sink : Option Handle) : Prop where
  refl : ∀ w, S w w
  akin : Akin S c c
  takes : ∀ e, TakesAlike S c sink e e
  start : ∀ stages stages', TakesAlike S c sink (.chainStart stages) (.chainStart stages')

/-! ## In step with the longer chain -/

/-- A sink that takes two events alike keeps the two runs in step. -/
theorem TakesAlike.coupled {e e' : Event} (h : TakesAlike S c sink e e') :
    Coupled Entry.ofCalls S Eq (emit c sink e) (emit c sink e') := by
  cases sink with
  | none => exact Coupled.pure rfl
  | some handle =>
    -- with a sink, the entries of the two emissions are of its events, which are no calls
    intro w w' hw
    obtain ⟨ho, hstate⟩ := h handle rfl w w' hw
    refine ⟨_, _, _, _, _, _, steps_emit c handle e w, steps_emit c handle e' w', hstate, ?_, ?_⟩
    · rw [ho]
      exact .refl _
    · rw [filter_emission _ _ rfl (fun _ => rfl) fun _ => rfl,
        filter_emission _ _ rfl (fun _ => rfl) fun _ => rfl]

/-- All stages of `xs` have succeeded, and the longer run has gone on from their results. -/
def GoesOn (xs : List Stage) (left left' : List StageResult × Option StopReason) : Prop :=
  left.1 <+: left'.1 ∧ (∀ r ∈ left.1, r.success = true) ∧ left.1.length = xs.length

/-- A stage that succeeded comes before the stages that did. -/
theorem GoesOn.cons {xs : List Stage} {s : Stage} {r : StageResult}
    {left left' : List StageResult × Option StopReason} (h : GoesOn xs left left')
    (hr : r.success = true) : GoesOn (s :: xs) (r :: left.1, left.2) (r :: left'.1, left'.2) := by
  obtain ⟨hpre, hall, hlen⟩ := h
  refine ⟨List.cons_prefix_cons.2 ⟨rfl, hpre⟩, List.forall_mem_cons.2 ⟨hr, hall⟩, ?_⟩
  simp [hlen]

/-- The stages of a chain and those of a longer one go in step until the shorter one has run all of
its stages, all of which succeeded then. -/
theorem parting_stages_append {p : Entry → Bool} {config' : Config}
    (h : InStep p S c c config config') (index : Nat) (limits : Constraints) (xs ys : List Stage) :
    Parting p S Eq (fun _ => GoesOn xs) (stages c config index limits xs)
      (stages c config' index limits (xs ++ ys)) := by
  induction xs generalizing index limits with
  | nil =>
    -- the shorter chain has run all of its stages
    have hall : Traced (stages c config index limits []) fun _ o =>
        ∀ left, o = .ok left → left = ([], none) := Traced.pure (by rintro _ ⟨⟩; rfl)
    apply Parting.at_once hall (traced_stages c config' index limits ys)
    intro _ _ left _ hl _
    rcases hl left rfl with rfl
    simp [GoesOn]
  | cons s xs ih =>
    rw [List.cons_append]
    unfold Run.stages
    apply Parting.after_eq (h.poll limits.deadline)
    rintro (_ | reason)
    · apply Parting.after_eq (h.emit _)
      intro _
      apply Parting.after_eq (h.stage s limits)
      intro r
      apply Parting.after_eq (h.emit _)
      intro _
      -- a stage that fails ends both chains, and after one that succeeds both have the same to go
      cases hr : r.success with
      | false => exact Parting.of_coupled (Coupled.pure rfl)
      | true =>
        simp only [if_true]
        apply Parting.map (fun left => (r :: left.1, left.2)) (ih (index + 1) (limits.after r))
        · rintro left _ rfl
          rfl
        · intro _ left left' hgoes
          exact hgoes.cons hr
    · exact Parting.of_coupled (Coupled.bind_eq (Coupled.log _ _) fun _ => Coupled.pure rfl)

/-- A stage has failed, or the run was halted before one of the stages. -/
def EndedEarly (xs : List Stage) (R : ChainResult) : Prop :=
  (∃ r ∈ R.stageResults, r.success = false) ∨ R.stageResults.length < xs.length

/-- A chain from whose results the longer one has gone on has not ended early. -/
theorem GoesOn.not_endedEarly {xs : List Stage} {R : ChainResult}
    {left left' : List StageResult × Option StopReason} (h : GoesOn xs left left')
    (hR : R.stageResults = left.1) : ¬ EndedEarly xs R := by
  obtain ⟨-, hall, hlen⟩ := h
  -- no stage failed, and none was left out
  rintro (⟨r, hr, hf⟩ | hlt)
  · rw [hR] at hr
    rw [hall r hr] at hf
    cases hf
  · rw [hR, hlen] at hlt
    exact absurd hlt (Nat.lt_irrefl _)

/-- A chain and one with further stages appended go in step to their ends, or until the shorter one
has run all of its stages. -/
theorem IgnoresStart.parting_chain (hc : IgnoresStart S c config.sink) (xs ys : List Stage) :
    Parting Entry.ofCalls S Eq
      (fun _ A B => A.stageResults <+: B.stageResults ∧ ¬ EndedEarly xs A)
      (chain c { config with stages := xs }) (chain c { config with stages := xs ++ ys }) := by
  have hstep : InStep Entry.ofCalls S c c { config with stages := xs }
      { config with stages := xs ++ ys } :=
    ⟨hc.akin, rfl, rfl, rfl, fun e => (hc.takes e).coupled⟩
  rw [chain_eq, chain_eq]
  apply Parting.after_eq hc.akin.now
  intro start
  refine Parting.after_eq (Coupled.hidden_log fun _ => rfl) fun _ => ?_
  apply Parting.after_eq (hc.start xs (xs ++ ys)).coupled
  intro _
  have hstages := parting_stages_append hstep 0 (fullConstraints config start) xs ys
  apply Parting.bind (Parting.finallyDo hstages hc.akin.disposal (traced_dispose c)
    (traced_dispose c) fun _ _ _ _ hgoes => hgoes)
  · rintro left _ rfl
    exact Parting.of_coupled (hstep.conclude start left)
  · exact traced_conclude_stageResults c _ start
  · exact traced_conclude_stageResults c _ start
  · intro t left left' hgoes _ _ A B hA hB
    refine ⟨?_, hgoes.not_endedEarly (hA A rfl)⟩
    rw [hA A rfl, hB B rfl]
    exact hgoes.1

/-- What a chain has done with its stages stays as it is when stages are appended: the results come
first among those of the longer chain. If the shorter chain has ended early, then the results of the
two chains are the same, and so are the calls that they made. -/
theorem appended_stages_change_nothing (hc : IgnoresStart S c config.sink) {xs ys : List Stage}
    {w : σ} {A B : ChainResult} (hA : outcomeFrom (chain c { config with stages := xs }) w = .ok A)
    (hB : outcomeFrom (chain c { config with stages := xs ++ ys }) w = .ok B) :
    A.stageResults <+: B.stageResults ∧
      (EndedEarly xs A → A = B ∧
        calls (journalFrom (chain c { config with stages := xs }) w) =
          calls (journalFrom (chain c { config with stages := xs ++ ys }) w)) := by
  -- either the chains went in step to their ends, or the longer one has gone on alone
  obtain ⟨rfl, hcalls⟩ | ⟨-, -, -, -, -, -, -, hpre, hgoes⟩ :=
    (hc.parting_chain xs ys).apply (hc.refl w) hA hB
  · exact ⟨List.prefix_rfl, fun _ => ⟨rfl, hcalls⟩⟩
  · exact ⟨hpre, fun hearly => absurd hearly hgoes⟩

/-- An executor that fails at its second call, and a sink that keeps the events it is given. The
world counts the calls and holds the events. -/
def recorded : Collaborators (Nat × List Event) where
  clock w := (0, w)
  isSet _ w := (false, w)
  sink _ e w := { outcome := .answered (), state := (w.1, w.2 ++ [e]) }
  check _ _ w := (.answered true, w)
  executor := {
    name := "agents"
    spawn := fun _ w => (.answered { success := w.1 ≠ 1 }, (w.1 + 1, w.2))
    dispose := fun w => (.answered (), w) }

/-- The executor goes by the number of its calls, and nobody by the events that the sink keeps. -/
theorem recorded_ignoresStart (sink : Option Handle) :
    IgnoresStart (fun w w' => w.1 = w'.1) recorded sink where
  refl _ := rfl
  akin := {
    clock := fun _ _ hw => ⟨rfl, hw⟩
    isSet := fun _ _ _ hw => ⟨rfl, hw⟩
    check := fun _ _ _ _ hw => ⟨.refl _, hw⟩
    name_eq := rfl
    spawn := by
      rintro request ⟨n, events⟩ ⟨_, events'⟩ rfl
      exact ⟨.refl _, rfl⟩
    dispose := fun _ _ hw => ⟨.refl _, hw⟩
    store := .none }
  takes _ _ _ _ _ hw := ⟨rfl, hw⟩
  start _ _ _ _ _ _ hw := ⟨rfl, hw⟩

/-- A run with a sink, and with no stages yet. -/
def recordedConfig : Config where
  root := ⟨.root, ["p"]⟩
  sink := some ⟨0⟩

/-- The third stage is not run, because the second fails. -/
theorem appended_after_failure :
    ∃ A B,
      outcomeFrom (chain recorded { recordedConfig with
        stages := [{ name := sampleName }, { name := sampleName }] }) (0, []) = .ok A ∧
      outcomeFrom (chain recorded { recordedConfig with
        stages := [{ name := sampleName }, { name := sampleName }] ++ [{ name := sampleName }] })
        (0, []) = .ok B ∧
      A.stageResults.map (·.success) = [true, false] ∧ A = B := by
  have hrunA : (outcomeFrom (chain recorded { recordedConfig with
      stages := [{ name := sampleName }, { name := sampleName }] }) (0, [])).toOption.map
        (·.stageResults.map (·.success)) = some [true, false] := by
    decide +kernel
  have hrunB : (outcomeFrom (chain recorded { recordedConfig with
      stages := [{ name := sampleName }, { name := sampleName }] ++ [{ name := sampleName }] })
        (0, [])).toOption.map (·.stageResults.map (·.success)) = some [true, false] := by
    decide +kernel
  obtain ⟨A, hA, hmap⟩ := exists_of_toOption_map hrunA
  obtain ⟨B, hB, -⟩ := exists_of_toOption_map hrunB
  have hfailed : false ∈ A.stageResults.map (·.success) := by simp [hmap]
  have hsame := appended_stages_change_nothing (recorded_ignoresStart recordedConfig.sink) hA hB
  exact ⟨A, B, hA, hB, hmap, (hsame.2 (Or.inl (List.mem_map.1 hfailed))).1⟩

end Run

end AgentChain
