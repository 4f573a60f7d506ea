import AgentChain.Proofs.Coupling

/-!
# Two runs that may part

Two runs may go in step up to a point and then part: from there on one of them does what the other
does not. `Parting p S R Q m m'` says of two runs that from related worlds they either go in step to
their ends, with results that `R` relates, or part on the way, and then `Q` relates what the first
run leaves after that point with the two results. There is one rule for each way to put runs
together:

* `Parting.of_coupled` for runs that never part and `Parting.at_once` for runs that part where they
  start;
* `Parting.after` for a first part in step, `Parting.bind` and `Parting.map` for any first part, and
  `Parting.finallyDo`;
* `Parting.apply` to read off what was shown of two runs that return.
-/

namespace AgentChain.Run

variable {σ σ' α β γ δ : Type}

/-- How two runs go from the worlds `w` and `w'`. -/
inductive Courses (p : Entry → Bool) (S : σ → σ' → Prop) (R : α → β → Prop)
    (Q : List Entry → α → β → Prop) (m : Run σ α) (m' : Run σ' β) (w : σ) (w' : σ') : Prop where
  /-- They go in step to their ends. -/
  | together {t t' : List Entry} {o : Except Abort α} {o' : Except Abort β} {v : σ} {v' : σ'}
      (hs : Steps m w t o v) (hs' : Steps m' w' t' o' v') (hv : S v v') (ho : EndsMatch R o o')
      (ht : t.filter p = t'.filter p) : Courses p S R Q m m' w w'
  /-- They part: `t` and `t'` are what they leave before that, and `u` and `u'` what they leave
  after it. -/
  | parted {t t' u u' : List Entry} {o : Except Abort α} {o' : Except Abort β} {v : σ} {v' : σ'}
      (hs : Steps m w (t ++ u) o v) (hs' : Steps m' w' (t' ++ u') o' v')
      (ht : t.filter p = t'.filter p) (hQ : ∀ a b, o = .ok a → o' = .ok b → Q u a b) :
      Courses p S R Q m m' w w'

/-- From related worlds the two runs go in step to their ends, or part on the way. -/
def Parting (p : Entry → Bool) (S : σ → σ' → Prop) (R : α → β → Prop)
    (Q : List Entry → α → β → Prop) (m : Run σ α) (m' : Run σ' β) : Prop :=
  ∀ w w', S w w' → Courses p S R Q m m' w w'

variable {p : Entry → Bool} {S : σ → σ' → Prop} {R : α → β → Prop} {Q : List Entry → α → β → Prop}
  {R' : γ → δ → Prop} {Q' : List Entry → γ → δ → Prop} {m : Run σ α} {m' : Run σ' β}

/-! ## Going on -/

/-- Runs that have been in step in a first part go on as their second parts do. -/
theorem Courses.prepend {f : α → Run σ γ} {f' : β → Run σ' δ} {a : α} {b : β} {w v : σ} {w' v' : σ'}
    {t t' : List Entry} (hs : Steps m w t (.ok a) v) (hs' : Steps m' w' t' (.ok b) v')
    (ht : t.filter p = t'.filter p) (h : Courses p S R' Q' (f a) (f' b) v v') :
    Courses p S R' Q' (m >>= f) (m' >>= f') w w' := by
  cases h with
  | together hu hu' hx ho hut =>
    exact .together (hs.bind hu) (hs'.bind hu') hx ho (filter_append_eq ht hut)
  | parted hu hu' hut hQ =>
    have hsu := hs.bind hu
    have hsu' := hs'.bind hu'
    rw [← List.append_assoc] at hsu hsu'
    exact .parted hsu hsu' (filter_append_eq ht hut) hQ

/-- A run that has ended its first part goes on to its second part, unless the first was aborted. -/
theorem Steps.goes_on {f : α → Run σ γ} {T : α → List Entry → Except Abort γ → Prop} {w v : σ}
    {t : List Entry} {o : Except Abort α} (hs : Steps m w t o v) (hf : ∀ a, Traced (f a) (T a)) :
    ∃ x o' v', Steps (m >>= f) w (t ++ x) o' v' ∧
      ∀ c, o' = .ok c → ∃ a, o = .ok a ∧ T a x (.ok c) := by
  cases o with
  | error e => exact ⟨[], _, v, by simpa using hs.bind_error, by simp⟩
  | ok a =>
    obtain ⟨x, o', v', hx, hT⟩ := hf a v
    refine ⟨x, o', v', hs.bind hx, ?_⟩
    rintro c rfl
    exact ⟨a, rfl, hT⟩

/-- A run with a cleanup has the result of its body, if it has one. -/
theorem Steps.cleans_up {cleanup : Run σ Unit} {C : List Entry → Except Abort Unit → Prop} {w v : σ}
    {t : List Entry} {o : Except Abort α} (hs : Steps m w t o v) (hc : Traced cleanup C) :
    ∃ x o' v', Steps (Run.finallyDo m cleanup) w (t ++ x) o' v' ∧ ∀ a, o' = .ok a → o = .ok a := by
  obtain ⟨x, oc, v', hx, -⟩ := hc v
  cases oc with
  | ok => exact ⟨x, o, v', hs.finallyDo hx, fun _ ha => ha⟩
  | error e => exact ⟨x, _, v', hs.finallyDo_error hx, by simp⟩

namespace Parting

/-! ## Rules -/

/-- Runs that go in step to their ends do not part. -/
theorem of_coupled (h : Coupled p S R m m') : Parting p S R Q m m' := by
  intro w w' hw
  obtain ⟨t, t', o, o', v, v', hs, hs', hv, ho, ht⟩ := h w w' hw
  exact .together hs hs' hv ho ht

/-- Runs that part where they start. -/
theorem at_once {T : List Entry → Except Abort α → Prop} {T' : List Entry → Except Abort β → Prop}
    (hm : Traced m T) (hm' : Traced m' T')
    (h : ∀ u u' a b, T u (.ok a) → T' u' (.ok b) → Q u a b) : Parting p S R Q m m' := by
  intro w w' _
  obtain ⟨u, o, v, hs, hT⟩ := hm w
  obtain ⟨u', o', v', hs', hT'⟩ := hm' w'
  have hfirst : Steps m w ([] ++ u) o v := hs
  have hsecond : Steps m' w' ([] ++ u') o' v' := hs'
  refine .parted hfirst hsecond rfl ?_
  rintro a b rfl rfl
  exact h u u' a b hT hT'

/-- Runs that may part after a first part in which they go in step. -/
theorem after {f : α → Run σ γ} {f' : β → Run σ' δ} (hm : Coupled p S R m m')
    (hf : ∀ a b, R a b → Parting p S R' Q' (f a) (f' b)) :
    Parting p S R' Q' (m >>= f) (m' >>= f') := by
  intro w w' hw
  obtain ⟨t, t', o, o', v, v', hs, hs', hv, ho, ht⟩ := hm w w' hw
  cases ho with
  | error e => exact .together hs.bind_error hs'.bind_error hv (.error e) ht
  | ok hab => exact .prepend hs hs' ht (hf _ _ hab v v' hv)

/-- Runs that may part after a first part with equal results. -/
theorem after_eq {m' : Run σ' α} {f : α → Run σ γ} {f' : α → Run σ' δ} (hm : Coupled p S Eq m m')
    (hf : ∀ a, Parting p S R' Q' (f a) (f' a)) : Parting p S R' Q' (m >>= f) (m' >>= f') := by
  apply after hm
  rintro a _ rfl
  exact hf a

/-- Runs that may part in their first parts or later. Once they have parted, what is known of the
second parts is what their traces tell. -/
theorem bind {f : α → Run σ γ} {f' : β → Run σ' δ} {T : α → List Entry → Except Abort γ → Prop}
    {T' : β → List Entry → Except Abort δ → Prop} (hm : Parting p S R Q m m')
    (hf : ∀ a b, R a b → Parting p S R' Q' (f a) (f' b)) (hT : ∀ a, Traced (f a) (T a))
    (hT' : ∀ b, Traced (f' b) (T' b))
    (hQ : ∀ u a b, Q u a b → ∀ x x' c d, T a x (.ok c) → T' b x' (.ok d) → Q' (u ++ x) c d) :
    Parting p S R' Q' (m >>= f) (m' >>= f') := by
  intro w w' hw
  -- either the first parts went in step, and the second parts decide, or they have parted already
  cases hm w w' hw with
  | together hs hs' hv ho ht =>
    cases ho with
    | error e => exact .together hs.bind_error hs'.bind_error hv (.error e) ht
    | ok hab => exact .prepend hs hs' ht (hf _ _ hab _ _ hv)
  | parted hs hs' ht hab =>
    obtain ⟨x, o, v, hx, ho⟩ := hs.goes_on hT
    obtain ⟨x', o', v', hx', ho'⟩ := hs'.goes_on hT'
    rw [List.append_assoc] at hx hx'
    refine .parted hx hx' ht ?_
    intro c d hc hd
    obtain ⟨a, ha, hTa⟩ := ho c hc
    obtain ⟨b, hb, hTb⟩ := ho' d hd
    exact hQ _ a b (hab a b ha hb) x x' c d hTa hTb

/-- Both runs make something else of their results. -/
theorem map {R : α → α → Prop} {Q : List Entry → α → α → Prop} {R' : γ → γ → Prop}
    {Q' : List Entry → γ → γ → Prop} {m' : Run σ' α} (g : α → γ) (hm : Parting p S R Q m m')
    (hR : ∀ a b, R a b → R' (g a) (g b)) (hQ : ∀ u a b, Q u a b → Q' u (g a) (g b)) :
    Parting p S R' Q' (m >>= fun a => pure (g a)) (m' >>= fun b => pure (g b)) := by
  have hfirst : ∀ a, Traced (pure (g a) : Run σ γ) fun x o => x = [] ∧ o = .ok (g a) :=
    fun _ => Traced.pure ⟨rfl, rfl⟩
  have hsecond : ∀ b, Traced (pure (g b) : Run σ' γ) fun x o => x = [] ∧ o = .ok (g b) :=
    fun _ => Traced.pure ⟨rfl, rfl⟩
  apply bind hm _ hfirst hsecond
  · rintro u a b hab x x' _ _ ⟨rfl, ⟨⟩⟩ ⟨-, ⟨⟩⟩
    rw [List.append_nil]
    exact hQ u a b hab
  · intro a b hab
    exact of_coupled (Coupled.pure (hR a b hab))

/-- A part with a cleanup parts where its body does, and the cleanup adds to what is left after
that. -/
theorem finallyDo {cleanup : Run σ Unit} {cleanup' : Run σ' Unit}
    {C C' : List Entry → Except Abort Unit → Prop} (hm : Parting p S R Q m m')
    (hc : Coupled p S Eq cleanup cleanup') (hT : Traced cleanup C) (hT' : Traced cleanup' C')
    (hQ : ∀ u x a b, Q u a b → Q (u ++ x) a b) :
    Parting p S R Q (Run.finallyDo m cleanup) (Run.finallyDo m' cleanup') := by
  intro w w' hw
  cases hm w w' hw with
  | together hs hs' hv ho ht =>
    obtain ⟨u, u', oc, oc', x, x', hu, hu', hx, hoc, hut⟩ := hc _ _ hv
    have htraces := filter_append_eq ht hut
    cases hoc with
    | ok => exact .together (hs.finallyDo hu) (hs'.finallyDo hu') hx ho htraces
    | error e =>
      exact .together (hs.finallyDo_error hu) (hs'.finallyDo_error hu') hx (.error e) htraces
  | parted hs hs' ht hab =>
    obtain ⟨x, o, v, hx, ho⟩ := hs.cleans_up hT
    obtain ⟨x', o', v', hx', ho'⟩ := hs'.cleans_up hT'
    rw [List.append_assoc] at hx hx'
    refine .parted hx hx' ht ?_
    intro a b ha hb
    exact hQ _ x a b (hab a b (ho a ha) (ho' b hb))

/-- What was shown of two runs that may part holds of them from any related worlds, if both
return. -/
theorem apply {w : σ} {w' : σ'} {a : α} {b : β} (h : Parting p S R Q m m') (hw : S w w')
    (hm : outcomeFrom m w = .ok a) (hm' : outcomeFrom m' w' = .ok b) :
    (R a b ∧ (journalFrom m w).filter p = (journalFrom m' w').filter p) ∨
      ∃ t u t' u', journalFrom m w = t ++ u ∧ journalFrom m' w' = t' ++ u' ∧
        t.filter p = t'.filter p ∧ Q u a b := by
  cases h w w' hw with
  | together hs hs' hv ho ht =>
    rw [hs.outcomeFrom_eq] at hm
    rw [hs'.outcomeFrom_eq] at hm'
    subst hm hm'
    rw [hs.journalFrom_eq, hs'.journalFrom_eq]
    -- both return, so that neither was aborted
    cases ho with
    | ok hab => exact Or.inl ⟨hab, ht⟩
  | @parted t t' u u' _ _ _ _ hs hs' ht hQ =>
    rw [hs.outcomeFrom_eq] at hm
    rw [hs'.outcomeFrom_eq] at hm'
    exact Or.inr ⟨t, u, t', u', hs.journalFrom_eq, hs'.journalFrom_eq, ht, hQ a b hm hm'⟩

end Parting

end AgentChain.Run
