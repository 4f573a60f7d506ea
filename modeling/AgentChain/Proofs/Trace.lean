import AgentChain.Run.Chain

/-!
# Traces of runs

What a part of a run adds to the journal is its trace. The trace and the outcome depend on the world
in which the part starts, and on nothing that the journal holds by then. `Traced m R` says that of
`m`, and that `R` relates every trace of `m` to the outcome that goes with it. It is shown of the
whole of a run by following how the run is put together:

* `Traced.pure` and `Traced.note` for the smallest parts;
* `Traced.bind`, `Traced.finallyDo` and the rules made from them for parts in sequence;
* `Traced.apply` to read off what was shown of a run from a given world.
-/

namespace AgentChain.Run

variable {σ α β : Type}

/-- The result of a run that ends as `o` says. -/
def ending (o : Except Abort α) (s : Scene σ) : EStateM.Result Abort (Scene σ) α :=
  match o with
  | .ok a => .ok a s
  | .error e => .error e s

/-- From the world `w`, `m` ends in `o` and in the world `w'`, and adds `t` to any journal. -/
def Steps (m : Run σ α) (w : σ) (t : List Entry) (o : Except Abort α) (w' : σ) : Prop :=
  ∀ j, m ⟨w, j⟩ = ending o ⟨w', j ++ t⟩

/-- What a run from the world `w` leaves in an empty journal. -/
def journalFrom (m : Run σ α) (w : σ) : List Entry :=
  match m ⟨w, []⟩ with
  | .ok _ s => s.journal
  | .error _ s => s.journal

/-- How a run from the world `w` ends. -/
def outcomeFrom (m : Run σ α) (w : σ) : Except Abort α :=
  match m ⟨w, []⟩ with
  | .ok a _ => .ok a
  | .error e _ => .error e

/-- Every run of `m` has a trace and an outcome related by `R`. -/
def Traced (m : Run σ α) (R : List Entry → Except Abort α → Prop) : Prop :=
  ∀ w, ∃ t o w', Steps m w t o w' ∧ R t o

/-- What a part adds to any journal is what it leaves in an empty one. -/
theorem Steps.journalFrom_eq {m : Run σ α} {w w' : σ} {t : List Entry} {o : Except Abort α}
    (h : Steps m w t o w') : journalFrom m w = t := by
  unfold journalFrom
  rw [h []]
  cases o <;> simp [ending]

/-- A part ends in the same way whatever the journal holds. -/
theorem Steps.outcomeFrom_eq {m : Run σ α} {w w' : σ} {t : List Entry} {o : Except Abort α}
    (h : Steps m w t o w') : outcomeFrom m w = o := by
  unfold outcomeFrom
  rw [h []]
  cases o <;> simp [ending]

/-- The second part of a sequence starts where the first has ended. -/
theorem Steps.bind {m : Run σ α} {f : α → Run σ β} {a : α} {w w₁ w₂ : σ} {t u : List Entry}
    {o : Except Abort β} (hm : Steps m w t (.ok a) w₁) (hf : Steps (f a) w₁ u o w₂) :
    Steps (m >>= f) w (t ++ u) o w₂ := by
  intro j
  show EStateM.bind m f ⟨w, j⟩ = _
  simp only [EStateM.bind, hm j, ending]
  -- the second part starts with the journal that the first has left
  rw [hf (j ++ t), List.append_assoc]
  rfl

/-- The trace of a sequence is not of interest where that of its second part is not. -/
theorem Steps.bind_exists {m : Run σ α} {f : α → Run σ β} {a : α} {w w₁ w₂ : σ} {t : List Entry}
    {o : Except Abort β} (hm : Steps m w t (.ok a) w₁) (hf : ∃ u, Steps (f a) w₁ u o w₂) :
    ∃ u, Steps (m >>= f) w u o w₂ := by
  rcases hf with ⟨u, hu⟩
  exact ⟨t ++ u, hm.bind hu⟩

/-- The second part of a sequence does not run if the first is aborted. -/
theorem Steps.bind_error {m : Run σ α} {f : α → Run σ β} {e : Abort} {w w' : σ} {t : List Entry}
    (hm : Steps m w t (.error e) w') : Steps (m >>= f) w t (.error e) w' := by
  intro j
  show EStateM.bind m f ⟨w, j⟩ = _
  simp [EStateM.bind, hm j, ending]

/-- The cleanup starts where the body has ended; its answer does not show. -/
theorem Steps.finallyDo {m : Run σ α} {cleanup : Run σ Unit} {o : Except Abort α} {w w₁ w₂ : σ}
    {t u : List Entry} (hm : Steps m w t o w₁) (hc : Steps cleanup w₁ u (.ok ()) w₂) :
    Steps (Run.finallyDo m cleanup) w (t ++ u) o w₂ := by
  intro j
  cases o <;> simp [Run.finallyDo, hm j, hc (j ++ t), ending]

/-- An abort of the cleanup is the one that shows. -/
theorem Steps.finallyDo_error {m : Run σ α} {cleanup : Run σ Unit} {o : Except Abort α}
    {e : Abort} {w w₁ w₂ : σ} {t u : List Entry} (hm : Steps m w t o w₁)
    (hc : Steps cleanup w₁ u (.error e) w₂) :
    Steps (Run.finallyDo m cleanup) w (t ++ u) (.error e) w₂ := by
  intro j
  cases o <;> simp [Run.finallyDo, hm j, hc (j ++ t), ending]

/-- An answer that is there already takes no step. -/
theorem steps_pure (a : α) (w : σ) : Steps (pure a : Run σ α) w [] (.ok a) w := by
  intro j
  simp [ending, Pure.pure, EStateM.pure]

/-- An observation may change the world, and adds nothing to the journal. -/
theorem steps_observe (f : σ → α × σ) (w : σ) :
    Steps (observe f) w [] (.ok (f w).1) (f w).2 := by
  intro j
  simp [observe, ending]

/-- Writing to the journal leaves the world as it is. -/
theorem steps_note (entries : List Entry) (w : σ) :
    Steps (note entries : Run σ Unit) w entries (.ok ()) w :=
  fun _ => rfl

theorem steps_throw (e : Abort) (w : σ) : Steps (throw e : Run σ α) w [] (.error e) w := by
  intro j
  rw [List.append_nil]
  rfl

/-- What a run goes on with after a call, or the abort that ends it. -/
def settled : Outcome α → Except Abort (Except Fault α)
  | .answered a => .ok (.ok a)
  | .raised f => .ok (.error f)
  | .aborted e => .error e

/-- To settle a call is to answer with what it answered or raised, or to abort with it. -/
theorem steps_settle (outcome : Outcome α) (w : σ) :
    Steps (settle outcome) w [] (settled outcome) w := by
  cases outcome with
  | answered a => exact steps_pure (Except.ok a) w
  | raised f => exact steps_pure (Except.error f) w
  | aborted e => exact steps_throw e w

/-- A call leaves one entry, and a fault of it is contained. -/
theorem steps_attempt (call : Call σ α) (entry : Outcome α → Entry) (w : σ) :
    Steps (Run.attempt call entry) w [entry (call w).1] (settled (call w).1) (call w).2 :=
  (steps_observe call w).bind ((steps_note _ _).bind (steps_settle _ _))

/-- How a run goes on after a call that it learns nothing from: only an abort shows. -/
def carriedOn : Outcome Unit → Except Abort Unit
  | .aborted e => .error e
  | _ => .ok ()

/-- Where nothing is learned from a call, an abort of it is all that can end the part. -/
theorem Steps.carryOn {m : Run σ (Except Fault Unit)} {f : Except Fault Unit → Run σ Unit}
    {outcome : Outcome Unit} {w w' : σ} {t : List Entry} (hm : Steps m w t (settled outcome) w')
    (hf : ∀ answer, ∃ u, Steps (f answer) w' u (.ok ()) w') :
    ∃ u, Steps (m >>= f) w u (carriedOn outcome) w' := by
  -- only an abort keeps the run from going on, and then its trace is that of the call
  cases outcome with
  | answered a => exact hm.bind_exists (hf (.ok a))
  | raised fault => exact hm.bind_exists (hf (.error fault))
  | aborted e => exact ⟨_, hm.bind_error⟩

/-- What shows of an outcome that is not an abort shows of the answer in it. -/
theorem exists_of_toOption_map {o : Except Abort α} {f : α → β} {b : β}
    (h : o.toOption.map f = some b) : ∃ a, o = .ok a ∧ f a = b := by
  cases o with
  | ok a => exact ⟨a, rfl, by simpa [Except.toOption] using h⟩
  | error e => simp [Except.toOption] at h

namespace Traced

variable {m : Run σ α} {R S : List Entry → Except Abort α → Prop}

/-- What was shown of all traces of `m` holds of its trace from `w`. -/
theorem apply (h : Traced m R) (w : σ) : R (journalFrom m w) (outcomeFrom m w) := by
  rcases h w with ⟨t, o, w', hs, hR⟩
  rw [hs.journalFrom_eq, hs.outcomeFrom_eq]
  exact hR

/-- A weaker relation holds of the traces too. -/
theorem mono (h : Traced m R) (hRS : ∀ t o, R t o → S t o) : Traced m S := by
  intro w
  rcases h w with ⟨t, o, w', hs, hR⟩
  exact ⟨t, o, w', hs, hRS t o hR⟩

/-- A trace of `m` is what `m` adds to the journal from some world. -/
theorem origin (h : Traced m R) :
    Traced m fun t o => R t o ∧ ∃ w, journalFrom m w = t ∧ outcomeFrom m w = o := by
  intro w
  rcases h w with ⟨t, o, w', hs, hR⟩
  exact ⟨t, o, w', hs, hR, w, hs.journalFrom_eq, hs.outcomeFrom_eq⟩

/-! ## Rules for the smallest parts -/

/-- An answer that is there already has the empty trace. -/
theorem pure {a : α} (h : R [] (.ok a)) : Traced (Pure.pure a : Run σ α) R :=
  fun w => ⟨[], .ok a, w, steps_pure a w, h⟩

/-- An observation adds nothing to the journal, and its answer may be anything. -/
theorem observe {f : σ → α × σ} (h : ∀ a, R [] (.ok a)) : Traced (Run.observe f) R :=
  fun w => ⟨[], .ok (f w).1, (f w).2, steps_observe f w, h (f w).1⟩

/-- Writing to the journal has what is written for its trace. -/
theorem note {entries : List Entry} {R : List Entry → Except Abort Unit → Prop}
    (h : R entries (.ok ())) : Traced (Run.note entries : Run σ Unit) R := by
  intro w
  exact ⟨entries, .ok (), w, steps_note entries w, h⟩

/-! ## Rules for parts in sequence -/

/-- A sequence is cut where its first part is aborted; otherwise the trace of its second part comes
after that of the first. -/
theorem bind {f : α → Run σ β} {S : List Entry → Except Abort β → Prop} (hm : Traced m R)
    (hf : ∀ a t, R t (.ok a) → Traced (f a) fun u o => S (t ++ u) o)
    (he : ∀ e t, R t (.error e) → S t (.error e)) : Traced (m >>= f) S := by
  intro w
  rcases hm w with ⟨t, o, w₁, hs, hR⟩
  -- the world in which the first part ends is the one in which the second starts
  cases o with
  | error e => exact ⟨t, .error e, w₁, hs.bind_error, he e t hR⟩
  | ok a =>
    rcases hf a t hR w₁ with ⟨u, o', w₂, hu, hS⟩
    exact ⟨t ++ u, o', w₂, hs.bind hu, hS⟩

/-- The cleanup comes after the body however the body ends; an abort of the cleanup is the one that
shows. -/
theorem finallyDo {cleanup : Run σ Unit} {C : List Entry → Except Abort Unit → Prop}
    {S : List Entry → Except Abort α → Prop} (hm : Traced m R) (hc : Traced cleanup C)
    (h : ∀ t o u, R t o → C u (.ok ()) → S (t ++ u) o)
    (hx : ∀ t o u e, R t o → C u (.error e) → S (t ++ u) (.error e)) :
    Traced (Run.finallyDo m cleanup) S := by
  intro w
  rcases hm w with ⟨t, o, w₁, hs, hR⟩
  rcases hc w₁ with ⟨u, o', w₂, hu, hC⟩
  -- the cleanup runs in either case; its own abort takes the place of the outcome of the body
  cases o' with
  | ok a => exact ⟨t ++ u, o, w₂, hs.finallyDo hu, h t o u hR hC⟩
  | error e => exact ⟨t ++ u, .error e, w₂, hs.finallyDo_error hu, hx t o u e hR hC⟩

/-- Two branches that go on in the same way. -/
theorem ite_bind {b : Bool} {m₁ m₂ : Run σ α} {f : α → Run σ β}
    {S : List Entry → Except Abort β → Prop} (h : Traced ((if b then m₁ else m₂) >>= f) S) :
    Traced (if b then m₁ >>= f else m₂ >>= f) S := by
  cases b <;> exact h

/-- What is written comes first in the trace. -/
theorem note_bind {entries : List Entry} {f : Unit → Run σ β}
    {S : List Entry → Except Abort β → Prop} (h : Traced (f ()) fun u o => S (entries ++ u) o) :
    Traced (Run.note entries >>= f) S := by
  apply bind (R := fun t o => t = entries ∧ o = .ok ()) (note ⟨rfl, rfl⟩)
  · rintro - t ⟨rfl, -⟩
    exact h
  · rintro e t ⟨-, h⟩
    cases h

/-- A record of the log comes first in the trace. -/
theorem log_bind {level : Level} {message : String} {f : Unit → Run σ β}
    {S : List Entry → Except Abort β → Prop}
    (h : Traced (f ()) fun u o => S (.log ⟨level, .runner, message⟩ :: u) o) :
    Traced (Run.log level message >>= f) S :=
  note_bind h

/-- An observation is not in the trace, and anything may have been observed. -/
theorem observe_bind {g : σ → α × σ} {f : α → Run σ β} {S : List Entry → Except Abort β → Prop}
    (h : ∀ a, Traced (f a) S) : Traced (Run.observe g >>= f) S := by
  intro w
  rcases h (g w).1 (g w).2 with ⟨t, o, w', hs, hS⟩
  exact ⟨t, o, w', (steps_observe g w).bind hs, hS⟩

/-- Nothing comes after an abort. -/
theorem throw_bind {e : Abort} {f : α → Run σ β} {S : List Entry → Except Abort β → Prop}
    (h : S [] (.error e)) : Traced (throw e >>= f) S := by
  intro w
  exact ⟨[], .error e, w, (steps_throw e w).bind_error, h⟩

/-- A call leaves one entry, and what comes after it depends on how the call ended. -/
theorem attempt_bind {call : Call σ α} {entry : Outcome α → Entry} {f : Except Fault α → Run σ β}
    {S : List Entry → Except Abort β → Prop}
    (ha : ∀ a, Traced (f (.ok a)) fun u o => S (entry (.answered a) :: u) o)
    (hf : ∀ e, Traced (f (.error e)) fun u o => S (entry (.raised e) :: u) o)
    (hx : ∀ e, S [entry (.aborted e)] (.error e)) : Traced (Run.attempt call entry >>= f) S := by
  simp only [Run.attempt, bind_assoc]
  apply observe_bind
  intro outcome
  apply note_bind
  cases outcome with
  | answered a => exact ha a
  | raised e => exact hf e
  | aborted e => exact throw_bind (hx e)

/-- A call leaves one entry, whatever it answers. -/
theorem attempt {call : Call σ α} {entry : Outcome α → Entry}
    {R : List Entry → Except Abort (Except Fault α) → Prop}
    (h : ∀ outcome o, R [entry outcome] o) : Traced (Run.attempt call entry) R := by
  rw [← bind_pure (Run.attempt call entry)]
  apply attempt_bind
  · intro a
    exact pure (h _ _)
  · intro e
    exact pure (h _ _)
  · intro e
    exact h _ _

end Traced

end AgentChain.Run
