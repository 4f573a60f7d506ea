import AgentChain.Record.Read
import AgentChain.Record.Show

/-!
# Data read back

Stages, results and events are shown as plain data and read from it. A reader is lenient in what it
takes, but what is shown is read as it was: each value is shown in the form that its reader takes as
it is, a name is in normal form and so stays the same when it is read, and null is shown for a
missing value only. This carries over from the simple types to lists, to fields and to records
within records.

Main statement: `events_read_back`.
-/

namespace AgentChain

/-! ## Validation -/

namespace Validated

variable {α β : Type} {f : α → β} {u : Validated (α → β)} {v : Validated α} {b : β} {issue : Issue}

/-- Applying a function that is there is mapping it. -/
theorem valid_seq (f : α → β) (v : Validated α) : (valid f <*> v) = f <$> v := by
  cases v <;> rfl

/-- A mapped value is there exactly if there was one to map. -/
theorem map_eq_valid_iff : f <$> v = valid b ↔ ∃ a, v = valid a ∧ f a = b := by
  cases v with
  | valid a => simp
  | invalid issues =>
    have hmap : f <$> (invalid issues : Validated α) = invalid issues := rfl
    simp [hmap]

/-- The step only marks issues, and leaves a value as it is. -/
theorem under_eq_valid_iff {step : Step} {a : α} : v.under step = valid a ↔ v = valid a := by
  cases v <;> simp [under]

/-- An application has a value exactly if both of its sides have one. -/
theorem seq_eq_valid_iff :
    (u <*> v) = valid b ↔ ∃ f a, u = valid f ∧ v = valid a ∧ f a = b := by
  cases u with
  | valid f => simp [valid_seq, map_eq_valid_iff]
  | invalid issues =>
    -- without a function there are issues, whether or not the argument adds more
    have hseq : ∃ others, (invalid issues <*> v : Validated β) = invalid others := by
      cases v with
      | valid a => exact ⟨_, rfl⟩
      | invalid others => exact ⟨_, rfl⟩
    obtain ⟨others, hseq⟩ := hseq
    simp [hseq]

/-- There is no value, and this is the first issue. -/
def FailsFirst (issue : Issue) (v : Validated α) : Prop :=
  ∃ issues, v = invalid (issue :: issues)

theorem FailsFirst.map (h : FailsFirst issue v) (f : α → β) : FailsFirst issue (f <$> v) := by
  obtain ⟨issues, rfl⟩ := h
  exact ⟨issues, rfl⟩

/-- The issues of the left side come first. -/
theorem FailsFirst.seq (h : FailsFirst issue u) (v : Validated α) :
    FailsFirst issue (u <*> v) := by
  obtain ⟨issues, rfl⟩ := h
  cases v with
  | valid a => exact ⟨issues, rfl⟩
  | invalid others => exact ⟨issues ++ others, rfl⟩

end Validated

/-! ## Fields -/

namespace Reader

variable {α : Type} {r : Reader α} {f : α → Data} {a : α} {name : String} {d : Data}
  {fields : List (String × Data)}

@[simp] theorem field_cons_self :
    field name r ((name, d) :: fields) = (r d).under (.field name) := by
  simp [field, Data.lookup]

/-- A field with a default is read as any other if it is there. -/
@[simp] theorem fieldOr_cons_self :
    fieldOr name a r ((name, d) :: fields) = (r d).under (.field name) := by
  simp [fieldOr, Data.lookup]

/-- A field is found behind one of another name. -/
@[simp] theorem field_cons_of_ne {other : String} (h : other ≠ name) :
    field name r ((other, d) :: fields) = field name r fields := by
  simp [field, Data.lookup, h]

/-- A field with a default is found behind one of another name as well. -/
@[simp] theorem fieldOr_cons_of_ne {other : String} (h : other ≠ name) :
    fieldOr name a r ((other, d) :: fields) = fieldOr name a r fields := by
  simp [fieldOr, Data.lookup, h]

@[simp] theorem fieldOr_nil : fieldOr name a r [] = .valid a := rfl

/-- The reader gives back each value that `f` shows as data. -/
def ReadsBack (r : Reader α) (f : α → Data) : Prop := ∀ a, r (f a) = .valid a

/-! ## Simple types -/

theorem readsBack_text : ReadsBack text .text := fun _ => rfl

theorem readsBack_bool : ReadsBack bool .bool := fun _ => rfl

theorem readsBack_int : ReadsBack int .int := fun _ => rfl

theorem readsBack_float : ReadsBack float .float := fun _ => rfl

theorem readsBack_function : ReadsBack function .callable := fun _ => rfl

/-- The text of a stop reason is read as that reason. -/
theorem readsBack_stopReason : ReadsBack stopReason StopReason.toData := by
  intro reason
  simp [stopReason, StopReason.toData]

/-! ## Parts -/

namespace ReadsBack

theorem eq (h : ReadsBack r f) (a : α) : r (f a) = .valid a := h a

/-- A missing value is shown as null, so that no other one may be. -/
theorem orNull (h : ReadsBack r f) (hnull : ∀ a, f a ≠ .null) :
    ReadsBack (orNull r) (.ofOption f) := by
  intro value
  cases value with
  | none => rfl
  | some a =>
    -- what shows a value is not null, so that it goes to the reader
    have hread : Reader.orNull r (f a) = some <$> r (f a) := by
      unfold Reader.orNull
      split
      · exact absurd ‹f a = .null› (hnull a)
      · rfl
    rw [Data.ofOption, hread, h a, Validated.map_valid]

/-- Each item is read at its own index, wherever the counting starts. -/
theorem items (h : ReadsBack r f) (as : List α) (index : Nat) :
    items r index (as.map f) = .valid as := by
  -- the index grows as the list gets shorter
  induction as generalizing index with
  | nil => rfl
  | cons a as ih =>
    rw [List.map_cons, Reader.items, h a, ih, Validated.under_valid, Validated.map_valid,
      Validated.seq_valid]

theorem list (h : ReadsBack r f) : ReadsBack (list r) fun as => .list (as.map f) :=
  fun as => h.items as 0

end ReadsBack

theorem readsBack_textOrNull : ReadsBack (orNull text) (.ofOption .text) :=
  readsBack_text.orNull fun _ => Data.noConfusion

theorem readsBack_functionOrNull : ReadsBack (orNull function) (.ofOption .callable) :=
  readsBack_function.orNull fun _ => Data.noConfusion

theorem readsBack_stopReasonOrNull : ReadsBack (orNull stopReason) (.ofOption StopReason.toData) :=
  readsBack_stopReason.orNull fun _ => Data.noConfusion

end Reader

open Reader

/-! ## Stages -/

/-- The text of a name is in normal form, so that it is read as the same name. -/
theorem StageName.readsBack : ReadsBack StageName.read fun name => .text name.text := by
  intro name
  simp [StageName.read, Reader.text, Data.text?]

/-- A draft is read back as the stage with its prompt, if that can be read. -/
theorem Draft.read_toData (d : Draft) :
    Stage.read d.toData = (fun prompt => ⟨d.name, d.loop, d.check, prompt⟩) <$>
      (orNull text d.prompt).under (.field "prompt") := by
  simp [Stage.read, Draft.toData, object, StageName.readsBack.eq, readsBack_bool.eq,
    readsBack_functionOrNull.eq, Validated.valid_seq]

/-- A stage is shown as its draft, with a prompt that can be read. -/
theorem Stage.readsBack : ReadsBack Stage.read Stage.toData := by
  intro s
  have hprompt : orNull text (.ofOption .text s.prompt) = .valid s.prompt :=
    readsBack_textOrNull s.prompt
  rw [Stage.toData, Draft.read_toData, Stage.toDraft, hprompt, Validated.under_valid,
    Validated.map_valid]

/-- The data of a stage is an object, so that null stands for a missing stage only. -/
theorem Stage.toData_ne_null (s : Stage) : s.toData ≠ .null := Data.noConfusion

/-! ## Results -/

/-- The result of a stage is read back field by field. -/
theorem StageResult.readsBack : ReadsBack StageResult.read StageResult.toData := by
  intro r
  simp [StageResult.read, StageResult.toData, object, Stage.readsBack.eq, readsBack_bool.eq,
    readsBack_int.eq, readsBack_float.eq, readsBack_textOrNull.eq, readsBack_stopReasonOrNull.eq]

/-- The result of a chain is read back, with the results of its stages. -/
theorem ChainResult.readsBack : ReadsBack ChainResult.read ChainResult.toData := by
  intro r
  simp [ChainResult.read, ChainResult.toData, object, readsBack_bool.eq,
    StageResult.readsBack.list.eq, readsBack_float.eq, readsBack_text.list.eq,
    readsBack_stopReasonOrNull.eq]

/-! ## Events -/

namespace EventKind

/-- Every kind of events has a tag of its own. -/
theorem tag_injective : Function.Injective tag := by
  intro k l h
  have hk : ofTag? k.tag = some k := ofTag?_tag k
  rw [h, ofTag?_tag] at hk
  exact (Option.some.inj hk).symm

@[simp] theorem read_tag (k : EventKind) : k.read (.text k.tag) = .valid k := by
  simp [EventKind.read]

/-- A kind of events does not take the tag of another one. -/
theorem read_tag_of_ne {k l : EventKind} (h : k ≠ l) :
    k.read (.text l.tag) = .fail (.tagExpected k) := by
  have htag : l.tag ≠ k.tag := fun heq => h (tag_injective heq).symm
  simp [EventKind.read, htag]

end EventKind

namespace Event

/-- The fields of an event are read by its kind, and the tag in front of them does not matter. -/
theorem readFields_fields (e : Event) (tag : Data) :
    e.kind.readFields (("type", tag) :: e.fields) = .valid e := by
  cases e <;>
    simp [kind, EventKind.readFields, fields, Stage.readsBack.eq, StageResult.readsBack.eq,
      ChainResult.readsBack.eq, Stage.readsBack.list.eq, readsBack_text.eq, readsBack_int.eq,
      (Stage.readsBack.orNull Stage.toData_ne_null).eq]

theorem readKind_toData (e : Event) : readKind e.kind e.toData = .valid e := by
  simp [readKind, toData, object, readFields_fields]

/-- The data of an event is invalid for every other kind. -/
theorem readKind_toData_of_ne {kind : EventKind} {e : Event} (h : kind ≠ e.kind) :
    (readKind kind e.toData).FailsFirst ⟨.tagExpected kind, [.field "type"]⟩ := by
  -- the tag is read before the fields, so that its issue comes first
  have htag : (fieldOr "type" kind kind.read (("type", .text e.kind.tag) :: e.fields)).FailsFirst
      ⟨.tagExpected kind, [.field "type"]⟩ := by
    rw [fieldOr_cons_self, EventKind.read_tag_of_ne h]
    exact ⟨[], rfl⟩
  exact (htag.map _).seq _

/-- The data of an event is valid for its own kind only, and is read as that event. -/
theorem readKind_toData_eq_valid_iff {kind : EventKind} {e other : Event} :
    readKind kind e.toData = .valid other ↔ kind = e.kind ∧ other = e := by
  by_cases h : kind = e.kind
  · subst h
    rw [readKind_toData, Validated.valid.injEq]
    simp [eq_comm]
  · obtain ⟨issues, hinvalid⟩ := readKind_toData_of_ne h
    simp [hinvalid, h]

/-- An event is read by the kind that its tag names. -/
theorem readsBack : ReadsBack read toData := by
  intro e
  -- the tag comes first among the fields, and picks the kind
  have htag : Data.lookup "type" (("type", .text e.kind.tag) :: e.fields) =
      some (.text e.kind.tag) := by
    simp [Data.lookup]
  have hkind : (Data.text? (.text e.kind.tag)).bind EventKind.ofTag? = some e.kind :=
    EventKind.ofTag?_tag e.kind
  have hread : readKind e.kind (.object (("type", .text e.kind.tag) :: e.fields)) = .valid e :=
    readKind_toData e
  simp only [read, toData, htag, hkind, hread, Validated.under_valid]

end Event

/-- Stages, results and events are read back from the data that shows them, by themselves and within
each other. The data of an event is valid for no kind of events but its own, and describes no other
event. -/
theorem events_read_back :
    ReadsBack Stage.read Stage.toData ∧ ReadsBack StageResult.read StageResult.toData ∧
      ReadsBack ChainResult.read ChainResult.toData ∧ ReadsBack Event.read Event.toData ∧
      ∀ (kind : EventKind) (e other : Event),
        Event.readKind kind e.toData = .valid other ↔ kind = e.kind ∧ other = e :=
  ⟨Stage.readsBack, StageResult.readsBack, ChainResult.readsBack, Event.readsBack,
    fun _ _ _ => Event.readKind_toData_eq_valid_iff⟩

end AgentChain
