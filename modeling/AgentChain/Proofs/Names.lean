import AgentChain.Proofs.ReadBack

/-!
# Names of stages

A name is settled once: what a stage is called is the text without the blanks around it and in lower
case, and putting it into this form again changes nothing, so that neither new prompts nor reading
the stage back from its fields change it. Roles are found by the same form, so that all that depends
on a role is the same for the text and for the name. Blank text is no name of a stage, but the
functions of roles take it like the name of any custom role.

Main statement: `name_settled_or_blank`.
-/

namespace AgentChain

/-! ## Normal names -/

/-- The name is the normal form of the text, and shows it. -/
structure StageName.Settles (name : StageName) (s : String) : Prop where
  text_eq : name.text = Text.lowerCase (Text.strip s)
  ne_empty : name.text ≠ ""
  head_not_blank : ∀ c, name.text.toList.head? = some c → Text.isBlank c = false
  last_not_blank : ∀ c, name.text.toList.getLast? = some c → Text.isBlank c = false
  again : Text.lowerCase (Text.strip name.text) = name.text

namespace StageName

variable {s : String} {name : StageName}

/-- The name that is made of a text is the settled form of the text. -/
theorem settles_of_ofText? (h : ofText? s = some name) : name.Settles s where
  text_eq := by rw [Text.lowerCase_strip, ofText?_eq_some_iff.1 h]
  ne_empty := name.ne_empty
  head_not_blank c hc := by
    rw [← name.trim_toList] at hc
    exact Text.head?_trimBy c hc
  last_not_blank c hc := by
    rw [← name.trim_toList] at hc
    exact Text.getLast?_trimBy c hc
  again := by rw [Text.lowerCase_strip, name.normal]

end StageName

/-! ## Roles -/

/-- The functions of roles do not tell the two names apart, whatever models are assigned. -/
structure SameRole (a b : String) : Prop where
  role_eq : Role.ofName? a = Role.ofName? b
  loops_eq : roleLoops a = roleLoops b
  instruction_eq : instructionFor a = instructionFor b
  persona_eq : personaFor a = personaFor b
  model_eq : ∀ table, modelFor a table = modelFor b table

/-- All that depends on a role depends on a name by its role only. -/
theorem SameRole.of_role_eq {a b : String} (h : Role.ofName? a = Role.ofName? b) :
    SameRole a b where
  role_eq := h
  loops_eq := by rw [roleLoops, roleLoops, h]
  instruction_eq := by rw [instructionFor, instructionFor, h]
  persona_eq := by rw [personaFor, personaFor, h]
  model_eq table := by rw [modelFor, modelFor, h]

/-- The functions of roles take this for the name of a custom role. -/
structure IsCustomName (s : String) : Prop where
  role_eq : Role.ofName? s = none
  loops_eq : roleLoops s = false
  instruction_eq : instructionFor s = "Execute your assigned role."
  persona_eq : personaFor s = "You are an agent."
  model_prefers : ∀ table : Option ModelTable,
    Prefers (table.bind (·.custom)) Role.fallbackModel (modelFor s table)

/-- Whatever is not the name of a role is taken for a custom one, in all functions alike. -/
theorem isCustomName_iff {s : String} : IsCustomName s ↔ Role.ofName? s = none := by
  refine ⟨IsCustomName.role_eq, fun h => ?_⟩
  exact {
    role_eq := h
    loops_eq := by rw [roleLoops, h]; rfl
    instruction_eq := by rw [instructionFor, h]; rfl
    persona_eq := by rw [personaFor, h]; rfl
    model_prefers := fun table => by
      rw [modelFor, h]
      exact prefers_getD _ _ }

/-- Blank text is the name of no role. -/
theorem isCustomName_of_isBlankText {s : String} (h : Text.isBlankText s.toList = true) :
    IsCustomName s := by
  rw [isCustomName_iff, Role.ofName?, Text.normalize_eq_empty_iff.2 h]
  decide

/-! ## Stages -/

/-- The fields of a stage with this name, whatever else they are. -/
def IsNamed (s : String) (fields : List (String × Data)) : Prop :=
  Data.lookup "name" fields = some (.text s)

/-- The fields of a stage of which only the name is given. -/
def nameOnly (s : String) : List (String × Data) := [("name", .text s)]

variable {s : String} {name : StageName} {fields : List (String × Data)}

/-- Text is read as the name that it makes, and rejected as too short if it makes none. -/
theorem StageName.read_text (s : String) :
    StageName.read (.text s) = (StageName.ofText? s).elim (.fail .textTooShort) .valid := rfl

/-- The name of a stage is read from its field. -/
theorem field_name_of_ofText? (hfields : IsNamed s fields) (h : StageName.ofText? s = some name) :
    Reader.field "name" StageName.read fields = .valid name := by
  rw [Reader.field, hfields]
  show (StageName.read (.text s)).under _ = _
  rw [StageName.read_text, h]
  rfl

/-- A blank name is an issue of the field that it stands in. -/
theorem field_name_of_isBlankText (hfields : IsNamed s fields)
    (h : Text.isBlankText s.toList = true) :
    Reader.field "name" StageName.read fields = .invalid [⟨.textTooShort, [.field "name"]⟩] := by
  rw [Reader.field, hfields]
  show (StageName.read (.text s)).under _ = _
  rw [StageName.read_text, StageName.ofText?_eq_none_iff.2 h]
  rfl

/-- The name of a stage that was read is the one that its field makes. -/
theorem name_eq_of_read {stage : Stage} (hfields : IsNamed s fields)
    (h : StageName.ofText? s = some name) (hread : Stage.read (.object fields) = .valid stage) :
    stage.name = name := by
  simp only [Stage.read, Reader.object, field_name_of_ofText? hfields h, Validated.map_valid,
    Validated.seq_eq_valid_iff, Validated.valid.injEq] at hread
  -- of the four fields that were read the name is the innermost
  obtain ⟨_, _, ⟨_, _, ⟨_, _, rfl, -, rfl⟩, -, rfl⟩, -, rfl⟩ := hread
  rfl

/-- What is not given has its default value. -/
theorem read_nameOnly (s : String) : Stage.read (.object (nameOnly s)) =
    (fun name : StageName => { name }) <$> (StageName.read (.text s)).under (.field "name") := by
  simp (disch := decide) only [Stage.read, Reader.object, nameOnly, Reader.field_cons_self,
    Reader.fieldOr_cons_of_ne, Reader.fieldOr_nil]
  cases (StageName.read (.text s)).under (.field "name") <;> rfl

/-- The text is rejected as the name of a stage, for being too short, whatever else the stage
has. -/
structure IsRejectedName (s : String) : Prop where
  read_eq : Stage.read (.object (nameOnly s)) = .invalid [⟨.textTooShort, [.field "name"]⟩]
  failsFirst : ∀ fields, IsNamed s fields →
    (Stage.read (.object fields)).FailsFirst ⟨.textTooShort, [.field "name"]⟩

/-- Blank text is rejected as the name of a stage. -/
theorem isRejectedName_of_isBlankText (h : Text.isBlankText s.toList = true) :
    IsRejectedName s where
  read_eq := by
    rw [read_nameOnly, StageName.read_text, StageName.ofText?_eq_none_iff.2 h]
    rfl
  failsFirst fields hfields := by
    have hname : (Reader.field "name" StageName.read fields).FailsFirst
        ⟨.textTooShort, [.field "name"]⟩ :=
      ⟨[], field_name_of_isBlankText hfields h⟩
    -- the name is read first, so that its issue comes before any other
    exact (((hname.map _).seq _).seq _).seq _

/-! ## Prompts and rebuilding -/

/-- What becomes of a stage when prompts are put into it, checked or not, and when it is read again
from its own fields, in any order and any number of times. -/
inductive Stage.Derived (stage : Stage) : Draft → Prop
  | self : Derived stage stage.toDraft
  | prompted {d : Draft} (h : Derived stage d) (prompt : Data) : Derived stage (d.withPrompt prompt)
  | rebuilt {d : Draft} {other : Stage} (h : Derived stage d)
      (hread : Stage.read d.toData = .valid other) : Derived stage other.toDraft

/-- The draft has all of the stage but its prompt. -/
structure Stage.KeptIn (stage : Stage) (d : Draft) : Prop where
  name_eq : d.name = stage.name
  loop_eq : d.loop = stage.loop
  check_eq : d.check = stage.check

/-- Rebuilding keeps all but the prompt. -/
theorem Draft.keptIn_of_read {d : Draft} {other : Stage} (h : Stage.read d.toData = .valid other) :
    other.KeptIn d := by
  rw [d.read_toData, Validated.map_eq_valid_iff] at h
  obtain ⟨prompt, -, rfl⟩ := h
  exact ⟨rfl, rfl, rfl⟩

/-- However a stage is prompted and rebuilt, it keeps all but its prompt. -/
theorem Stage.Derived.keptIn {stage : Stage} {d : Draft} (h : stage.Derived d) :
    stage.KeptIn d := by
  -- a prompt changes the prompt only, and rebuilding reads back what was there
  induction h with
  | self => exact ⟨rfl, rfl, rfl⟩
  | prompted _ prompt ih => exact ⟨ih.name_eq, ih.loop_eq, ih.check_eq⟩
  | rebuilt _ hread ih =>
    have hother := Draft.keptIn_of_read hread
    exact ⟨hother.name_eq.symm.trans ih.name_eq, hother.loop_eq.symm.trans ih.loop_eq,
      hother.check_eq.symm.trans ih.check_eq⟩

/-- A draft is rebuilt exactly if its prompt is null or text. -/
theorem Draft.exists_read_iff (d : Draft) :
    (∃ other, Stage.read d.toData = .valid other) ↔
      ∃ prompt, Reader.orNull Reader.text d.prompt = .valid prompt := by
  simp only [d.read_toData, Validated.map_eq_valid_iff, Validated.under_eq_valid_iff]
  exact exists_comm.trans (by simp)

/-! ## Names -/

/-- Stages that the text names have this name, and it stays with them. -/
structure StageName.Sticks (name : StageName) (s : String) : Prop where
  read_eq : Stage.read (.object (nameOnly s)) = .valid { name }
  /-- Whatever else is given of the stage. -/
  given : ∀ fields stage, IsNamed s fields → Stage.read (.object fields) = .valid stage →
    stage.name = name
  /-- Whatever prompts are put in. A prompt that is null or text lets the stage be rebuilt. -/
  kept : ∀ stage d, stage.name = name → Stage.Derived stage d → d.name = name ∧
    ((∃ other, Stage.read d.toData = .valid other) ↔
      ∃ prompt, Reader.orNull Reader.text d.prompt = .valid prompt)

/-- The name that a text makes is read as such and stays with the stage. -/
theorem StageName.sticks_of_ofText? (h : ofText? s = some name) : name.Sticks s where
  read_eq := by
    rw [read_nameOnly, StageName.read_text, h]
    rfl
  given _ _ hfields hread := name_eq_of_read hfields h hread
  kept _ d hname hderived := ⟨hderived.keptIn.name_eq.trans hname, d.exists_read_iff⟩

/-- Text that is not blank gives a stage its normal form as its name, which is not empty, has no
blank at either end, is its own normal form, and stays with the stage; and roles do not tell the
text and the name apart. Blank text is rejected as a name, and is a custom role. -/
theorem name_settled_or_blank (s : String) :
    (Text.strip s ≠ "" ∧ ∃ name : StageName,
        name.Settles s ∧ name.Sticks s ∧ SameRole s name.text) ∨
      (Text.strip s = "" ∧ IsRejectedName s ∧ IsCustomName s) := by
  cases h : StageName.ofText? s with
  | some name =>
    have hnot : Text.strip s ≠ "" := by
      rw [ne_eq, Text.strip_eq_empty_iff, ← StageName.ofText?_eq_none_iff, h]
      exact Option.some_ne_none name
    have hrole : Role.ofName? s = Role.ofName? name.text := by
      rw [StageName.ofText?_eq_some_iff.1 h, Role.ofName?_normalize]
    exact Or.inl ⟨hnot, name, StageName.settles_of_ofText? h, StageName.sticks_of_ofText? h,
      SameRole.of_role_eq hrole⟩
  | none =>
    have hblank : Text.isBlankText s.toList = true := StageName.ofText?_eq_none_iff.1 h
    exact Or.inr ⟨Text.strip_eq_empty_iff.2 hblank, isRejectedName_of_isBlankText hblank,
      isCustomName_of_isBlankText hblank⟩

/-- A Kelvin sign is a small letter k in lower case. -/
example : (StageName.ofText? "\u3000WOR\u212aER\n").map (·.text) = some "worker" := by
  decide +kernel

end AgentChain
