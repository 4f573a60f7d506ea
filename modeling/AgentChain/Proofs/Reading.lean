import Mathlib.Data.List.Forall2
import AgentChain.Proofs.Grammar
import AgentChain.Proofs.ReadBack

/-!
# What is read

A chain expression that is read has one stage for each of its segments, in order. The name of the
stage is the segment without the blanks around it and in lower case, and whether it loops is a
matter of its role; it has neither a prompt nor a completion check. The name that a segment gives
passes the checks of a stage as it is, so nothing but a fault of the expression can come of reading.
What is logged is one warning for each stage whose role is not built in.

Main statement: `segments_yield_stages`.
-/

namespace AgentChain.Expression

variable {segment : List Char} {parts : List (List Char)} {stage : Stage} {stages : List Stage}

/-! ## Segments -/

/-- The name that a segment gives to its stage. -/
def segmentName (segment : List Char) : String :=
  Text.lowerCase (Text.strip (String.ofList segment))

/-- The name that a segment gives is the normal form of its text. -/
theorem normalize_ofList (segment : List Char) :
    Text.normalize (String.ofList segment) = segmentName segment :=
  (Text.lowerCase_strip _).symm

/-- A stage takes the name that the segment gives, unless that is empty. -/
theorem ofText?_ofList_eq_some_iff {name : StageName} :
    StageName.ofText? (String.ofList segment) = some name ↔ name.text = segmentName segment := by
  rw [← normalize_ofList]
  exact StageName.ofText?_eq_some_iff

/-- The segment is read as this stage. -/
structure Reads (segment : List Char) (stage : Stage) : Prop where
  readable : Readable segment
  name_eq : stage.name.text = segmentName segment
  loop_eq : stage.loop = roleLoops stage.name.text
  check_eq : stage.check = none
  prompt_eq : stage.prompt = none

/-- A segment is read as one stage only. -/
theorem Reads.unique {other : Stage} (h : Reads segment stage) (h' : Reads segment other) :
    stage = other := by
  obtain ⟨⟨name, ne_empty, normal⟩, loop, check, prompt⟩ := stage
  obtain ⟨⟨name', ne_empty', normal'⟩, loop', check', prompt'⟩ := other
  -- with the same name the rest of the stage is the same too, as its role decides it
  have hname : name = name' := h.name_eq.trans h'.name_eq.symm
  subst hname
  have hloop : loop = loop' := h.loop_eq.trans h'.loop_eq.symm
  have hcheck : check = check' := h.check_eq.trans h'.check_eq.symm
  have hprompt : prompt = prompt' := h.prompt_eq.trans h'.prompt_eq.symm
  rw [hloop, hcheck, hprompt]

/-- A segment that is read at all is read with its own name, and looping as its role has it. -/
theorem reads_of_readSegment {position total : Nat}
    (h : readSegment segment position total = .ok stage) : Reads segment stage := by
  have hreadable : Readable segment := readSegment_ok_iff.1 ⟨stage, h⟩
  unfold readSegment at h
  cases hname : StageName.ofText? (String.ofList segment) with
  | none => simp [hname] at h
  | some name =>
    have htext := ofText?_ofList_eq_some_iff.1 hname
    cases hcount : countRole? (Text.trim segment) with
    | some role => simp [hname, hcount] at h
    | none =>
      simp only [hname, hcount, Except.ok.injEq] at h
      subst h
      have hloop : Stage.loop { name, loop := roleLoops name.text } = roleLoops name.text := by
        dsimp only
      exact ⟨hreadable, htext, hloop, rfl, rfl⟩

/-- The position of a segment matters for its faults, and not for its stage. -/
theorem readSegment_eq_ok_iff {position total : Nat} :
    readSegment segment position total = .ok stage ↔ Reads segment stage := by
  constructor
  · exact reads_of_readSegment
  · intro h
    obtain ⟨other, hother⟩ := readSegment_ok_iff.2 h.readable
    have hsame : stage = other := h.unique (reads_of_readSegment hother)
    rw [hsame]
    exact hother

/-! ## Expressions -/

/-- Segments are read exactly as the stages that they are read as one by one. -/
theorem readSegments_eq_ok_iff {total position : Nat} :
    (readSegments total position parts).2 = .ok stages ↔ List.Forall₂ Reads parts stages := by
  induction parts generalizing position stages with
  | nil => simp [readSegments, eq_comm]
  | cons part parts ih =>
    rw [readSegments, List.forall₂_cons_left_iff]
    -- a fault of the first segment is the fault of all of them
    cases hpart : readSegment part position total with
    | error f =>
      have hnone : ∀ stage, ¬ Reads part stage := by
        intro stage h
        rw [← readSegment_eq_ok_iff, hpart] at h
        cases h
      simp [hnone]
    | ok stage =>
      have hreads : Reads part stage := readSegment_eq_ok_iff.1 hpart
      have hrest : ∀ rest, (readSegments total (position + 1) parts).2 = .ok rest ↔
          List.Forall₂ Reads parts rest := fun _ => ih
      show (readSegments total (position + 1) parts).2.map (stage :: ·) = .ok stages ↔ _
      constructor
      · intro h
        cases hresult : (readSegments total (position + 1) parts).2 with
        | error f => simp [hresult, Except.map] at h
        | ok rest =>
          rw [hresult] at h
          cases h
          exact ⟨stage, rest, hreads, (hrest rest).1 hresult, rfl⟩
      · rintro ⟨stage', rest, hstage', hforall, rfl⟩
        rw [(hrest rest).2 hforall, hreads.unique hstage']
        rfl

/-- What is logged of segments that are all read is the warnings of their stages. -/
theorem readSegments_log {total position : Nat}
    (h : (readSegments total position parts).2 = .ok stages) :
    (readSegments total position parts).1 = stages.flatMap warnings := by
  induction parts generalizing position stages with
  | nil =>
    cases h
    rfl
  | cons part parts ih =>
    rw [readSegments] at h ⊢
    cases hpart : readSegment part position total with
    | error f => simp [hpart] at h
    | ok stage =>
      simp only [hpart] at h ⊢
      cases hresult : (readSegments total (position + 1) parts).2 with
      | error f => simp [hresult, Except.map] at h
      | ok rest =>
        rw [hresult] at h
        cases h
        rw [ih hresult, List.flatMap_cons]

/-- An expression is read exactly as the stages of its segments, unless it is blank. -/
theorem read_eq_ok_iff {expression : String} :
    (read expression).2 = .ok stages ↔ Text.isBlankText expression.toList = false ∧
      List.Forall₂ Reads (segments (Text.trim expression.toList)) stages := by
  rw [← Bool.not_eq_true, ← Text.trim_eq_nil_iff]
  unfold read
  by_cases hblank : Text.trim expression.toList = []
  · simp [hblank]
  · simp [hblank, readSegments_eq_ok_iff]

/-- Every stage that is read comes from a segment. -/
theorem exists_reads_of_mem (h : List.Forall₂ Reads parts stages) (hstage : stage ∈ stages) :
    ∃ part ∈ parts, Reads part stage := by
  induction h with
  | nil => simp at hstage
  | cons hreads _ ih =>
    rcases List.mem_cons.1 hstage with rfl | hrest
    · exact ⟨_, List.mem_cons_self, hreads⟩
    · obtain ⟨part, hpart, hreads⟩ := ih hrest
      exact ⟨part, List.mem_cons_of_mem _ hpart, hreads⟩

/-- What is logged of an expression that is read is the warnings of its stages. -/
theorem read_log {expression : String} (h : (read expression).2 = .ok stages) :
    (read expression).1 = stages.flatMap warnings := by
  have hne : Text.trim expression.toList ≠ [] := by
    rw [ne_eq, Text.trim_eq_nil_iff, (read_eq_ok_iff.1 h).1]
    exact Bool.false_ne_true
  simp only [read, List.isEmpty_iff, hne, if_false] at h ⊢
  exact readSegments_log h

/-! ## What a segment yields -/

/-- The plain data of a stage with this name that is otherwise as its role has it. -/
def roleData (name : String) : Data :=
  .object [("name", .text name), ("loop", .bool (roleLoops name))]

/-- The stage is what a segment yields. -/
structure Yields (segment : List Char) (stage : Stage) : Prop where
  name_eq : stage.name.text = segmentName segment
  /-- The name that the segment gives passes the checks of a stage, which leave it as it is. -/
  checked : Stage.read (roleData (segmentName segment)) = .valid stage
  segmentName_ne_empty : segmentName segment ≠ ""
  loop_iff : stage.loop = true ↔ stage.name.text = Role.coordinator.name
  check_eq : stage.check = none
  prompt_eq : stage.prompt = none

/-- The coordinator is the only role that loops. -/
theorem roleLoops_text_iff {name : StageName} :
    roleLoops name.text = true ↔ name.text = Role.coordinator.name := by
  rw [← ofName?_text_eq_some_iff]
  unfold roleLoops
  cases Role.ofName? name.text with
  | none => simp
  | some role => cases role <;> simp [Role.loops]

/-- A name and whether to loop are read as a stage with nothing else. -/
theorem read_stageData (name : StageName) (loop : Bool) :
    Stage.read (.object [("name", .text name.text), ("loop", .bool loop)]) =
      .valid { name, loop } := by
  simp [Stage.read, Reader.object, StageName.readsBack.eq, Reader.readsBack_bool.eq]

/-- What a segment is read as is what it yields. -/
theorem Reads.yields (h : Reads segment stage) : Yields segment stage := by
  have hloop : stage.loop = true ↔ stage.name.text = Role.coordinator.name := by
    rw [h.loop_eq]
    exact roleLoops_text_iff
  have hread : Stage.read (roleData (segmentName segment)) =
      .valid { name := stage.name, loop := roleLoops stage.name.text } := by
    rw [← h.name_eq]
    exact read_stageData stage.name _
  have hself : Stage.mk stage.name (roleLoops stage.name.text) none none = stage := by
    rw [← h.loop_eq, ← h.check_eq, ← h.prompt_eq]
  refine ⟨h.name_eq, ?_, ?_, hloop, h.check_eq, h.prompt_eq⟩
  · rw [hread, hself]
  · rw [← h.name_eq]
    exact stage.name.ne_empty

/-! ## Warnings -/

/-- The role of the stage is not built in. -/
def isCustom (stage : Stage) : Bool := Role.all.all fun role => stage.name.text ≠ role.name

/-- The warning that a role is not built in. -/
def unknownRole (stage : Stage) : LogRecord :=
  ⟨.warning, .parser, "Unknown role " ++ Text.quoted stage.name.text ++
    " in chain expression; running it as a one-shot stage"⟩

/-- A name is of no built-in role exactly if it is not found among them. -/
theorem isCustom_iff : isCustom stage = true ↔ Role.ofName? stage.name.text = none := by
  unfold isCustom Role.ofName?
  rw [List.find?_eq_none, List.all_eq_true, stage.name.normal]
  apply forall₂_congr
  intro role _
  rw [decide_eq_true_iff, decide_eq_true_iff]
  exact ne_comm

/-- A stage whose role is not built in has one warning, and any other stage has none. -/
theorem warnings_eq (stage : Stage) :
    warnings stage = if isCustom stage then [unknownRole stage] else [] := by
  unfold warnings unknownRole
  by_cases hcustom : isCustom stage = true
  · simp [hcustom, isCustom_iff.1 hcustom]
  · have hsome : Role.ofName? stage.name.text ≠ none := fun h => hcustom (isCustom_iff.2 h)
    simp [hcustom, Option.isSome_iff_ne_none.2 hsome]

/-- Stages are warned of one by one, those with a built-in role left out. -/
theorem flatMap_warnings (stages : List Stage) :
    stages.flatMap warnings = (stages.filter isCustom).map unknownRole := by
  induction stages with
  | nil => rfl
  | cons stage stages ih =>
    rw [List.flatMap_cons, ih, warnings_eq]
    by_cases hcustom : isCustom stage = true <;> simp [hcustom]

/-! ## What an expression yields -/

/-- The text of an expression, where a missing one counts as the empty text. -/
def textOf (expression : Option String) : String := expression.getD ""

/-- The text, which arrows split into these parts, is blank, or one of the parts cannot be read. -/
def IsFaulty (text : String) (parts : List (List Char)) : Prop :=
  Text.isBlankText text.toList = true ∨ ∃ part ∈ parts, ¬ Readable part

/-- Only a faulty expression ends in a fault. -/
theorem isFaulty_of_read {text : String} {f : Fault} (h : (read text).2 = .error f)
    (hsplit : IsSplit (Text.trim text.toList) parts) : IsFaulty text parts := by
  -- an expression with no fault in it would have been read
  by_contra hnot
  simp only [IsFaulty, not_or, Bool.not_eq_true, not_exists, not_and, not_not] at hnot
  rw [isSplit_iff.1 hsplit] at hnot
  obtain ⟨stages, hok⟩ := read_ok_iff.2 hnot
  rw [h] at hok
  cases hok

/-- Each segment that can be read yields a stage. An expression is split by its arrows, apart from
the blanks around it. It is a fault if it is faulty; otherwise its stages are what the parts yield,
one by one, and the log holds one warning for each of them whose role is not built in, in order, and
nothing else. -/
theorem segments_yield_stages :
    (∀ segment, Readable segment → ∃ stage, Yields segment stage) ∧
      ∀ expression : Option String, ∃ parts,
        IsSplit (Text.trim (textOf expression).toList) parts ∧
          (((∃ f, (read (textOf expression)).2 = .error f) ∧
              IsFaulty (textOf expression) parts) ∨
            ∃ stages, (read (textOf expression)).2 = .ok stages ∧
              List.Forall₂ Yields parts stages ∧
              (read (textOf expression)).1 = (stages.filter isCustom).map unknownRole) := by
  constructor
  · intro segment hreadable
    obtain ⟨stage, hstage⟩ : ∃ stage, readSegment segment 0 1 = .ok stage :=
      readSegment_ok_iff.2 hreadable
    exact ⟨stage, (reads_of_readSegment hstage).yields⟩
  · intro expression
    -- the segments that the reader finds are the only split there is
    have hsplit := isSplit_iff.2 (rfl : segments (Text.trim (textOf expression).toList) = _)
    refine ⟨_, hsplit, ?_⟩
    cases hread : (read (textOf expression)).2 with
    | error f => exact Or.inl ⟨⟨f, rfl⟩, isFaulty_of_read hread hsplit⟩
    | ok stages =>
      refine Or.inr ⟨stages, rfl, ?_, ?_⟩
      · exact (read_eq_ok_iff.1 hread).2.imp fun _ _ h => h.yields
      · rw [read_log hread, flatMap_warnings]

/-- Three segments with blanks and capitals in them, the first of a role that is not built in and
the second of the one that loops. -/
def threeSegments : String := " Scout->\tCOORDINATOR -> worker "

/-- The blanks and the capitals are gone from the names, only the second stage loops, and only the
first one is warned of. -/
theorem threeSegments_yield_stages :
    ∃ parts stages, IsSplit (Text.trim threeSegments.toList) parts ∧
      parts.map String.ofList = ["Scout", "\tCOORDINATOR ", " worker"] ∧
      (read threeSegments).2 = .ok stages ∧ List.Forall₂ Yields parts stages ∧
      stages.map (fun stage => (stage.name.text, stage.loop)) =
        [("scout", false), ("coordinator", true), ("worker", false)] ∧
      (read threeSegments).1 = (stages.filter isCustom).map unknownRole ∧
      (stages.filter isCustom).map (·.name.text) = ["scout"] := by
  have hread : (read threeSegments).2.toOption.map
      (fun stages => (stages.map (fun stage => (stage.name.text, stage.loop)),
        (stages.filter isCustom).map (·.name.text))) =
      some ([("scout", false), ("coordinator", true), ("worker", false)], ["scout"]) := by
    decide +kernel
  have hsegments : (segments (Text.trim threeSegments.toList)).map String.ofList =
      ["Scout", "\tCOORDINATOR ", " worker"] := by
    decide +kernel
  rcases segments_yield_stages.2 (some threeSegments) with
    ⟨parts, hsplit, ⟨⟨f, herror⟩, -⟩ | ⟨stages, hok, hyields, hlog⟩⟩
  · have hfault : (read threeSegments).2 = .error f := herror
    simp [hfault, Except.toOption] at hread
  · have hstages : (read threeSegments).2 = .ok stages := hok
    have hparts : parts = segments (Text.trim threeSegments.toList) := isSplit_iff.1 hsplit
    rw [hstages] at hread
    obtain ⟨hnames, hcustom⟩ := Prod.mk.inj (Option.some.inj hread)
    exact ⟨parts, stages, hsplit, hparts ▸ hsegments, hok, hyields, hnames, hlog, hcustom⟩

end AgentChain.Expression
