import AgentChain.Proofs.Reading

/-!
# Pipelines written and read again

The text of a pipeline is the names of its stages with arrows in between, and a blank on each side
of an arrow. It is a chain expression, and reading it gives the stages back, if every stage is as
its role has it and its name could come from an expression: there is no arrow in it, and a colon in
it goes unnoticed. Names may start with the end of an arrow or end with the start of one, since the
blanks keep them apart. What reading yields are such stages, so that reading, writing and reading
again changes nothing.

Main statement: `pipelines_read_back`.
-/

namespace AgentChain.Expression

variable {cs xs ys part : List Char} {stage : Stage} {stages : List Stage}

/-! ## Arrows and colons in lower case -/

theorem isCaseless_hyphen : Text.IsCaseless '-' := by decide +kernel

theorem isCaseless_greater : Text.IsCaseless '>' := by decide +kernel

theorem isCaseless_colon : Text.IsCaseless ':' := by decide +kernel

/-- None of the characters that reading looks for, such as the line feed, has a case. -/
theorem isCaseless_newline : Text.IsCaseless '\n' := by decide +kernel

/-- An arrow in two texts that are joined is in one of them, or over the seam. -/
theorem arrow_infix_append_iff :
    arrow <:+: xs ++ ys ↔
      arrow <:+: xs ∨ arrow <:+: ys ∨ (xs.getLast? = some '-' ∧ ys.head? = some '>') := by
  have hstart : ∀ zs : List Char, (∃ rest, zs = '>' :: rest) ↔ zs.head? = some '>' :=
    fun zs => List.head?_eq_some_iff.symm
  induction xs with
  | nil => simp [arrow]
  | cons x xs ih =>
    rw [List.cons_append, arrow_infix_cons_iff, arrow_infix_cons_iff, hstart, hstart]
    have hrest : arrow <:+: xs ++ ys ↔ arrow <:+: xs ∨ arrow <:+: ys ∨
        (xs.getLast? = some '-' ∧ ys.head? = some '>') := ih
    rw [hrest]
    cases xs with
    | nil => simp [arrow, or_comm]
    | cons x' xs => rw [List.cons_append, List.head?_cons, List.head?_cons,
        List.getLast?_cons_cons, or_assoc]

/-- Lowering makes no arrow. -/
theorem arrow_infix_of_lowerFrom {before : List Char} (h : arrow <:+: Text.lowerFrom before cs) :
    arrow <:+: cs := by
  induction cs generalizing before with
  | nil => simp [Text.lowerFrom, arrow] at h
  | cons c cs ih =>
    rw [Text.lowerFrom, arrow_infix_append_iff] at h
    rcases h with hin | hrest | ⟨hlast, hhead⟩
    · -- both characters of the arrow would have to be this one
      have hyphen : '-' = c := (Text.mem_lowerIn_iff isCaseless_hyphen).1
        (hin.subset (by decide))
      have hgreater : '>' = c := (Text.mem_lowerIn_iff isCaseless_greater).1
        (hin.subset (by decide))
      rw [← hgreater] at hyphen
      exact absurd hyphen (by decide)
    · exact arrow_infix_cons_iff.2 (Or.inr (ih hrest))
    · have hyphen : '-' = c :=
        (Text.mem_lowerIn_iff isCaseless_hyphen).1 (List.mem_of_getLast? hlast)
      obtain ⟨c', hc', heq⟩ :=
        Text.head?_lowerFrom (Text.loweringKeeps_eq isCaseless_greater) hhead
      have hgreater : c' = '>' := by simpa using heq.symm
      rw [hgreater, List.head?_eq_some_iff] at hc'
      exact arrow_infix_cons_iff.2 (Or.inl ⟨hyphen.symm, hc'⟩)

/-- Whether a colon goes unnoticed does not depend on case. -/
theorem countRole?_lower_eq_none_iff :
    countRole? (Text.lower cs) = none ↔ countRole? cs = none := by
  have hkeeps : Text.LoweringKeeps (· != ':') := by
    intro before c after d hd
    have heq : (d == ':') = (c == ':') :=
      Text.loweringKeeps_eq isCaseless_colon before c after d hd
    show (!(d == ':')) = !(c == ':')
    rw [heq]
  obtain ⟨before, hcolon⟩ : ∃ before, (Text.lower cs).dropWhile (· != ':') =
      Text.lowerFrom before (cs.dropWhile (· != ':')) := Text.dropWhile_lowerFrom hkeeps
  unfold countRole?
  rw [hcolon]
  -- without a colon there is no count, in either case of letters
  cases hdrop : cs.dropWhile (· != ':') with
  | nil => simp [Text.lowerFrom]
  | cons c rest =>
    have hc : c = ':' := by
      have hstop : (c != ':') = false := Text.head?_dropWhile c (by rw [hdrop]; rfl)
      simpa using hstop
    rw [Text.lowerFrom, hc, Text.lowerIn_of_isSettled isCaseless_colon.1]
    -- behind the colon, the blanks and the line feeds are where they were
    obtain ⟨before', hblanks⟩ : ∃ before', (Text.lowerFrom (':' :: before) rest).dropWhile
        Text.isBlank = Text.lowerFrom before' (rest.dropWhile Text.isBlank) :=
      Text.dropWhile_lowerFrom Text.loweringKeeps_isBlank
    simp [hblanks, Text.mem_lowerFrom_iff isCaseless_newline]

/-! ## Stages that an expression can name -/

/-- A segment can be read exactly if it is not blank and no count is noticed in it. -/
theorem readable_iff_countRole? :
    Readable part ↔ Text.isBlankText part = false ∧ countRole? (Text.trim part) = none := by
  have hcolon : Text.isBlank ':' = false := by decide
  rw [countRole?_eq_none_iff, Text.mem_trim_iff hcolon]
  rfl

/-- The stage is as its role has it, and its name could come from an expression. -/
structure Expressible (stage : Stage) : Prop where
  readable : Readable stage.name.text.toList
  arrowless : ¬ arrow <:+: stage.name.text.toList
  loop_eq : stage.loop = roleLoops stage.name.text
  check_eq : stage.check = none
  prompt_eq : stage.prompt = none

/-- What is read can be written. -/
theorem Reads.expressible {segment : List Char} (h : Reads segment stage)
    (harrow : ¬ arrow <:+: segment) : Expressible stage := by
  have hname : stage.name.text.toList = Text.lower (Text.trim segment) := by
    rw [h.name_eq, ← normalize_ofList, Text.toList_normalize, String.toList_ofList]
  -- lowering the segment takes away neither a colon nor what stands behind it, and makes no arrow
  refine ⟨?_, ?_, h.loop_eq, h.check_eq, h.prompt_eq⟩
  · rw [readable_iff_countRole?, stage.name.trim_toList]
    refine ⟨stage.name.isBlankText_eq_false, ?_⟩
    rw [hname, countRole?_lower_eq_none_iff]
    exact (readable_iff_countRole?.1 h.readable).2
  · intro hin
    rw [hname] at hin
    exact harrow ((arrow_infix_of_lowerFrom hin).trans Text.trimBy_infix)

/-- A name without arrows and colons can be read. -/
theorem readable_of_colonless (name : StageName) (h : ':' ∉ name.text.toList) :
    Readable name.text.toList :=
  ⟨name.isBlankText_eq_false, fun hcolon => absurd hcolon h⟩

/-! ## Reading what is written -/

section
variable {front back : List Char}

/-- There is no arrow among blanks. -/
theorem arrowless_of_blank (hfront : ∀ c ∈ front, Text.isBlank c = true) :
    ¬ arrow <:+: front := by
  intro hin
  have hhyphen : Text.isBlank '-' = true := hfront '-' (hin.subset (by decide))
  exact absurd hhyphen (by decide)

/-- Blanks around a text do not complete an arrow. -/
theorem arrowless_padded (hfront : ∀ c ∈ front, Text.isBlank c = true)
    (hback : ∀ c ∈ back, Text.isBlank c = true) (harrow : ¬ arrow <:+: part) :
    ¬ arrow <:+: front ++ (part ++ back) := by
  rw [arrow_infix_append_iff, arrow_infix_append_iff]
  rintro (hin | (hin | hin | ⟨-, hseam⟩) | ⟨hseam, -⟩)
  · exact arrowless_of_blank hfront hin
  · exact harrow hin
  · exact arrowless_of_blank hback hin
  · have hgreater : Text.isBlank '>' = true := hback '>' (List.mem_of_mem_head? hseam)
    exact absurd hgreater (by decide)
  · have hhyphen : Text.isBlank '-' = true := hfront '-' (List.mem_of_getLast? hseam)
    exact absurd hhyphen (by decide)

/-- A stage is read from its name, whatever blanks are around it. -/
theorem Expressible.reads_padded (h : Expressible stage)
    (hfront : ∀ c ∈ front, Text.isBlank c = true) (hback : ∀ c ∈ back, Text.isBlank c = true) :
    Reads (front ++ (stage.name.text.toList ++ back)) stage := by
  have htrim : Text.trim (front ++ (stage.name.text.toList ++ back)) =
      stage.name.text.toList := by
    unfold Text.trim
    rw [Text.trimBy_append_left hfront, Text.trimBy_append_right hback]
    exact stage.name.trim_toList
  have hreadable : Readable (front ++ (stage.name.text.toList ++ back)) := by
    obtain ⟨hblank, hcount⟩ := readable_iff_countRole?.1 h.readable
    rw [stage.name.trim_toList] at hcount
    rw [readable_iff_countRole?, htrim]
    refine ⟨?_, hcount⟩
    rw [← Bool.not_eq_true, ← Text.trim_eq_nil_iff, htrim]
    intro hnil
    rw [hnil] at hblank
    exact absurd hblank (by decide)
  have hname : stage.name.text = segmentName (front ++ (stage.name.text.toList ++ back)) := by
    rw [← normalize_ofList, ← String.toList_inj, Text.toList_normalize, String.toList_ofList, htrim,
      ← stage.name.trim_toList, ← Text.toList_normalize, stage.name.normal,
      stage.name.trim_toList]
  exact ⟨hreadable, hname, h.loop_eq, h.check_eq, h.prompt_eq⟩

end

/-- What a written pipeline has between two names. -/
def spacedArrow : List Char := [' ', '-', '>', ' ']

/-- The characters of a written pipeline are those of the names with arrows in between. -/
theorem toList_pipelineText (stages : List Stage) :
    (pipelineText stages).toList =
      spacedArrow.intercalate (stages.map fun stage => stage.name.text.toList) := by
  unfold pipelineText
  rw [String.toList_intercalate, List.map_map]
  rfl

/-- Texts that are not blank and trimmed stay so when they are joined. -/
theorem trim_intercalate {names : List (List Char)} (hne : names ≠ [])
    (h : ∀ name ∈ names, Text.trim name = name ∧ name ≠ []) :
    Text.trim (spacedArrow.intercalate names) = spacedArrow.intercalate names ∧
      spacedArrow.intercalate names ≠ [] := by
  induction names with
  | nil => exact absurd rfl hne
  | cons name names ih =>
    obtain ⟨⟨htrim, hname⟩, hrest⟩ := List.forall_mem_cons.1 h
    -- the last name has no arrow behind it
    cases names with
    | nil =>
      rw [List.intercalate_singleton]
      exact ⟨htrim, hname⟩
    | cons name' names =>
      obtain ⟨htrims, hnames⟩ := ih (by simp) hrest
      rw [List.intercalate_cons_cons, List.append_assoc]
      exact ⟨Text.trimBy_append_append htrim hname htrims hnames, by simp [hname]⟩

/-- The segments of a written pipeline are the names with the blanks around them. -/
theorem reads_segments {front : List Char} (hfront : ∀ c ∈ front, Text.isBlank c = true)
    (hne : stages ≠ []) (h : ∀ stage ∈ stages, Expressible stage) :
    List.Forall₂ Reads (segments (front ++
      spacedArrow.intercalate (stages.map fun stage => stage.name.text.toList))) stages := by
  have hblank : ∀ c ∈ [' '], Text.isBlank c = true := List.forall_mem_singleton.2 (by decide)
  have hnone : ∀ c ∈ ([] : List Char), Text.isBlank c = true := by simp
  -- in front of the first name there is nothing, and in front of a later one the blank of the arrow
  induction stages generalizing front with
  | nil => exact absurd rfl hne
  | cons stage stages ih =>
    obtain ⟨hstage, hrest⟩ := List.forall_mem_cons.1 h
    cases stages with
    | nil =>
      have hpadded := arrowless_padded hfront hnone hstage.arrowless
      have hreads := hstage.reads_padded hfront hnone
      rw [List.append_nil] at hpadded hreads
      rw [List.map_singleton, List.intercalate_singleton, segments_of_arrowless hpadded]
      exact List.Forall₂.cons hreads List.Forall₂.nil
    | cons stage' stages =>
      have hpadded := arrowless_padded hfront hblank hstage.arrowless
      -- the blanks of the arrow go to the names at its two sides
      have hsplit : ∀ name rest : List Char, front ++ (name ++ spacedArrow ++ rest) =
          (front ++ (name ++ [' '])) ++ (arrow ++ ([' '] ++ rest)) := by
        intro name rest
        simp [spacedArrow, arrow]
      rw [List.map_cons, List.map_cons, List.intercalate_cons_cons, hsplit,
        segments_append_arrow hpadded]
      exact List.Forall₂.cons (hstage.reads_padded hfront hblank)
        (ih hblank (by simp) hrest)

/-- A written pipeline is read as its stages, if an expression could name them. -/
theorem read_pipelineText (hne : stages ≠ []) (h : ∀ stage ∈ stages, Expressible stage) :
    (read (pipelineText stages)).2 = .ok stages := by
  have hnames : ∀ name ∈ stages.map (fun stage => stage.name.text.toList),
      Text.trim name = name ∧ name ≠ [] := by
    intro name hname
    obtain ⟨stage, -, rfl⟩ := List.mem_map.1 hname
    refine ⟨stage.name.trim_toList, ?_⟩
    rw [ne_eq, String.toList_eq_nil_iff]
    exact stage.name.ne_empty
  obtain ⟨htrim, hnil⟩ := trim_intercalate (by simpa using hne) hnames
  rw [← toList_pipelineText] at htrim hnil
  rw [read_eq_ok_iff, ← Bool.not_eq_true, ← Text.trim_eq_nil_iff, htrim]
  refine ⟨hnil, ?_⟩
  have hnone : ∀ c ∈ ([] : List Char), Text.isBlank c = true := by simp
  have hreads := reads_segments hnone hne h
  rwa [List.nil_append, ← toList_pipelineText] at hreads

/-- The stage is as its role has it, and its name holds neither an arrow nor a colon. -/
structure Plain (stage : Stage) : Prop where
  arrowless : ¬ arrow <:+: stage.name.text.toList
  colonless : ':' ∉ stage.name.text.toList
  loop_eq : stage.loop = roleLoops stage.name.text
  check_eq : stage.check = none
  prompt_eq : stage.prompt = none

/-- A name without a colon has no count to be noticed. -/
theorem Plain.expressible (h : Plain stage) : Expressible stage :=
  ⟨readable_of_colonless stage.name h.colonless, h.arrowless, h.loop_eq, h.check_eq, h.prompt_eq⟩

/-- Plain stages are read back from the text of their pipeline, and so are the stages of every
expression that is accepted. -/
theorem pipelines_read_back :
    (∀ stages : List Stage, stages ≠ [] → (∀ stage ∈ stages, Plain stage) →
        (read (pipelineText stages)).2 = .ok stages) ∧
      ∀ (expression : String) (stages : List Stage), (read expression).2 = .ok stages →
        (read (pipelineText stages)).2 = .ok stages := by
  constructor
  · intro stages hne hplain
    exact read_pipelineText hne fun stage hstage => (hplain stage hstage).expressible
  · intro expression stages hread
    obtain ⟨-, hreads⟩ := read_eq_ok_iff.1 hread
    apply read_pipelineText
    · rintro rfl
      exact segments_ne_nil _ (List.forall₂_nil_right_iff.1 hreads)
    · intro stage hstage
      obtain ⟨part, hpart, hreads⟩ := exists_reads_of_mem hreads hstage
      exact hreads.expressible (arrowless_of_mem_segments part hpart)

/-- Names that end and start with the halves of an arrow are kept apart, and a count that was read
as part of a name is read so again. -/
theorem pipelines_read_back_seam :
    (∃ left right : Stage, left.name.text = "b-" ∧ right.name.text = ">c\nd" ∧
        (read (pipelineText [left, right])).2 = .ok [left, right]) ∧
      ∃ stages, (read "worker:1\n2 -> COORDINATOR").2 = .ok stages ∧
        (read (pipelineText stages)).2 = .ok stages := by
  constructor
  · refine ⟨{ name := ⟨"b-", by decide, by decide +kernel⟩ },
      { name := ⟨">c\nd", by decide, by decide +kernel⟩ }, rfl, rfl, ?_⟩
    apply pipelines_read_back.1 _ (by simp)
    intro stage hstage
    rw [List.mem_pair] at hstage
    rcases hstage with rfl | rfl
    · exact ⟨by decide, by decide, by decide +kernel, rfl, rfl⟩
    · exact ⟨by decide, by decide, by decide +kernel, rfl, rfl⟩
  · have hread : (read "worker:1\n2 -> COORDINATOR").2.toOption.isSome = true := by
      decide +kernel
    cases h : (read "worker:1\n2 -> COORDINATOR").2 with
    | error f => simp [h, Except.toOption] at hread
    | ok stages => exact ⟨stages, rfl, pipelines_read_back.2 _ _ h⟩

end AgentChain.Expression
