import AgentChain.Proofs.Joining

/-!
# The leftmost fault

A segment offends if it is blank or asks for a count. What is wrong with an expression is told by
its leftmost segment that offends: whether this one is the first, the last or in between decides the
message if it is blank, and otherwise the message quotes it and offers its role, which can be read
on its own. The segments before it have been read by then, and their warnings are what was logged.

Main statement: `leftmost_fault`.
-/

namespace AgentChain.Expression

variable {cs role text segment : List Char} {front back parts : List (List Char)}
  {stages : List Stage} {f : Fault}

/-! ## Segments that offend -/

/-- The text is a role and a count with a colon between them. Blanks may stand in front of the
count, which is on one line. -/
def CountSyntax (role cs : List Char) : Prop :=
  ':' ∉ role ∧ ∃ blanks count, cs = role ++ ':' :: (blanks ++ count) ∧
    (∀ b ∈ blanks, Text.isBlank b = true) ∧ '\n' ∉ count

/-- The segment is blank or asks for a count. -/
def Offends (segment : List Char) : Prop :=
  Text.isBlankText segment = true ∨ ∃ role, CountSyntax role (Text.trim segment)

/-- What stands in front of the first colon. -/
theorem takeWhile_role {rest : List Char} (h : ':' ∉ role) :
    (role ++ ':' :: rest).takeWhile (· != ':') = role := by
  have hrole : ∀ c ∈ role, (c != ':') = true := by
    intro c hc
    simpa using fun heq : c = ':' => h (heq ▸ hc)
  rw [List.takeWhile_append_of_pos hrole, List.takeWhile_cons_of_neg (by simp), List.append_nil]

/-- The role of a count is noticed exactly if the text is a role and a count on one line. -/
theorem countRole?_eq_some_iff : countRole? cs = some role ↔ CountSyntax role cs := by
  by_cases hcolon : ':' ∈ cs
  · obtain ⟨first, rest, rfl, hfirst⟩ := List.eq_append_cons_of_mem hcolon
    simp only [countRole?, dropWhile_role hfirst, takeWhile_role hfirst]
    constructor
    · intro h
      split at h
      · cases h
      next hline =>
        cases h
        refine ⟨hfirst, rest.takeWhile Text.isBlank, rest.dropWhile Text.isBlank, ?_, ?_, hline⟩
        · rw [List.takeWhile_append_dropWhile]
        · exact List.all_eq_true.1 List.all_takeWhile
    · rintro ⟨hrole, blanks, count, heq, hblanks, hline⟩
      -- both are the text at its first colon
      have hsame := congrArg (List.takeWhile (· != ':')) heq
      have hrest := congrArg (List.dropWhile (· != ':')) heq
      rw [takeWhile_role hfirst, takeWhile_role hrole] at hsame
      rw [dropWhile_role hfirst, dropWhile_role hrole, List.cons.injEq] at hrest
      have hcount : '\n' ∉ rest.dropWhile Text.isBlank := by
        rw [hrest.2, List.dropWhile_append_of_pos hblanks]
        exact fun hmem => hline ((List.dropWhile_sublist _).subset hmem)
      rw [if_neg hcount, hsame]
  · have hnone : countRole? cs = none :=
      countRole?_eq_none_iff.2 fun hmem => absurd hmem hcolon
    rw [hnone]
    constructor
    · intro h
      cases h
    · rintro ⟨-, blanks, count, rfl, -⟩
      exact absurd (by simp) hcolon

/-- A segment can be read exactly if it neither is blank nor asks for a count. -/
theorem not_offends_iff : ¬ Offends segment ↔ Readable segment := by
  rw [Offends, not_or, Bool.not_eq_true, readable_iff_countRole?, Option.eq_none_iff_forall_ne_some]
  simp only [← countRole?_eq_some_iff, ne_eq, not_exists]

/-! ## The fault of a segment -/

/-- The fault of a segment is that it is blank, or else that it asks for a count. -/
theorem readSegment_eq_error_iff {position total : Nat} :
    readSegment segment position total = .error f ↔
      (Text.isBlankText segment = true ∧ f = blankFault position total) ∨
        (Text.isBlankText segment = false ∧ ∃ role, CountSyntax role (Text.trim segment) ∧
          f = .countSyntax (String.ofList (Text.trim segment)) (segmentName role)) := by
  simp only [← countRole?_eq_some_iff, ← normalize_ofList]
  unfold readSegment
  cases hname : StageName.ofText? (String.ofList segment) with
  | none =>
    rw [StageName.ofText?_eq_none_iff, String.toList_ofList] at hname
    simp [hname, eq_comm]
  | some name =>
    have hblank : Text.isBlankText segment = false := by
      rw [← Bool.not_eq_true, ← String.toList_ofList (l := segment),
        ← StageName.ofText?_eq_none_iff, hname]
      exact Option.some_ne_none name
    cases hcount : countRole? (Text.trim segment) <;> simp [hblank, hcount, eq_comm]

/-- Reading stops at the first segment that cannot be read. By then those before it have been read
and their warnings logged. -/
theorem exists_of_readSegments_error {position total : Nat}
    (h : (readSegments total position parts).2 = .error f) :
    ∃ front segment back stages, parts = front ++ segment :: back ∧
      List.Forall₂ Reads front stages ∧
      readSegment segment (position + front.length) total = .error f ∧
      (readSegments total position parts).1 = stages.flatMap warnings := by
  induction parts generalizing position with
  | nil => cases h
  | cons part parts ih =>
    rw [readSegments] at h ⊢
    cases hpart : readSegment part position total with
    | error g =>
      simp only [hpart, Except.error.injEq] at h ⊢
      refine ⟨[], part, parts, [], rfl, List.Forall₂.nil, ?_, rfl⟩
      rw [h] at hpart
      exact hpart
    | ok stage =>
      simp only [hpart] at h ⊢
      -- a segment that is read takes its place in front, and the fault is one of the rest
      have hrest : (readSegments total (position + 1) parts).2 = .error f := by
        cases hresult : (readSegments total (position + 1) parts).2 with
        | ok rest => simp [hresult, Except.map] at h
        | error g => simpa [hresult, Except.map] using h
      obtain ⟨front, segment, back, stages, rfl, hfront, hsegment, hlog⟩ := ih hrest
      refine ⟨part :: front, segment, back, stage :: stages, rfl,
        List.Forall₂.cons (readSegment_eq_ok_iff.1 hpart) hfront, ?_, ?_⟩
      · rw [List.length_cons, Nat.add_comm front.length, ← Nat.add_assoc]
        exact hsegment
      · rw [hlog, List.flatMap_cons]

/-! ## Arrows at the ends of a text -/

/-- Trimmed text has no blanks at its start, so its first segment is blank only where an arrow comes
first. -/
theorem arrow_prefix_trim_iff (hne : Text.trim cs ≠ [])
    (h : segments (Text.trim cs) = segment :: parts) :
    arrow <+: Text.trim cs ↔ Text.isBlankText segment = true := by
  have hjoin := intercalate_segments (Text.trim cs)
  constructor
  · rintro ⟨rest, hrest⟩
    have hfirst : segments (arrow ++ rest) = [] :: segments rest := rfl
    rw [← hrest, hfirst, List.cons.injEq] at h
    rw [← h.1]
    rfl
  · intro hblank
    have hnil : segment = [] :=
      Text.eq_nil_of_prefix_trimBy (prefix_of_segments_eq h) (List.all_eq_true.1 hblank)
    rw [h, hnil] at hjoin
    cases parts with
    | nil => exact absurd hjoin.symm hne
    | cons part parts =>
      rw [List.intercalate_cons_cons, List.nil_append] at hjoin
      exact ⟨_, hjoin⟩

/-- Trimmed text has no blanks at its end, so its last segment is blank only where an arrow comes
last. -/
theorem arrow_suffix_trim_iff (hparts : parts ≠ [])
    (h : segments (Text.trim cs) = parts ++ [segment]) :
    arrow <:+ Text.trim cs ↔ Text.isBlankText segment = true := by
  have hjoin := intercalate_segments (Text.trim cs)
  constructor
  · rintro ⟨rest, hrest⟩
    have hlast : segments (rest ++ arrow) = segments rest ++ [[]] := segments_append rest []
    rw [← hrest, hlast] at h
    have hsegment := (List.append_inj' h rfl).2
    rw [List.cons.injEq] at hsegment
    rw [← hsegment.1]
    rfl
  · intro hblank
    rw [h, intercalate_append hparts (by simp), List.intercalate_singleton] at hjoin
    have hlast : segment <:+ Text.trim cs := by
      refine ⟨arrow.intercalate parts ++ arrow, ?_⟩
      rw [List.append_assoc]
      exact hjoin
    -- a blank end of a trimmed text is empty
    have hnil : segment = [] := Text.eq_nil_of_suffix_trimBy hlast (List.all_eq_true.1 hblank)
    rw [hnil, List.append_nil] at hjoin
    exact ⟨_, hjoin⟩

/-! ## Messages -/

/-- The role that is offered in place of one with a count. -/
def suggestion (role : List Char) : String :=
  if Text.isBlankText role = true then "<empty>" else segmentName role

/-- The message that a stage asks for a count, with the role to use instead. -/
def countMessage (stage offered : String) : String :=
  "Stage '" ++ stage ++ "' uses the 'role:count' syntax, which is no longer supported. " ++
    "Loop behavior is intrinsic to the role; use '" ++ offered ++ "' instead."

/-- The name that a segment gives is empty exactly if the segment is blank. -/
theorem segmentName_eq_empty_iff : segmentName role = "" ↔ Text.isBlankText role = true := by
  rw [← normalize_ofList, Text.normalize_eq_empty_iff, String.toList_ofList]

/-- The message about a count offers the role in its place. -/
theorem message_countSyntax (stage : String) (role : List Char) :
    (Fault.countSyntax stage (segmentName role)).message =
      countMessage stage (suggestion role) := by
  have hoffered : (if segmentName role = "" then "<empty>" else segmentName role) =
      suggestion role := by
    unfold suggestion
    by_cases hblank : Text.isBlankText role = true
    · rw [if_pos (segmentName_eq_empty_iff.2 hblank), if_pos hblank]
    · rw [if_neg (mt segmentName_eq_empty_iff.1 hblank), if_neg hblank]
  show countMessage stage (if segmentName role = "" then "<empty>" else segmentName role) = _
  rw [hoffered]

/-- The letter that the message of a fault starts with. -/
def Fault.initial : Fault → Char
  | empty | startsWithArrow | endsWithArrow => 'C'
  | emptyStage _ => 'E'
  | countSyntax _ _ => 'S'

theorem head?_toList_append {s t : String} {c : Char} (h : s.toList.head? = some c) :
    (s ++ t).toList.head? = some c := by
  rw [String.toList_append, List.head?_append, h, Option.some_or]

/-- A message starts with the letter of its fault. -/
theorem head?_message (f : Fault) : f.message.toList.head? = some f.initial := by
  cases f with
  | empty | startsWithArrow | endsWithArrow => decide
  | emptyStage position =>
    have hstart : "Empty stage name at position ".toList.head? = some 'E' := by decide
    exact head?_toList_append hstart
  | countSyntax stage role =>
    have hstart : "Stage '".toList.head? = some 'S' := by decide
    unfold Fault.message
    iterate 5 apply head?_toList_append
    exact hstart

/-- Faults with the same message start with the same letter. -/
theorem initial_eq_of_message_eq {g : Fault} (h : f.message = g.message) :
    f.initial = g.initial := by
  have hhead := head?_message f
  rw [h, head?_message g, Option.some.injEq] at hhead
  exact hhead.symm

/-- The faults of whole expressions have messages that no other fault has. -/
theorem message_eq_iff {g : Fault} (hg : g.initial = 'C') : f.message = g.message ↔ f = g := by
  constructor
  · intro h
    have hf : f.initial = 'C' := (initial_eq_of_message_eq h).trans hg
    -- the letter leaves three faults to compare, whose messages are fixed texts
    cases g with
    | emptyStage | countSyntax => simp [Fault.initial] at hg
    | empty | startsWithArrow | endsWithArrow =>
      cases f with
      | emptyStage | countSyntax => simp [Fault.initial] at hf
      | empty | startsWithArrow | endsWithArrow => first | rfl | exact absurd h (by decide)
  · rintro rfl
    rfl

/-! ## The leftmost fault -/

/-- The message is about this segment of the text, which has the others before and behind it. -/
structure Explains (text : List Char) (front : List (List Char)) (segment : List Char)
    (back : List (List Char)) (message : String) : Prop where
  starts_iff : message = "Chain expression cannot start with '->'" ↔ arrow <+: text
  ends_iff : message = "Chain expression cannot end with '->'" ↔
    arrow <:+ text ∧ back = [] ∧ front ≠ []
  between_iff : message = "Empty stage name at position " ++ toString (front.length + 1) ↔
    Text.isBlankText segment = true ∧ front ≠ [] ∧ back ≠ []
  /-- In every other case the segment asks for a count. The role that is offered can be read. -/
  counts : ¬ arrow <+: text → ¬ (arrow <:+ text ∧ back = [] ∧ front ≠ []) →
    ¬ (Text.isBlankText segment = true ∧ front ≠ [] ∧ back ≠ []) →
      ∃ role, CountSyntax role (Text.trim segment) ∧
        message = countMessage (String.ofList (Text.trim segment)) (suggestion role) ∧
        (suggestion role ≠ "<empty>" → ∃ stage, (read (suggestion role)).2 = .ok [stage] ∧
          stage.name.text = suggestion role)

/-- The role that is offered in place of a count is an expression of its own, which names one
stage. -/
theorem read_suggestion (hrole : ':' ∉ role) (harrow : ¬ arrow <:+: role)
    (hoffered : suggestion role ≠ "<empty>") :
    ∃ stage, (read (suggestion role)).2 = .ok [stage] ∧ stage.name.text = suggestion role := by
  have hblank : Text.isBlankText role = false := by
    rw [← Bool.not_eq_true]
    exact fun hblank => hoffered (if_pos hblank)
  have hsuggestion : suggestion role = segmentName role :=
    if_neg (by rw [hblank]; exact Bool.false_ne_true)
  obtain ⟨stage, hstage⟩ : ∃ stage, readSegment role 0 1 = .ok stage :=
    readSegment_ok_iff.2 ⟨hblank, fun hcolon => absurd hcolon hrole⟩
  have hreads := reads_of_readSegment hstage
  have hname : pipelineText [stage] = suggestion role := by
    rw [hsuggestion, ← hreads.name_eq]
    exact String.intercalate_singleton
  refine ⟨stage, ?_, hreads.name_eq.trans hsuggestion.symm⟩
  rw [← hname]
  exact read_pipelineText (by simp) (List.forall_mem_singleton.2 (hreads.expressible harrow))

/-- What the fault of a segment says of the place at which it stands. -/
theorem fault_place
    (h : readSegment segment front.length (front ++ segment :: back).length = .error f) :
    (f = .startsWithArrow ↔ Text.isBlankText segment = true ∧ front = []) ∧
      (f = .endsWithArrow ↔ Text.isBlankText segment = true ∧ front ≠ [] ∧ back = []) ∧
      (f.initial = 'E' ↔ Text.isBlankText segment = true ∧ front ≠ [] ∧ back ≠ []) ∧
      (f.initial = 'E' → f = .emptyStage (front.length + 1)) := by
  rcases readSegment_eq_error_iff.1 h with ⟨hblank, rfl⟩ | ⟨hblank, role, -, rfl⟩
  · by_cases hfront : front = [] <;> by_cases hback : back = [] <;>
      simp [blankFault, Fault.initial, hblank, hfront, hback]
  · simp [Fault.initial, hblank]

/-- The reader's message explains the fault of the segment that it stops at. -/
theorem explains_of_readSegment (hne : Text.trim cs ≠ [])
    (hparts : segments (Text.trim cs) = front ++ segment :: back)
    (hfront : ∀ before ∈ front, ¬ Offends before)
    (h : readSegment segment front.length (front ++ segment :: back).length = .error f) :
    Explains (Text.trim cs) front segment back f.message := by
  obtain ⟨hstart, hend, hbetween, hposition⟩ := fault_place h
  -- a blank segment offends, so that it is not before the leftmost one that does
  have hstarts : arrow <+: Text.trim cs ↔ Text.isBlankText segment = true ∧ front = [] := by
    cases front with
    | nil => simpa using arrow_prefix_trim_iff hne hparts
    | cons first rest =>
      rw [arrow_prefix_trim_iff hne hparts]
      simpa using fun hblank => hfront first List.mem_cons_self (Or.inl hblank)
  have hends : (arrow <:+ Text.trim cs ∧ back = [] ∧ front ≠ []) ↔
      Text.isBlankText segment = true ∧ front ≠ [] ∧ back = [] := by
    constructor
    · rintro ⟨harrow, rfl, hnil⟩
      exact ⟨(arrow_suffix_trim_iff hnil hparts).1 harrow, hnil, rfl⟩
    · rintro ⟨hblank, hnil, rfl⟩
      exact ⟨(arrow_suffix_trim_iff hnil hparts).2 hblank, rfl, hnil⟩
  refine ⟨?_, ?_, ?_, ?_⟩
  · exact (message_eq_iff (g := .startsWithArrow) rfl).trans (hstart.trans hstarts.symm)
  · exact (message_eq_iff (g := .endsWithArrow) rfl).trans (hend.trans hends.symm)
  · rw [← hbetween]
    constructor
    · exact initial_eq_of_message_eq (g := .emptyStage (front.length + 1))
    · intro hinitial
      rw [hposition hinitial]
      rfl
  · rw [hstarts, hends]
    intro hnotStart hnotEnd hnotBetween
    rcases readSegment_eq_error_iff.1 h with ⟨hblank, -⟩ | ⟨-, role, hcount, rfl⟩
    · have hnil : front ≠ [] := fun hnil => hnotStart ⟨hblank, hnil⟩
      have hnil' : back ≠ [] := fun hnil' => hnotEnd ⟨hblank, hnil, hnil'⟩
      exact absurd ⟨hblank, hnil, hnil'⟩ hnotBetween
    -- the role is part of a segment, so that there is no arrow in it
    · refine ⟨role, hcount, message_countSyntax _ role, read_suggestion hcount.1 ?_⟩
      obtain ⟨hcolon, blanks, count, heq, -⟩ := hcount
      have hpart : ¬ arrow <:+: segment :=
        arrowless_of_mem_segments segment (by rw [hparts]; simp)
      intro hin
      have hrole : role <:+: Text.trim segment := ⟨[], ':' :: (blanks ++ count), by simp [heq]⟩
      exact hpart (hin.trans (hrole.trans Text.trimBy_infix))

/-- A fault of an expression that is not blank is that of its leftmost segment that offends, and the
message explains it. What is logged is the warnings of the segments before that one. -/
theorem leftmost_fault (expression : String) (f : Fault)
    (hblank : Text.isBlankText expression.toList = false)
    (h : (read expression).2 = .error f) :
    ∃ front segment back stages, IsSplit (Text.trim expression.toList) (front ++ segment :: back) ∧
      (∀ before ∈ front, ¬ Offends before) ∧ Offends segment ∧
      Explains (Text.trim expression.toList) front segment back f.message ∧
      List.Forall₂ Yields front stages ∧
      (read expression).1 = (stages.filter isCustom).map unknownRole := by
  have hne : Text.trim expression.toList ≠ [] := by
    rw [ne_eq, Text.trim_eq_nil_iff, hblank]
    exact Bool.false_ne_true
  have hread : read expression =
      readSegments (segments (Text.trim expression.toList)).length 0
        (segments (Text.trim expression.toList)) := by
    simp only [read, List.isEmpty_iff, hne, if_false]
  rw [hread] at h ⊢
  obtain ⟨front, segment, back, stages, hparts, hreads, hsegment, hlog⟩ :=
    exists_of_readSegments_error h
  rw [Nat.zero_add, hparts] at hsegment
  have hreadable : ∀ before ∈ front, Readable before :=
    ((List.forall₂_and_left front stages).1 (hreads.imp fun _ _ hread => ⟨hread.readable, hread⟩)).1
  have hfront : ∀ before ∈ front, ¬ Offends before :=
    fun before hbefore => not_offends_iff.2 (hreadable before hbefore)
  have hoffends : Offends segment := by
    by_contra hnot
    obtain ⟨stage, hstage⟩ := readSegment_ok_iff.2 (not_offends_iff.1 hnot)
    rw [hstage] at hsegment
    cases hsegment
  have hyields : List.Forall₂ Yields front stages := hreads.imp fun _ _ hread => hread.yields
  refine ⟨front, segment, back, stages, isSplit_iff.2 hparts.symm, hfront, hoffends,
    explains_of_readSegment hne hparts hfront hsegment, hyields, ?_⟩
  rw [hlog, flatMap_warnings]

/-- Of a count and the arrows behind it the count is told, after the warning for the role before
it. -/
theorem leftmost_fault_count : Text.isBlankText " Scout -> Reviewer : 3 -> ->".toList = false ∧
    ∃ f, (read " Scout -> Reviewer : 3 -> ->").2 = .error f ∧
      ∃ front segment back stages,
        IsSplit (Text.trim " Scout -> Reviewer : 3 -> ->".toList) (front ++ segment :: back) ∧
        (∀ before ∈ front, ¬ Offends before) ∧ Offends segment ∧
        Explains (Text.trim " Scout -> Reviewer : 3 -> ->".toList) front segment back f.message ∧
        List.Forall₂ Yields front stages ∧
        (read " Scout -> Reviewer : 3 -> ->").1 = (stages.filter isCustom).map unknownRole := by
  have hblank : Text.isBlankText " Scout -> Reviewer : 3 -> ->".toList = false := by decide
  have hread : (read " Scout -> Reviewer : 3 -> ->").2 =
      .error (.countSyntax "Reviewer : 3" "reviewer") := by
    decide +kernel
  exact ⟨hblank, _, hread, leftmost_fault _ _ hblank hread⟩

end AgentChain.Expression
