import AgentChain.Expression

/-!
# The grammar of chain expressions

By its grammar a chain expression is text that is not blank, and arrows split it into parts of which
none is blank and none has a colon in it. Reading accepts the grammar, and nothing else but for one
slip: a colon goes unnoticed if the count behind it runs over more than one line.

Main statements: the reader splits at arrows (`isSplit_iff`), and what it accepts
(`accepted_language`).
-/

namespace AgentChain.Expression

variable {cs part : List Char} {parts : List (List Char)}

/-! ## Arrows -/

/-- What stands between two stages. -/
def arrow : List Char := ['-', '>']

/-- Arrows split the text into these parts. -/
structure IsSplit (cs : List Char) (parts : List (List Char)) : Prop where
  joined : arrow.intercalate parts = cs
  ne_nil : parts ≠ []
  arrowless : ∀ part ∈ parts, ¬ arrow <:+: part

/-- An arrow in a text is at its start or further on. -/
theorem arrow_infix_cons_iff {c : Char} :
    arrow <:+: c :: cs ↔ (c = '-' ∧ ∃ rest, cs = '>' :: rest) ∨ arrow <:+: cs := by
  have hstart : arrow <+: c :: cs ↔ c = '-' ∧ ∃ rest, cs = '>' :: rest := by
    cases cs with
    | nil => simp [arrow]
    | cons d rest => simp [arrow, eq_comm]
  rw [List.infix_cons_iff, hstart]

/-- A character that does not start an arrow belongs to the first segment. -/
theorem segments_cons {c : Char} {s : List Char} {ss : List (List Char)}
    (hc : ∀ rest, c = '-' → cs = '>' :: rest → False) (hs : segments cs = s :: ss) :
    segments (c :: cs) = (c :: s) :: ss := by
  rw [segments.eq_def]
  split
  · contradiction
  next rest heq =>
    cases heq
    exact absurd rfl (hc rest rfl)
  next heq =>
    cases heq
    rw [hs]

/-- Every text has a segment. -/
theorem segments_ne_nil (cs : List Char) : segments cs ≠ [] := by
  -- the cases are those in which the reader looks at the first characters
  induction cs using segments.induct with
  | case1 | case2 => simp [segments]
  | case3 c cs _ hs ih => exact absurd hs ih
  | case4 c cs hc s ss hs ih => simp [segments_cons hc hs]

theorem intercalate_cons_cons {c : Char} {s : List Char} {ss : List (List Char)} :
    arrow.intercalate ((c :: s) :: ss) = c :: arrow.intercalate (s :: ss) := by
  cases ss <;> simp

/-- The segments of a text with arrows in between are the text. -/
theorem intercalate_segments (cs : List Char) : arrow.intercalate (segments cs) = cs := by
  induction cs using segments.induct with
  | case1 => rfl
  | case2 cs ih =>
    rcases List.exists_cons_of_ne_nil (segments_ne_nil cs) with ⟨s, ss, hs⟩
    rw [hs] at ih
    rw [segments, hs, List.intercalate_cons_cons, ih]
    rfl
  | case3 c cs _ hs => exact absurd hs (segments_ne_nil cs)
  | case4 c cs hc s ss hs ih =>
    rw [hs] at ih
    rw [segments_cons hc hs, intercalate_cons_cons, ih]

/-- A segment is the start of the text that it is the first segment of. -/
theorem prefix_of_segments_eq {s : List Char} {ss : List (List Char)}
    (h : segments cs = s :: ss) : s <+: cs := by
  have hjoin := intercalate_segments cs
  rw [h] at hjoin
  cases ss with
  | nil =>
    rw [List.intercalate_singleton] at hjoin
    exact ⟨[], by simpa using hjoin⟩
  | cons s' ss =>
    rw [List.intercalate_cons_cons, List.append_assoc] at hjoin
    exact ⟨_, hjoin⟩

/-- There is no arrow left in a segment. -/
theorem arrowless_of_mem_segments : ∀ part ∈ segments cs, ¬ arrow <:+: part := by
  induction cs using segments.induct with
  | case1 => simp [segments, arrow]
  | case2 cs ih => simpa [segments, arrow] using ih
  | case3 c cs _ hs => exact absurd hs (segments_ne_nil cs)
  | case4 c cs hc s ss hs ih =>
    rw [hs, List.forall_mem_cons] at ih
    rw [segments_cons hc hs, List.forall_mem_cons]
    refine ⟨?_, ih.2⟩
    -- an arrow at the start of the segment would be one at the start of the text
    rw [arrow_infix_cons_iff]
    rintro (⟨rfl, rest, rfl⟩ | hin)
    · rcases prefix_of_segments_eq hs with ⟨more, hmore⟩
      exact hc _ rfl hmore.symm
    · exact ih.1 hin

/-- A text without an arrow is its only segment. -/
theorem segments_of_arrowless (h : ¬ arrow <:+: part) : segments part = [part] := by
  induction part with
  | nil => rfl
  | cons c part ih =>
    rw [arrow_infix_cons_iff, not_or] at h
    refine segments_cons ?_ (ih h.2)
    intro rest hc hrest
    exact h.1 ⟨hc, rest, hrest⟩

/-- Up to the first arrow of a text goes its first segment. -/
theorem segments_append_arrow (h : ¬ arrow <:+: part) (rest : List Char) :
    segments (part ++ (arrow ++ rest)) = part :: segments rest := by
  induction part with
  | nil => rfl
  | cons c part ih =>
    rw [arrow_infix_cons_iff, not_or] at h
    refine segments_cons ?_ (ih h.2)
    intro more hc hmore
    -- the part would end in the start of an arrow, or hold one
    cases part with
    | nil => cases hmore
    | cons d part =>
      cases hmore
      exact h.1 ⟨hc, part, rfl⟩

/-- Parts without arrows are got back from the text that arrows join them to. -/
theorem segments_intercalate (hne : parts ≠ []) (h : ∀ part ∈ parts, ¬ arrow <:+: part) :
    segments (arrow.intercalate parts) = parts := by
  induction parts with
  | nil => exact absurd rfl hne
  | cons part parts ih =>
    rcases List.forall_mem_cons.1 h with ⟨hpart, hparts⟩
    cases parts with
    | nil =>
      rw [List.intercalate_singleton]
      exact segments_of_arrowless hpart
    | cons part' parts =>
      rw [List.intercalate_cons_cons, List.append_assoc, segments_append_arrow hpart,
        ih (by simp) hparts]

/-- Arrows split a text in one way only, and this is how the reader splits it. -/
theorem isSplit_iff : IsSplit cs parts ↔ parts = segments cs := by
  constructor
  · rintro ⟨rfl, hne, harrowless⟩
    exact (segments_intercalate hne harrowless).symm
  · rintro rfl
    exact ⟨intercalate_segments cs, segments_ne_nil cs, arrowless_of_mem_segments⟩

/-! ## Counts -/

/-- Behind the first colon of the text, and the blanks after it, stands more than one line. -/
def CountOverLines (cs : List Char) : Prop :=
  ∃ role blanks c rest, cs = role ++ ':' :: (blanks ++ c :: rest) ∧ ':' ∉ role ∧
    (∀ b ∈ blanks, Text.isBlank b = true) ∧ Text.isBlank c = false ∧ '\n' ∈ rest

/-- What is left from the first colon on. -/
theorem dropWhile_role {role rest : List Char} (h : ':' ∉ role) :
    (role ++ ':' :: rest).dropWhile (· != ':') = ':' :: rest := by
  have hrole : ∀ c ∈ role, (c != ':') = true := by
    intro c hc
    simpa using fun heq : c = ':' => h (heq ▸ hc)
  rw [List.dropWhile_append_of_pos hrole, List.dropWhile_cons_of_neg (by simp)]

/-- What is left from the first character on that is not blank. -/
theorem dropWhile_blanks {blanks rest : List Char} {c : Char}
    (hblanks : ∀ b ∈ blanks, Text.isBlank b = true) (hc : Text.isBlank c = false) :
    (blanks ++ c :: rest).dropWhile Text.isBlank = c :: rest := by
  rw [List.dropWhile_append_of_pos hblanks, List.dropWhile_cons_of_neg (by simp [hc])]

/-- The text behind the colon and the blanks after it starts with a character that is not blank. -/
theorem newline_mem_dropWhile_iff {rest : List Char} :
    '\n' ∈ rest.dropWhile Text.isBlank ↔ ∃ blanks c more, rest = blanks ++ c :: more ∧
      (∀ b ∈ blanks, Text.isBlank b = true) ∧ Text.isBlank c = false ∧ '\n' ∈ more := by
  constructor
  · intro h
    cases hrest : rest.dropWhile Text.isBlank with
    | nil => simp [hrest] at h
    | cons c more =>
      have hc : Text.isBlank c = false := Text.head?_dropWhile c (by rw [hrest]; rfl)
      -- a line feed is blank, so that it is not the character at which the blanks end
      have hne : '\n' ≠ c := by
        rintro rfl
        exact absurd hc (by decide)
      rw [hrest] at h
      refine ⟨rest.takeWhile Text.isBlank, c, more, ?_, ?_, hc, List.mem_of_ne_of_mem hne h⟩
      · rw [← hrest, List.takeWhile_append_dropWhile]
      · exact List.all_eq_true.1 List.all_takeWhile
  · rintro ⟨blanks, c, more, rfl, hblanks, hc, hmem⟩
    rw [dropWhile_blanks hblanks hc]
    exact List.mem_cons_of_mem c hmem

/-- Whether a count goes over lines is decided behind the first colon. -/
theorem countOverLines_iff {role rest : List Char} (hrole : ':' ∉ role) :
    CountOverLines (role ++ ':' :: rest) ↔ '\n' ∈ rest.dropWhile Text.isBlank := by
  rw [newline_mem_dropWhile_iff]
  constructor
  · rintro ⟨role', blanks, c, more, heq, hrole', h⟩
    -- both are the text at its first colon
    have hrest := congrArg (List.dropWhile (· != ':')) heq
    rw [dropWhile_role hrole, dropWhile_role hrole', List.cons.injEq] at hrest
    exact ⟨blanks, c, more, hrest.2, h⟩
  · rintro ⟨blanks, c, more, rfl, h⟩
    exact ⟨role, blanks, c, more, rfl, hrole, h⟩

/-- A colon goes unnoticed exactly if what stands behind it is on more than one line. -/
theorem countRole?_eq_none_iff : countRole? cs = none ↔ (':' ∈ cs → CountOverLines cs) := by
  -- without a colon there is no count to be noticed
  by_cases hcolon : ':' ∈ cs
  · rcases List.eq_append_cons_of_mem hcolon with ⟨role, rest, rfl, hrole⟩
    simp only [countRole?, dropWhile_role hrole, countOverLines_iff hrole, hcolon,
      forall_const]
    split <;> simp_all
  · have hnone : cs.dropWhile (· != ':') = [] := by
      apply Text.dropWhile_eq_nil_iff.2
      intro c hc
      simpa using fun heq : c = ':' => hcolon (heq ▸ hc)
    simp [countRole?, hnone, hcolon]

/-! ## Reading -/

/-- The part between two arrows can be read: it is not blank, and a colon in it goes unnoticed. -/
def Readable (part : List Char) : Prop :=
  Text.isBlankText part = false ∧ (':' ∈ part → CountOverLines (Text.trim part))

/-- A segment is read exactly if it can be. -/
theorem readSegment_ok_iff {position total : Nat} :
    (∃ stage, readSegment part position total = .ok stage) ↔ Readable part := by
  unfold Readable
  have hcolon : Text.isBlank ':' = false := by decide
  rw [← Text.mem_trim_iff hcolon, ← countRole?_eq_none_iff]
  unfold readSegment
  -- a segment without a name is blank, and one with a name is not
  cases hname : StageName.ofText? (String.ofList part) with
  | none =>
    rw [StageName.ofText?_eq_none_iff, String.toList_ofList] at hname
    simp [hname]
  | some name =>
    have hblank : Text.isBlankText part = false := by
      rw [← Bool.not_eq_true]
      intro h
      rw [← String.toList_ofList (l := part), ← StageName.ofText?_eq_none_iff, hname] at h
      cases h
    cases hcount : countRole? (Text.trim part) <;> simp [hblank, hcount]

/-- Segments are read exactly if each of them can be. -/
theorem readSegments_ok_iff {total position : Nat} :
    (∃ stages, (readSegments total position parts).2 = .ok stages) ↔
      ∀ part ∈ parts, Readable part := by
  induction parts generalizing position with
  | nil => simp [readSegments]
  | cons part parts ih =>
    have hpart : (∃ stage, readSegment part position total = .ok stage) ↔ Readable part :=
      readSegment_ok_iff
    have hparts : (∃ stages, (readSegments total (position + 1) parts).2 = .ok stages) ↔
        ∀ part ∈ parts, Readable part := ih
    rw [readSegments, List.forall_mem_cons, ← hpart, ← hparts]
    cases readSegment part position total with
    | error f => simp
    | ok stage =>
      rcases readSegments total (position + 1) parts with ⟨log, f | stages⟩ <;> simp [Except.map]

/-- An expression is read exactly if it is not blank and each of its segments can be read. -/
theorem read_ok_iff {expression : String} :
    (∃ stages, (read expression).2 = .ok stages) ↔
      Text.isBlankText expression.toList = false ∧
        ∀ part ∈ segments (Text.trim expression.toList), Readable part := by
  rw [← Bool.not_eq_true, ← Text.trim_eq_nil_iff]
  unfold read
  by_cases hblank : Text.trim expression.toList = []
  · simp [hblank]
  · simp [hblank, readSegments_ok_iff]

/-! ## The accepted language -/

/-- The expression keeps to the grammar: it is not blank, and of the parts that arrows split it into
none is blank and none has a colon in it. -/
def InGrammar (expression : String) : Prop :=
  Text.isBlankText expression.toList = false ∧
    ∃ parts, IsSplit (Text.trim expression.toList) parts ∧
      ∀ part ∈ parts, Text.isBlankText part = false ∧ ':' ∉ part

/-- The expression would keep to the grammar but for its colons, and all of these go unnoticed. -/
def HidesCount (expression : String) : Prop :=
  Text.isBlankText expression.toList = false ∧
    ∃ parts, IsSplit (Text.trim expression.toList) parts ∧ (∃ part ∈ parts, ':' ∈ part) ∧
      ∀ part ∈ parts, Text.isBlankText part = false ∧
        (':' ∈ part → CountOverLines (Text.trim part))

/-- No expression that hides a count keeps to the grammar, since it is split in one way only. -/
theorem not_inGrammar_of_hidesCount {expression : String} (h : HidesCount expression) :
    ¬ InGrammar expression := by
  rintro ⟨-, parts, hsplit, hgrammar⟩
  rcases h with ⟨-, parts', hsplit', ⟨part, hpart, hcolon⟩, -⟩
  rw [isSplit_iff.1 hsplit', ← isSplit_iff.1 hsplit] at hpart
  exact (hgrammar part hpart).2 hcolon

/-- That each segment can be read is one of two things: there is no colon at all, or all go
unnoticed. -/
theorem readable_iff {expression : String} :
    (Text.isBlankText expression.toList = false ∧
        ∀ part ∈ segments (Text.trim expression.toList), Readable part) ↔
      InGrammar expression ∨ HidesCount expression := by
  constructor
  · rintro ⟨hblank, hparts⟩
    have hsplit := isSplit_iff.2 (rfl : segments (Text.trim expression.toList) = _)
    by_cases hcolon : ∃ part ∈ segments (Text.trim expression.toList), ':' ∈ part
    · exact Or.inr ⟨hblank, _, hsplit, hcolon, hparts⟩
    · refine Or.inl ⟨hblank, _, hsplit, ?_⟩
      intro part hpart
      exact ⟨(hparts part hpart).1, fun hmem => hcolon ⟨part, hpart, hmem⟩⟩
  · rintro (⟨hblank, parts, hsplit, hparts⟩ | ⟨hblank, parts, hsplit, -, hparts⟩)
    · refine ⟨hblank, ?_⟩
      intro part hpart
      rw [← isSplit_iff.1 hsplit] at hpart
      exact ⟨(hparts part hpart).1, fun hmem => absurd hmem (hparts part hpart).2⟩
    · refine ⟨hblank, ?_⟩
      rw [← isSplit_iff.1 hsplit]
      exact hparts

/-- What reading accepts is the grammar, and besides it the expressions that hide a count; it is a
fault of every other one. -/
theorem accepted_language (expression : String) :
    ((∃ stages, (read expression).2 = .ok stages) ↔
        InGrammar expression ∨ HidesCount expression) ∧
      ((∃ f, (read expression).2 = .error f) ↔
        ¬ InGrammar expression ∧ ¬ HidesCount expression) ∧
      ¬ (InGrammar expression ∧ HidesCount expression) := by
  have hok : (∃ stages, (read expression).2 = .ok stages) ↔
      InGrammar expression ∨ HidesCount expression := read_ok_iff.trans readable_iff
  refine ⟨hok, ?_, fun h => not_inGrammar_of_hidesCount h.2 h.1⟩
  rw [← not_or, ← hok]
  cases (read expression).2 <;> simp

/-- A count that goes on in a second line is read as part of the name of its stage. -/
theorem count_over_lines_accepted :
    (∃ stages, (read "worker:1\n2").2 = .ok stages) ∧ ¬ InGrammar "worker:1\n2" := by
  have hread : (read "worker:1\n2").2.toOption.isSome = true := by decide +kernel
  have hcolon : ∃ part ∈ segments (Text.trim "worker:1\n2".toList), ':' ∈ part := by
    decide +kernel
  constructor
  · cases h : (read "worker:1\n2").2 with
    | error f => simp [h, Except.toOption] at hread
    | ok stages => exact ⟨stages, rfl⟩
  · rintro ⟨-, parts, hsplit, hparts⟩
    rcases hcolon with ⟨part, hpart, hmem⟩
    rw [← isSplit_iff.1 hsplit] at hpart
    exact (hparts part hpart).2 hmem

end AgentChain.Expression
