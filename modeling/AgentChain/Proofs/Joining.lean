import AgentChain.Proofs.RoundTrip

/-!
# Expressions joined by an arrow

Two expressions with an arrow between them are read as the one and then the other: the joined
expression is accepted exactly if both are, its stages are those of the first and then those of the
second, and so are its warnings. The arrow that joins them is found whatever the two end and start
with, since arrows cannot overlap. The blanks that are cut off the whole text before it is split lie
at the ends of its first and last segments, and these are trimmed again when they are read.

Main statement: `joined_expressions`.
-/

namespace AgentChain.Expression

variable {cs xs part other : List Char} {parts others : List (List Char)} {stage : Stage}
  {stages : List Stage}

/-! ## Segments of joined text -/

/-- Parts that are joined in two groups are joined with an arrow between the groups. -/
theorem intercalate_append (hparts : parts ≠ []) (hothers : others ≠ []) :
    arrow.intercalate (parts ++ others) =
      arrow.intercalate parts ++ (arrow ++ arrow.intercalate others) := by
  -- the arrow between the groups is the one after the last part of the first group
  induction parts with
  | nil => exact absurd rfl hparts
  | cons part parts ih =>
    cases parts with
    | nil =>
      obtain ⟨other, others, rfl⟩ := List.exists_cons_of_ne_nil hothers
      rw [List.singleton_append, List.intercalate_cons_cons, List.intercalate_singleton,
        List.append_assoc]
    | cons part' parts =>
      rw [List.cons_append, List.cons_append, List.intercalate_cons_cons, ← List.cons_append,
        ih (by simp), List.intercalate_cons_cons]
      simp only [List.append_assoc]

/-- An arrow between two texts is one at which the whole is split. -/
theorem segments_append (xs ys : List Char) :
    segments (xs ++ (arrow ++ ys)) = segments xs ++ segments ys := by
  -- arrows split a text in one way, so that it is enough that this is a way
  symm
  apply isSplit_iff.1
  refine ⟨?_, by simp [segments_ne_nil], ?_⟩
  · rw [intercalate_append (segments_ne_nil xs) (segments_ne_nil ys), intercalate_segments,
      intercalate_segments]
  · exact List.forall_mem_append.2 ⟨arrowless_of_mem_segments, arrowless_of_mem_segments⟩

/-! ## Segments of trimmed text -/

section
variable {front back : List Char}

/-- Blanks in front of a text belong to its first segment. -/
theorem segments_blank_append (hfront : ∀ c ∈ front, Text.isBlank c = true)
    (h : segments xs = part :: parts) : segments (front ++ xs) = (front ++ part) :: parts := by
  symm
  apply isSplit_iff.1
  have hall : ∀ other ∈ segments xs, ¬ arrow <:+: other := arrowless_of_mem_segments
  have hnone : ∀ c ∈ ([] : List Char), Text.isBlank c = true := by simp
  rw [h, List.forall_mem_cons] at hall
  refine ⟨?_, by simp, List.forall_mem_cons.2 ⟨?_, hall.2⟩⟩
  · rw [← intercalate_segments xs, h]
    cases parts <;> simp
  · simpa using arrowless_padded hfront hnone hall.1

/-- Blanks behind a text belong to its last segment. -/
theorem segments_append_blank (hback : ∀ c ∈ back, Text.isBlank c = true)
    (h : segments xs = parts ++ [part]) : segments (xs ++ back) = parts ++ [part ++ back] := by
  symm
  apply isSplit_iff.1
  have hall : ∀ other ∈ segments xs, ¬ arrow <:+: other := arrowless_of_mem_segments
  have hnone : ∀ c ∈ ([] : List Char), Text.isBlank c = true := by simp
  rw [h, List.forall_mem_append] at hall
  refine ⟨?_, by simp, List.forall_mem_append.2 ⟨hall.1, ?_⟩⟩
  · rw [← intercalate_segments xs, h]
    by_cases hparts : parts = []
    · simp [hparts]
    · rw [intercalate_append hparts (by simp), intercalate_append hparts (by simp)]
      simp only [List.intercalate_singleton, List.append_assoc]
  · rw [List.forall_mem_singleton] at hall ⊢
    exact arrowless_padded hnone hback hall.2

end

/-- Text has the segments of its trimmed form, but for blanks around them. -/
theorem map_trim_segments_trim (cs : List Char) :
    (segments (Text.trim cs)).map Text.trim = (segments cs).map Text.trim := by
  obtain ⟨front, back, hfront, hback, hcs⟩ := Text.exists_trimBy Text.isBlank cs
  -- blanks behind the text change its last segment only, and those in front its first
  have hbehind : (segments (Text.trim cs ++ back)).map Text.trim =
      (segments (Text.trim cs)).map Text.trim := by
    rcases List.eq_nil_or_concat (segments (Text.trim cs)) with hnil | ⟨parts, part, hlast⟩
    · exact absurd hnil (segments_ne_nil _)
    · rw [List.concat_eq_append] at hlast
      have htrim : Text.trim (part ++ back) = Text.trim part := Text.trimBy_append_right hback
      rw [segments_append_blank hback hlast, hlast, List.map_append, List.map_append,
        List.map_singleton, List.map_singleton, htrim]
  obtain ⟨part, parts, hfirst⟩ :=
    List.exists_cons_of_ne_nil (segments_ne_nil (Text.trim cs ++ back))
  have htrim : Text.trim (front ++ part) = Text.trim part := Text.trimBy_append_left hfront
  have hwhole : segments cs = (front ++ part) :: parts := by
    conv => lhs; rw [hcs]
    exact segments_blank_append hfront hfirst
  rw [← hbehind, hfirst, hwhole, List.map_cons, List.map_cons, htrim]

/-! ## Reading without trimming first -/

/-- Blanks around a segment do not matter for whether it can be read. -/
theorem Readable.of_trim_eq (h : Readable part) (htrim : Text.trim part = Text.trim other) :
    Readable other := by
  rw [readable_iff_countRole?, ← Bool.not_eq_true, ← Text.trim_eq_nil_iff] at h ⊢
  rwa [← htrim]

/-- Blanks around a segment do not matter for its name. -/
theorem segmentName_of_trim_eq (htrim : Text.trim part = Text.trim other) :
    segmentName part = segmentName other := by
  simp only [segmentName, Text.strip, String.toList_ofList, htrim]

/-- A segment is read as what is left of it when it is trimmed. -/
theorem Reads.of_trim_eq (h : Reads part stage) (htrim : Text.trim part = Text.trim other) :
    Reads other stage :=
  ⟨h.readable.of_trim_eq htrim, h.name_eq.trans (segmentName_of_trim_eq htrim), h.loop_eq,
    h.check_eq, h.prompt_eq⟩

/-- Blanks around segments do not matter for what they are read as. -/
theorem forall₂_reads_of_map_trim_eq (h : List.Forall₂ Reads parts stages)
    (htrim : parts.map Text.trim = others.map Text.trim) : List.Forall₂ Reads others stages := by
  induction h generalizing others with
  | nil =>
    rw [List.map_nil, eq_comm, List.map_eq_nil_iff] at htrim
    rw [htrim]
    exact List.Forall₂.nil
  | cons hreads _ ih =>
    obtain ⟨other, rest, rfl, hother, hrest⟩ := List.map_eq_cons_iff.1 htrim.symm
    exact List.Forall₂.cons (hreads.of_trim_eq hother.symm) (ih hrest.symm)

/-- An expression is read as its segments are, whether or not it is trimmed first. -/
theorem read_eq_ok_iff_segments {expression : String} :
    (read expression).2 = .ok stages ↔
      List.Forall₂ Reads (segments expression.toList) stages := by
  have htrim := map_trim_segments_trim expression.toList
  rw [read_eq_ok_iff]
  constructor
  · rintro ⟨-, hreads⟩
    exact forall₂_reads_of_map_trim_eq hreads htrim
  · intro hreads
    refine ⟨?_, forall₂_reads_of_map_trim_eq hreads htrim.symm⟩
    rw [← Bool.not_eq_true]
    intro hblank
    -- blank text is its only segment, and that cannot be read
    rw [segments_of_arrowless (arrowless_of_blank (List.all_eq_true.1 hblank))] at hreads
    obtain ⟨stage, rest, hstage, -⟩ := List.forall₂_cons_left_iff.1 hreads
    rw [hstage.readable.1] at hblank
    cases hblank

/-- What is read of an expression is the stages of its segments, and what is logged the warnings of
the stages. -/
theorem read_eq_iff {expression : String} {log : List LogRecord} :
    read expression = (log, .ok stages) ↔
      List.Forall₂ Reads (segments expression.toList) stages ∧ log = stages.flatMap warnings := by
  rw [← read_eq_ok_iff_segments]
  constructor
  · intro h
    have hok : (read expression).2 = .ok stages := by rw [h]
    have hlog := read_log hok
    rw [h] at hlog
    exact ⟨hok, hlog⟩
  · rintro ⟨hok, rfl⟩
    rw [← read_log hok, ← hok]

/-! ## Joined expressions -/

/-- What is related to two lists in sequence is two lists in sequence. -/
theorem forall₂_append_left_iff {α β : Type} {R : α → β → Prop} {as bs : List α} {cs : List β} :
    List.Forall₂ R (as ++ bs) cs ↔
      ∃ xs ys, cs = xs ++ ys ∧ List.Forall₂ R as xs ∧ List.Forall₂ R bs ys := by
  induction as generalizing cs with
  | nil => simp
  | cons a as ih =>
    rw [List.cons_append, List.forall₂_cons_left_iff]
    constructor
    · rintro ⟨c, rest, hc, hrest, rfl⟩
      obtain ⟨xs, ys, rfl, hxs, hys⟩ := ih.1 hrest
      exact ⟨c :: xs, ys, rfl, List.Forall₂.cons hc hxs, hys⟩
    · rintro ⟨_, ys, rfl, hleft, hys⟩
      obtain ⟨c, xs, hc, hxs, rfl⟩ := List.forall₂_cons_left_iff.1 hleft
      exact ⟨c, xs ++ ys, hc, ih.2 ⟨xs, ys, rfl, hxs, hys⟩, rfl⟩

/-- Two expressions with an arrow between them are accepted exactly if both of them are. Then the
stages are those of the first and after them those of the second, and so are the warnings. -/
theorem joined_expressions (a b : String) (log : List LogRecord) (stages : List Stage) :
    read (a ++ "->" ++ b) = (log, .ok stages) ↔
      ∃ loga stagesa logb stagesb, read a = (loga, .ok stagesa) ∧ read b = (logb, .ok stagesb) ∧
        log = loga ++ logb ∧ stages = stagesa ++ stagesb := by
  have htext : (a ++ "->" ++ b).toList = a.toList ++ (arrow ++ b.toList) := by
    rw [String.toList_append, String.toList_append, List.append_assoc]
    rfl
  simp only [read_eq_iff, htext, segments_append, forall₂_append_left_iff]
  constructor
  · rintro ⟨⟨stagesa, stagesb, rfl, ha, hb⟩, rfl⟩
    exact ⟨_, stagesa, _, stagesb, ⟨ha, rfl⟩, ⟨hb, rfl⟩, List.flatMap_append, rfl⟩
  · rintro ⟨_, stagesa, _, stagesb, ⟨ha, rfl⟩, ⟨hb, rfl⟩, rfl, rfl⟩
    exact ⟨⟨stagesa, stagesb, rfl, ha, hb⟩, List.flatMap_append.symm⟩

/-- The halves of an arrow at the seam do not hide the arrow that joins the two. -/
example : (read (" x-" ++ "->" ++ ">worker ")).2 = .ok
    [{ name := ⟨"x-", by decide, by decide +kernel⟩ },
      { name := ⟨">worker", by decide, by decide +kernel⟩ }] := by
  decide +kernel

end AgentChain.Expression
