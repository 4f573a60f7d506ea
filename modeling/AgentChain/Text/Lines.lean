import AgentChain.Number.Decimal
import AgentChain.Text.Ranges

/-!
# Lines

The characters that break a text into lines. A text that is put together breaks where its parts do,
and numbers have no line breaks.

Main statements: `lineBreaks_append`, `lineBreaks_intercalate`, `lineBreaks_toString_int`.
-/

namespace AgentChain.Text

/-- The characters that break a text into lines, as closed ranges of codes. -/
def lineBreakRanges : List (Nat × Nat) :=
  [(0x0a, 0x0d), (0x1c, 0x1e), (0x85, 0x85), (0x2028, 0x2029)]

/-- The character breaks a text into lines. -/
def isLineBreak (c : Char) : Bool := inRanges lineBreakRanges c.toNat

/-- The line breaks of a text, in order. -/
def lineBreaks (s : String) : List Char := s.toList.filter isLineBreak

/-- The text has no line break. -/
def IsOneLine (s : String) : Prop := ∀ c ∈ s.toList, isLineBreak c = false

section
variable {s t : String}

theorem isOneLine_iff : IsOneLine s ↔ lineBreaks s = [] := by
  simp [IsOneLine, lineBreaks, List.filter_eq_nil_iff]

/-- Texts have no line breaks between them exactly if each is one line. -/
theorem isOneLine_flatMap_iff {ss : List String} :
    ss.flatMap lineBreaks = [] ↔ ∀ s ∈ ss, IsOneLine s := by
  simp [isOneLine_iff]

theorem lineBreaks_append (s t : String) : lineBreaks (s ++ t) = lineBreaks s ++ lineBreaks t := by
  simp [lineBreaks]

/-- A text without line breaks adds none. -/
theorem lineBreaks_eq_nil (h : s.toList.any isLineBreak = false) : lineBreaks s = [] := by
  rw [lineBreaks, List.filter_eq_nil_iff]
  simpa using h

/-- A digit breaks no line. -/
theorem isLineBreak_eq_false_of_isDigit {c : Char} (h : c.isDigit = true) :
    isLineBreak c = false := by
  simp only [Char.isDigit, Bool.and_eq_true, decide_eq_true_eq, UInt32.le_iff_toNat_le] at h
  have hbounds : 48 ≤ c.toNat ∧ c.toNat ≤ 57 := h
  simp only [isLineBreak, inRanges, lineBreakRanges, List.any_cons, List.any_nil,
    Bool.or_false, Bool.or_eq_false_iff, Bool.and_eq_false_iff, decide_eq_false_iff_not]
  omega

/-- A natural number has no line breaks. -/
theorem lineBreaks_toString (n : Nat) : lineBreaks (toString n) = [] := by
  rw [← isOneLine_iff]
  intro c hc
  exact isLineBreak_eq_false_of_isDigit (Number.isDigit_of_mem_toString hc)

/-- Nor has a negative one. -/
theorem lineBreaks_toString_int (n : Int) : lineBreaks (toString n) = [] := by
  cases n with
  | ofNat n => exact lineBreaks_toString n
  | negSucc n =>
    have htext : toString (Int.negSucc n) = "-" ++ toString (n + 1) := rfl
    rw [htext, lineBreaks_append, lineBreaks_toString]
    decide

/-- A separator without line breaks adds none to those of the texts. -/
theorem lineBreaks_intercalate (h : lineBreaks s = []) (ss : List String) :
    lineBreaks (s.intercalate ss) = ss.flatMap lineBreaks := by
  induction ss with
  | nil => rfl
  | cons t ss ih =>
    cases ss with
    | nil => simp
    | cons u ss =>
      rw [String.intercalate_cons_cons, lineBreaks_append, lineBreaks_append, h, ih,
        List.append_nil, ← List.flatMap_cons]

end

end AgentChain.Text
