import AgentChain.Text.Lower

/-!
# Normal form of names

Names are compared and stored without the blanks at both ends and in lower case.

Main statement: a normal form is its own normal form (`normalize_normalize`), so it does not matter
how often a name is normalised.
-/

namespace AgentChain.Text

/-- The text without the blanks at both ends. -/
def strip (s : String) : String := String.ofList (trim s.toList)

/-- The text in lower case. -/
def lowerCase (s : String) : String := String.ofList (lower s.toList)

/-- The normal form of a name. -/
def normalize (s : String) : String := String.ofList (lower (trim s.toList))

theorem toList_normalize (s : String) : (normalize s).toList = lower (trim s.toList) := by
  simp [normalize]

/-- A normal form is its own normal form. -/
@[simp] theorem normalize_normalize (s : String) : normalize (normalize s) = normalize s := by
  simp [normalize]

/-- The normal form is reached step by step. -/
theorem lowerCase_strip (s : String) : lowerCase (strip s) = normalize s := by
  simp [normalize, lowerCase, strip]

/-- A normal form has no blank at either end. -/
theorem trim_toList_normalize (s : String) :
    trim (normalize s).toList = (normalize s).toList := by
  simp [normalize]

/-- Exactly of blank text nothing is left. -/
theorem strip_eq_empty_iff {s : String} : strip s = "" ↔ isBlankText s.toList = true := by
  rw [← trim_eq_nil_iff, strip, String.ofList_eq_empty_iff]

/-- Exactly blank text has an empty normal form. -/
theorem normalize_eq_empty_iff {s : String} :
    normalize s = "" ↔ isBlankText s.toList = true := by
  rw [← trim_eq_nil_iff, ← lower_eq_nil_iff, ← toList_normalize, String.toList_eq_nil_iff]

end AgentChain.Text
