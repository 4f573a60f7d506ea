/-!
# Whole numbers in decimal digits

The text of a natural number is one digit or more, and its digits give the number back.
-/

namespace AgentChain.Number

variable {n : Nat} {c : Char}

/-- The text of a number is made of digits. -/
theorem isDigit_of_mem_toString (h : c ∈ (toString n).toList) : c.isDigit = true := by
  apply Nat.isDigit_of_mem_toDigits (b := 10) (n := n) (by decide) (by decide)
  simpa using h

theorem toList_toString_ne_nil (n : Nat) : (toString n).toList ≠ [] := by
  simp

/-- The digits of a number give it back. -/
@[simp] theorem ofDigitChars_toString (n : Nat) :
    Nat.ofDigitChars 10 (toString n).toList 0 = n := by
  simp

end AgentChain.Number
