/-!
# Rounding to the nearest whole number

A quotient of natural numbers is rounded to the nearest whole number; a half goes to the even
neighbour.

Main statements: the result is within half a unit of the quotient (`two_mul_roundHalfEven_le`,
`le_two_mul_roundHalfEven`), and of two equally near numbers it is the even one
(`even_of_tie`).
-/

namespace AgentChain.Number

/-- The whole number nearest to `num / den`; a half goes to the even neighbour. -/
def roundHalfEven (num den : Nat) : Nat :=
  let q := num / den
  let r := num % den
  if 2 * r < den ∨ (2 * r = den ∧ q % 2 = 0) then q else q + 1

/-- Rounding goes up by half a unit at most. -/
theorem two_mul_roundHalfEven_le {num den : Nat} (h : 0 < den) :
    2 * (den * roundHalfEven num den) ≤ 2 * num + den := by
  have hd := Nat.div_add_mod num den
  have hm := Nat.mod_lt num h
  unfold roundHalfEven
  simp only
  split
  · omega
  · rw [Nat.mul_add]; omega

/-- Rounding goes down by half a unit at most. -/
theorem le_two_mul_roundHalfEven {num den : Nat} (h : 0 < den) :
    2 * num ≤ 2 * (den * roundHalfEven num den) + den := by
  have hd := Nat.div_add_mod num den
  have hm := Nat.mod_lt num h
  unfold roundHalfEven
  simp only
  split
  · omega
  · rw [Nat.mul_add]; omega

/-- A quotient halfway between two whole numbers goes to the even one. -/
theorem even_of_tie {num den : Nat} (h : 2 * (num % den) = den) :
    roundHalfEven num den % 2 = 0 := by
  unfold roundHalfEven
  simp only
  split <;> omega

end AgentChain.Number
