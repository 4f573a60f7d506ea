import AgentChain.Number.Binary64

/-!
# Floats without sign

A float without sign is a number from zero up or infinite, and its zero is the positive one. It
stays so when it is multiplied by a positive number, and its exact value is then read off its bits
without a sign.

Main statement: `ofFloat_mul_thousand`.
-/

namespace AgentChain.Number

open Float.Model (UnpackedFloat Format)
open Float.Model.UnpackedFloat

/-- The float has the positive sign and is a number or infinite. -/
def IsUnsigned : UnpackedFloat → Prop
  | .infinity s => s = .positive
  | .zero s => s = .positive
  | .finite s _ _ _ => s = .positive
  | .notANumber => False

theorem IsUnsigned.dite {p : Prop} [Decidable p] {u : p → UnpackedFloat} {v : ¬ p → UnpackedFloat}
    (hu : ∀ h, IsUnsigned (u h)) (hv : ∀ h, IsUnsigned (v h)) : IsUnsigned (dite p u v) := by
  by_cases h : p
  · rw [dif_pos h]
    exact hu h
  · rw [dif_neg h]
    exact hv h

/-- Rounding keeps the sign. -/
theorem isUnsigned_roundWithAccuracy (mantissa : Nat) (exponent : Int) (accuracy : Accuracy) :
    IsUnsigned (roundWithAccuracy .binary64 .positive mantissa exponent accuracy) :=
  IsUnsigned.dite (fun _ => rfl) (fun _ => rfl)

/-- The sign of a product with a positive number is that of the other factor. -/
theorem IsUnsigned.mul_finite {u : UnpackedFloat} (hu : IsUnsigned u) {mantissa : Nat}
    {exponent : Int} (hpos : 0 < mantissa) :
    IsUnsigned (mul .binary64 u (.finite .positive mantissa exponent hpos)) := by
  cases u with
  | notANumber => exact hu.elim
  | infinity s =>
    cases hu
    rfl
  | zero s =>
    cases hu
    rfl
  | finite s m e h =>
    cases hu
    exact isUnsigned_roundWithAccuracy ..

/-- The bits of a float without sign are those of its exponent and of its fraction. -/
theorem toNat_packComponents (e : BitVec 11) (m : BitVec 52) :
    (packComponents .binary64 .positive e m).toNat = e.toNat * Nat.pow 2 52 + m.toNat := by
  unfold packComponents
  have hzero : Sign.positive.toBitVec.toNat = 0 := rfl
  rw [BitVec.toNat_append, ← Nat.shiftLeft_add_eq_or_of_lt m.isLt, BitVec.toNat_append, hzero]
  simp [Nat.shiftLeft_eq]

/-- The exact value of a float is read off the exponent and the fraction in its bits, if the bit of
the sign is not set. -/
theorem ofFloat_of_toBits {x : Float} {e m : Nat} (hx : x.toBits.toNat = e * Nat.pow 2 52 + m)
    (he : e < Nat.pow 2 11) (hm : m < Nat.pow 2 52) :
    Binary64.ofFloat x =
      if e = 2047 then if m = 0 then .infinite false else .nan
      else if e = 0 then .finite false m (-1074)
      else .finite false (Nat.pow 2 52 + m) (e - 1075) := by
  -- the powers are made literals, since omega knows those only
  have h52 : Nat.pow 2 52 = 4503599627370496 := by decide
  have h11 : Nat.pow 2 11 = 2048 := by decide
  have h63 : Nat.pow 2 63 = 9223372036854775808 := by decide
  rw [h52] at hx hm
  rw [h11] at he
  have hsign : ¬ 9223372036854775808 ≤ x.toBits.toNat := by omega
  have hexp : x.toBits.toNat / 4503599627370496 % 2048 = e := by omega
  have hfrac : x.toBits.toNat % 4503599627370496 = m := by omega
  unfold Binary64.ofFloat
  simp only [h52, h11, h63, hexp, hfrac, hsign, decide_false]

/-- What is packed of a float without sign: the fraction of an infinite one is zero. -/
theorem IsUnsigned.pack_eq {u : UnpackedFloat} (hu : IsUnsigned u) :
    ∃ (e : BitVec 11) (m : BitVec 52), pack .binary64 u = packComponents .binary64 .positive e m ∧
      (e.toNat = 2047 → m.toNat = 0) := by
  cases u with
  | notANumber => exact hu.elim
  | infinity s =>
    cases hu
    exact ⟨-1#11, 0, rfl, fun _ => rfl⟩
  | zero s =>
    cases hu
    exact ⟨0, 0, rfl, fun _ => rfl⟩
  | finite s mantissa exponent hpos =>
    cases hu
    unfold pack
    dsimp only
    split
    · exact ⟨-1#11, 0, rfl, fun _ => rfl⟩
    · rename_i hfits
      split
      · refine ⟨_, _, rfl, ?_⟩
        intro he
        rw [BitVec.toNat_ofNat, Nat.mod_eq_of_lt (by omega)] at he
        omega
      · exact ⟨0, _, rfl, fun he => absurd he (by decide)⟩

/-- A float without sign is infinite, or has an exact value without sign. -/
theorem IsUnsigned.ofFloat {u : UnpackedFloat} (hu : IsUnsigned u) :
    Binary64.ofFloat (.ofModel (.pack u)) = .infinite false ∨
      ∃ mantissa exponent,
        Binary64.ofFloat (.ofModel (.pack u)) = .finite false mantissa exponent := by
  obtain ⟨e, m, hpack, hinfinite⟩ := hu.pack_eq
  have hbits : (Float.ofModel (.pack u)).toBits.toNat =
      e.toNat * Nat.pow 2 52 + m.toNat := by
    rw [← toNat_packComponents, ← hpack]
    rfl
  rw [ofFloat_of_toBits hbits e.isLt m.isLt]
  split
  · rename_i he
    rw [if_pos (hinfinite he)]
    exact Or.inl rfl
  · split
    · exact Or.inr ⟨_, _, rfl⟩
    · exact Or.inr ⟨_, _, rfl⟩

/-- The literal zero is the positive one. -/
theorem unpack_zero : (0 : Float).toModel.unpack = .zero .positive := rfl

/-- The literal thousand is a positive number. -/
theorem unpack_thousand :
    ∃ mantissa exponent hpos,
      (1000 : Float).toModel.unpack = .finite .positive mantissa exponent hpos :=
  ⟨_, _, _, rfl⟩

/-- What compares as greater than zero has no sign. -/
theorem isUnsigned_of_pos {x : Float} (h : 0 < x) : IsUnsigned x.toModel.unpack := by
  have hlt : UnpackedFloat.compare (.zero .positive) x.toModel.unpack = some .lt := by
    rw [← unpack_zero]
    have hmodel : Float.lt 0 x = true := h
    unfold Float.lt at hmodel
    have hmodel' := of_decide_eq_true hmodel
    change UnpackedFloat.lt _ _ = true at hmodel'
    unfold UnpackedFloat.lt at hmodel'
    exact eq_of_beq hmodel'
  -- the comparison with zero fails for all that is not unsigned, the negative zero included
  cases hx : x.toModel.unpack with
  | notANumber =>
    rw [hx] at hlt
    cases hlt
  | infinity s =>
    rw [hx] at hlt
    cases s with
    | positive => rfl
    | negative => cases hlt
  | zero s =>
    rw [hx] at hlt
    cases hlt
  | finite s m e hpos =>
    rw [hx] at hlt
    cases s with
    | positive => rfl
    | negative => cases hlt

/-- The product of what is non-negative of a float and a thousand. -/
theorem ofFloat_mul_thousand (x : Float) :
    Binary64.ofFloat ((if 0 < x then x else 0) * 1000) = .infinite false ∨
      ∃ mantissa exponent, Binary64.ofFloat ((if 0 < x then x else 0) * 1000) =
        .finite false mantissa exponent := by
  have hx : IsUnsigned (if 0 < x then x else 0 : Float).toModel.unpack := by
    split
    · exact isUnsigned_of_pos ‹_›
    · rw [unpack_zero]
      rfl
  obtain ⟨mantissa, exponent, hpos, hthousand⟩ := unpack_thousand
  -- the product is packed and unpacked again, which keeps it without sign
  have hproduct : IsUnsigned (mul .binary64 (if 0 < x then x else 0 : Float).toModel.unpack
      (1000 : Float).toModel.unpack) := by
    rw [hthousand]
    exact hx.mul_finite hpos
  exact hproduct.ofFloat

end AgentChain.Number
