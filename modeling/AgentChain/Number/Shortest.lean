import AgentChain.Number.Binary64
import AgentChain.Number.Decimal

/-!
# Shortest decimal text of a float

The text of a float has the fewest digits that no other float is nearest to, and of the decimals of
that length the one nearest to the float. It is positional from one ten-thousandth up to sixteen
digits before the point, and has an exponent of at least two digits elsewhere.
-/

namespace AgentChain.Number

/-- A positive decimal `digits * 10 ^ exponent`. -/
structure ShortDecimal where
  digits : Nat
  exponent : Int
deriving DecidableEq, Repr

/-- The value `mantissa * 2 ^ exponent` with the half-gaps to its two neighbours: in units of a
quarter of the last bit, the value and the ends of the interval of reals nearest to it. -/
structure Neighbourhood where
  low : Nat
  value : Nat
  high : Nat
  /-- The ends belong to the interval: an even mantissa wins ties. -/
  closed : Bool
  exponent : Int

/-- The interval of reals to which a finite float is nearest. The gap below a power of two is half
the gap above. -/
def Neighbourhood.of (mantissa : Nat) (exponent : Int) : Neighbourhood :=
  let narrow := mantissa = Nat.pow 2 52 ∧ -1074 < exponent
  { low := 4 * mantissa - (if narrow then 1 else 2)
    value := 4 * mantissa
    high := 4 * mantissa + 2
    closed := mantissa % 2 = 0
    exponent := exponent - 2 }

/-- `n * 2 ^ b / 10 ^ d` as a quotient of whole numbers. -/
def ratio (n : Nat) (b d : Int) : Nat × Nat :=
  (n * Nat.pow 2 b.toNat * Nat.pow 10 (-d).toNat, Nat.pow 2 (-b).toNat * Nat.pow 10 d.toNat)

/-- The multiple of `10 ^ d` nearest to the value, if one lies in the interval. -/
def Neighbourhood.onGrid? (w : Neighbourhood) (d : Int) : Option ShortDecimal :=
  let v := ratio w.value w.exponent d
  let lo := ratio w.low w.exponent d
  let hi := ratio w.high w.exponent d
  let inside (k : Nat) : Bool :=
    if w.closed then lo.1 ≤ k * lo.2 && k * hi.2 ≤ hi.1 else lo.1 < k * lo.2 && k * hi.2 < hi.1
  let down := v.1 / v.2
  let nearest := roundHalfEven v.1 v.2
  if inside nearest then some ⟨nearest, d⟩
  else if inside down then some ⟨down, d⟩
  else if inside (down + 1) then some ⟨down + 1, d⟩
  else none

/-- The number of decimal digits. -/
def digitCount (n : Nat) : Nat := (toString n).length

/-- The exponent of the leading decimal digit of the value, plus one. -/
def leadingExponent (v : Nat × Nat) : Int :=
  let q := v.1 / v.2
  if q ≠ 0 then digitCount q
  else
    let scaled := v.1 * Nat.pow 10 330 / v.2
    digitCount scaled - 330

/-- Tries the grids from coarse to fine, `fuel` of them. -/
def Neighbourhood.search (w : Neighbourhood) (d : Int) : (fuel : Nat) → Option ShortDecimal
  | 0 => none
  | fuel + 1 => (w.onGrid? d).or (w.search (d - 1) fuel)

/-- The shortest decimal of a positive finite float; seventeen digits always suffice. -/
def shortest (mantissa : Nat) (exponent : Int) : ShortDecimal :=
  let w := Neighbourhood.of mantissa exponent
  (w.search (leadingExponent (ratio mantissa exponent 0)) 19).getD ⟨mantissa, exponent⟩

/-- The decimal without zeros at its end. -/
def ShortDecimal.trimmed (x : ShortDecimal) : List Char × Int :=
  let ds := (toString x.digits).toList
  let kept := (ds.reverse.dropWhile (· == '0')).reverse
  (kept, x.exponent + (ds.length - kept.length : Nat))

/-- The decimal as text: positional where the point falls from three places before the digits to
sixteen digits after their start. -/
def ShortDecimal.text (x : ShortDecimal) : String :=
  let (ds, e) := x.trimmed
  let point : Int := ds.length + e
  if -4 < point ∧ point ≤ 16 then
    if point ≤ 0 then "0." ++ "".pushn '0' (-point).toNat ++ String.ofList ds
    else
      let whole := ds.take point.toNat
      let fraction := ds.drop point.toNat
      String.ofList whole ++ "".pushn '0' (point.toNat - whole.length) ++ "." ++
        (if fraction.isEmpty then "0" else String.ofList fraction)
  else
    let power := point - 1
    let size := toString power.natAbs
    String.ofList (ds.take 1) ++ (if ds.length ≤ 1 then "" else "." ++ String.ofList (ds.drop 1)) ++
      "e" ++ (if power < 0 then "-" else "+") ++ (if size.length < 2 then "0" else "") ++ size

/-- The shortest text of a float. -/
def shortestText (x : Float) : String :=
  match Binary64.ofFloat x with
  | .nan => "nan"
  | .infinite negative => if negative then "-inf" else "inf"
  | .finite negative mantissa exponent =>
    (if negative then "-" else "") ++
      (if mantissa = 0 then "0.0" else (shortest mantissa exponent).text)

/-! ## Letters in the text of a number -/

/-- The text has no capital letters. -/
def IsLower (s : String) : Prop := s.toList.all (!·.isUpper) = true

theorem isLower_iff {s : String} : IsLower s ↔ ∀ c ∈ s.toList, c.isUpper = false := by
  simp [IsLower]

namespace IsLower

variable {s t : String}

theorem append (hs : IsLower s) (ht : IsLower t) : IsLower (s ++ t) := by
  unfold IsLower
  rw [String.toList_append, List.all_append, hs, ht, Bool.true_and]

theorem ite {p : Prop} [Decidable p] (hs : IsLower s) (ht : IsLower t) :
    IsLower (if p then s else t) := by
  split
  · exact hs
  · exact ht

/-- A text of characters that are in one without capital letters has none. -/
theorem ofList_of_subset {cs : List Char} (hs : IsLower s) (h : cs ⊆ s.toList) :
    IsLower (String.ofList cs) := by
  rw [isLower_iff] at hs ⊢
  intro c hc
  rw [String.toList_ofList] at hc
  exact hs c (h hc)

theorem toString (n : Nat) : IsLower (ToString.toString n) := by
  rw [isLower_iff]
  intro c hc
  have hdigit : c.isDigit = true := isDigit_of_mem_toString hc
  have hnine : c.val ≤ '9'.val := of_decide_eq_true (Bool.and_eq_true_iff.1 hdigit).2
  rw [Bool.eq_false_iff]
  intro hupper
  have hA : 'A'.val ≤ c.val := (of_decide_eq_true hupper).1
  exact absurd (UInt32.le_trans hA hnine) (by decide)

/-- Zeros behind a text are no capital letters. -/
theorem pushn (hs : IsLower s) (n : Nat) : IsLower (s.pushn '0' n) := by
  induction n with
  | zero => exact hs
  | succ n ih =>
    have hpush : s.pushn '0' (n + 1) = (s.pushn '0' n).push '0' := rfl
    unfold IsLower
    rw [hpush, String.toList_push, List.all_append, ih]
    rfl

end IsLower

/-- Trimming leaves some of the digits. -/
theorem ShortDecimal.trimmed_subset (x : ShortDecimal) :
    x.trimmed.1 ⊆ (toString x.digits).toList := by
  intro c hc
  apply List.mem_reverse.1
  apply (List.dropWhile_sublist (· == '0')).subset
  exact List.mem_reverse.1 hc

/-- Besides digits, the text of a decimal has a point, an exponent in lower case and its sign. -/
theorem ShortDecimal.isLower_text (x : ShortDecimal) : IsLower x.text := by
  have hdigits : ∀ cs, cs ⊆ x.trimmed.1 → IsLower (String.ofList cs) := fun cs hcs =>
    (IsLower.toString x.digits).ofList_of_subset (List.Subset.trans hcs x.trimmed_subset)
  have htake := fun n => hdigits _ (List.take_subset n x.trimmed.1)
  have hdrop := fun n => hdigits _ (List.drop_subset n x.trimmed.1)
  have hempty : IsLower "" := rfl
  have hpoint : IsLower "." := rfl
  have hzero : IsLower "0." := rfl
  have hzeros : ∀ n, IsLower ("".pushn '0' n) := hempty.pushn
  unfold ShortDecimal.text
  dsimp only
  -- below one, with a point among the digits or behind them, and with an exponent
  refine .ite (.ite ?_ ?_) ?_
  · exact (IsLower.append hzero (hzeros _)).append (hdigits _ fun _ => id)
  · exact (((htake _).append (hzeros _)).append hpoint).append (.ite (by rfl) (hdrop _))
  · apply IsLower.append _ (.toString _)
    apply IsLower.append _ (.ite (by rfl) hempty)
    apply IsLower.append _ (.ite (by rfl) (by rfl))
    apply IsLower.append _ (by rfl)
    exact (htake 1).append (.ite hempty (hpoint.append (hdrop 1)))

/-- The text of a float has no capital letters. -/
theorem isLower_shortestText (x : Float) : IsLower (shortestText x) := by
  unfold shortestText
  split
  · rfl
  · exact .ite (by rfl) (by rfl)
  · exact .append (.ite (by rfl) (by rfl)) (.ite (by rfl) (ShortDecimal.isLower_text _))

end AgentChain.Number
