import Mathlib.Algebra.Order.Ring.Rat
import Mathlib.Tactic.FieldSimp
import Mathlib.Tactic.Linarith
import Mathlib.Tactic.Ring
import AgentChain.Duration
import AgentChain.Number.Decimal
import AgentChain.Number.Unsigned

/-!
# Durations read back

The text of a duration has one of four forms: milliseconds below a second, seconds below a minute,
whole minutes, and minutes with the seconds that remain. Reading it back gives the milliseconds of
the duration down to the unit that is shown: all of them below a second, and whole seconds from
there on. So two durations have the same text exactly if they are the same down to that unit, and a
longer duration is never read back as a shorter one.

The milliseconds themselves are those nearest to a thousand times the duration, which is a product
of floats. There are none exactly if the product is infinite.

Main statement: `durations_read_back`.
-/

namespace AgentChain

namespace Number

/-! ## The nearest whole number -/

/-- The exact value of a finite float. -/
def Binary64.value? : Binary64 → Option ℚ
  | .finite negative mantissa exponent =>
    some ((if negative then -1 else 1) * (mantissa * 2 ^ exponent))
  | _ => none

/-- The whole number is the one nearest to `v`, and the even one of two that are equally near. -/
structure IsNearest (v : ℚ) (n : ℕ) : Prop where
  near : |v - n| ≤ 1 / 2
  even_of_tie : |v - n| = 1 / 2 → Even n

variable {num den : ℕ}

/-- Half a unit away from the result is halfway between two whole numbers. -/
theorem tie_of_roundHalfEven (hden : 0 < den)
    (h : 2 * num = 2 * (den * roundHalfEven num den) + den ∨
      2 * num + den = 2 * (den * roundHalfEven num den)) : 2 * (num % den) = den := by
  have hdiv := Nat.div_add_mod num den
  have hmod := Nat.mod_lt num hden
  unfold roundHalfEven at h
  dsimp only at h
  split at h
  · omega
  · rw [Nat.mul_add] at h
    omega

/-- Rounding half to even gives the nearest whole number, and the even one of two. -/
theorem isNearest_roundHalfEven (hden : 0 < den) :
    IsNearest (num / den) (roundHalfEven num den) := by
  have hpos : (0 : ℚ) < den := by exact_mod_cast hden
  -- distances are multiplied by the denominator, so that they are those of whole numbers
  have hdist : (num : ℚ) / den - roundHalfEven num den =
      (num - den * roundHalfEven num den) / den := by
    field_simp
  constructor
  · have hupper : 2 * ((den : ℚ) * roundHalfEven num den) ≤ 2 * num + den := by
      exact_mod_cast two_mul_roundHalfEven_le hden
    have hlower : 2 * (num : ℚ) ≤ 2 * (den * roundHalfEven num den) + den := by
      exact_mod_cast le_two_mul_roundHalfEven hden
    rw [hdist, abs_le, le_div_iff₀ hpos, div_le_iff₀ hpos]
    constructor <;> linarith
  · intro htie
    rw [hdist, abs_eq (by norm_num), div_eq_iff hpos.ne', div_eq_iff hpos.ne'] at htie
    have hhalf : 2 * (num : ℚ) = 2 * (den * roundHalfEven num den) + den ∨
        2 * (num : ℚ) + den = 2 * (den * roundHalfEven num den) := by
      rcases htie with habove | hbelow
      · left; linarith
      · right; linarith
    exact Nat.even_iff.2 (even_of_tie (tie_of_roundHalfEven hden (by exact_mod_cast hhalf)))

variable (mantissa scale : ℕ) (exponent : ℤ)

/-- The denominator is a power of two, or one. -/
theorem quotient_den_pos : 0 < (Binary64.quotient mantissa exponent scale).2 := by
  unfold Binary64.quotient
  split
  · exact Nat.one_pos
  · exact Nat.pow_pos (by decide)

/-- The quotient is the exact value times the scale. -/
theorem quotient_eq :
    ((Binary64.quotient mantissa exponent scale).1 : ℚ) /
      (Binary64.quotient mantissa exponent scale).2 = mantissa * 2 ^ exponent * scale := by
  unfold Binary64.quotient
  split
  · rename_i hexp
    lift exponent to ℕ using hexp
    simp
  · rename_i hexp
    -- a negative exponent stands in the denominator
    obtain ⟨n, rfl⟩ : ∃ n : ℕ, exponent = -n := ⟨(-exponent).toNat, by omega⟩
    have hpow : ((Nat.pow 2 (- -(n : ℤ)).toNat : ℕ) : ℚ) = 2 ^ n := by simp
    rw [zpow_neg, zpow_natCast, hpow, Nat.cast_mul]
    ring

/-- Scaling rounds the exact value times the scale. -/
theorem isNearest_scaled :
    IsNearest (mantissa * 2 ^ exponent * scale) (Binary64.scaled mantissa exponent scale) := by
  rw [← quotient_eq]
  exact isNearest_roundHalfEven (quotient_den_pos mantissa scale exponent)

end Number

namespace Duration

variable {m m' : ℕ} {seconds seconds' : Float}

/-! ## Milliseconds -/

/-- The milliseconds of a duration as a float, where what is below zero or no number counts as
zero. -/
def scaled (seconds : Float) : Float := (if 0 < seconds then seconds else 0) * 1000

/-- Either the product is infinite and there are no milliseconds, or it is finite and not negative,
and they are the nearest whole number. -/
theorem millis?_cases (seconds : Float) :
    (Number.Binary64.ofFloat (scaled seconds) = .infinite false ∧ millis? seconds = none) ∨
      ∃ v m, (Number.Binary64.ofFloat (scaled seconds)).value? = some v ∧ 0 ≤ v ∧
        Number.IsNearest v m ∧ millis? seconds = some m := by
  -- a product with a thousand is infinite or finite, and never negative or no number
  rcases Number.ofFloat_mul_thousand seconds with hinfinite | ⟨mantissa, exponent, hfinite⟩
  · refine Or.inl ⟨hinfinite, ?_⟩
    unfold millis?
    dsimp only
    rw [hinfinite]
  · right
    refine ⟨mantissa * 2 ^ exponent, Number.Binary64.scaled mantissa exponent 1, ?_, ?_, ?_, ?_⟩
    · unfold scaled
      rw [hfinite]
      simp [Number.Binary64.value?]
    · exact mul_nonneg (Nat.cast_nonneg _) (zpow_nonneg (by norm_num) _)
    · simpa using Number.isNearest_scaled mantissa 1 exponent
    · unfold millis?
      dsimp only
      rw [hfinite]

/-- The milliseconds are those nearest to a thousand times the duration. -/
def Rounds (seconds : Float) (m : ℕ) : Prop :=
  ∃ v, (Number.Binary64.ofFloat (scaled seconds)).value? = some v ∧ 0 ≤ v ∧ Number.IsNearest v m

/-- The milliseconds of a duration are rounded from a thousand times the duration. -/
theorem rounds_of_millis? (h : millis? seconds = some m) : Rounds seconds m := by
  rcases millis?_cases seconds with ⟨-, hnone⟩ | ⟨v, m', hvalue, hpos, hnearest, hsome⟩
  · rw [hnone] at h
    cases h
  · rw [hsome] at h
    cases h
    exact ⟨v, hvalue, hpos, hnearest⟩

/-- There are no milliseconds exactly if the product is infinite. -/
theorem millis?_eq_none_iff :
    millis? seconds = none ↔ Number.Binary64.ofFloat (scaled seconds) = .infinite false := by
  rcases millis?_cases seconds with ⟨hinfinite, hnone⟩ | ⟨v, m, hvalue, -, -, hsome⟩
  · simp [hinfinite, hnone]
  · rw [hsome]
    constructor
    · intro h
      cases h
    · intro h
      rw [h] at hvalue
      cases hvalue

/-! ## Forms -/

/-- The forms of the text of a duration. -/
inductive Form where
  | millis (n : ℕ)
  | seconds (n : ℕ)
  | minutes (n : ℕ)
  | minutesSeconds (n k : ℕ)
deriving DecidableEq, Repr

namespace Form

/-- A form as text. -/
def text : Form → String
  | .millis n => toString n ++ "ms"
  | .seconds n => toString n ++ "s"
  | .minutes n => toString n ++ "m"
  | .minutesSeconds n k => toString n ++ "m " ++ toString k ++ "s"

/-- The milliseconds that a form says. -/
def total : Form → ℕ
  | .millis n => n
  | .seconds n => 1000 * n
  | .minutes n => 1000 * (60 * n)
  | .minutesSeconds n k => 1000 * (60 * n + k)

/-- No unit is full, and no unit but the smallest is zero. -/
def IsCanonical : Form → Prop
  | .millis n => n ≤ 999
  | .seconds n => 1 ≤ n ∧ n ≤ 59
  | .minutes n => 1 ≤ n
  | .minutesSeconds n k => 1 ≤ n ∧ 1 ≤ k ∧ k ≤ 59

/-- The form in which milliseconds are shown. -/
def ofMillis (m : ℕ) : Form :=
  if m < 1000 then .millis m
  else if m / 1000 < 60 then .seconds (m / 1000)
  else if m / 1000 % 60 = 0 then .minutes (m / 1000 / 60)
  else .minutesSeconds (m / 1000 / 60) (m / 1000 % 60)

/-- The text of a duration is that of the form in which its milliseconds are shown. -/
theorem text_ofMillis (m : ℕ) : (ofMillis m).text = Duration.text m := by
  unfold ofMillis Duration.text
  dsimp only
  split
  · rfl
  · split
    · rfl
    · split <;> rfl

/-- Milliseconds are shown in a form of which no unit is full. -/
theorem isCanonical_ofMillis (m : ℕ) : (ofMillis m).IsCanonical := by
  unfold ofMillis
  split
  · simp only [IsCanonical]; omega
  · split
    · simp only [IsCanonical]; omega
    · split <;> simp only [IsCanonical] <;> omega

/-! ## Reading -/

/-- The numbers of a form, each with its unit. -/
def parts : Form → List (ℕ × List Char)
  | .millis n => [(n, ['m', 's'])]
  | .seconds n => [(n, ['s'])]
  | .minutes n => [(n, ['m'])]
  | .minutesSeconds n k => [(n, ['m']), (k, ['s'])]

/-- The form with these numbers and units. -/
def ofParts? : List (Option (ℕ × List Char)) → Option Form
  | [some (n, ['m', 's'])] => some (.millis n)
  | [some (n, ['s'])] => some (.seconds n)
  | [some (n, ['m'])] => some (.minutes n)
  | [some (n, ['m']), some (k, ['s'])] => some (.minutesSeconds n k)
  | _ => none

/-- A number, and the text behind it. -/
def readPart? (cs : List Char) : Option (ℕ × List Char) :=
  let digits := cs.takeWhile Char.isDigit
  if digits = [] then none
  else some (Nat.ofDigitChars 10 digits 0, cs.dropWhile Char.isDigit)

/-- The form that a text has: numbers with their units, and a blank in between. -/
def read? (s : String) : Option Form := ofParts? ((s.toList.splitOn ' ').map readPart?)

/-- A number and its unit as text. -/
def partText (part : ℕ × List Char) : List Char := (toString part.1).toList ++ part.2

/-- A form as text is its numbers with their units, and blanks in between. -/
theorem toList_text (f : Form) : f.text.toList = [' '].intercalate (f.parts.map partText) := by
  cases f <;> simp [text, parts, partText, List.intercalate, List.intersperse]

/-- The units that forms use. -/
def units : List (List Char) := [['m', 's'], ['s'], ['m']]

/-- Only these units are used. -/
theorem unit_mem_units {f : Form} {part : ℕ × List Char} (h : part ∈ f.parts) :
    part.2 ∈ units := by
  cases f with
  | minutesSeconds =>
    rcases List.mem_pair.1 h with rfl | rfl <;> simp [units]
  | _ =>
    obtain rfl := List.mem_singleton.1 h
    simp [units]

/-- There are neither blanks nor digits in a unit. -/
theorem blank_digit_notMem_unit :
    ∀ unit ∈ units, ' ' ∉ unit ∧ ∀ c ∈ unit, c.isDigit = false := by
  simp [units]

/-- A number is read up to its unit, since no unit starts with a digit. -/
theorem readPart?_partText {part : ℕ × List Char} (h : ∀ c ∈ part.2, c.isDigit = false) :
    readPart? (partText part) = some part := by
  have hdigits : ∀ c ∈ (toString part.1).toList, c.isDigit = true :=
    fun _ => Number.isDigit_of_mem_toString
  have hunit : part.2.takeWhile Char.isDigit = [] ∧ part.2.dropWhile Char.isDigit = part.2 := by
    cases hcs : part.2 with
    | nil => exact ⟨rfl, rfl⟩
    | cons c cs =>
      have hc : c.isDigit = false := h c (by simp [hcs])
      simp [hc]
  unfold readPart? partText
  rw [List.takeWhile_append_of_pos hdigits, List.dropWhile_append_of_pos hdigits, hunit.1, hunit.2,
    List.append_nil, if_neg (Number.toList_toString_ne_nil part.1), Number.ofDigitChars_toString]

/-- Blanks stand only between the parts of a form. -/
theorem blank_notMem_partText {part : ℕ × List Char} (h : ' ' ∉ part.2) : ' ' ∉ partText part := by
  unfold partText
  rw [List.mem_append, not_or]
  refine ⟨?_, h⟩
  intro hblank
  exact absurd (Number.isDigit_of_mem_toString hblank) (by decide)

/-- A form is read back from its text. -/
theorem read?_text (f : Form) : read? f.text = some f := by
  have hblank : ∀ cs ∈ f.parts.map partText, ' ' ∉ cs := by
    intro cs hcs
    obtain ⟨part, hpart, rfl⟩ := List.mem_map.1 hcs
    exact blank_notMem_partText (blank_digit_notMem_unit _ (unit_mem_units hpart)).1
  have hne : f.parts.map partText ≠ [] := by
    cases f <;> simp [parts]
  -- each part is read back by itself, since the blanks keep them apart
  have hread : (f.parts.map partText).map readPart? = f.parts.map some := by
    rw [List.map_map]
    apply List.map_congr_left
    intro part hpart
    exact readPart?_partText (blank_digit_notMem_unit _ (unit_mem_units hpart)).2
  unfold read?
  rw [toList_text, List.splitOn_intercalate ' ' hblank hne, hread]
  cases f <;> rfl

/-- Different forms have different texts. -/
theorem text_injective : Function.Injective text := by
  intro f g h
  have hread : read? f.text = read? g.text := congrArg read? h
  rwa [read?_text, read?_text, Option.some.injEq] at hread

end Form

/-! ## What is shown -/

/-- The milliseconds of a duration down to the unit in which it is shown. -/
def shownMillis (m : ℕ) : ℕ := if m < 1000 then m else 1000 * (m / 1000)

/-- The milliseconds that the text of a duration says. -/
def readMillis? (s : String) : Option ℕ := (Form.read? s).map (·.total)

/-- The form in which milliseconds are shown says them down to its unit. -/
theorem total_ofMillis (m : ℕ) : (Form.ofMillis m).total = shownMillis m := by
  unfold Form.ofMillis shownMillis
  split
  · rfl
  · split
    · rfl
    · split <;> simp only [Form.total] <;> omega

/-- The text of a duration is read back as the milliseconds down to the unit that is shown. -/
theorem readMillis?_text (m : ℕ) : readMillis? (text m) = some (shownMillis m) := by
  unfold readMillis?
  rw [← Form.text_ofMillis, Form.read?_text, Option.map_some, total_ofMillis]

/-- What is not shown does not matter for the text. -/
theorem text_shownMillis (m : ℕ) : text (shownMillis m) = text m := by
  unfold shownMillis
  split
  · rfl
  · rename_i hm
    have hshown : ¬ 1000 * (m / 1000) < 1000 := by omega
    have hseconds : 1000 * (m / 1000) / 1000 = m / 1000 := by omega
    unfold text
    dsimp only
    rw [hseconds, if_neg hshown, if_neg hm]

/-- Texts are the same exactly if what they show is. -/
theorem text_eq_iff : text m = text m' ↔ shownMillis m = shownMillis m' := by
  constructor
  · intro h
    -- what is read back depends on the text only
    have hread : readMillis? (text m) = readMillis? (text m') := congrArg readMillis? h
    rwa [readMillis?_text, readMillis?_text, Option.some.injEq] at hread
  · intro h
    rw [← text_shownMillis m, h, text_shownMillis]

/-- A longer duration is not shown as a shorter one. -/
theorem shownMillis_mono : Monotone shownMillis := by
  intro m m' h
  unfold shownMillis
  split <;> split <;> omega

/-- The text shows these milliseconds: it has one form only, of which no unit is full, and it is
read back as the milliseconds down to the unit that it shows. -/
structure Shows (t : String) (m : ℕ) : Prop where
  form : ∃ f : Form, f.IsCanonical ∧ ∀ g : Form, g.text = t ↔ g = f
  not_full : t ≠ "1000ms" ∧ t ≠ "60s" ∧ t ≠ "1m 0s"
  read : readMillis? t = some (shownMillis m)

/-- The text of a duration shows its milliseconds. -/
theorem shows_text (m : ℕ) : Shows (text m) m := by
  have hform : ∀ g : Form, g.text = text m ↔ g = Form.ofMillis m := by
    intro g
    rw [← Form.text_ofMillis]
    exact Form.text_injective.eq_iff
  -- a form with a full unit is not the one in which the milliseconds are shown
  have hfull : ∀ g : Form, ¬ g.IsCanonical → text m ≠ g.text := by
    intro g hg h
    rw [(hform g).1 h.symm] at hg
    exact hg (Form.isCanonical_ofMillis m)
  refine ⟨⟨_, Form.isCanonical_ofMillis m, hform⟩, ⟨?_, ?_, ?_⟩, readMillis?_text m⟩
  · exact hfull (.millis 1000) (by simp [Form.IsCanonical])
  · exact hfull (.seconds 60) (by simp [Form.IsCanonical])
  · exact hfull (.minutesSeconds 1 0) (by simp [Form.IsCanonical])

/-- The text of a duration shows the milliseconds nearest to it, and reading the text back gives
them down to the unit that is shown: texts are the same exactly if what is read back is, and what is
read back grows with the milliseconds. -/
theorem durations_read_back (h : millis? seconds = some m) (h' : millis? seconds' = some m') :
    Rounds seconds m ∧
      ∃ t t', text? seconds = some t ∧ text? seconds' = some t' ∧ Shows t m ∧
        (t = t' ↔ shownMillis m = shownMillis m') ∧
        (m ≤ m' → shownMillis m ≤ shownMillis m') := by
  have htext : text? seconds = some (text m) := by
    unfold text?
    rw [h, Option.map_some]
  have htext' : text? seconds' = some (text m') := by
    unfold text?
    rw [h', Option.map_some]
  refine ⟨rounds_of_millis? h, text m, text m', htext, htext', shows_text m, text_eq_iff, ?_⟩
  intro hle
  exact shownMillis_mono hle

/-- Half a millisecond before a minute goes to the even neighbour, which is the full minute; what
comes less than a second after it is shown as the full minute too. -/
theorem minute_read_back :
    millis? 59.9995 = some 60000 ∧ millis? 60.75 = some 60750 ∧ Rounds 59.9995 60000 ∧
      ∃ t t', text? 59.9995 = some t ∧ text? 60.75 = some t' ∧ Shows t 60000 ∧
        (t = t' ↔ shownMillis 60000 = shownMillis 60750) ∧
        (60000 ≤ 60750 → shownMillis 60000 ≤ shownMillis 60750) := by
  have hbefore : millis? 59.9995 = some 60000 := by decide +kernel
  have hafter : millis? 60.75 = some 60750 := by decide +kernel
  exact ⟨hbefore, hafter, durations_read_back hbefore hafter⟩

end Duration

end AgentChain
