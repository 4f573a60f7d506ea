import AgentChain.Text.Blank
import AgentChain.Text.LowerTable
import AgentChain.Text.CaseContext

/-!
# Lower case

The full lower-case mapping of Unicode 14. Two capitals are special: the dotted capital I becomes
two characters, and a capital sigma is written in its final form at the end of a word.

Main statements: lower-case text is unchanged by a second pass (`lower_lower`), and lowering neither
makes nor removes blanks at the ends (`trim_lower_trim`), nor characters that have no case
(`mem_lowerFrom_iff`).
-/

namespace AgentChain.Text

/-- The capital I with a dot above. -/
def dottedI : Char := '\u0130'

/-- The capital sigma. -/
def capitalSigma : Char := '\u03a3'

/-- The lower-case form of a character that is its own word. -/
def lowerChar (c : Char) : Char :=
  match capitalRuns.find? (·.contains c.toNat) with
  | some r => Char.ofNat (c.toNat + r.offset).toNat
  | none => c

/-- A capital sigma ends a word: the nearest character before it that is not skipped is a letter,
and the nearest one after it is not. The text before is given in reverse. -/
def isFinalSigma (before after : List Char) : Bool :=
  (before.dropWhile isCaseIgnorable).head?.any isCased &&
    !(after.dropWhile isCaseIgnorable).head?.any isCased

/-- The lower-case form of `c` between the text `before` it, in reverse, and the text `after` it. -/
def lowerIn (before : List Char) (c : Char) (after : List Char) : List Char :=
  if c = dottedI then ['i', '\u0307']
  else if c = capitalSigma then [if isFinalSigma before after then '\u03c2' else '\u03c3']
  else [lowerChar c]

/-- The lower-case form of text that follows the text `before`, given in reverse. -/
def lowerFrom (before : List Char) : List Char → List Char
  | [] => []
  | c :: cs => lowerIn before c cs ++ lowerFrom (c :: before) cs

/-- The lower-case form of text. -/
def lower (cs : List Char) : List Char := lowerFrom [] cs

/-! ## The table -/

/-- The letters of a run, as codes. -/
def CapitalRun.codes (r : CapitalRun) : List Nat :=
  (List.range ((r.last - r.first) / r.step + 1)).map fun k => r.first + k * r.step

/-- Every letter of a run is among its codes. -/
theorem CapitalRun.mem_codes {r : CapitalRun} {n : Nat} (h : r.contains n = true) :
    n ∈ r.codes := by
  simp only [contains, Bool.and_eq_true, decide_eq_true_eq, beq_iff_eq] at h
  obtain ⟨⟨h1, h2⟩, h3⟩ := h
  simp only [codes, List.mem_map, List.mem_range]
  refine ⟨(n - r.first) / r.step, ?_, ?_⟩
  · exact Nat.lt_succ_of_le (Nat.div_le_div_right (by omega))
  · rw [Nat.div_mul_cancel (Nat.dvd_of_mod_eq_zero h3)]
    omega

/-- The codes of all letters of the table. -/
def capitalCodes : List Nat := capitalRuns.flatMap (·.codes)

/-- The codes of the lower-case forms of all letters of the table. -/
def loweredCodes : List Nat :=
  capitalRuns.flatMap fun r => r.codes.map fun n : Nat => ((n : Int) + r.offset).toNat

/-- A set of numbers as the bits of one number. -/
def bitSet : List Nat → Nat
  | [] => 0
  | n :: ns => 1 <<< n ||| bitSet ns

/-- The bits of the numbers in a set are set. -/
theorem testBit_bitSet {n : Nat} {ns : List Nat} (h : n ∈ ns) : (bitSet ns).testBit n = true := by
  induction ns with
  | nil => simp at h
  | cons m ms ih =>
    rw [bitSet, Nat.testBit_or, Bool.or_eq_true]
    rcases List.mem_cons.1 h with rfl | h
    · left; simp [Nat.one_shiftLeft]
    · exact Or.inr (ih h)

/-- Sets of numbers without a common bit are disjoint. -/
theorem not_mem_of_bitSet {n : Nat} {ms ns : List Nat} (h : bitSet ms &&& bitSet ns = 0)
    (hn : n ∈ ns) : n ∉ ms := by
  intro hm
  have := congrArg (·.testBit n) h
  simp [Nat.testBit_and, testBit_bitSet hm, testBit_bitSet hn] at this

/-- The codes of all blanks. -/
def blankCodes : List Nat :=
  blankRanges.flatMap fun r => (List.range (r.2 - r.1 + 1)).map fun k => r.1 + k

/-- Every blank is among the codes of blanks. -/
theorem mem_blankCodes {n : Nat} (h : inRanges blankRanges n = true) : n ∈ blankCodes := by
  simp only [inRanges, List.any_eq_true, Bool.and_eq_true, decide_eq_true_eq] at h
  obtain ⟨r, hr, h1, h2⟩ := h
  simp only [blankCodes, List.mem_flatMap, List.mem_map, List.mem_range]
  exact ⟨r, hr, n - r.1, by omega, by omega⟩

/-- No lower-case form is a letter of the table, a special capital or a blank. -/
theorem loweredCodes_settled :
    bitSet (capitalCodes ++ 0x130 :: 0x3a3 :: blankCodes) &&& bitSet loweredCodes = 0 := by
  decide +kernel

/-- No capital letter of the table is blank. -/
theorem capitalCodes_not_blank : bitSet blankCodes &&& bitSet capitalCodes = 0 := by
  decide +kernel

/-- Every lower-case form is a character, and no surrogate. -/
theorem loweredCodes_valid :
    (loweredCodes.all fun n =>
      Nat.ble n 0xd7ff || Nat.ble 0xe000 n && Nat.ble n 0x10ffff) = true := by
  decide +kernel

/-! ## Settled characters -/

/-- The character is its own lower-case form wherever it stands. -/
def IsSettled (c : Char) : Prop :=
  capitalRuns.find? (·.contains c.toNat) = none ∧ c ≠ dottedI ∧ c ≠ capitalSigma

instance (c : Char) : Decidable (IsSettled c) :=
  inferInstanceAs (Decidable (_ ∧ _))

/-- Lowering leaves a settled character as it is, whatever is around it. -/
theorem lowerIn_of_isSettled {c : Char} (h : IsSettled c) (before after : List Char) :
    lowerIn before c after = [c] := by
  simp [lowerIn, lowerChar, h.1, h.2.1, h.2.2]

/-- Lowering leaves a settled text as it is. -/
theorem lowerFrom_of_isSettled {cs : List Char} (h : ∀ c ∈ cs, IsSettled c) (before : List Char) :
    lowerFrom before cs = cs := by
  induction cs generalizing before with
  | nil => rfl
  | cons c cs ih =>
    rw [lowerFrom, lowerIn_of_isSettled (h c (by simp)), ih fun d hd => h d (by simp [hd])]
    rfl

theorem mem_capitalCodes {r : CapitalRun} {n : Nat} (hr : r ∈ capitalRuns)
    (h : r.contains n = true) : n ∈ capitalCodes :=
  List.mem_flatMap.2 ⟨r, hr, r.mem_codes h⟩

/-- A lower-case form has the code that the table gives. -/
theorem toNat_ofNat {n : Nat} (h : n ∈ loweredCodes) : (Char.ofNat n).toNat = n := by
  have hv := List.all_eq_true.1 loweredCodes_valid n h
  simp only [Bool.or_eq_true, Bool.and_eq_true, Nat.ble_eq] at hv
  have hvalid : n.isValidChar := by unfold Nat.isValidChar; omega
  rw [Char.ofNat, dif_pos hvalid]
  rfl

/-- A character whose code is that of a lower-case form is settled and not blank. -/
theorem isSettled_of_mem_loweredCodes {c : Char} (h : c.toNat ∈ loweredCodes) :
    IsSettled c ∧ isBlank c = false := by
  have hn := not_mem_of_bitSet loweredCodes_settled h
  simp only [List.mem_append, List.mem_cons, not_or] at hn
  obtain ⟨h1, h2, h3, h4⟩ := hn
  refine ⟨⟨?_, ?_, ?_⟩, ?_⟩
  · rw [List.find?_eq_none]
    exact fun r hr hc => h1 (mem_capitalCodes hr hc)
  · rintro rfl; exact h2 rfl
  · rintro rfl; exact h3 rfl
  · rw [Bool.eq_false_iff]
    exact fun hb => h4 (mem_blankCodes hb)

/-- What a letter of the table is lowered to is in the table of lower-case forms. -/
theorem toNat_lowerChar_mem {c : Char} {r : CapitalRun}
    (h : capitalRuns.find? (·.contains c.toNat) = some r) : (lowerChar c).toNat ∈ loweredCodes := by
  have hr := List.mem_of_find?_eq_some h
  have hc : r.contains c.toNat = true := by simpa using List.find?_some h
  have hl : (c.toNat + r.offset).toNat ∈ loweredCodes :=
    List.mem_flatMap.2 ⟨r, hr, List.mem_map.2 ⟨_, r.mem_codes hc, rfl⟩⟩
  unfold lowerChar
  rw [h]
  show (Char.ofNat (c.toNat + r.offset).toNat).toNat ∈ loweredCodes
  rwa [toNat_ofNat hl]

/-- Lowering a single letter settles it and keeps its blankness. -/
theorem lowerChar_cases {c : Char} (h1 : c ≠ dottedI) (h2 : c ≠ capitalSigma) :
    IsSettled (lowerChar c) ∧ isBlank (lowerChar c) = isBlank c := by
  cases h : capitalRuns.find? (·.contains c.toNat) with
  | none =>
    have hself : lowerChar c = c := by simp [lowerChar, h]
    rw [hself]
    exact ⟨⟨h, h1, h2⟩, rfl⟩
  | some r =>
    have hr := List.mem_of_find?_eq_some h
    have hc : r.contains c.toNat = true := by simpa using List.find?_some h
    obtain ⟨hs, hblank⟩ := isSettled_of_mem_loweredCodes (toNat_lowerChar_mem h)
    refine ⟨hs, hblank.trans ?_⟩
    symm
    rw [Bool.eq_false_iff]
    exact fun hb => not_mem_of_bitSet capitalCodes_not_blank (mem_capitalCodes hr hc)
      (mem_blankCodes hb)

/-- Lowering a character, the special capitals included, settles it and keeps its blankness. -/
theorem isSettled_of_mem_lowerIn {before after : List Char} {c d : Char}
    (h : d ∈ lowerIn before c after) : IsSettled d ∧ isBlank d = isBlank c := by
  -- the two special capitals are looked at one by one, all others by the table
  unfold lowerIn at h
  split at h
  · rename_i hc
    subst hc
    rcases List.mem_cons.1 h with rfl | h
    · exact ⟨by decide +kernel, by decide +kernel⟩
    · obtain rfl := List.mem_singleton.1 h
      exact ⟨by decide +kernel, by decide +kernel⟩
  · split at h
    · rename_i hc
      subst hc
      obtain rfl := List.mem_singleton.1 h
      split
      · exact ⟨by decide +kernel, by decide +kernel⟩
      · exact ⟨by decide +kernel, by decide +kernel⟩
    · rename_i h1 h2
      obtain rfl := List.mem_singleton.1 h
      exact lowerChar_cases h1 h2

/-- No character is lost in lowering. -/
theorem lowerIn_ne_nil (before : List Char) (c : Char) (after : List Char) :
    lowerIn before c after ≠ [] := by
  unfold lowerIn
  split
  · simp
  · split <;> simp

/-! ## Lower-case text -/

/-- Lowered text is settled throughout. -/
theorem isSettled_of_mem_lowerFrom {before cs : List Char} {d : Char}
    (h : d ∈ lowerFrom before cs) : IsSettled d := by
  induction cs generalizing before with
  | nil => simp [lowerFrom] at h
  | cons c cs ih =>
    rcases List.mem_append.1 h with h | h
    · exact (isSettled_of_mem_lowerIn h).1
    · exact ih h

@[simp] theorem lower_lower (cs : List Char) : lower (lower cs) = lower cs :=
  lowerFrom_of_isSettled (fun _ h => isSettled_of_mem_lowerFrom h) []

/-- Only the empty text is lowered to nothing. -/
theorem lower_eq_nil_iff {cs : List Char} : lower cs = [] ↔ cs = [] := by
  cases cs with
  | nil => simp [lower, lowerFrom]
  | cons c cs => simp [lower, lowerFrom, lowerIn_ne_nil]

/-! ## Classes that lowering keeps -/

/-- Lowering neither takes a character out of the class nor puts one into it. -/
def LoweringKeeps (p : Char → Bool) : Prop :=
  ∀ before c after, ∀ d ∈ lowerIn before c after, p d = p c

/-- A blank is lowered to a blank, and nothing else is. -/
theorem loweringKeeps_isBlank : LoweringKeeps isBlank :=
  fun _ _ _ _ hd => (isSettled_of_mem_lowerIn hd).2

section
variable {p : Char → Bool} {before cs : List Char}

/-- Lowered text starts with a form of the first character. -/
theorem head?_lowerFrom (hp : LoweringKeeps p) {d : Char}
    (h : (lowerFrom before cs).head? = some d) : ∃ c, cs.head? = some c ∧ p d = p c := by
  cases cs with
  | nil => simp [lowerFrom] at h
  | cons c cs =>
    obtain ⟨e, es, he⟩ := List.exists_cons_of_ne_nil (lowerIn_ne_nil before c cs)
    simp only [lowerFrom, he, List.cons_append, List.head?_cons, Option.some.injEq] at h
    have hd : d ∈ lowerIn before c cs := by simp [he, h]
    exact ⟨c, rfl, hp before c cs d hd⟩

/-- Lowered text ends with a form of the last character. -/
theorem getLast?_lowerFrom (hp : LoweringKeeps p) {d : Char}
    (h : (lowerFrom before cs).getLast? = some d) : ∃ c, cs.getLast? = some c ∧ p d = p c := by
  induction cs generalizing before with
  | nil => simp [lowerFrom] at h
  | cons c cs ih =>
    -- with more text behind it, the character does not matter for the end
    cases cs with
    | nil =>
      simp only [lowerFrom, List.append_nil] at h
      exact ⟨c, rfl, hp before c [] d (List.mem_of_getLast? h)⟩
    | cons e es =>
      have hne : lowerFrom (c :: before) (e :: es) ≠ [] := by
        simp [lowerFrom, lowerIn_ne_nil]
      rw [lowerFrom, List.getLast?_append, Option.or_of_isSome (List.getLast?_isSome.2 hne)] at h
      obtain ⟨c', hc', hb⟩ := ih h
      exact ⟨c', by simpa [List.getLast?_cons_cons] using hc', hb⟩

/-- Lowering and dropping a class that it keeps can change places. What was dropped stays the text
before. -/
theorem dropWhile_lowerFrom (hp : LoweringKeeps p) :
    ∃ before', (lowerFrom before cs).dropWhile p = lowerFrom before' (cs.dropWhile p) := by
  induction cs generalizing before with
  | nil => exact ⟨[], rfl⟩
  | cons c cs ih =>
    by_cases hc : p c = true
    · have hall : ∀ d ∈ lowerIn before c cs, p d = true :=
        fun d hd => (hp before c cs d hd).trans hc
      obtain ⟨before', hrest⟩ : ∃ before', (lowerFrom (c :: before) cs).dropWhile p =
          lowerFrom before' (cs.dropWhile p) := ih
      refine ⟨before', ?_⟩
      rw [lowerFrom, List.dropWhile_append_of_pos hall, hrest, List.dropWhile_cons_of_pos hc]
    · refine ⟨before, ?_⟩
      rw [List.dropWhile_cons_of_neg hc]
      apply dropWhile_eq_self
      intro d hd
      obtain ⟨c', hc', heq⟩ := head?_lowerFrom hp hd
      cases hc'
      simpa [heq] using hc

end

/-- The lower-case form of trimmed text is trimmed. -/
@[simp] theorem trim_lower_trim (cs : List Char) : trim (lower (trim cs)) = lower (trim cs) := by
  apply trimBy_eq_self
  · intro d hd
    obtain ⟨c, hc, hb⟩ := head?_lowerFrom loweringKeeps_isBlank hd
    exact hb.trans (head?_trimBy c hc)
  · intro d hd
    obtain ⟨c, hc, hb⟩ := getLast?_lowerFrom loweringKeeps_isBlank hd
    exact hb.trans (getLast?_trimBy c hc)

/-! ## Characters without case -/

/-- The character is its own lower-case form, and is part of no other one. -/
def IsCaseless (c : Char) : Prop :=
  IsSettled c ∧ c.toNat ∉ 0x69 :: 0x307 :: 0x3c2 :: 0x3c3 :: loweredCodes

instance (c : Char) : Decidable (IsCaseless c) :=
  inferInstanceAs (Decidable (_ ∧ _))

/-- A character without case is in the lower-case form of itself and of nothing else. -/
theorem mem_lowerIn_iff {before after : List Char} {c d : Char} (hd : IsCaseless d) :
    d ∈ lowerIn before c after ↔ d = c := by
  obtain ⟨hsettled, hcodes⟩ := hd
  constructor
  · intro h
    unfold lowerIn at h
    -- the special capitals have lower-case forms that are left out, and so has the table
    split at h
    · have hforms : d = 'i' ∨ d = '\u0307' := by simpa using h
      rcases hforms with rfl | rfl <;> exact absurd (by simp) hcodes
    · split at h
      · have hforms : d = '\u03c2' ∨ d = '\u03c3' := by
          split at h <;> simp_all
        rcases hforms with rfl | rfl <;> exact absurd (by simp) hcodes
      · obtain rfl := List.mem_singleton.1 h
        cases hrun : capitalRuns.find? (·.contains c.toNat) with
        | none => simp [lowerChar, hrun]
        | some r =>
          have hmem := toNat_lowerChar_mem hrun
          exact absurd (by simp [hmem]) hcodes
  · rintro rfl
    rw [lowerIn_of_isSettled hsettled]
    exact List.mem_singleton_self d

/-- Lowering keeps being a given character without case. -/
theorem loweringKeeps_eq {x : Char} (hx : IsCaseless x) : LoweringKeeps (· == x) := by
  intro before c after d hd
  by_cases hc : c = x
  · subst hc
    rw [lowerIn_of_isSettled hx.1, List.mem_singleton] at hd
    rw [hd]
  · have hne : d ≠ x := by
      rintro rfl
      exact hc ((mem_lowerIn_iff hx).1 hd).symm
    show (d == x) = (c == x)
    rw [beq_false_of_ne hne, beq_false_of_ne hc]

/-- Lowering neither makes nor removes characters without case. -/
theorem mem_lowerFrom_iff {before cs : List Char} {d : Char} (hd : IsCaseless d) :
    d ∈ lowerFrom before cs ↔ d ∈ cs := by
  induction cs generalizing before with
  | nil => simp [lowerFrom]
  | cons c cs ih => rw [lowerFrom, List.mem_append, mem_lowerIn_iff hd, ih, List.mem_cons]

end AgentChain.Text
