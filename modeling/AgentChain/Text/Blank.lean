import AgentChain.Text.Ranges

/-!
# Blank characters

The characters that are cut off at both ends of a name, and the cutting itself. The information
separators (codes 28 to 31) count as blank; zero-width characters do not.

Main statements: trimmed text has no blank at either end (`head?_trimBy`, `getLast?_trimBy`), so
that trimming it again changes nothing (`trim_trim`), and text trims to nothing exactly if it is
blank throughout (`trim_eq_nil_iff`).
-/

namespace AgentChain.Text

/-- The blank characters, as closed ranges of codes. -/
def blankRanges : List (Nat × Nat) := [
  (0x09, 0x0d), (0x1c, 0x20), (0x85, 0x85), (0xa0, 0xa0), (0x1680, 0x1680), (0x2000, 0x200a),
  (0x2028, 0x2029), (0x202f, 0x202f), (0x205f, 0x205f), (0x3000, 0x3000)
]

/-- The character is blank. -/
def isBlank (c : Char) : Bool := inRanges blankRanges c.toNat

/-- The character is white space in the narrower sense of Unicode, which leaves the information
separators out. -/
def isWhiteSpace (c : Char) : Bool := isBlank c && !(0x1c ≤ c.toNat && c.toNat ≤ 0x1f)

/-- Cuts off the longest run of characters of the class `p` at either end. -/
def trimBy (p : Char → Bool) (cs : List Char) : List Char :=
  ((cs.dropWhile p).reverse.dropWhile p).reverse

/-- Cuts off the blanks at both ends. -/
def trim (cs : List Char) : List Char := trimBy isBlank cs

/-- Text that holds blanks only. -/
def isBlankText (cs : List Char) : Bool := cs.all isBlank

/-! ## What trimming leaves -/

section
variable {p : Char → Bool} {cs : List Char}

/-- Dropping leaves nothing exactly if the whole text is of the class. -/
theorem dropWhile_eq_nil_iff : cs.dropWhile p = [] ↔ ∀ c ∈ cs, p c = true := by
  induction cs with
  | nil => simp
  | cons c cs ih => by_cases h : p c <;> simp [h, ih]

/-- What is left after dropping starts with a character outside the class. -/
theorem head?_dropWhile (c : Char) (h : (cs.dropWhile p).head? = some c) : p c = false := by
  induction cs with
  | nil => simp at h
  | cons d ds ih =>
    by_cases hd : p d
    · simp [hd] at h; exact ih h
    · simp [hd] at h; simpa [← h] using hd

/-- Text that does not start with a character of the class loses nothing. -/
theorem dropWhile_eq_self (h : ∀ c, cs.head? = some c → p c = false) : cs.dropWhile p = cs := by
  cases cs with
  | nil => rfl
  | cons c cs => simp [h c rfl]

/-- Trimming leaves nothing exactly if the whole text is of the class. -/
theorem trimBy_eq_nil_iff : trimBy p cs = [] ↔ ∀ c ∈ cs, p c = true := by
  unfold trimBy
  rw [List.reverse_eq_nil_iff, dropWhile_eq_nil_iff]
  constructor
  · intro h
    -- what is left in front starts outside the class, so that something would be left behind as
    -- well
    by_cases hn : cs.dropWhile p = []
    · exact dropWhile_eq_nil_iff.1 hn
    · obtain ⟨c, hc⟩ := Option.isSome_iff_exists.1 (List.isSome_head?.2 hn)
      have := head?_dropWhile c hc
      have hm : c ∈ (cs.dropWhile p).reverse := by
        simpa using List.mem_of_mem_head? hc
      simp [h c hm] at this
  · intro h c hc
    exact h c ((List.dropWhile_sublist p).subset (by simpa using hc))

/-- Trimmed text ends in a character outside the class. -/
theorem getLast?_trimBy (c : Char) (h : (trimBy p cs).getLast? = some c) : p c = false := by
  unfold trimBy at h
  rw [List.getLast?_reverse] at h
  exact head?_dropWhile c h

/-- What is cut off behind is no part of what is left in front. -/
theorem trimBy_prefix_dropWhile : trimBy p cs <+: cs.dropWhile p := by
  have hsuffix : (cs.dropWhile p).reverse.dropWhile p <:+ (cs.dropWhile p).reverse :=
    List.dropWhile_suffix p
  simpa [trimBy] using List.reverse_prefix.2 hsuffix

/-- What trimming leaves is one piece of the text. -/
theorem trimBy_infix : trimBy p cs <:+: cs :=
  trimBy_prefix_dropWhile.isInfix.trans (List.dropWhile_suffix p).isInfix

/-- Trimmed text starts with a character outside the class. -/
theorem head?_trimBy (c : Char) (h : (trimBy p cs).head? = some c) : p c = false := by
  have hpre : trimBy p cs <+: cs.dropWhile p := trimBy_prefix_dropWhile
  obtain ⟨t, ht⟩ := hpre
  have hd : (cs.dropWhile p).head? = some c := by
    rw [← ht]
    cases hx : trimBy p cs with
    | nil => simp [hx] at h
    | cons d ds => simpa [hx] using h
  exact head?_dropWhile c hd

/-- Text whose two ends lie outside the class is its own trimmed form. -/
theorem trimBy_eq_self (hh : ∀ c, cs.head? = some c → p c = false)
    (hl : ∀ c, cs.getLast? = some c → p c = false) : trimBy p cs = cs := by
  unfold trimBy
  rw [dropWhile_eq_self hh, dropWhile_eq_self (by simpa using hl), List.reverse_reverse]

/-- Dropping takes away nothing but characters of the class. -/
theorem mem_dropWhile_iff {c : Char} (hc : p c = false) : c ∈ cs.dropWhile p ↔ c ∈ cs := by
  refine ⟨fun h => (List.dropWhile_sublist p).subset h, ?_⟩
  intro h
  rw [← List.takeWhile_append_dropWhile (p := p) (l := cs)] at h
  rcases List.mem_append.1 h with htake | hdrop
  · have hall := List.all_eq_true.1 (List.all_takeWhile (p := p) (l := cs)) c htake
    rw [hc] at hall
    cases hall
  · exact hdrop

/-- Trimming takes away nothing but characters of the class. -/
theorem mem_trimBy_iff {c : Char} (hc : p c = false) : c ∈ trimBy p cs ↔ c ∈ cs := by
  simp [trimBy, mem_dropWhile_iff hc]

theorem trimBy_trimBy : trimBy p (trimBy p cs) = trimBy p cs :=
  trimBy_eq_self head?_trimBy getLast?_trimBy

/-- Trimmed text does not start with a text of the class, unless that is empty. -/
theorem eq_nil_of_prefix_trimBy {front : List Char} (h : front <+: trimBy p cs)
    (hfront : ∀ c ∈ front, p c = true) : front = [] := by
  cases front with
  | nil => rfl
  | cons c front =>
    obtain ⟨rest, hrest⟩ := h
    have hc : p c = false := head?_trimBy c (by rw [← hrest]; rfl)
    rw [hfront c List.mem_cons_self] at hc
    cases hc

/-- Nor does it end with one. -/
theorem eq_nil_of_suffix_trimBy {back : List Char} (h : back <:+ trimBy p cs)
    (hback : ∀ c ∈ back, p c = true) : back = [] := by
  rcases List.eq_nil_or_concat back with hnil | ⟨front, c, hconcat⟩
  · exact hnil
  · obtain ⟨rest, hrest⟩ := h
    have hlast : (trimBy p cs).getLast? = some c := by simp [← hrest, hconcat]
    have hc : p c = false := getLast?_trimBy c hlast
    rw [hback c (by simp [hconcat])] at hc
    cases hc

/-- What trimming cuts off at the two ends is of the class. -/
theorem exists_trimBy (p : Char → Bool) (cs : List Char) : ∃ front back,
    (∀ c ∈ front, p c = true) ∧ (∀ c ∈ back, p c = true) ∧ cs = front ++ (trimBy p cs ++ back) := by
  have hreverse : trimBy p cs ++ ((cs.dropWhile p).reverse.takeWhile p).reverse =
      cs.dropWhile p := by
    unfold trimBy
    rw [← List.reverse_append, List.takeWhile_append_dropWhile, List.reverse_reverse]
  refine ⟨cs.takeWhile p, ((cs.dropWhile p).reverse.takeWhile p).reverse, ?_, ?_, ?_⟩
  · exact List.all_eq_true.1 List.all_takeWhile
  · intro c hc
    exact List.all_eq_true.1 List.all_takeWhile c (List.mem_reverse.1 hc)
  · rw [hreverse, List.takeWhile_append_dropWhile]

/-- Characters of the class in front of a text are cut off with the rest. -/
theorem trimBy_append_left {front : List Char} (h : ∀ c ∈ front, p c = true) :
    trimBy p (front ++ cs) = trimBy p cs := by
  unfold trimBy
  rw [List.dropWhile_append_of_pos h]

/-- Characters of the class behind a text are cut off with the rest. -/
theorem trimBy_append_right {back : List Char} (h : ∀ c ∈ back, p c = true) :
    trimBy p (cs ++ back) = trimBy p cs := by
  unfold trimBy
  -- if nothing but characters of the class stands in front, all of it is dropped
  by_cases hn : cs.dropWhile p = []
  · have hback : back.dropWhile p = [] := dropWhile_eq_nil_iff.2 h
    rw [List.dropWhile_append, hn, hback]
    rfl
  · have hdrop : (cs ++ back).dropWhile p = cs.dropWhile p ++ back := by
      rw [List.dropWhile_append, if_neg (by simpa using hn)]
    have hreverse : ∀ c ∈ back.reverse, p c = true := by simpa using h
    rw [hdrop, List.reverse_append, List.dropWhile_append_of_pos hreverse]

/-- What stands between two trimmed texts is not cut off. -/
theorem trimBy_append_append {xs mid ys : List Char} (hx : trimBy p xs = xs) (hxn : xs ≠ [])
    (hy : trimBy p ys = ys) (hyn : ys ≠ []) :
    trimBy p (xs ++ (mid ++ ys)) = xs ++ (mid ++ ys) := by
  apply trimBy_eq_self
  · intro c hc
    rw [List.head?_append, Option.or_of_isSome (List.isSome_head?.2 hxn), ← hx] at hc
    exact head?_trimBy c hc
  · intro c hc
    rw [← List.append_assoc, List.getLast?_append,
      Option.or_of_isSome (List.getLast?_isSome.2 hyn), ← hy] at hc
    exact getLast?_trimBy c hc

end

@[simp] theorem trim_trim (cs : List Char) : trim (trim cs) = trim cs := trimBy_trimBy

/-- No character is lost but blanks. -/
theorem mem_trim_iff {cs : List Char} {c : Char} (hc : isBlank c = false) :
    c ∈ trim cs ↔ c ∈ cs :=
  mem_trimBy_iff hc

/-- Exactly of blank text nothing is left. -/
theorem trim_eq_nil_iff {cs : List Char} : trim cs = [] ↔ isBlankText cs = true := by
  simp [trim, trimBy_eq_nil_iff, isBlankText]

end AgentChain.Text
