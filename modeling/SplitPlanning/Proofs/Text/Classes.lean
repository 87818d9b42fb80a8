import SplitPlanning.Text.Blank
import SplitPlanning.Text.DecimalDigit

/-!
# Digits, blanks and letters

The three classes have no common member, so a text made of a run of each can be taken apart again.
-/

namespace SplitPlanning.Text

/-! ## Ranges apart -/

/-- Whether no range of the one list meets a range of the other. -/
def Apart (ranges others : List CodePointRange) : Prop :=
  ∀ range ∈ ranges, ∀ other ∈ others, range.last < other.first ∨ other.last < range.first

instance (ranges others : List CodePointRange) : Decidable (Apart ranges others) :=
  inferInstanceAs (Decidable (∀ range ∈ ranges, ∀ other ∈ others, _ ∨ _))

theorem Apart.inRanges_eq_false {ranges others : List CodePointRange} (h : Apart ranges others)
    {c : Char} (hc : inRanges ranges c = true) : inRanges others c = false := by
  obtain ⟨range, hrange, hholds⟩ := inRanges_eq_true_iff.mp hc
  apply Bool.eq_false_iff.mpr
  intro hother
  obtain ⟨other, hmem, hotherHolds⟩ := inRanges_eq_true_iff.mp hother
  have hapart := h range hrange other hmem
  omega

/-! ## Digits, blanks and letters -/

/-- The decimal digits, a range for every run of ten. -/
def digitRanges : List CodePointRange :=
  digitZeros.map fun first ↦ ⟨first, first + 9⟩

def letterRanges : List CodePointRange :=
  [⟨0x41, 0x5A⟩, ⟨0x61, 0x7A⟩]

theorem isDecimalDigit_eq_inRanges (c : Char) : isDecimalDigit c = inRanges digitRanges c := by
  unfold isDecimalDigit digitValue? inRanges digitRanges
  rw [Bool.eq_iff_iff, Option.isSome_map, List.find?_isSome, List.any_map, List.any_eq_true]
  rfl

theorem inRanges_letterRanges {c : Char} (h : c.isAlpha = true) :
    inRanges letterRanges c = true := by
  rw [inRanges_eq_true_iff]
  rcases Bool.or_eq_true_iff.mp h with hupper | hlower
  · exact ⟨⟨0x41, 0x5A⟩, List.mem_cons_self, of_decide_eq_true hupper⟩
  · obtain ⟨hfirst, hlast⟩ := Bool.and_eq_true_iff.mp hlower
    exact ⟨⟨0x61, 0x7A⟩, List.mem_cons_of_mem _ List.mem_cons_self, of_decide_eq_true hfirst,
      of_decide_eq_true hlast⟩

variable {c : Char}

theorem isBlank_eq_false_of_isDecimalDigit (h : isDecimalDigit c = true) : isBlank c = false := by
  have hapart : Apart digitRanges blankRanges := by decide
  rw [isDecimalDigit_eq_inRanges] at h
  exact hapart.inRanges_eq_false h

theorem isDecimalDigit_eq_false_of_isBlank (h : isBlank c = true) : isDecimalDigit c = false := by
  have hapart : Apart blankRanges digitRanges := by decide
  rw [isDecimalDigit_eq_inRanges]
  exact hapart.inRanges_eq_false h

theorem isDecimalDigit_eq_false_of_isAlpha (h : c.isAlpha = true) : isDecimalDigit c = false := by
  have hapart : Apart letterRanges digitRanges := by decide
  rw [isDecimalDigit_eq_inRanges]
  exact hapart.inRanges_eq_false (inRanges_letterRanges h)

theorem isBlank_eq_false_of_isAlpha (h : c.isAlpha = true) : isBlank c = false := by
  have hapart : Apart letterRanges blankRanges := by decide
  exact hapart.inRanges_eq_false (inRanges_letterRanges h)

/-! ## Runs -/

section Runs

variable {p : Char → Bool} {run rest : List Char}

theorem takeWhile_of_head (hrest : ∀ c ∈ rest.head?, p c = false) : rest.takeWhile p = [] := by
  cases rest with
  | nil => rfl
  | cons c rest => exact List.takeWhile_cons_of_neg (by simp [hrest c rfl])

theorem dropWhile_of_head (hrest : ∀ c ∈ rest.head?, p c = false) : rest.dropWhile p = rest := by
  cases rest with
  | nil => rfl
  | cons c rest => exact List.dropWhile_cons_of_neg (by simp [hrest c rfl])

/-- A run of one class ends in front of the first character outside of it. -/
theorem takeWhile_append_of_head (hrun : ∀ c ∈ run, p c = true)
    (hrest : ∀ c ∈ rest.head?, p c = false) : (run ++ rest).takeWhile p = run := by
  rw [List.takeWhile_append_of_pos hrun, takeWhile_of_head hrest, List.append_nil]

theorem dropWhile_append_of_head (hrun : ∀ c ∈ run, p c = true)
    (hrest : ∀ c ∈ rest.head?, p c = false) : (run ++ rest).dropWhile p = rest := by
  rw [List.dropWhile_append_of_pos hrun, dropWhile_of_head hrest]

end Runs

/-! ## Trimming -/

section Trimming

variable {before s after : List Char}

theorem trim_eq_self (hfirst : ∀ c ∈ s.head?, isBlank c = false)
    (hlast : ∀ c ∈ s.getLast?, isBlank c = false) : trim s = s := by
  have hend : s.reverse.dropWhile isBlank = s.reverse := by
    rw [← List.head?_reverse] at hlast
    exact dropWhile_of_head hlast
  rw [trim, trimEnd, dropWhile_of_head hfirst, hend, List.reverse_reverse]

theorem trimEnd_append (hafter : ∀ c ∈ after, isBlank c = true) (s : List Char) :
    trimEnd (s ++ after) = trimEnd s := by
  have hreverse : ∀ c ∈ after.reverse, isBlank c = true :=
    fun c hc ↦ hafter c (List.mem_reverse.mp hc)
  rw [trimEnd, trimEnd, List.reverse_append, List.dropWhile_append_of_pos hreverse]

/-- Blanks around a text that does not begin with one do not count. -/
theorem trim_append (hbefore : ∀ c ∈ before, isBlank c = true)
    (hafter : ∀ c ∈ after, isBlank c = true) (hne : s ≠ [])
    (hfirst : ∀ c ∈ s.head?, isBlank c = false) : trim (before ++ (s ++ after)) = trim s := by
  have hbehind : ∀ c ∈ (s ++ after).head?, isBlank c = false := by
    obtain ⟨first, rest, rfl⟩ := List.exists_cons_of_ne_nil hne
    exact hfirst
  rw [trim, dropWhile_append_of_head hbefore hbehind, trimEnd_append hafter, trim,
    dropWhile_of_head hfirst]

theorem isBlank_of_getLast?_trim (s : List Char) :
    ∀ c ∈ (trim s).getLast?, isBlank c = false := by
  intro c hc
  rw [trim, trimEnd, List.getLast?_reverse] at hc
  have hfirst := List.head?_dropWhile_not isBlank (s.dropWhile isBlank).reverse
  simpa [Option.mem_def.mp hc] using hfirst

theorem isBlank_of_head?_trim (s : List Char) : ∀ c ∈ (trim s).head?, isBlank c = false := by
  intro c hc
  have hprefix : trim s <+: s.dropWhile isBlank := by
    rw [trim, trimEnd, ← List.reverse_suffix, List.reverse_reverse]
    exact List.dropWhile_suffix isBlank
  obtain ⟨behind, hbehind⟩ := hprefix
  have hfirst := List.head?_dropWhile_not isBlank s
  rw [← hbehind, List.head?_append, Option.mem_def.mp hc] at hfirst
  exact hfirst

/-- What trimming takes off is blank. -/
theorem exists_eq_append_trim (s : List Char) :
    ∃ before after, (∀ c ∈ before, isBlank c = true) ∧ (∀ c ∈ after, isBlank c = true) ∧
      s = before ++ (trim s ++ after) := by
  let kept := s.dropWhile isBlank
  let behind := (kept.reverse.takeWhile isBlank).reverse
  have hall : ∀ l : List Char, ∀ c ∈ l.takeWhile isBlank, isBlank c = true :=
    fun l ↦ List.all_eq_true.mp List.all_takeWhile
  have hkept : kept = trim s ++ behind :=
    calc
      kept = (kept.reverse.takeWhile isBlank ++ kept.reverse.dropWhile isBlank).reverse := by
        rw [List.takeWhile_append_dropWhile, List.reverse_reverse]
      _ = trim s ++ behind := List.reverse_append
  refine ⟨s.takeWhile isBlank, behind, hall s,
    fun c hc ↦ hall kept.reverse c (List.mem_reverse.mp hc), ?_⟩
  rw [← hkept]
  exact List.takeWhile_append_dropWhile.symm

end Trimming

end SplitPlanning.Text
