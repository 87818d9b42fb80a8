import SplitPlanning.Text.CodePointRange

/-!
# Blank characters

The Unicode white space characters together with the four information separators U+001C to U+001F.
-/

namespace SplitPlanning.Text

/-- The blank characters, 29 in all. -/
def blankRanges : List CodePointRange := [
  ⟨0x9, 0xD⟩, ⟨0x1C, 0x20⟩, ⟨0x85, 0x85⟩, ⟨0xA0, 0xA0⟩, ⟨0x1680, 0x1680⟩, ⟨0x2000, 0x200A⟩,
  ⟨0x2028, 0x2029⟩, ⟨0x202F, 0x202F⟩, ⟨0x205F, 0x205F⟩, ⟨0x3000, 0x3000⟩]

def isBlank (c : Char) : Bool :=
  inRanges blankRanges c

/-! ## Removing blanks at the ends -/

def trimEnd (s : List Char) : List Char :=
  (s.reverse.dropWhile isBlank).reverse

def trim (s : List Char) : List Char :=
  trimEnd (s.dropWhile isBlank)

/-- Dropping the leading characters of a class leaves nothing exactly when all belong to it. -/
private theorem dropWhile_isBlank_eq_nil_iff {s : List Char} :
    s.dropWhile isBlank = [] ↔ ∀ c ∈ s, isBlank c = true := by
  induction s with
  | nil => simp
  | cons c rest ih => by_cases hc : isBlank c = true <;> simp [hc, ih]

theorem trim_eq_nil_iff {s : List Char} : trim s = [] ↔ ∀ c ∈ s, isBlank c = true := by
  rw [← dropWhile_isBlank_eq_nil_iff, trim, trimEnd, List.reverse_eq_nil_iff,
    dropWhile_isBlank_eq_nil_iff]
  constructor
  · intro h
    cases hd : s.dropWhile isBlank with
    | nil => rfl
    | cons d rest =>
      have hblank : isBlank d = true := h d (by simp [hd])
      have hhead := List.head?_dropWhile_not isBlank s
      simp [hd, hblank] at hhead
  · intro h
    simp [h]

end SplitPlanning.Text
