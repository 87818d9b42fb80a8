/-! # Ranges of code points -/

namespace SplitPlanning.Text

/-- The code points from `first` to `last`, both included. -/
structure CodePointRange where
  first : Nat
  last : Nat
deriving DecidableEq, Repr

namespace CodePointRange

def holds (range : CodePointRange) (c : Char) : Bool :=
  range.first ≤ c.toNat && c.toNat ≤ range.last

end CodePointRange

def inRanges (ranges : List CodePointRange) (c : Char) : Bool :=
  ranges.any (·.holds c)

theorem inRanges_eq_true_iff {ranges : List CodePointRange} {c : Char} :
    inRanges ranges c = true ↔
      ∃ range ∈ ranges, range.first ≤ c.toNat ∧ c.toNat ≤ range.last := by
  simp [inRanges, CodePointRange.holds]

end SplitPlanning.Text
