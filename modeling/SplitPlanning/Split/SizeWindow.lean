/-!
# Size windows

A split may end at a block boundary once it holds the minimum, and it ends at the latest once it
holds the maximum.
-/

namespace SplitPlanning

/-- Bounds that every planning can meet. -/
structure SizeWindow where
  minSize : Int
  maxSize : Int
  maxSize_pos : 0 < maxSize
  minSize_le_maxSize : minSize ≤ maxSize
deriving DecidableEq, Repr

structure WindowError where
  minSize : Int
  maxSize : Int
deriving DecidableEq, Repr

def WindowError.message (e : WindowError) : String :=
  "maxSplitSize should be positive and greater or equal to the minSplitSize: " ++
    s!"maxSplitSize = {e.maxSize}; minSplitSize is {e.minSize}"

namespace SizeWindow

/-- The window with the given bounds, if the maximum is positive and not below the minimum. -/
def make (minSize maxSize : Int) : Except WindowError SizeWindow :=
  if h : 0 < maxSize ∧ minSize ≤ maxSize then
    .ok { minSize, maxSize, maxSize_pos := h.1, minSize_le_maxSize := h.2 }
  else
    .error ⟨minSize, maxSize⟩

@[simp] theorem make_bounds (w : SizeWindow) : make w.minSize w.maxSize = .ok w := by
  simp [make, w.maxSize_pos, w.minSize_le_maxSize]

end SizeWindow

end SplitPlanning
