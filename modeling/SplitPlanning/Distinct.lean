/-! # Counting different things -/

namespace SplitPlanning

variable {α : Type}

/-- A thing is kept when it equals none of those kept before it, and so maybe not even itself. -/
def keepDistinct (same : α → α → Bool) (kept : List α) : List α → List α
  | [] => kept
  | a :: rest =>
    if kept.any (same · a) then keepDistinct same kept rest
    else keepDistinct same (kept ++ [a]) rest

def countDistinct (same : α → α → Bool) (l : List α) : Nat :=
  (keepDistinct same [] l).length

end SplitPlanning
