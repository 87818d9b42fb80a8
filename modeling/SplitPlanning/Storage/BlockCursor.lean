import SplitPlanning.Storage.Block

/-!
# Scanning the blocks of a file

Scans ask in ascending order, so the cursor passes every block that ends at or in front of the
position asked and looks on from there; a smaller position sends it back to the first block. A
position that no block holds is given to the block passed last, or to the first one if none was.
-/

namespace SplitPlanning

/-- The blocks of a file and how far a scan over them has come. -/
structure BlockCursor where
  blocks : List Block
  passed : Nat
  lastPosition : Option Int
deriving DecidableEq, Repr

/-- The block that answers for a position. -/
structure Placement where
  index : Nat
  block : Block
  /-- Whether the block holds the position. Otherwise it is only near. -/
  inside : Bool
deriving DecidableEq, Repr

namespace BlockCursor

def ofBlocks (blocks : List Block) : BlockCursor :=
  { blocks, passed := 0, lastPosition := none }

/-- The blocks passed need not be looked at again, unless the scan goes back. -/
def skipped (cursor : BlockCursor) (position : Int) : Nat :=
  match cursor.lastPosition with
  | none => cursor.passed
  | some last => if position < last then 0 else cursor.passed

/-- The cursor after it has passed the next blocks that end at or in front of a position. -/
def advance (cursor : BlockCursor) (position : Int) : BlockCursor :=
  let skipped := cursor.skipped position
  let further := (cursor.blocks.drop skipped).findIdx fun b ↦ position < b.stop
  { cursor with passed := skipped + further, lastPosition := some position }

def placement? (cursor : BlockCursor) (position : Int) : Option Placement :=
  let near := cursor.blocks[cursor.passed - 1]?.map (⟨cursor.passed - 1, ·, false⟩)
  match cursor.blocks[cursor.passed]? with
  | some b => if position ∈ b then some ⟨cursor.passed, b, true⟩ else near
  | none => near

/-- The nearest edge behind the position of the first block that was not passed. -/
def boundary? (cursor : BlockCursor) (position : Int) : Option Int :=
  cursor.blocks[cursor.passed]?.map fun b ↦ if position ∈ b then b.stop else b.offset

/-- Which block answers for a position. There is none only if there are no blocks. -/
def locate (cursor : BlockCursor) (position : Int) : BlockCursor × Option Placement :=
  (cursor.advance position, (cursor.advance position).placement? position)

/-- The first block boundary behind a position, if any block lies ahead. -/
def nextBoundary (cursor : BlockCursor) (position : Int) : BlockCursor × Option Int :=
  (cursor.advance position, (cursor.advance position).boundary? position)

@[simp] theorem blocks_advance (cursor : BlockCursor) (position : Int) :
    (cursor.advance position).blocks = cursor.blocks := rfl

end BlockCursor

/-! ## Asking once -/

/-- Which of the blocks answers for a position, for who asks only once. -/
def locateIn (blocks : List Block) (position : Int) : Option Placement :=
  ((BlockCursor.ofBlocks blocks).locate position).2

def boundaryIn (blocks : List Block) (position : Int) : Option Int :=
  ((BlockCursor.ofBlocks blocks).nextBoundary position).2

end SplitPlanning
