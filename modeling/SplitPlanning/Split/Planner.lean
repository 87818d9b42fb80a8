import SplitPlanning.Journal
import SplitPlanning.Split.OpenSplit
import SplitPlanning.Storage.BlockCursor

/-!
# Planning the splits of a file

The row groups of a file are taken in order, each by the split that is open; a row group that the
open split does not take closes it and opens the next one.
-/

namespace SplitPlanning

/-- The split opened for a row group, which it takes at once, and the cursor asked for it. -/
structure Opening where
  cursor : BlockCursor
  split : OpenSplit
  /-- What is reported if no block holds the offset of the row group. -/
  events : List Event

/-- What is reported about the block used for a position. -/
def Placement.events (position : Int) : Option Placement → List Event
  | some ⟨_, _, true⟩ => []
  | some ⟨_, block, false⟩ => [.blockMissed position block]
  | none => []

def BlockCursor.openSplit (cursor : BlockCursor) (r : RowGroup) : Opening :=
  let located := cursor.locate r.startOffset
  let bounded := located.1.nextBoundary r.startOffset
  { cursor := bounded.1
    split := (OpenSplit.new (located.2.map Placement.block) bounded.2).add r
    events := Placement.events r.startOffset located.2 }

/-- The row group that a split is opened for is one that it would take in any window. -/
theorem BlockCursor.exists_takes_openSplit (cursor : BlockCursor) (r : RowGroup) (w : SizeWindow) :
    ∃ s : OpenSplit, s.members = [] ∧ s.takes w r = true ∧ (cursor.openSplit r).split = s.add r :=
  ⟨_, rfl, OpenSplit.takes_new _ _ w r, rfl⟩

/-- Splits that were packed, in order, and what was reported on the way. -/
structure Packing where
  splits : List OpenSplit
  events : List Event

namespace Packing

/-- Packs the row groups that follow those in the open split. -/
def continued (w : SizeWindow) (cursor : BlockCursor) (current : OpenSplit) :
    List RowGroup → Packing
  | [] => ⟨[current], []⟩
  | r :: rest =>
    if current.takes w r then continued w cursor (current.add r) rest
    else
      let opening := cursor.openSplit r
      let later := continued w opening.cursor opening.split rest
      ⟨current :: later.splits, opening.events ++ later.events⟩

def ofRowGroups (w : SizeWindow) (blocks : List Block) : List RowGroup → Packing
  | [] => ⟨[], []⟩
  | r :: rest =>
    let opening := (BlockCursor.ofBlocks blocks).openSplit r
    let later := continued w opening.cursor opening.split rest
    ⟨later.splits, opening.events ++ later.events⟩

end Packing

/-- Plans the splits of a file in a window. -/
def SizeWindow.plan {ε : Type} (w : SizeWindow) (rowGroups : List RowGroup) (blocks : List Block)
    (context : SplitContext) : Journal ε (List Split) :=
  let packing := Packing.ofRowGroups w blocks rowGroups
  ⟨packing.events ++
      [.splitsPlanned packing.splits.length rowGroups.length blocks.length w.minSize w.maxSize],
    .ok (packing.splits.map (·.close context))⟩

/-- Plans the splits of a file between two sizes, which must form a window. -/
def planRowGroups (rowGroups : List RowGroup) (blocks : List Block) (context : SplitContext)
    (minSize maxSize : Int) : Journal WindowError (List Split) := do
  let w ← Journal.ofExcept (SizeWindow.make minSize maxSize)
  w.plan rowGroups blocks context

end SplitPlanning
