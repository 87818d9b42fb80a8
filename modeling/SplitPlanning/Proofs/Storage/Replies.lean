import SplitPlanning.Proofs.Storage.CursorHistory
import SplitPlanning.Split.Planner

/-! # Replies without history -/

namespace SplitPlanning

namespace BlockCursor

/-- The block that answers with what is reported about it, or the boundary. -/
inductive Reply where
  | located (placement : Option Placement) (events : List Event)
  | bounded (boundary : Option Int)
deriving DecidableEq, Repr

def reply (cursor : BlockCursor) : Query → Reply
  | .locate position =>
    let placement := (cursor.locate position).2
    .located placement (Placement.events position placement)
  | .nextBoundary position => .bounded (cursor.nextBoundary position).2

def replies (cursor : BlockCursor) : List Query → List Reply
  | [] => []
  | query :: rest => cursor.reply query :: (cursor.ask query).replies rest

variable {cursor : BlockCursor}

/-- A settled cursor replies as one that has not been asked yet. -/
theorem Settled.reply_eq (h : cursor.Settled) (query : Query) :
    cursor.reply query = (ofBlocks cursor.blocks).reply query := by
  cases query with
  | locate position => simp only [reply, h.locate_eq]
  | nextBoundary position => simp only [reply, h.nextBoundary_eq]

/-- Every question leaves the cursor settled over the same blocks. -/
theorem Settled.replies_eq (h : cursor.Settled) (queries : List Query) :
    cursor.replies queries = queries.map (ofBlocks cursor.blocks).reply := by
  induction queries generalizing cursor with
  | nil => rfl
  | cons query rest ih =>
    have hrest := ih (h.ask query)
    -- The question moved the cursor, not its blocks, so the fresh cursor stays the same one.
    rw [blocks_ask] at hrest
    rw [replies, List.map_cons, h.reply_eq, hrest]

/-- Where there are no blocks nothing that a cursor holds shows. -/
theorem reply_of_no_blocks (passed : Nat) (lastPosition : Option Int) (query : Query) :
    (⟨[], passed, lastPosition⟩ : BlockCursor).reply query = (ofBlocks []).reply query := by
  cases query <;> rfl

/-- **Replies have no history.** Whatever questions a cursor was asked, it replies to the next one
as a cursor that is asked only that. -/
theorem reply_askAll (blocks : List Block) (queries : List Query) :
    (∀ query, ((ofBlocks blocks).askAll queries).reply query = (ofBlocks blocks).reply query) ∧
      (ofBlocks blocks).replies queries = queries.map (ofBlocks blocks).reply := by
  have hfresh := settled_ofBlocks blocks
  constructor
  · intro query
    rw [(hfresh.askAll queries).reply_eq, blocks_askAll]
    rfl
  · exact hfresh.replies_eq queries

/-- Back over a gap between blocks that lie in descending order. -/
example :
    let blocks : List Block := [⟨20, 10, ["a"], []⟩, ⟨0, 10, ["b"], []⟩]
    ((ofBlocks blocks).askAll [.locate 25, .nextBoundary 40]).reply (.locate 15) =
      .located (some ⟨0, ⟨20, 10, ["a"], []⟩, false⟩)
        [.blockMissed 15 ⟨20, 10, ["a"], []⟩] := by
  decide

end BlockCursor

end SplitPlanning
