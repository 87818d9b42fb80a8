import SplitPlanning.Storage.BlockCursor

/-!
# Answers without history

Whatever a cursor was asked, the blocks it has passed are exactly those in front of the first one
that ends behind the last position. Hence every answer is the one given to who asks only once.
-/

namespace SplitPlanning

/-! ## The first block that ends behind a position -/

/-- The place of the first block that ends behind a position, or the number of blocks. -/
def firstBehind (blocks : List Block) (position : Int) : Nat :=
  blocks.findIdx fun b ↦ position < b.stop

theorem lt_stop_of_firstBehind {blocks : List Block} {position : Int} {b : Block}
    (hb : blocks[firstBehind blocks position]? = some b) : position < b.stop := by
  have hfound := List.findIdx_of_getElem?_eq_some hb
  simpa only [decide_eq_true_eq] using hfound

theorem stop_le_of_lt_firstBehind {blocks : List Block} {position : Int} {i : Nat} {b : Block}
    (hb : blocks[i]? = some b) (hi : i < firstBehind blocks position) : b.stop ≤ position := by
  obtain ⟨hlength, rfl⟩ := List.getElem?_eq_some_iff.mp hb
  have hpassed := List.not_of_lt_findIdx hi
  simpa only [decide_eq_false_iff_not, Int.not_lt] using hpassed

theorem firstBehind_le_of_lt_stop {blocks : List Block} {position : Int} {i : Nat} {b : Block}
    (hb : blocks[i]? = some b) (hlt : position < b.stop) : firstBehind blocks position ≤ i := by
  apply Nat.le_of_not_lt
  intro hpassed
  have hstop := stop_le_of_lt_firstBehind hb hpassed
  omega

theorem firstBehind_mono (blocks : List Block) {position later : Int} (h : position ≤ later) :
    firstBehind blocks position ≤ firstBehind blocks later := by
  apply List.findIdx_le_findIdx
  intro b _ hb
  simp only [decide_eq_true_eq] at hb ⊢
  omega

/-- Blocks that end in front of an earlier position need not be looked at for a later one. -/
theorem firstBehind_eq_add_drop (blocks : List Block) {position later : Int}
    (h : position ≤ later) :
    firstBehind blocks later = firstBehind blocks position +
      firstBehind (blocks.drop (firstBehind blocks position)) later := by
  let passed := firstBehind blocks position
  have hlength : (blocks.take passed).length = passed :=
    List.length_take_of_le List.findIdx_le_length
  have hnone : firstBehind (blocks.take passed) later = (blocks.take passed).length := by
    apply List.findIdx_eq_length_of_false
    intro b hb
    obtain ⟨i, hi, rfl⟩ := List.mem_iff_getElem.mp hb
    have hstop : (blocks.take passed)[i].stop ≤ position := by
      have hlt : i < passed := hlength ▸ hi
      have hblock : blocks[i]? = some (blocks.take passed)[i] := by
        rw [← List.getElem?_eq_getElem hi, List.getElem?_take_of_lt hlt]
      exact stop_le_of_lt_firstBehind hblock hlt
    simp only [decide_eq_false_iff_not, Int.not_lt]
    omega
  calc
    firstBehind blocks later =
        firstBehind (blocks.take passed ++ blocks.drop passed) later := by
      rw [List.take_append_drop]
    _ = firstBehind (blocks.drop passed) later + passed := by
      unfold firstBehind at hnone ⊢
      rw [List.findIdx_append, hnone, if_neg (Nat.lt_irrefl _), hlength]
    _ = passed + firstBehind (blocks.drop passed) later := Nat.add_comm _ _

/-! ## Cursors after any queries -/

namespace BlockCursor

/-- The blocks passed are those in front of the first one that ends behind the last position. -/
def Settled (cursor : BlockCursor) : Prop :=
  cursor.passed = cursor.lastPosition.elim 0 (firstBehind cursor.blocks)

theorem settled_ofBlocks (blocks : List Block) : (ofBlocks blocks).Settled := rfl

variable {cursor : BlockCursor}

theorem Settled.passed_advance (h : cursor.Settled) (position : Int) :
    (cursor.advance position).passed = firstBehind cursor.blocks position := by
  obtain ⟨blocks, passed, lastPosition⟩ := cursor
  unfold Settled at h
  change skipped _ position + firstBehind (blocks.drop (skipped _ position)) position = _
  cases lastPosition with
  | none =>
    have hpassed : passed = 0 := h
    simp only [skipped, hpassed, List.drop_zero, Nat.zero_add]
  | some last =>
    have hpassed : passed = firstBehind blocks last := h
    by_cases hback : position < last
    · simp only [skipped, if_pos hback, List.drop_zero, Nat.zero_add]
    · simp only [skipped, if_neg hback, hpassed]
      exact (firstBehind_eq_add_drop blocks (Int.not_lt.mp hback)).symm

theorem Settled.advance (h : cursor.Settled) (position : Int) :
    (cursor.advance position).Settled :=
  h.passed_advance position

/-- Advancing forgets all positions asked before. -/
theorem Settled.advance_eq (h : cursor.Settled) (position : Int) :
    cursor.advance position =
      { blocks := cursor.blocks
        passed := firstBehind cursor.blocks position
        lastPosition := some position } := by
  rw [← h.passed_advance position]
  rfl

theorem Settled.locate_eq (h : cursor.Settled) (position : Int) :
    cursor.locate position = (ofBlocks cursor.blocks).locate position := by
  unfold locate
  rw [h.advance_eq, (settled_ofBlocks _).advance_eq]
  rfl

theorem Settled.nextBoundary_eq (h : cursor.Settled) (position : Int) :
    cursor.nextBoundary position = (ofBlocks cursor.blocks).nextBoundary position := by
  unfold nextBoundary
  rw [h.advance_eq, (settled_ofBlocks _).advance_eq]
  rfl

/-! ## Cursors after a sequence of questions -/

/-- A question to a cursor. -/
inductive Query where
  | locate (position : Int)
  | nextBoundary (position : Int)
deriving DecidableEq, Repr

def ask (cursor : BlockCursor) : Query → BlockCursor
  | .locate position => (cursor.locate position).1
  | .nextBoundary position => (cursor.nextBoundary position).1

def askAll (cursor : BlockCursor) (queries : List Query) : BlockCursor :=
  queries.foldl ask cursor

theorem Settled.ask (h : cursor.Settled) (query : Query) : (cursor.ask query).Settled := by
  cases query with
  | locate position => exact h.advance position
  | nextBoundary position => exact h.advance position

@[simp] theorem blocks_ask (cursor : BlockCursor) (query : Query) :
    (cursor.ask query).blocks = cursor.blocks := by
  cases query <;> rfl

theorem Settled.askAll (h : cursor.Settled) (queries : List Query) :
    (cursor.askAll queries).Settled := by
  induction queries generalizing cursor with
  | nil => exact h
  | cons query queries ih => exact ih (h.ask query)

@[simp] theorem blocks_askAll (cursor : BlockCursor) (queries : List Query) :
    (cursor.askAll queries).blocks = cursor.blocks := by
  induction queries generalizing cursor with
  | nil => rfl
  | cons query queries ih => exact (ih _).trans (blocks_ask cursor query)

/-- Whatever was asked before, the block given is the one given to who asks only once. -/
theorem locate_askAll (blocks : List Block) (queries : List Query) (position : Int) :
    (((ofBlocks blocks).askAll queries).locate position).2 = locateIn blocks position := by
  rw [((settled_ofBlocks blocks).askAll queries).locate_eq, blocks_askAll]
  rfl

theorem nextBoundary_askAll (blocks : List Block) (queries : List Query) (position : Int) :
    (((ofBlocks blocks).askAll queries).nextBoundary position).2 = boundaryIn blocks position := by
  rw [((settled_ofBlocks blocks).askAll queries).nextBoundary_eq, blocks_askAll]
  rfl

end BlockCursor

end SplitPlanning
