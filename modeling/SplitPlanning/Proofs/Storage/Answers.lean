import SplitPlanning.Proofs.Storage.CursorHistory

/-!
# Where positions fall

Both answers about a position depend on the first block that ends behind it. Among blocks in
ascending order this is the first block that holds the position, if any block does.
-/

namespace SplitPlanning

variable {blocks : List Block}

theorem Block.offset_le_stop {b : Block} (hlength : 0 ≤ b.length) : b.offset ≤ b.stop :=
  Int.le_add_of_nonneg_right hlength

/-! ## Both answers from the first block that ends behind -/

namespace BlockCursor

variable {cursor : BlockCursor} {position : Int}

theorem placement?_of_mem {b : Block} (hb : cursor.blocks[cursor.passed]? = some b)
    (hmem : position ∈ b) : cursor.placement? position = some ⟨cursor.passed, b, true⟩ := by
  unfold placement?
  simp only [hb, if_pos hmem]

theorem placement?_of_notMem (hnot : ∀ b ∈ cursor.blocks[cursor.passed]?, position ∉ b) :
    cursor.placement? position =
      cursor.blocks[cursor.passed - 1]?.map (⟨cursor.passed - 1, ·, false⟩) := by
  unfold placement?
  cases hb : cursor.blocks[cursor.passed]? with
  | none => rfl
  | some b =>
    have hout : position ∉ b := hnot b hb
    simp only [if_neg hout]

end BlockCursor

/-- Where the scan of who asks only once comes to rest. -/
theorem advance_ofBlocks (blocks : List Block) (position : Int) :
    (BlockCursor.ofBlocks blocks).advance position =
      ⟨blocks, firstBehind blocks position, some position⟩ :=
  (BlockCursor.settled_ofBlocks blocks).advance_eq position

/-- The boundary of who asks only once is read off the first block that ends behind. -/
theorem boundaryIn_eq (blocks : List Block) (position : Int) :
    boundaryIn blocks position = blocks[firstBehind blocks position]?.map fun b ↦
      if position ∈ b then b.stop else b.offset := by
  unfold boundaryIn BlockCursor.nextBoundary BlockCursor.boundary?
  rw [advance_ofBlocks]

theorem boundaryIn_of_firstBehind {position : Int} {b : Block}
    (hfirst : blocks[firstBehind blocks position]? = some b) :
    boundaryIn blocks position = some (if position ∈ b then b.stop else b.offset) := by
  rw [boundaryIn_eq, hfirst, Option.map_some]

/-- The block of who asks only once is looked up from the first one that ends behind. -/
theorem locateIn_eq (blocks : List Block) (position : Int) :
    locateIn blocks position =
      BlockCursor.placement? ⟨blocks, firstBehind blocks position, some position⟩ position := by
  unfold locateIn BlockCursor.locate
  rw [advance_ofBlocks]

theorem locateIn_of_mem_firstBehind {position : Int} {b : Block}
    (hfirst : blocks[firstBehind blocks position]? = some b) (hmem : position ∈ b) :
    locateIn blocks position = some ⟨firstBehind blocks position, b, true⟩ := by
  rw [locateIn_eq]
  exact BlockCursor.placement?_of_mem hfirst hmem

/-- A position that this block does not hold is given to the block in front of it. -/
theorem locateIn_of_notMem_firstBehind {position : Int}
    (hnot : ∀ b ∈ blocks[firstBehind blocks position]?, position ∉ b) :
    locateIn blocks position = blocks[firstBehind blocks position - 1]?.map
      (⟨firstBehind blocks position - 1, ·, false⟩) := by
  rw [locateIn_eq]
  exact BlockCursor.placement?_of_notMem hnot

/-- The first block that ends behind a position holds it, or no such block does. -/
theorem mem_firstBehind_or_notMem (blocks : List Block) (position : Int) :
    (∃ b, blocks[firstBehind blocks position]? = some b ∧ position ∈ b) ∨
      ∀ b ∈ blocks[firstBehind blocks position]?, position ∉ b := by
  by_cases hin : ∃ b, blocks[firstBehind blocks position]? = some b ∧ position ∈ b
  · exact Or.inl hin
  · exact Or.inr fun b hb hmem ↦ hin ⟨b, hb, hmem⟩

/-! ## Positions that a block holds -/

/-- In front of the first block that ends behind a position no block holds it. -/
theorem notMem_of_lt_firstBehind {position : Int} {i : Nat} {b : Block} (hb : blocks[i]? = some b)
    (hi : i < firstBehind blocks position) : position ∉ b := by
  intro hmem
  have hstop := stop_le_of_lt_firstBehind hb hi
  have hlt := (Block.mem_iff.mp hmem).2
  omega

theorem offset_le_of_le (hsorted : blocks.Pairwise fun b c ↦ b.offset ≤ c.offset) {i j : Nat}
    {b c : Block} (hb : blocks[i]? = some b) (hc : blocks[j]? = some c) (hij : i ≤ j) :
    b.offset ≤ c.offset := by
  obtain ⟨hi, rfl⟩ := List.getElem?_eq_some_iff.mp hb
  obtain ⟨hj, rfl⟩ := List.getElem?_eq_some_iff.mp hc
  rcases Nat.eq_or_lt_of_le hij with rfl | hlt
  · exact Int.le_refl _
  · exact List.pairwise_iff_getElem.mp hsorted i j hi hj hlt

theorem mem_firstBehind_of_mem (hsorted : blocks.Pairwise fun b c ↦ b.offset ≤ c.offset)
    {position : Int} {b : Block} (hb : b ∈ blocks) (hmem : position ∈ b) :
    ∃ first, blocks[firstBehind blocks position]? = some first ∧ position ∈ first := by
  obtain ⟨i, hi, rfl⟩ := List.mem_iff_getElem.mp hb
  have hplace := firstBehind_le_of_lt_stop (List.getElem?_eq_getElem hi) (Block.mem_iff.mp hmem).2
  have hlength : firstBehind blocks position < blocks.length := Nat.lt_of_le_of_lt hplace hi
  have hfirst := List.getElem?_eq_getElem hlength
  have hoffset := offset_le_of_le hsorted hfirst (List.getElem?_eq_getElem hi) hplace
  refine ⟨blocks[firstBehind blocks position], hfirst, Block.mem_iff.mpr ⟨?_, ?_⟩⟩
  · exact Int.le_trans hoffset (Block.mem_iff.mp hmem).1
  · exact lt_stop_of_firstBehind hfirst

/-- Among blocks in ascending order, the first block that holds a position answers for it. -/
theorem locateIn_of_mem (hsorted : blocks.Pairwise fun b c ↦ b.offset ≤ c.offset)
    {position : Int} {b : Block} (hb : b ∈ blocks) (hmem : position ∈ b) :
    ∃ first, blocks.find? (position ∈ ·) = some first ∧
      locateIn blocks position = some ⟨firstBehind blocks position, first, true⟩ := by
  obtain ⟨first, hfirst, hholds⟩ := mem_firstBehind_of_mem hsorted hb hmem
  obtain ⟨hlength, hget⟩ := List.getElem?_eq_some_iff.mp hfirst
  refine ⟨first, ?_, ?_⟩
  · rw [List.find?_eq_some_iff_getElem]
    refine ⟨by simpa using hholds, firstBehind blocks position, hlength, hget, ?_⟩
    intro i hi
    have hnot := notMem_of_lt_firstBehind (List.getElem?_eq_getElem (Nat.lt_trans hi hlength)) hi
    simpa using hnot
  · exact locateIn_of_mem_firstBehind hfirst hholds

/-! ## Positions up to the next boundary -/

/-- The boundary is the end of the first block that ends behind, or lies in front of that end. -/
theorem lt_stop_of_lt_boundary {position later : Int} {b : Block} (hlength : 0 ≤ b.length)
    (hfirst : blocks[firstBehind blocks position]? = some b)
    (hboundary : ∀ bound ∈ boundaryIn blocks position, later < bound) : later < b.stop := by
  have hbound := hboundary _ (boundaryIn_of_firstBehind hfirst)
  unfold Block.stop at hbound ⊢
  split at hbound <;> omega

/-- No block ends between a position and the boundary behind it. -/
theorem firstBehind_eq_of_lt_boundary (hlengths : ∀ b ∈ blocks, 0 ≤ b.length)
    {position later : Int} (hle : position ≤ later)
    (hboundary : ∀ bound ∈ boundaryIn blocks position, later < bound) :
    firstBehind blocks later = firstBehind blocks position := by
  apply Nat.le_antisymm _ (firstBehind_mono blocks hle)
  cases hfirst : blocks[firstBehind blocks position]? with
  | none =>
    calc
      firstBehind blocks later ≤ blocks.length := List.findIdx_le_length
      _ ≤ firstBehind blocks position := List.getElem?_eq_none_iff.mp hfirst
  | some b =>
    have hlength := hlengths b (List.mem_of_getElem? hfirst)
    have hstop := lt_stop_of_lt_boundary hlength hfirst hboundary
    exact firstBehind_le_of_lt_stop hfirst hstop

/-- Up to the boundary, the first block that ends behind holds all later positions or none. -/
theorem mem_iff_of_lt_boundary {position later : Int} {b : Block} (hlength : 0 ≤ b.length)
    (hle : position ≤ later) (hfirst : blocks[firstBehind blocks position]? = some b)
    (hboundary : ∀ bound ∈ boundaryIn blocks position, later < bound) :
    later ∈ b ↔ position ∈ b := by
  have hstop := lt_stop_of_firstBehind hfirst
  have hlater := lt_stop_of_lt_boundary hlength hfirst hboundary
  have hbound := hboundary _ (boundaryIn_of_firstBehind hfirst)
  split at hbound
  case isTrue hin =>
    have hoffset := (Block.mem_iff.mp hin).1
    exact iff_of_true (Block.mem_iff.mpr ⟨by omega, hlater⟩) hin
  case isFalse hout =>
    have hahead : later ∉ b := by
      intro hmem
      have hoffset := (Block.mem_iff.mp hmem).1
      omega
    exact iff_of_false hahead hout

/-- From a position up to the boundary behind it, all positions are given to one block. -/
theorem locateIn_eq_of_lt_boundary (hlengths : ∀ b ∈ blocks, 0 ≤ b.length)
    {position later : Int} (hle : position ≤ later)
    (hboundary : ∀ bound ∈ boundaryIn blocks position, later < bound) :
    locateIn blocks later = locateIn blocks position := by
  have hbehind := firstBehind_eq_of_lt_boundary hlengths hle hboundary
  have hsame : ∀ b ∈ blocks[firstBehind blocks position]?, (later ∈ b ↔ position ∈ b) := by
    intro b hfirst
    have hlength := hlengths b (List.mem_of_getElem? hfirst)
    exact mem_iff_of_lt_boundary hlength hle hfirst hboundary
  rcases mem_firstBehind_or_notMem blocks position with ⟨b, hfirst, hmem⟩ | hout
  · have hlater : blocks[firstBehind blocks later]? = some b := by
      rw [hbehind]
      exact hfirst
    rw [locateIn_of_mem_firstBehind hfirst hmem,
      locateIn_of_mem_firstBehind hlater ((hsame b hfirst).mpr hmem), hbehind]
  · have hlater : ∀ b ∈ blocks[firstBehind blocks later]?, later ∉ b := by
      intro b hfirst hmem
      rw [hbehind] at hfirst
      exact hout b hfirst ((hsame b hfirst).mp hmem)
    rw [locateIn_of_notMem_firstBehind hout, locateIn_of_notMem_firstBehind hlater, hbehind]

end SplitPlanning
