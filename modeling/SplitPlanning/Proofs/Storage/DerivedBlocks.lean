import SplitPlanning.Proofs.Storage.Boundaries
import SplitPlanning.Storage.BlockLayout

/-!
# Answers over derived blocks

A position in the file is in the block that begins at the multiple of the block size at or in front
of it, and the next boundary is the next multiple or the end of the file.
-/

namespace SplitPlanning.BlockLayout

variable (layout : BlockLayout) {fileSize position : Int}

/-! ## The blocks of a file -/

@[simp] theorem blockStart_zero : layout.blockStart 0 = 0 := by
  rw [blockStart, Int.zero_ediv, Int.zero_mul]

theorem blockSize_dvd_blockStart (position : Int) : layout.blockSize ∣ layout.blockStart position :=
  Int.dvd_mul_left _ _

@[simp] theorem listingStop_none (fileSize start : Int) :
    listingStop fileSize start none = fileSize := rfl

theorem listingStop_le (fileSize start : Int) (length : Option Int) :
    listingStop fileSize start length ≤ fileSize := by
  unfold listingStop
  split
  · exact Int.le_refl fileSize
  · exact Int.min_le_left _ _

theorem lt_blockCount_iff {layout : BlockLayout} {start stop : Int} {k : Nat} :
    k < layout.blockCount start stop ↔ layout.blockStart start + k * layout.blockSize < stop := by
  have hpos := layout.blockSize_pos
  rw [blockCount, Int.lt_toNat, ← Int.add_one_le_iff, Int.le_ediv_iff_mul_le hpos, Int.add_mul]
  omega

theorem getElem?_blocks {start : Int} {length : Option Int} {k : Nat}
    (h : layout.blockStart start + k * layout.blockSize < listingStop fileSize start length) :
    (layout.blocks fileSize start length)[k]? =
      some (layout.blockAt fileSize (layout.blockStart start + k * layout.blockSize)) := by
  rw [blocks, List.getElem?_map, List.getElem?_range (lt_blockCount_iff.mpr h), Option.map_some]

theorem mem_blocks_iff {layout : BlockLayout} {start : Int} {length : Option Int} {b : Block} :
    b ∈ layout.blocks fileSize start length ↔
      ∃ offset, layout.blockSize ∣ offset ∧ layout.blockStart start ≤ offset ∧
        offset < listingStop fileSize start length ∧ b = layout.blockAt fileSize offset := by
  have hpos := layout.blockSize_pos
  have hmultiple := layout.blockSize_dvd_blockStart start
  rw [blocks, List.mem_map]
  constructor
  · rintro ⟨k, hk, rfl⟩
    have hbegins := lt_blockCount_iff.mp (List.mem_range.mp hk)
    have hdistance : 0 ≤ (k : Int) * layout.blockSize :=
      Int.mul_nonneg (Int.natCast_nonneg k) (Int.le_of_lt hpos)
    exact ⟨_, Int.dvd_add hmultiple (Int.dvd_mul_left _ _), by omega, hbegins, rfl⟩
  · rintro ⟨offset, hoffset, hle, hlt, rfl⟩
    obtain ⟨quotient, hquotient⟩ := Int.dvd_sub hoffset hmultiple
    have hnonneg : 0 ≤ quotient := by
      apply Int.nonneg_of_mul_nonneg_right _ hpos
      omega
    obtain ⟨k, rfl⟩ := Int.eq_ofNat_of_zero_le hnonneg
    have hstart : layout.blockStart start + k * layout.blockSize = offset := by
      rw [Int.mul_comm, ← hquotient]
      omega
    exact ⟨k, List.mem_range.mpr (lt_blockCount_iff.mpr (hstart ▸ hlt)), by rw [hstart]⟩

theorem pairwise_offset_blocks (fileSize start : Int) (length : Option Int) :
    (layout.blocks fileSize start length).Pairwise fun b c ↦ b.offset < c.offset := by
  rw [blocks, List.pairwise_map]
  apply List.pairwise_lt_range.imp
  intro i j hij
  have hdistance : (i : Int) * layout.blockSize < j * layout.blockSize :=
    Int.mul_lt_mul_of_pos_right (by omega) layout.blockSize_pos
  exact Int.add_lt_add_left hdistance _

@[simp] theorem offset_blockAt (fileSize offset : Int) :
    (layout.blockAt fileSize offset).offset = offset := rfl

@[simp] theorem length_blockAt (fileSize offset : Int) :
    (layout.blockAt fileSize offset).length = min layout.blockSize (fileSize - offset) := rfl

theorem stop_blockAt (fileSize offset : Int) :
    (layout.blockAt fileSize offset).stop = min (offset + layout.blockSize) fileSize := by
  rw [Block.stop, offset_blockAt, length_blockAt]
  omega

/-! ## Block arithmetic -/

theorem blockStart_le (position : Int) : layout.blockStart position ≤ position :=
  Int.ediv_mul_le position (Int.ne_of_gt layout.blockSize_pos)

theorem blockStart_nonneg (hposition : 0 ≤ position) : 0 ≤ layout.blockStart position :=
  Int.mul_nonneg (Int.ediv_nonneg hposition (Int.le_of_lt layout.blockSize_pos))
    (Int.le_of_lt layout.blockSize_pos)

theorem blockStart_add_blockSize (position : Int) :
    layout.blockStart position + layout.blockSize =
      (position / layout.blockSize + 1) * layout.blockSize := by
  rw [blockStart, Int.add_mul, Int.one_mul]

theorem lt_blockStart_add (position : Int) :
    position < layout.blockStart position + layout.blockSize := by
  rw [blockStart_add_blockSize]
  exact Int.lt_ediv_add_one_mul_self position layout.blockSize_pos

/-- No other multiple of the block size lies between the one of a position and the position. -/
theorem le_blockStart_of_dvd {layout : BlockLayout} {position bound : Int}
    (hdvd : layout.blockSize ∣ bound) (hle : bound ≤ position) :
    bound ≤ layout.blockStart position := by
  have hpos := layout.blockSize_pos
  obtain ⟨k, rfl⟩ := hdvd
  rw [Int.mul_comm] at hle ⊢
  have hquotient : k ≤ position / layout.blockSize := (Int.le_ediv_iff_mul_le hpos).mpr hle
  exact Int.mul_le_mul_of_nonneg_right hquotient (Int.le_of_lt hpos)

/-- The next multiple of the block size is the first one behind a position. -/
theorem blockStart_add_le_of_dvd {layout : BlockLayout} {position bound : Int}
    (hdvd : layout.blockSize ∣ bound) (hlt : position < bound) :
    layout.blockStart position + layout.blockSize ≤ bound := by
  have hpos := layout.blockSize_pos
  obtain ⟨k, rfl⟩ := hdvd
  rw [Int.mul_comm] at hlt ⊢
  have hquotient : position / layout.blockSize + 1 ≤ k := Int.ediv_lt_of_lt_mul hpos hlt
  calc
    layout.blockStart position + layout.blockSize =
        (position / layout.blockSize + 1) * layout.blockSize :=
      layout.blockStart_add_blockSize position
    _ ≤ k * layout.blockSize := Int.mul_le_mul_of_nonneg_right hquotient (Int.le_of_lt hpos)

theorem mem_blockAt (hinside : position < fileSize) :
    position ∈ layout.blockAt fileSize (layout.blockStart position) := by
  have hnext := layout.lt_blockStart_add position
  rw [Block.mem_iff, stop_blockAt]
  exact ⟨layout.blockStart_le position, by omega⟩

def blockIndex (layout : BlockLayout) (position : Int) : Nat :=
  (position / layout.blockSize).toNat

theorem blockIndex_mul (hposition : 0 ≤ position) :
    layout.blockStart 0 + layout.blockIndex position * layout.blockSize =
      layout.blockStart position := by
  have hquotient := Int.ediv_nonneg hposition (Int.le_of_lt layout.blockSize_pos)
  rw [blockIndex, Int.toNat_of_nonneg hquotient, blockStart_zero, Int.zero_add, blockStart]

section Inside

variable (hposition : 0 ≤ position) (hinside : position < fileSize)

include hposition hinside

theorem getElem?_blockIndex :
    (layout.blocks fileSize 0 none)[layout.blockIndex position]? =
      some (layout.blockAt fileSize (layout.blockStart position)) := by
  have hbegins : layout.blockStart 0 + layout.blockIndex position * layout.blockSize <
      listingStop fileSize 0 none := by
    rw [layout.blockIndex_mul hposition]
    exact Int.lt_of_le_of_lt (layout.blockStart_le position) hinside
  rw [layout.getElem?_blocks hbegins, layout.blockIndex_mul hposition]

theorem firstBehind_blocks :
    firstBehind (layout.blocks fileSize 0 none) position = layout.blockIndex position := by
  obtain ⟨hlength, hblock⟩ := List.getElem?_eq_some_iff.mp
    (layout.getElem?_blockIndex hposition hinside)
  rw [firstBehind, List.findIdx_eq hlength]
  constructor
  · rw [hblock, decide_eq_true_eq]
    exact (Block.mem_iff.mp (layout.mem_blockAt hinside)).2
  · intro k hk
    have hpos := layout.blockSize_pos
    have hstart := layout.blockStart_le position
    have hfront : (k + 1) * layout.blockSize ≤ layout.blockIndex position * layout.blockSize :=
      Int.mul_le_mul_of_nonneg_right (by omega) (Int.le_of_lt hpos)
    rw [Int.add_mul, Int.one_mul] at hfront
    have hindex := layout.blockIndex_mul hposition
    have hbegins : layout.blockStart 0 + k * layout.blockSize < listingStop fileSize 0 none := by
      change _ < fileSize
      omega
    have hget := layout.getElem?_blocks hbegins
    rw [List.getElem?_eq_getElem (Nat.lt_trans hk hlength), Option.some_inj] at hget
    rw [hget, decide_eq_false_iff_not, stop_blockAt]
    omega

/-- In the file, the block that begins at the multiple of the block size in front answers. -/
theorem locateIn_blocks :
    locateIn (layout.blocks fileSize 0 none) position =
      some ⟨layout.blockIndex position,
        layout.blockAt fileSize (layout.blockStart position), true⟩ := by
  have hbehind := layout.firstBehind_blocks hposition hinside
  rw [← hbehind]
  apply locateIn_of_mem_firstBehind _ (layout.mem_blockAt hinside)
  rw [hbehind, layout.getElem?_blockIndex hposition hinside]

/-- In the file, the next boundary is the next multiple or the end of the file. -/
theorem boundaryIn_blocks :
    boundaryIn (layout.blocks fileSize 0 none) position =
      some (min (layout.blockStart position + layout.blockSize) fileSize) := by
  have hbehind := layout.firstBehind_blocks hposition hinside
  have hblock := layout.getElem?_blockIndex hposition hinside
  rw [← hbehind] at hblock
  rw [boundaryIn_of_firstBehind hblock, if_pos (layout.mem_blockAt hinside), stop_blockAt]

end Inside

section Behind

variable (hbehind : fileSize ≤ position)

include hbehind

theorem firstBehind_blocks_of_le :
    firstBehind (layout.blocks fileSize 0 none) position =
      (layout.blocks fileSize 0 none).length := by
  apply List.findIdx_eq_length_of_false
  intro b hb
  obtain ⟨offset, -, -, -, rfl⟩ := mem_blocks_iff.mp hb
  rw [decide_eq_false_iff_not, stop_blockAt]
  omega

theorem boundaryIn_blocks_of_le : boundaryIn (layout.blocks fileSize 0 none) position = none := by
  apply boundaryIn_eq_none_of_firstBehind
  rw [layout.firstBehind_blocks_of_le hbehind, List.getElem?_eq_none (Nat.le_refl _)]

/-- A position behind the end of the file is given to the last block. -/
theorem locateIn_blocks_of_le :
    locateIn (layout.blocks fileSize 0 none) position =
      (layout.blocks fileSize 0 none).getLast?.map
        (⟨(layout.blocks fileSize 0 none).length - 1, ·, false⟩) := by
  have hlast := layout.firstBehind_blocks_of_le hbehind
  have hnone : ∀ b ∈ (layout.blocks fileSize 0 none)[firstBehind
      (layout.blocks fileSize 0 none) position]?, position ∉ b := by
    rw [hlast, List.getElem?_eq_none (Nat.le_refl _)]
    exact fun b hb ↦ absurd hb (Option.not_mem_none b)
  rw [locateIn_of_notMem_firstBehind hnone, hlast, List.getLast?_eq_getElem?]

end Behind

/-- Behind a position in front of the file, the next boundary is where the file begins. -/
theorem boundaryIn_blocks_of_neg (hposition : position < 0) (hfile : 0 < fileSize) :
    boundaryIn (layout.blocks fileSize 0 none) position = some 0 := by
  have hfirst := layout.getElem?_blockIndex (Int.le_refl 0) hfile
  have hindex : layout.blockIndex 0 = 0 := by rw [blockIndex, Int.zero_ediv, Int.toNat_zero]
  rw [hindex, blockStart_zero] at hfirst
  have hahead : position < (layout.blockAt fileSize 0).stop := by
    have hpos := layout.blockSize_pos
    rw [stop_blockAt]
    omega
  have hplace : firstBehind (layout.blocks fileSize 0 none) position = 0 :=
    Nat.le_zero.mp (firstBehind_le_of_lt_stop hfirst hahead)
  have hnot : position ∉ layout.blockAt fileSize 0 := by
    intro hmem
    exact Int.not_le.mpr hposition (Block.mem_iff.mp hmem).1
  rw [← hplace] at hfirst
  rw [boundaryIn_of_firstBehind hfirst, if_neg hnot]
  rfl

/-- Nothing is listed exactly if the listing ends in front of the block that it would begin with. -/
theorem blocks_eq_nil_iff {layout : BlockLayout} {start : Int} {length : Option Int} :
    layout.blocks fileSize start length = [] ↔
      listingStop fileSize start length ≤ layout.blockStart start := by
  rw [List.eq_nil_iff_forall_not_mem]
  constructor
  · intro hnone
    apply Int.not_lt.mp
    intro hlt
    exact hnone _ (mem_blocks_iff.mpr
      ⟨_, layout.blockSize_dvd_blockStart start, Int.le_refl _, hlt, rfl⟩)
  · intro hend b hb
    obtain ⟨offset, -, hle, hlt, -⟩ := mem_blocks_iff.mp hb
    omega

theorem blocks_eq_nil (h : fileSize ≤ 0) : layout.blocks fileSize 0 none = [] := by
  rw [blocks_eq_nil_iff, blockStart_zero, listingStop_none]
  exact h

/-- Blocks begin in front of the end of the file, so none is empty. -/
theorem length_pos_of_mem_blocks {start : Int} {length : Option Int} {b : Block}
    (hb : b ∈ layout.blocks fileSize start length) : 0 < b.length := by
  obtain ⟨offset, -, -, hbegins, rfl⟩ := mem_blocks_iff.mp hb
  have hstop := listingStop_le fileSize start length
  have hpos := layout.blockSize_pos
  rw [length_blockAt]
  omega

theorem blocks_ne_nil (h : 0 < fileSize) : layout.blocks fileSize 0 none ≠ [] := by
  rw [Ne, blocks_eq_nil_iff, blockStart_zero, listingStop_none]
  exact Int.not_le.mpr h

end SplitPlanning.BlockLayout
