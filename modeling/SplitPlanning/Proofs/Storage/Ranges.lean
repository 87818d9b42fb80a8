import Mathlib.Data.List.Sort
import SplitPlanning.Proofs.Storage.DerivedBlocks

/-!
# Listing a range of a file

A listing begins with the block of the first position and ends in front of the end of the range or
of the file. As the beginning is moved back to the edge of a block, a range without a byte of the
file may list a block all the same.
-/

namespace SplitPlanning

/-- One of `length` positions from `start` on, or any of them if no length is given. -/
def InRange (start : Int) (length : Option Int) (position : Int) : Prop :=
  start ≤ position ∧ ∀ count ∈ length, position < start + count

/-- Whether a block has a byte of a range. -/
def Block.Meets (b : Block) (start : Int) (length : Option Int) : Prop :=
  ∃ position, position ∈ b ∧ InRange start length position

/-- If a block has a byte of a range, one of them is the first byte of the block or of the range. -/
theorem Block.meets_iff {b : Block} {start : Int} {length : Option Int} :
    b.Meets start length ↔ max b.offset start ∈ b ∧ InRange start length (max b.offset start) := by
  constructor
  · rintro ⟨position, hmem, hstart, hend⟩
    obtain ⟨hoffset, hstop⟩ := Block.mem_iff.mp hmem
    refine ⟨Block.mem_iff.mpr ⟨Int.le_max_left _ _, by omega⟩, Int.le_max_right _ _, ?_⟩
    intro count hcount
    have hlt := hend count hcount
    omega
  · intro h
    exact ⟨_, h⟩

instance (b : Block) (start : Int) (length : Option Int) : Decidable (b.Meets start length) :=
  decidable_of_iff (max b.offset start ∈ b ∧ start ≤ max b.offset start ∧
    ∀ count ∈ length, max b.offset start < start + count) Block.meets_iff.symm

namespace BlockLayout

variable {layout : BlockLayout} {fileSize start : Int} {length : Option Int}

theorem lt_listingStop_iff {position : Int} : position < listingStop fileSize start length ↔
    position < fileSize ∧ ∀ count ∈ length, position < start + count := by
  unfold listingStop
  cases length <;> simp

/-- A block ends behind a position exactly if it is the block of the position or a later one. -/
theorem blockStart_le_iff {offset : Int} (hoffset : layout.blockSize ∣ offset) :
    layout.blockStart start ≤ offset ↔ start < offset + layout.blockSize := by
  constructor
  · intro hle
    have hnext := layout.lt_blockStart_add start
    omega
  · intro hlt
    have hmultiple : layout.blockSize ∣ offset + layout.blockSize :=
      Int.dvd_add hoffset (Int.dvd_refl _)
    have hnext := blockStart_add_le_of_dvd hmultiple hlt
    omega

theorem blocks_eq_of_mem_iff {other : List Block}
    (hother : other.Pairwise fun b c ↦ b.offset < c.offset)
    (h : ∀ b, b ∈ layout.blocks fileSize start length ↔ b ∈ other) :
    layout.blocks fileSize start length = other := by
  have hirrefl : Std.Irrefl fun b c : Block ↦ b.offset < c.offset :=
    ⟨fun b ↦ Int.lt_irrefl b.offset⟩
  have hantisymm : Std.Antisymm fun b c : Block ↦ b.offset < c.offset :=
    ⟨fun b c hbc hcb ↦ absurd hcb (Int.lt_asymm hbc)⟩
  exact (layout.pairwise_offset_blocks fileSize start length).eq_of_mem_iff hother h

/-! ## Ranges that begin in the file -/

/-- From a position that is not negative on, a listing leaves out blocks in front and behind. -/
theorem blocks_eq_filter (hstart : 0 ≤ start) :
    layout.blocks fileSize start length = (layout.blocks fileSize 0 none).filter fun b ↦
      layout.blockStart start ≤ b.offset ∧ b.offset < listingStop fileSize start length := by
  apply blocks_eq_of_mem_iff
  · exact (layout.pairwise_offset_blocks fileSize 0 none).filter _
  · intro b
    rw [List.mem_filter, decide_eq_true_eq, mem_blocks_iff, mem_blocks_iff, blockStart_zero]
    constructor
    · rintro ⟨offset, hoffset, hle, hlt, rfl⟩
      have hfirst := layout.blockStart_nonneg hstart
      have hstop := listingStop_le fileSize start length
      have hinside : offset < fileSize := Int.lt_of_lt_of_le hlt hstop
      exact ⟨⟨offset, hoffset, Int.le_trans hfirst hle, hinside, rfl⟩, hle, hlt⟩
    · rintro ⟨⟨offset, hoffset, -, -, rfl⟩, hle, hlt⟩
      exact ⟨offset, hoffset, hle, hlt, rfl⟩

/-- A block has a byte of a range exactly if it is neither in front of the block that the listing
begins with nor behind the end of the listing. -/
theorem meets_blockAt_iff (hinside : start < fileSize) (hlength : ∀ count ∈ length, 0 < count)
    {offset : Int} (hoffset : layout.blockSize ∣ offset) (hfile : offset < fileSize) :
    (layout.blockAt fileSize offset).Meets start length ↔
      layout.blockStart start ≤ offset ∧ offset < listingStop fileSize start length := by
  have hpos := layout.blockSize_pos
  rw [Block.meets_iff, Block.mem_iff, stop_blockAt, offset_blockAt, blockStart_le_iff hoffset,
    lt_listingStop_iff]
  unfold InRange
  constructor
  · rintro ⟨⟨-, hstop⟩, -, hend⟩
    refine ⟨by omega, hfile, ?_⟩
    intro count hcount
    have hlt := hend count hcount
    omega
  · rintro ⟨hstop, -, hend⟩
    refine ⟨⟨by omega, by omega⟩, by omega, ?_⟩
    intro count hcount
    have hlt := hend count hcount
    have hcount_pos := hlength count hcount
    omega

/-- **A range in the file lists the blocks that it meets.** If the range is not empty, the listing
consists of the blocks of the file that have a byte of it, in their order. -/
theorem blocks_of_range (layout : BlockLayout) (fileSize start : Int) (length : Option Int)
    (hstart : 0 ≤ start) (hinside : start < fileSize) (hlength : ∀ count ∈ length, 0 < count) :
    layout.blocks fileSize start length =
      (layout.blocks fileSize 0 none).filter (·.Meets start length) ∧
    (length = none → layout.blocks fileSize start length =
      (layout.blocks fileSize 0 none).filter (start < ·.stop)) := by
  constructor
  · rw [blocks_eq_filter hstart]
    apply List.filter_congr
    intro b hb
    obtain ⟨offset, hoffset, -, hfile, rfl⟩ := mem_blocks_iff.mp hb
    rw [decide_eq_decide]
    exact (meets_blockAt_iff hinside hlength hoffset hfile).symm
  · rintro rfl
    rw [blocks_eq_filter hstart]
    apply List.filter_congr
    intro b hb
    obtain ⟨offset, hoffset, -, hfile, rfl⟩ := mem_blocks_iff.mp hb
    rw [listingStop_none] at hfile ⊢
    rw [decide_eq_decide, offset_blockAt, stop_blockAt, blockStart_le_iff hoffset]
    omega

/-- A range that begins and ends inside of blocks, the second one of them the shorter last one. -/
theorem blocks_of_range_inside_blocks :
    let layout : BlockLayout := ⟨100, ["a"], by decide⟩
    (0 : Int) ≤ 150 ∧ (150 : Int) < 250 ∧ (∀ count ∈ some (60 : Int), 0 < count) ∧
      layout.blocks 250 150 (some 60) =
        (layout.blocks 250 0 none).filter (·.Meets 150 (some 60)) ∧
      (some (60 : Int) = none → layout.blocks 250 150 (some 60) =
        (layout.blocks 250 0 none).filter (150 < ·.stop)) := by
  intro layout
  have hlength : ∀ count ∈ some (60 : Int), 0 < count := by decide
  exact ⟨by decide, by decide, hlength,
    blocks_of_range layout 250 150 (some 60) (by decide) (by decide) hlength⟩

/-! ## Ranges without a byte of the file -/

theorem listingStop_le_blockStart_iff (hlength : ∀ count ∈ length, 0 ≤ count) :
    listingStop fileSize start length ≤ layout.blockStart start ↔
      fileSize ≤ layout.blockStart start ∨ length = some 0 ∧ layout.blockSize ∣ start := by
  have hle := layout.blockStart_le start
  cases length with
  | none => simp [listingStop]
  | some count =>
    have hcount : 0 ≤ count := hlength count rfl
    have hedge : start + count ≤ layout.blockStart start ↔
        count = 0 ∧ layout.blockSize ∣ start := by
      constructor
      · intro hend
        have heq : layout.blockStart start = start := by omega
        exact ⟨by omega, heq ▸ layout.blockSize_dvd_blockStart start⟩
      · rintro ⟨rfl, hdvd⟩
        rw [Int.add_zero]
        exact le_blockStart_of_dvd hdvd (Int.le_refl start)
    rw [Option.some_inj, ← hedge]
    change min fileSize (start + count) ≤ _ ↔ _
    omega

/-- **What a range lists that has no byte of the file.** Where a block is listed all the same, a
range whose first position is not negative lists just the block of that position, and any other one
lists only blocks that lie in front of the file as a whole. -/
theorem blocks_of_untouched_range (layout : BlockLayout) (fileSize start : Int)
    (length : Option Int) (hlength : ∀ count ∈ length, 0 ≤ count)
    (huntouched : ∀ position, InRange start length position →
      ¬(0 ≤ position ∧ position < fileSize)) :
    (layout.blocks fileSize start length = [] ↔
      fileSize ≤ layout.blockStart start ∨ length = some 0 ∧ layout.blockSize ∣ start) ∧
    (0 ≤ start → layout.blocks fileSize start length ≠ [] →
      layout.blocks fileSize start length =
        [layout.blockAt fileSize (layout.blockStart start)]) ∧
    (start < 0 → ∀ b ∈ layout.blocks fileSize start length, b.stop ≤ 0) := by
  -- a block that begins in the range and in the file would have a byte of both
  have hbegins (offset : Int) (hlt : offset < listingStop fileSize start length) :
      ¬(start ≤ offset ∧ 0 ≤ offset) := by
    rintro ⟨hstart, hoffset⟩
    obtain ⟨hinside, hend⟩ := lt_listingStop_iff.mp hlt
    exact huntouched offset ⟨hstart, hend⟩ ⟨hoffset, hinside⟩
  refine ⟨blocks_eq_nil_iff.trans (listingStop_le_blockStart_iff hlength), ?_, ?_⟩
  · intro hstart hne
    apply blocks_eq_of_mem_iff (List.pairwise_singleton _ _)
    intro b
    rw [mem_blocks_iff, List.mem_singleton]
    constructor
    · rintro ⟨offset, hoffset, hle, hlt, rfl⟩
      have hfirst := layout.blockStart_nonneg hstart
      have hfront : offset < start := by
        have hnot := hbegins offset hlt
        omega
      have hedge := le_blockStart_of_dvd hoffset (Int.le_of_lt hfront)
      rw [Int.le_antisymm hedge hle]
    · rintro rfl
      have hlt := Int.not_le.mp (mt blocks_eq_nil_iff.mpr hne)
      exact ⟨_, layout.blockSize_dvd_blockStart start, Int.le_refl _, hlt, rfl⟩
  · intro hstart b hb
    obtain ⟨offset, hoffset, -, hlt, rfl⟩ := mem_blocks_iff.mp hb
    have hfront : offset < 0 := by
      have hnot := hbegins offset hlt
      omega
    have hnext := blockStart_add_le_of_dvd (Int.dvd_zero layout.blockSize) hfront
    have hedge := le_blockStart_of_dvd hoffset (Int.le_refl offset)
    rw [stop_blockAt]
    omega

/-- Behind the end of a file, but in front of where a next block would begin. -/
theorem blocks_of_untouched_range_behind :
    let layout : BlockLayout := ⟨100, ["a"], by decide⟩
    (∀ count ∈ some (60 : Int), 0 ≤ count) ∧
      (∀ position, InRange 260 (some 60) position → ¬(0 ≤ position ∧ position < 250)) ∧
      (layout.blocks 250 260 (some 60) = [] ↔
        250 ≤ layout.blockStart 260 ∨ some (60 : Int) = some 0 ∧ layout.blockSize ∣ 260) ∧
      ((0 : Int) ≤ 260 → layout.blocks 250 260 (some 60) ≠ [] →
        layout.blocks 250 260 (some 60) = [layout.blockAt 250 (layout.blockStart 260)]) ∧
      ((260 : Int) < 0 → ∀ b ∈ layout.blocks 250 260 (some 60), b.stop ≤ 0) := by
  intro layout
  have hlength : ∀ count ∈ some (60 : Int), 0 ≤ count := by decide
  have huntouched (position : Int) (h : InRange 260 (some 60) position) :
      ¬(0 ≤ position ∧ position < 250) := by
    have hstart := h.1
    omega
  exact ⟨hlength, huntouched,
    blocks_of_untouched_range layout 250 260 (some 60) hlength huntouched⟩

/-- A range behind the end of a file of five bytes, an empty one, and one in front of a file. -/
theorem blocks_lists_untouched_ranges :
    let layout : BlockLayout := ⟨10, ["a"], by decide⟩
    ((∀ position, InRange 7 none position → ¬(0 ≤ position ∧ position < 5)) ∧
        layout.blocks 5 7 none = [⟨0, 5, ["a"], []⟩]) ∧
      ((∀ position, InRange 5 (some 0) position → ¬(0 ≤ position ∧ position < 20)) ∧
        layout.blocks 20 5 (some 0) = [⟨0, 10, ["a"], []⟩]) ∧
      (∀ position, InRange (-5) (some 3) position → ¬(0 ≤ position ∧ position < 20)) ∧
        layout.blocks 20 (-5) (some 3) = [⟨-10, 10, ["a"], []⟩] := by
  intro layout
  refine ⟨⟨?_, by decide⟩, ⟨?_, by decide⟩, ?_, by decide⟩
  · intro position h
    have hstart := h.1
    omega
  · intro position h
    have hend := h.2 0 rfl
    have hstart := h.1
    omega
  · intro position h
    have hend := h.2 3 rfl
    omega

end BlockLayout

end SplitPlanning
