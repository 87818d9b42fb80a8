import SplitPlanning.Proofs.Storage.Answers
import SplitPlanning.Proofs.Storage.Replies

/-!
# The block that answers for a position

A search compares a position only with the ends of blocks. Among blocks in ascending order it still
finds the first block that holds the position, although blocks may overlap and be empty.
-/

namespace SplitPlanning

variable {blocks : List Block} {position : Int}

/-- The block at a place is the first one that holds a position. -/
structure IsFirstHolder (blocks : List Block) (position : Int) (i : Nat) (b : Block) : Prop where
  getElem?_eq : blocks[i]? = some b
  mem : position ∈ b
  notMem : ∀ j c, blocks[j]? = some c → j < i → position ∉ c

/-- The block at a place is the last one that begins at or in front of a position. -/
structure IsLastBefore (blocks : List Block) (position : Int) (i : Nat) (b : Block) : Prop where
  getElem?_eq : blocks[i]? = some b
  offset_le : b.offset ≤ position
  lt_offset : ∀ j c, blocks[j]? = some c → i < j → position < c.offset

/-- The block at a place is the first one of all, and all of them begin behind a position. -/
structure IsFirstAhead (blocks : List Block) (position : Int) (i : Nat) (b : Block) : Prop where
  eq_zero : i = 0
  getElem?_eq : blocks[i]? = some b
  lt_offset : ∀ c ∈ blocks, position < c.offset

section Sorted

variable (hsorted : blocks.Pairwise fun b c ↦ b.offset ≤ c.offset)

include hsorted

/-- No block in front of the last one that begins at or in front of a position begins nearer. -/
theorem IsLastBefore.offset_le_offset {i : Nat} {b : Block}
    (h : IsLastBefore blocks position i b) {c : Block} (hc : c ∈ blocks)
    (hle : c.offset ≤ position) : c.offset ≤ b.offset := by
  obtain ⟨j, hj⟩ := List.mem_iff_getElem?.mp hc
  by_cases hij : i < j
  · have hlt := h.lt_offset j c hj hij
    omega
  · exact offset_le_of_le hsorted hj h.getElem?_eq (Nat.le_of_not_lt hij)

/-- If the first block that ends behind a position misses it, all from there on lie ahead. -/
theorem lt_offset_of_firstBehind_le
    (hnot : ∀ b ∈ blocks[firstBehind blocks position]?, position ∉ b) {j : Nat} {c : Block}
    (hc : blocks[j]? = some c) (hj : firstBehind blocks position ≤ j) : position < c.offset := by
  obtain ⟨hlength, -⟩ := List.getElem?_eq_some_iff.mp hc
  have hfirst := List.getElem?_eq_getElem (Nat.lt_of_le_of_lt hj hlength)
  have hstop := lt_stop_of_firstBehind hfirst
  have hoffset := offset_le_of_le hsorted hfirst hc hj
  have hahead : ¬blocks[firstBehind blocks position].offset ≤ position :=
    fun hle ↦ hnot _ hfirst (Block.mem_iff.mpr ⟨hle, hstop⟩)
  omega

/-- A position in some block is given to the first one that holds it. -/
theorem exists_isFirstHolder {b : Block} (hb : b ∈ blocks) (hmem : position ∈ b) :
    ∃ i first, IsFirstHolder blocks position i first ∧
      locateIn blocks position = some ⟨i, first, true⟩ := by
  obtain ⟨first, hfirst, hholds⟩ := mem_firstBehind_of_mem hsorted hb hmem
  refine ⟨firstBehind blocks position, first, ⟨hfirst, hholds, ?_⟩,
    locateIn_of_mem_firstBehind hfirst hholds⟩
  intro j c hc hj
  exact notMem_of_lt_firstBehind hc hj

/-- A position in no block is given to the last one passed, or to the first one if none was. -/
theorem exists_isLastBefore_or_isFirstAhead (hlengths : ∀ b ∈ blocks, 0 ≤ b.length)
    (hne : blocks ≠ []) (hnone : ∀ b ∈ blocks, position ∉ b) :
    ∃ i b, (IsLastBefore blocks position i b ∨ IsFirstAhead blocks position i b) ∧
      locateIn blocks position = some ⟨i, b, false⟩ := by
  have hnot : ∀ b ∈ blocks[firstBehind blocks position]?, position ∉ b :=
    fun b hb ↦ hnone b (List.mem_of_getElem? hb)
  have hlocate := locateIn_of_notMem_firstBehind hnot
  have hlength : firstBehind blocks position ≤ blocks.length := List.findIdx_le_length
  -- Whether any block was passed tells the last one passed from the first one of all.
  cases hplace : firstBehind blocks position with
  | zero =>
    obtain ⟨b, rest, rfl⟩ := List.exists_cons_of_ne_nil hne
    rw [hplace] at hlocate
    refine ⟨0, b, Or.inr ⟨rfl, rfl, ?_⟩, hlocate⟩
    intro c hc
    obtain ⟨j, hj⟩ := List.mem_iff_getElem?.mp hc
    exact lt_offset_of_firstBehind_le hsorted hnot hj (by omega)
  | succ i =>
    have hlt : i < blocks.length := by omega
    have hb : blocks[i]? = some blocks[i] := List.getElem?_eq_getElem hlt
    have hstop : blocks[i].stop ≤ position := stop_le_of_lt_firstBehind hb (by omega)
    have hoffset := Block.offset_le_stop (hlengths blocks[i] (List.getElem_mem hlt))
    refine ⟨i, blocks[i], Or.inl ⟨hb, Int.le_trans hoffset hstop, ?_⟩, ?_⟩
    · intro j c hc hij
      exact lt_offset_of_firstBehind_le hsorted hnot hc (by omega)
    · rw [hlocate, hplace, Nat.add_sub_cancel, hb]
      rfl

theorem isLastBefore_or_isFirstAhead_of_locateIn (hlengths : ∀ b ∈ blocks, 0 ≤ b.length)
    (hne : blocks ≠ []) (hnone : ∀ b ∈ blocks, position ∉ b) {i : Nat} {b : Block}
    (hlocate : locateIn blocks position = some ⟨i, b, false⟩) :
    IsLastBefore blocks position i b ∨ IsFirstAhead blocks position i b := by
  obtain ⟨j, c, hc, hlocate'⟩ := exists_isLastBefore_or_isFirstAhead hsorted hlengths hne hnone
  rw [hlocate, Option.some_inj, Placement.mk.injEq] at hlocate'
  obtain ⟨rfl, rfl, -⟩ := hlocate'
  exact hc

end Sorted

/-- In whatever order the blocks lie, one of them stands in for one that holds the position. -/
theorem exists_locateIn_of_notMem (hne : blocks ≠ [])
    (hnot : ∀ b ∈ blocks[firstBehind blocks position]?, position ∉ b) :
    ∃ i b, blocks[i]? = some b ∧ locateIn blocks position = some ⟨i, b, false⟩ := by
  have hlength : firstBehind blocks position ≤ blocks.length := List.findIdx_le_length
  have hpos := List.length_pos_iff.mpr hne
  have hplace : firstBehind blocks position - 1 < blocks.length := by omega
  have hb := List.getElem?_eq_getElem hplace
  refine ⟨firstBehind blocks position - 1, _, hb, ?_⟩
  rw [locateIn_of_notMem_firstBehind hnot, hb, Option.map_some]

theorem locateIn_eq_none_iff : locateIn blocks position = none ↔ blocks = [] := by
  constructor
  · intro hnone
    rcases mem_firstBehind_or_notMem blocks position with ⟨b, hb, hmem⟩ | hnot
    · rw [locateIn_of_mem_firstBehind hb hmem] at hnone
      contradiction
    · apply Decidable.not_not.mp
      intro hne
      obtain ⟨i, b, -, hlocate⟩ := exists_locateIn_of_notMem hne hnot
      rw [hlocate] at hnone
      contradiction
  · rintro rfl
    rfl

theorem getElem?_of_locateIn {placement : Placement}
    (h : locateIn blocks position = some placement) :
    blocks[placement.index]? = some placement.block := by
  rcases mem_firstBehind_or_notMem blocks position with ⟨b, hb, hmem⟩ | hnot
  · rw [locateIn_of_mem_firstBehind hb hmem, Option.some_inj] at h
    subst h
    exact hb
  · rw [locateIn_of_notMem_firstBehind hnot, Option.map_eq_some_iff] at h
    obtain ⟨b, hb, rfl⟩ := h
    exact hb

namespace BlockCursor

theorem reply_locate (blocks : List Block) (queries : List Query) (position : Int) :
    ((ofBlocks blocks).askAll queries).reply (.locate position) =
      .located (locateIn blocks position)
        (Placement.events position (locateIn blocks position)) := by
  simp only [reply, locate_askAll]

/-- **The right block answers.** A position in some block is given to the first one that holds it,
and nothing is reported. A position in none is given to the last one that begins at or in front of
it, or to the first one if all begin behind it, and this is reported by one warning. -/
theorem reply_locate_holder_or_nearest (blocks : List Block)
    (hsorted : blocks.Pairwise fun b c ↦ b.offset ≤ c.offset)
    (hlengths : ∀ b ∈ blocks, 0 ≤ b.length) (queries : List Query) (position : Int) :
    ((∃ b ∈ blocks, position ∈ b) →
        ∃ i b, IsFirstHolder blocks position i b ∧
          ((ofBlocks blocks).askAll queries).reply (.locate position) =
            .located (some ⟨i, b, true⟩) []) ∧
      (blocks ≠ [] → (∀ b ∈ blocks, position ∉ b) →
        ∃ i b, (IsLastBefore blocks position i b ∧
              (∀ c ∈ blocks, c.offset ≤ position → c.offset ≤ b.offset) ∨
            IsFirstAhead blocks position i b) ∧
          ((ofBlocks blocks).askAll queries).reply (.locate position) =
            .located (some ⟨i, b, false⟩) [.blockMissed position b] ∧
          (Event.blockMissed position b).severity = .warning) ∧
      (((ofBlocks blocks).askAll queries).reply (.locate position) = .located none [] ↔
        blocks = []) := by
  rw [reply_locate]
  refine ⟨?_, ?_, ?_⟩
  · rintro ⟨b, hb, hmem⟩
    obtain ⟨i, first, hfirst, hlocate⟩ := exists_isFirstHolder hsorted hb hmem
    exact ⟨i, first, hfirst, by rw [hlocate]; rfl⟩
  · intro hne hnone
    obtain ⟨i, b, hb, hlocate⟩ :=
      exists_isLastBefore_or_isFirstAhead hsorted hlengths hne hnone
    refine ⟨i, b, ?_, by rw [hlocate]; rfl, rfl⟩
    exact hb.imp_left fun hlast ↦ ⟨hlast, fun c ↦ hlast.offset_le_offset hsorted⟩
  · constructor
    · intro hreply
      exact locateIn_eq_none_iff.mp (Reply.located.inj hreply).1
    · intro hempty
      rw [locateIn_eq_none_iff.mpr hempty]
      rfl

/-- A position in two blocks, asked after a later one, and one in a gap with an empty block. -/
theorem reply_locate_holder_or_nearest_overlapping :
    let blocks : List Block := [⟨10, 30, ["a"], []⟩, ⟨20, 0, ["b"], []⟩, ⟨20, 40, ["c"], []⟩,
      ⟨60, 0, ["d"], []⟩, ⟨80, 20, ["e"], []⟩]
    blocks.Pairwise (fun b c ↦ b.offset ≤ c.offset) ∧ (∀ b ∈ blocks, 0 ≤ b.length) ∧
      (∃ b ∈ blocks, (30 : Int) ∈ b) ∧
      (∃ i b, IsFirstHolder blocks 30 i b ∧
        ((ofBlocks blocks).askAll [.locate 90, .nextBoundary 45]).reply (.locate 30) =
          .located (some ⟨i, b, true⟩) []) ∧
      (∀ b ∈ blocks, (70 : Int) ∉ b) ∧
      ∃ i b, (IsLastBefore blocks 70 i b ∧
            (∀ c ∈ blocks, c.offset ≤ 70 → c.offset ≤ b.offset) ∨ IsFirstAhead blocks 70 i b) ∧
        ((ofBlocks blocks).askAll []).reply (.locate 70) =
          .located (some ⟨i, b, false⟩) [.blockMissed 70 b] ∧
        (Event.blockMissed 70 b).severity = .warning := by
  intro blocks
  have hsorted : blocks.Pairwise (fun b c ↦ b.offset ≤ c.offset) := by decide
  have hlengths : ∀ b ∈ blocks, 0 ≤ b.length := by decide
  have hheld : ∃ b ∈ blocks, (30 : Int) ∈ b := by decide
  have hmissed : ∀ b ∈ blocks, (70 : Int) ∉ b := by decide
  have hinside := reply_locate_holder_or_nearest blocks hsorted hlengths
    [.locate 90, .nextBoundary 45] 30
  have hgap := reply_locate_holder_or_nearest blocks hsorted hlengths [] 70
  exact ⟨hsorted, hlengths, hheld, hinside.1 hheld, hmissed, hgap.2.1 (by decide) hmissed⟩

end BlockCursor

end SplitPlanning
