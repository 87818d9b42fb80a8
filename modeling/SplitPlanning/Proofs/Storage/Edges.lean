import Mathlib.Data.List.Chain
import Mathlib.Order.Bounds.Basic
import SplitPlanning.Proofs.Storage.Boundaries

/-! # The nearest edge behind a position -/

namespace SplitPlanning

variable {blocks : List Block} {position : Int}

/-- The positions at which a block begins or ends. -/
def edges (blocks : List Block) : Set Int :=
  {edge | ∃ b ∈ blocks, edge = b.offset ∨ edge = b.stop}

/-- Whether every block ends at or in front of the beginning of the next one. -/
def Consecutive (blocks : List Block) : Prop :=
  blocks.IsChain fun b c ↦ b.stop ≤ c.offset

instance (blocks : List Block) : Decidable (Consecutive blocks) :=
  inferInstanceAs (Decidable (blocks.IsChain fun b c ↦ b.stop ≤ c.offset))

/-- A block in front of the next one is in front of all later ones, as none reaches back. -/
theorem Consecutive.pairwise (h : Consecutive blocks) (hlengths : ∀ b ∈ blocks, 0 ≤ b.length) :
    blocks.Pairwise fun b c ↦ b.stop ≤ c.offset := by
  induction blocks with
  | nil => exact List.Pairwise.nil
  | cons b rest ih =>
    obtain ⟨hnext, hrest⟩ := List.isChain_cons.mp h
    have hlater := ih hrest fun c hc ↦ hlengths c (List.mem_cons_of_mem b hc)
    refine List.pairwise_cons.mpr ⟨?_, hlater⟩
    intro c hc
    obtain ⟨next, behind, rfl⟩ := List.exists_cons_of_ne_nil (List.ne_nil_of_mem hc)
    have hfront : b.stop ≤ next.offset := hnext next rfl
    rcases List.mem_cons.mp hc with rfl | hbehind
    · exact hfront
    · have hextent := Block.offset_le_stop (hlengths next (by simp))
      have hback := (List.pairwise_cons.mp hlater).1 c hbehind
      omega

theorem Consecutive.stop_le_offset (h : Consecutive blocks)
    (hlengths : ∀ b ∈ blocks, 0 ≤ b.length) {i j : Nat} {b c : Block} (hb : blocks[i]? = some b)
    (hc : blocks[j]? = some c) (hij : i < j) : b.stop ≤ c.offset := by
  obtain ⟨hi, rfl⟩ := List.getElem?_eq_some_iff.mp hb
  obtain ⟨hj, rfl⟩ := List.getElem?_eq_some_iff.mp hc
  exact List.pairwise_iff_getElem.mp (h.pairwise hlengths) i j hi hj hij

theorem boundaryIn_eq_none_iff :
    boundaryIn blocks position = none ↔ ∀ b ∈ blocks, b.stop ≤ position := by
  constructor
  · intro hnone b hb
    apply Int.not_lt.mp
    intro hlt
    obtain ⟨i, hi⟩ := List.mem_iff_getElem?.mp hb
    obtain ⟨hlength, -⟩ := List.getElem?_eq_some_iff.mp hi
    have hfirst := List.getElem?_eq_getElem
      (Nat.lt_of_le_of_lt (firstBehind_le_of_lt_stop hi hlt) hlength)
    rw [boundaryIn_of_firstBehind hfirst] at hnone
    contradiction
  · intro hall
    apply Option.eq_none_iff_forall_not_mem.mpr
    intro bound hbound
    obtain ⟨b, hfirst, -⟩ := exists_firstBehind_of_mem_boundaryIn hbound
    have hstop := lt_stop_of_firstBehind hfirst
    have hpassed := hall b (List.mem_of_getElem? hfirst)
    omega

theorem mem_edges_of_mem_boundaryIn {bound : Int} (h : bound ∈ boundaryIn blocks position) :
    bound ∈ edges blocks := by
  obtain ⟨b, hfirst, rfl⟩ := exists_firstBehind_of_mem_boundaryIn h
  refine ⟨b, List.mem_of_getElem? hfirst, ?_⟩
  split
  · exact Or.inr rfl
  · exact Or.inl rfl

/-- No edge lies between a position and the boundary behind it. -/
theorem Consecutive.le_of_mem_boundaryIn (h : Consecutive blocks)
    (hlengths : ∀ b ∈ blocks, 0 ≤ b.length) {bound edge : Int}
    (hbound : bound ∈ boundaryIn blocks position) (hedge : edge ∈ edges blocks)
    (hlt : position < edge) : bound ≤ edge := by
  obtain ⟨b, hfirst, rfl⟩ := exists_firstBehind_of_mem_boundaryIn hbound
  obtain ⟨c, hc, hedge⟩ := hedge
  obtain ⟨j, hj⟩ := List.mem_iff_getElem?.mp hc
  have hextent := Block.offset_le_stop (hlengths b (List.mem_of_getElem? hfirst))
  have hextent' := Block.offset_le_stop (hlengths c hc)
  have hplace : firstBehind blocks position ≤ j := firstBehind_le_of_lt_stop hj (by omega)
  rcases Nat.eq_or_lt_of_le hplace with rfl | hbehind
  · obtain rfl := Option.some.inj (hfirst.symm.trans hj)
    split
    case isTrue hin =>
      have hoffset := (Block.mem_iff.mp hin).1
      omega
    case isFalse => omega
  · have hfront := h.stop_le_offset hlengths hfirst hj hbehind
    split <;> omega

theorem Consecutive.isLeast_of_mem_boundaryIn (h : Consecutive blocks)
    (hlengths : ∀ b ∈ blocks, 0 ≤ b.length) {bound : Int}
    (hbound : bound ∈ boundaryIn blocks position) :
    IsLeast {edge ∈ edges blocks | position < edge} bound := by
  constructor
  · exact ⟨mem_edges_of_mem_boundaryIn hbound, lt_of_mem_boundaryIn hbound⟩
  · rintro edge ⟨hedge, hlt⟩
    exact h.le_of_mem_boundaryIn hlengths hbound hedge hlt

/-- There is a nearest edge behind a position only if there is a boundary. -/
theorem Consecutive.boundaryIn_eq_some_iff (h : Consecutive blocks)
    (hlengths : ∀ b ∈ blocks, 0 ≤ b.length) {bound : Int} :
    boundaryIn blocks position = some bound ↔
      IsLeast {edge ∈ edges blocks | position < edge} bound := by
  constructor
  · exact h.isLeast_of_mem_boundaryIn hlengths
  · intro hleast
    cases hnext : boundaryIn blocks position with
    | none =>
      obtain ⟨⟨b, hb, hedge⟩, hlt⟩ := hleast.1
      have hextent := Block.offset_le_stop (hlengths b hb)
      have hpassed := boundaryIn_eq_none_iff.mp hnext b hb
      omega
    | some other => rw [(h.isLeast_of_mem_boundaryIn hlengths hnext).unique hleast]

namespace BlockCursor

/-- **The next boundary is the nearest edge.** Among consecutive blocks the boundary behind a
position is the least edge behind it. Among any blocks, that behind a later position is no earlier
one, where a missing boundary is later than all others. -/
theorem nextBoundary_isLeast_and_mono (blocks : List Block)
    (hlengths : ∀ b ∈ blocks, 0 ≤ b.length) :
    (Consecutive blocks → ∀ queries position,
        (∀ bound, (((ofBlocks blocks).askAll queries).nextBoundary position).2 = some bound ↔
          IsLeast {edge ∈ edges blocks | position < edge} bound) ∧
        ((((ofBlocks blocks).askAll queries).nextBoundary position).2 = none ↔
          ∀ b ∈ blocks, b.stop ≤ position)) ∧
      ∀ queries others position later, position ≤ later →
        NoLater (((ofBlocks blocks).askAll queries).nextBoundary position).2
          (((ofBlocks blocks).askAll others).nextBoundary later).2 := by
  simp only [nextBoundary_askAll]
  constructor
  · intro hconsecutive _ position
    exact ⟨fun bound ↦ hconsecutive.boundaryIn_eq_some_iff hlengths, boundaryIn_eq_none_iff⟩
  · intro _ _ position later hle
    exact boundaryIn_noLater hlengths hle

/-- Blocks with a gap, and empty blocks between two that touch and in the gap. -/
theorem nextBoundary_isLeast_and_mono_empty_block :
    let blocks : List Block := [⟨0, 10, ["a"], []⟩, ⟨10, 0, ["b"], []⟩, ⟨10, 10, ["c"], []⟩,
      ⟨30, 0, ["d"], []⟩, ⟨40, 5, ["e"], []⟩]
    (∀ b ∈ blocks, 0 ≤ b.length) ∧ Consecutive blocks ∧
      IsLeast {edge ∈ edges blocks | 10 < edge} 20 ∧
      IsLeast {edge ∈ edges blocks | 25 < edge} 30 ∧
      (((ofBlocks blocks).askAll [.locate 50]).nextBoundary 45).2 = none ∧
      NoLater (((ofBlocks blocks).askAll [.locate 50]).nextBoundary 25).2
        (((ofBlocks blocks).askAll []).nextBoundary 30).2 := by
  intro blocks
  have hlengths : ∀ b ∈ blocks, 0 ≤ b.length := by decide
  have hconsecutive : Consecutive blocks := by decide
  obtain ⟨hleast, hmono⟩ := nextBoundary_isLeast_and_mono blocks hlengths
  refine ⟨hlengths, hconsecutive, ?_, ?_, ?_, hmono _ _ 25 30 (by decide)⟩
  · exact ((hleast hconsecutive [] 10).1 20).mp (by decide)
  · exact ((hleast hconsecutive [] 25).1 30).mp (by decide)
  · exact (hleast hconsecutive [.locate 50] 45).2.mpr (by decide)

end BlockCursor

end SplitPlanning
