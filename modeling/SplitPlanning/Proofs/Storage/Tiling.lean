import Mathlib.Algebra.Order.Floor.Ring
import Mathlib.Data.Rat.Floor
import SplitPlanning.Proofs.Storage.DerivedBlocks

/-!
# Cutting a file into blocks

Blocks are cut off one after the other, each from where the one before it ends. None of them is
empty, so this comes to an end, and the blocks are those of the listing.
-/

namespace SplitPlanning

/-! ## Blocks side by side -/

/-- Blocks of which none is empty, laid end to end from one position up to another. -/
inductive Tiles : Int → List Block → Int → Prop where
  | nil (position : Int) : Tiles position [] position
  | cons {start stop : Int} {b : Block} {rest : List Block} (hoffset : b.offset = start)
      (hlength : 0 < b.length) (hrest : Tiles b.stop rest stop) : Tiles start (b :: rest) stop

namespace Tiles

variable {start stop : Int} {blocks : List Block}

theorem le (h : Tiles start blocks stop) : start ≤ stop := by
  induction h with
  | nil position => exact Int.le_refl position
  | cons hoffset hlength _ ih =>
    rw [← hoffset]
    exact Int.le_trans (Block.offset_le_stop (Int.le_of_lt hlength)) ih

/-- A position between the two ends is in one of the blocks, and any other one is in none. -/
theorem countP_mem (h : Tiles start blocks stop) (position : Int) :
    blocks.countP (position ∈ ·) = if start ≤ position ∧ position < stop then 1 else 0 := by
  induction h with
  | nil bound =>
    have hnone : ¬(bound ≤ position ∧ position < bound) := by omega
    rw [List.countP_nil, if_neg hnone]
  | @cons start stop b rest hoffset hlength hrest ih =>
    have hstop : b.offset < b.stop := Int.lt_add_of_pos_right b.offset hlength
    have hle := hrest.le
    rw [List.countP_cons, ih]
    simp only [decide_eq_true_eq, Block.mem_iff]
    split_ifs <;> omega

end Tiles

namespace BlockLayout

variable {layout : BlockLayout} {fileSize stop offset : Int} {blocks : List Block}

/-! ## Cutting -/

/-- Cutting blocks off a file as long as they begin in front of the position `stop`. -/
inductive Cuts (layout : BlockLayout) (fileSize stop : Int) : Int → List Block → Prop where
  | done {offset : Int} (h : stop ≤ offset) : Cuts layout fileSize stop offset []
  | next {offset : Int} {rest : List Block} (h : offset < stop)
      (hrest : Cuts layout fileSize stop (layout.blockAt fileSize offset).stop rest) :
      Cuts layout fileSize stop offset (layout.blockAt fileSize offset :: rest)

namespace Cuts

theorem unique {other : List Block} (h : layout.Cuts fileSize stop offset blocks)
    (hother : layout.Cuts fileSize stop offset other) : blocks = other := by
  induction h generalizing other with
  | done hle =>
    cases hother with
    | done _ => rfl
    | next hlt _ => omega
  | next hlt _ ih =>
    cases hother with
    | done hle => omega
    | next _ hrest => rw [ih hrest]

/-- Only the last block may be shorter. -/
theorem length_eq_of_mem_dropLast (h : layout.Cuts fileSize stop offset blocks)
    (hstop : stop ≤ fileSize) {b : Block} (hb : b ∈ blocks.dropLast) :
    b.length = layout.blockSize := by
  induction h with
  | done _ => contradiction
  | @next offset rest _ hrest ih =>
    cases hrest with
    | done _ => contradiction
    | next hbegins _ =>
      rw [List.dropLast_cons_of_ne_nil (List.cons_ne_nil _ _)] at hb
      rcases List.mem_cons.mp hb with rfl | hlater
      · rw [stop_blockAt] at hbegins
        rw [length_blockAt]
        omega
      · exact ih hlater

theorem tiles (h : layout.Cuts fileSize fileSize offset blocks) (hle : offset ≤ fileSize) :
    Tiles offset blocks fileSize := by
  induction h with
  | @done offset hend =>
    obtain rfl := Int.le_antisymm hle hend
    exact .nil offset
  | @next offset rest hbegins _ ih =>
    have hpos := layout.blockSize_pos
    have hlength : 0 < (layout.blockAt fileSize offset).length := by
      rw [length_blockAt]
      omega
    have hnext : (layout.blockAt fileSize offset).stop ≤ fileSize := by
      rw [stop_blockAt]
      exact Int.min_le_right _ _
    exact .cons rfl hlength (ih hnext)

end Cuts

theorem add_succ_mul_blockSize (layout : BlockLayout) (offset : Int) (k : Nat) :
    offset + ((k + 1 : Nat) : Int) * layout.blockSize =
      offset + layout.blockSize + k * layout.blockSize := by
  push_cast
  ring

theorem map_blockAt_range_succ (layout : BlockLayout) (fileSize offset : Int) (count : Nat) :
    ((List.range (count + 1)).map fun (k : Nat) ↦
        layout.blockAt fileSize (offset + k * layout.blockSize)) =
      layout.blockAt fileSize offset :: (List.range count).map fun (k : Nat) ↦
        layout.blockAt fileSize (offset + layout.blockSize + k * layout.blockSize) := by
  rw [List.range_succ_eq_map, List.map_cons, List.map_map]
  simp only [Function.comp_def, Nat.succ_eq_add_one, add_succ_mul_blockSize, Nat.cast_zero,
    zero_mul, add_zero]

/-- Only the last block may end in front of where a next one would begin. -/
theorem cuts_map_range (hstop : stop ≤ fileSize) (count : Nat)
    (hcount : ∀ k : Nat, k < count ↔ offset + k * layout.blockSize < stop) :
    layout.Cuts fileSize stop offset
      ((List.range count).map fun (k : Nat) ↦
        layout.blockAt fileSize (offset + k * layout.blockSize)) := by
  induction count generalizing offset with
  | zero =>
    have hend := mt (hcount 0).mpr (Nat.lt_irrefl 0)
    exact .done (by omega)
  | succ count ih =>
    have hbegins : offset < stop := by
      have hfirst := (hcount 0).mp (Nat.succ_pos count)
      omega
    have hlater (k : Nat) :
        k < count ↔ offset + layout.blockSize + k * layout.blockSize < stop := by
      rw [← add_succ_mul_blockSize, ← hcount, Nat.succ_lt_succ_iff]
    rw [map_blockAt_range_succ]
    apply Cuts.next hbegins
    rw [stop_blockAt]
    rcases Int.lt_or_le (offset + layout.blockSize) fileSize with hinside | hlast
    · rw [Int.min_eq_left (Int.le_of_lt hinside)]
      exact ih hlater
    · -- the block ends with the file, so no other one is counted
      have hnone : count = 0 := by
        apply Nat.eq_zero_of_not_pos
        intro hmore
        have hfurther := (hlater 0).mp hmore
        omega
      subst hnone
      rw [Int.min_eq_right hlast]
      exact .done hstop

/-- Cutting a file comes to an end, and what was cut off are the blocks listed. -/
theorem cuts_iff {start : Int} {length : Option Int} :
    layout.Cuts fileSize (listingStop fileSize start length) (layout.blockStart start) blocks ↔
      blocks = layout.blocks fileSize start length := by
  have hlisted : layout.Cuts fileSize (listingStop fileSize start length)
      (layout.blockStart start) (layout.blocks fileSize start length) :=
    cuts_map_range (listingStop_le fileSize start length) _ fun _ ↦ lt_blockCount_iff
  constructor
  · intro hcuts
    exact hcuts.unique hlisted
  · rintro rfl
    exact hlisted

/-- As many blocks as the block size goes into the size of the file, rounded up. -/
theorem length_blocks (hfile : 0 ≤ fileSize) :
    ((layout.blocks fileSize 0 none).length : Int) = ⌈(fileSize / layout.blockSize : ℚ)⌉ := by
  have hpos := layout.blockSize_pos
  have hpos' : (0 : ℚ) < layout.blockSize := by exact_mod_cast hpos
  have hcount (k : Nat) : k < (layout.blocks fileSize 0 none).length ↔
      k * layout.blockSize < fileSize := by
    rw [blocks, List.length_map, List.length_range, lt_blockCount_iff, blockStart_zero,
      Int.zero_add, listingStop_none]
  generalize (layout.blocks fileSize 0 none).length = count at hcount ⊢
  have hlast : ((count : Int) - 1) * layout.blockSize < fileSize := by
    cases count with
    | zero =>
      simp only [Nat.cast_zero, zero_sub, neg_mul, one_mul]
      omega
    | succ k =>
      have hbegins := (hcount k).mp (Nat.lt_succ_self k)
      rwa [Nat.cast_succ, add_sub_cancel_right]
  have hnext : fileSize ≤ count * layout.blockSize :=
    Int.not_lt.mp (mt (hcount count).mpr (Nat.lt_irrefl count))
  symm
  rw [Int.ceil_eq_iff, lt_div_iff₀ hpos', div_le_iff₀ hpos']
  constructor
  · exact_mod_cast hlast
  · exact_mod_cast hnext

/-- **The blocks of a file tile it.** Cutting a file of any size comes to an end, and the blocks cut
off lie end to end over the file. All but the last one are of the block size, and every position in
the file is in exactly one of them. -/
theorem blocks_tile (layout : BlockLayout) (fileSize : Int) (hfile : 0 ≤ fileSize) :
    (∀ blocks, layout.Cuts fileSize fileSize 0 blocks ↔
      blocks = layout.blocks fileSize 0 none) ∧
    Tiles 0 (layout.blocks fileSize 0 none) fileSize ∧
    (∀ b ∈ (layout.blocks fileSize 0 none).dropLast, b.length = layout.blockSize) ∧
    ((layout.blocks fileSize 0 none).length : Int) = ⌈(fileSize / layout.blockSize : ℚ)⌉ ∧
    ∀ position, 0 ≤ position → position < fileSize →
      (layout.blocks fileSize 0 none).countP (position ∈ ·) = 1 := by
  have hiff (blocks : List Block) : layout.Cuts fileSize fileSize 0 blocks ↔
      blocks = layout.blocks fileSize 0 none := by
    rw [← cuts_iff, blockStart_zero, listingStop_none]
  have hcuts : layout.Cuts fileSize fileSize 0 (layout.blocks fileSize 0 none) := (hiff _).mpr rfl
  have htiles := hcuts.tiles hfile
  refine ⟨hiff, htiles, fun b hb ↦ hcuts.length_eq_of_mem_dropLast (Int.le_refl _) hb,
    length_blocks hfile, ?_⟩
  intro position hposition hinside
  rw [htiles.countP_mem, if_pos ⟨hposition, hinside⟩]

/-- A file that ends in a shorter block. -/
theorem blocks_tile_shorter_last :
    let layout : BlockLayout := ⟨100, ["a", "b"], by decide⟩
    (0 : Int) ≤ 250 ∧
      (∀ blocks, layout.Cuts 250 250 0 blocks ↔ blocks = layout.blocks 250 0 none) ∧
      Tiles 0 (layout.blocks 250 0 none) 250 ∧
      (∀ b ∈ (layout.blocks 250 0 none).dropLast, b.length = 100) ∧
      ((layout.blocks 250 0 none).length : Int) = ⌈((250 : Int) / (100 : Int) : ℚ)⌉ ∧
      ∀ position, 0 ≤ position → position < 250 →
        (layout.blocks 250 0 none).countP (position ∈ ·) = 1 := by
  intro layout
  exact ⟨by decide, blocks_tile layout 250 (by decide)⟩

example :
    let layout : BlockLayout := ⟨100, ["a"], by decide⟩
    layout.blocks 250 0 none = [⟨0, 100, ["a"], []⟩, ⟨100, 100, ["a"], []⟩, ⟨200, 50, ["a"], []⟩] ∧
      layout.blocks 200 0 none = [⟨0, 100, ["a"], []⟩, ⟨100, 100, ["a"], []⟩] := by
  decide

end BlockLayout

end SplitPlanning
