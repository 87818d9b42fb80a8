import SplitPlanning.Proofs.Job.Planning
import SplitPlanning.Proofs.Split.Optimality
import SplitPlanning.Proofs.Storage.DerivedBlocks

/-!
# Coarser blocks

If one block size is a multiple of another, every boundary between the larger blocks of a file is
one between the smaller blocks as well. So the boundary of the larger blocks lies no earlier behind
any position, and the splits planned over them stay ahead.
-/

namespace SplitPlanning

namespace BlockLayout

variable {layout layout' : BlockLayout}

/-- Blocks that are some times larger have their next boundary no earlier. -/
theorem boundaryIn_blocks_noLater (hdvd : layout.blockSize ∣ layout'.blockSize)
    (fileSize position : Int) :
    NoLater (boundaryIn (layout.blocks fileSize 0 none) position)
      (boundaryIn (layout'.blocks fileSize 0 none) position) := by
  rcases Int.lt_or_le 0 fileSize with hfile | hempty
  · rcases Int.lt_or_le position 0 with hfront | hposition
    · -- in front of the file, the first block lies ahead
      rw [layout.boundaryIn_blocks_of_neg hfront hfile,
        layout'.boundaryIn_blocks_of_neg hfront hfile]
      exact noLater_of_le (Int.le_refl 0)
    · rcases Int.lt_or_le position fileSize with hinside | hbehind
      · have hmultiple : layout.blockSize ∣ layout'.blockStart position + layout'.blockSize := by
          rw [blockStart_add_blockSize]
          exact Int.dvd_trans hdvd (Int.dvd_mul_left _ _)
        have hnext := blockStart_add_le_of_dvd hmultiple (layout'.lt_blockStart_add position)
        rw [layout.boundaryIn_blocks hposition hinside, layout'.boundaryIn_blocks hposition hinside]
        exact noLater_of_le (by omega)
      · rw [layout'.boundaryIn_blocks_of_le hbehind]
        exact noLater_none _
  · rw [layout'.blocks_eq_nil hempty, boundaryIn_nil]
    exact noLater_none _

/-- The boundary behind a later position in larger blocks is no earlier one either. -/
theorem boundaryIn_blocks_noLater_of_le (hdvd : layout.blockSize ∣ layout'.blockSize)
    (fileSize : Int) {position later : Int} (hle : position ≤ later) :
    NoLater (boundaryIn (layout.blocks fileSize 0 none) position)
      (boundaryIn (layout'.blocks fileSize 0 none) later) := by
  have hlengths : ∀ b ∈ layout.blocks fileSize 0 none, 0 ≤ b.length :=
    fun b hb ↦ Int.le_of_lt (layout.length_pos_of_mem_blocks hb)
  exact (boundaryIn_noLater hlengths hle).trans (boundaryIn_blocks_noLater hdvd fileSize later)

end BlockLayout

/-- **Coarser blocks never need more splits.** If one block size is a multiple of another, the first
splits planned over the larger blocks cover at least as many row groups as equally many splits
planned over the smaller ones, and there are no more of them. -/
theorem planFooter_mono_blockSize (p p' : JobPlanner) (w : SizeWindow) (hp : p.PlansIn w)
    (hp' : p'.PlansIn w) (hdvd : p.layout.blockSize ∣ p'.layout.blockSize) (storage : Storage)
    (footer : Footer) (fileSize : Int) (hsize : storage.fileSize footer.path = .ok fileSize)
    (hsizes : ∀ r ∈ footer.rowGroups, 0 ≤ r.size)
    (hrowGroups : footer.rowGroups.Pairwise fun r s ↦ r.startOffset ≤ s.startOffset) :
    ∃ splits splits',
      (p.planFooter storage footer).outcome = .ok splits ∧
      (p'.planFooter storage footer).outcome = .ok splits' ∧
      (∀ k, ((splits.take k).flatMap Split.rowGroups).length ≤
        ((splits'.take k).flatMap Split.rowGroups).length) ∧
      splits'.length ≤ splits.length := by
  have houtlasts : w.OutlastsAmong (boundaryIn (p'.layout.blocks fileSize 0 none)) w
      (boundaryIn (p.layout.blocks fileSize 0 none)) footer.rowGroups := by
    apply SizeWindow.outlastsAmong_of_noLater (Int.le_refl _) (Int.le_refl _) _ hrowGroups
    intro position later hle
    exact BlockLayout.boundaryIn_blocks_noLater_of_le hdvd fileSize hle
  refine ⟨_, _, ?_, ?_, houtlasts.statelessSplits_ahead hsizes (p'.contextOf footer)
    (p.contextOf footer)⟩
  · rw [hp.planFooter_eq hsize]
    rfl
  · rw [hp'.planFooter_eq hsize]
    rfl

/-- Row groups in front of the file, at the edges of blocks of ten and twenty bytes, in the shorter
block at the end and behind it: five splits over the larger blocks, six over the smaller ones. -/
theorem planFooter_mono_blockSize_doubled :
    let w : SizeWindow := ⟨8, 100, by decide, by decide⟩
    let p : JobPlanner := ⟨⟨8, 100, "", ∅⟩, ⟨10, ["a", "b"], by decide⟩⟩
    let p' : JobPlanner := ⟨⟨8, 100, "", ∅⟩, ⟨20, ["a", "b"], by decide⟩⟩
    let storage : Storage := Dictionary.ofList [("f", ⟨.file, 45, .error ⟨"OSError", "f"⟩⟩)]
    let footer : Footer := ⟨"f", [RowGroup.ofExtent (-3) 2 1, RowGroup.ofExtent 4 9 1,
      RowGroup.ofExtent 10 9 1, RowGroup.ofExtent 20 0 0, RowGroup.ofExtent 29 12 1,
      RowGroup.ofExtent 30 9 1, RowGroup.ofExtent 44 8 1, RowGroup.ofExtent 45 8 1], "", ∅, none⟩
    p.PlansIn w ∧ p'.PlansIn w ∧ p.layout.blockSize ∣ p'.layout.blockSize ∧
      storage.fileSize footer.path = .ok 45 ∧
      (∀ r ∈ footer.rowGroups, 0 ≤ r.size) ∧
      footer.rowGroups.Pairwise (fun r s ↦ r.startOffset ≤ s.startOffset) ∧
      ∃ splits splits',
        (p.planFooter storage footer).outcome = .ok splits ∧
        (p'.planFooter storage footer).outcome = .ok splits' ∧
        (∀ k, ((splits.take k).flatMap Split.rowGroups).length ≤
          ((splits'.take k).flatMap Split.rowGroups).length) ∧
        splits'.length ≤ splits.length := by
  intro w p p' storage footer
  have hp : p.PlansIn w := ⟨rfl, rfl⟩
  have hp' : p'.PlansIn w := ⟨rfl, rfl⟩
  have hdvd : p.layout.blockSize ∣ p'.layout.blockSize := by decide
  have hsize : storage.fileSize footer.path = .ok 45 := rfl
  have hsizes : ∀ r ∈ footer.rowGroups, 0 ≤ r.size := by decide
  have hrowGroups : footer.rowGroups.Pairwise (fun r s ↦ r.startOffset ≤ s.startOffset) := by
    decide
  exact ⟨hp, hp', hdvd, hsize, hsizes, hrowGroups, planFooter_mono_blockSize p p' w hp hp' hdvd
    storage footer 45 hsize hsizes hrowGroups⟩

end SplitPlanning
