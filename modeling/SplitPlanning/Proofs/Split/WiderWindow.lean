import SplitPlanning.Proofs.Split.Optimality

/-! # Wider windows -/

namespace SplitPlanning

/-- **Wider windows never need more splits.** The first splits planned with larger bounds cover at
least as many row groups as equally many splits planned with smaller ones, and there are no more of
them. -/
theorem planRowGroups_mono_window (w w' : SizeWindow) (hmin : w.minSize ≤ w'.minSize)
    (hmax : w.maxSize ≤ w'.maxSize) (rowGroups : List RowGroup) (blocks : List Block)
    (context : SplitContext) (hsizes : ∀ r ∈ rowGroups, 0 ≤ r.size)
    (hrowGroups : rowGroups.Pairwise fun r s ↦ r.startOffset ≤ s.startOffset)
    (hlengths : ∀ b ∈ blocks, 0 ≤ b.length) :
    ∃ splits splits',
      (planRowGroups rowGroups blocks context w.minSize w.maxSize).outcome = .ok splits ∧
      (planRowGroups rowGroups blocks context w'.minSize w'.maxSize).outcome = .ok splits' ∧
      (∀ k, ((splits.take k).flatMap Split.rowGroups).length ≤
        ((splits'.take k).flatMap Split.rowGroups).length) ∧
      splits'.length ≤ splits.length := by
  have houtlasts := SizeWindow.outlastsAmong_boundaryIn_of_le hmin hmax hlengths hrowGroups
  exact ⟨w.statelessSplits rowGroups blocks context, w'.statelessSplits rowGroups blocks context,
    planRowGroups_outcome .., planRowGroups_outcome ..,
    houtlasts.statelessSplits_ahead hsizes context context⟩

/-- Only the minimum is raised, and the plans differ from the first split on. -/
theorem planRowGroups_mono_window_raised_minimum :
    let w : SizeWindow := ⟨50, 120, by decide, by decide⟩
    let w' : SizeWindow := ⟨90, 120, by decide, by decide⟩
    let rowGroups := [RowGroup.ofExtent 10 60 1, RowGroup.ofExtent 100 0 0,
      RowGroup.ofExtent 100 40 1, RowGroup.ofExtent 160 70 1, RowGroup.ofExtent 200 20 1]
    let blocks : List Block := [⟨0, 100, ["a"], []⟩, ⟨80, 70, ["b"], []⟩, ⟨200, 100, ["c"], []⟩]
    let context : SplitContext := ⟨"", ∅, none, ∅⟩
    w.minSize ≤ w'.minSize ∧ w.maxSize ≤ w'.maxSize ∧ (∀ r ∈ rowGroups, 0 ≤ r.size) ∧
      rowGroups.Pairwise (fun r s ↦ r.startOffset ≤ s.startOffset) ∧
      (∀ b ∈ blocks, 0 ≤ b.length) ∧
      ∃ splits splits',
        (planRowGroups rowGroups blocks context w.minSize w.maxSize).outcome = .ok splits ∧
        (planRowGroups rowGroups blocks context w'.minSize w'.maxSize).outcome = .ok splits' ∧
        (∀ k, ((splits.take k).flatMap Split.rowGroups).length ≤
          ((splits'.take k).flatMap Split.rowGroups).length) ∧
        splits'.length ≤ splits.length := by
  intro w w' rowGroups blocks context
  have hmin : w.minSize ≤ w'.minSize := by decide
  have hmax : w.maxSize ≤ w'.maxSize := by decide
  have hsizes : ∀ r ∈ rowGroups, 0 ≤ r.size := by decide
  have hrowGroups : rowGroups.Pairwise (fun r s ↦ r.startOffset ≤ s.startOffset) := by decide
  have hlengths : ∀ b ∈ blocks, 0 ≤ b.length := by decide
  exact ⟨hmin, hmax, hsizes, hrowGroups, hlengths,
    planRowGroups_mono_window w w' hmin hmax rowGroups blocks context hsizes hrowGroups hlengths⟩

end SplitPlanning
