import SplitPlanning.Proofs.Split.Optimality

/-!
# Plans with and without blocks

Blocks decide where a split ends only between the bounds of the window: in front of the minimum no
boundary closes a split, and at the maximum every split is closed.
-/

namespace SplitPlanning

namespace SizeWindow

variable {w w' : SizeWindow}

/-- A split below the minimum goes on whatever boundary lies behind it. -/
theorem outlasts_of_maxSize_le_minSize (h : w'.maxSize ≤ w.minSize)
    (boundary boundary' : Option Int) : w.Outlasts boundary w' boundary' := by
  intro size size' r hsize hcontinues
  have hbelow : size < w.minSize :=
    calc
      size ≤ size' := hsize
      _ < w'.maxSize := hcontinues.1
      _ ≤ w.minSize := h
  refine ⟨Int.lt_of_lt_of_le hbelow w.minSize_le_maxSize, ?_⟩
  rintro ⟨hfull, -⟩
  exact Int.not_le.mpr hbelow hfull

/-- A split without a boundary outlasts all others in its window. -/
theorem outlasts_none (w : SizeWindow) (boundary : Option Int) : w.Outlasts none w boundary :=
  outlasts_of_noLater (Int.le_refl _) (Int.le_refl _) (noLater_none boundary)

/-- The window of splits that end as soon as they hold the minimum of another one. -/
def atMinimum (w : SizeWindow) (hmin : 0 < w.minSize) : SizeWindow where
  minSize := w.minSize
  maxSize := w.minSize
  maxSize_pos := hmin
  minSize_le_maxSize := Int.le_refl _

/-- Where the bounds of a window are one, only this size counts. -/
theorem continues_iff_of_minSize_eq_maxSize (h : w.minSize = w.maxSize) (boundary : Option Int)
    (size : Int) (r : RowGroup) : w.Continues boundary size r ↔ size < w.maxSize := by
  constructor
  · intro hcontinues
    exact hcontinues.1
  · intro hbelow
    refine ⟨hbelow, ?_⟩
    rintro ⟨hfull, -⟩
    omega

/-- Where the bounds of a window are one, the boundaries do not matter. -/
theorem divide_eq_of_minSize_eq_maxSize (h : w.minSize = w.maxSize)
    (boundary boundary' : Int → Option Int) (rowGroups : List RowGroup) :
    w.divide boundary rowGroups = w.divide boundary' rowGroups := by
  apply divide_congr
  intro position size r
  rw [continues_iff_of_minSize_eq_maxSize h, continues_iff_of_minSize_eq_maxSize h]

end SizeWindow

/-- **Blocks move cuts only between the bounds.** The first splits over any blocks cover no fewer
row groups than splits without blocks that end at the minimum, and no more than those without blocks
in the same window. If the bounds are one, blocks do not matter. -/
theorem planRowGroups_between_blockless (w : SizeWindow) (hmin : 1 ≤ w.minSize)
    (rowGroups : List RowGroup) (blocks : List Block) (context : SplitContext)
    (hsizes : ∀ r ∈ rowGroups, 0 ≤ r.size) :
    ∃ earliest splits latest,
      (planRowGroups rowGroups [] context w.minSize w.minSize).outcome = .ok earliest ∧
      (planRowGroups rowGroups blocks context w.minSize w.maxSize).outcome = .ok splits ∧
      (planRowGroups rowGroups [] context w.minSize w.maxSize).outcome = .ok latest ∧
      (∀ k, ((earliest.take k).flatMap Split.rowGroups).length ≤
          ((splits.take k).flatMap Split.rowGroups).length ∧
        ((splits.take k).flatMap Split.rowGroups).length ≤
          ((latest.take k).flatMap Split.rowGroups).length) ∧
      latest.length ≤ splits.length ∧ splits.length ≤ earliest.length ∧
      (w.minSize = w.maxSize → ∀ others, ∃ splits',
        (planRowGroups rowGroups others context w.minSize w.maxSize).outcome = .ok splits' ∧
        splits'.map Split.rowGroups = splits.map Split.rowGroups) := by
  let narrow := w.atMinimum (by omega)
  have hlower : w.OutlastsAmong (boundaryIn blocks) narrow (boundaryIn []) rowGroups := by
    apply SizeWindow.outlastsAmong_of_forall
    intro position later
    apply SizeWindow.outlasts_of_maxSize_le_minSize
    exact Int.le_refl w.minSize
  have hupper : w.OutlastsAmong (boundaryIn []) w (boundaryIn blocks) rowGroups := by
    apply SizeWindow.outlastsAmong_of_forall
    intro position later
    rw [boundaryIn_nil]
    exact w.outlasts_none _
  obtain ⟨hcover, hcount⟩ := hlower.statelessSplits_ahead hsizes context context
  obtain ⟨hcover', hcount'⟩ := hupper.statelessSplits_ahead hsizes context context
  refine ⟨_, _, _, planRowGroups_outcome narrow .., planRowGroups_outcome w ..,
    planRowGroups_outcome w .., fun k ↦ ⟨hcover k, hcover' k⟩, hcount', hcount, ?_⟩
  intro hequal others
  refine ⟨_, planRowGroups_outcome w .., ?_⟩
  rw [SizeWindow.map_rowGroups_statelessSplits, SizeWindow.map_rowGroups_statelessSplits,
    SizeWindow.divide_eq_of_minSize_eq_maxSize hequal]

/-- Blocks and row groups out of order: three plans that cut at different places. -/
theorem planRowGroups_between_blockless_unsorted :
    let w : SizeWindow := ⟨50, 120, by decide, by decide⟩
    let narrow : SizeWindow := ⟨50, 50, by decide, by decide⟩
    let rowGroups := [RowGroup.ofExtent 160 60 1, RowGroup.ofExtent 10 30 1,
      RowGroup.ofExtent 10 0 0, RowGroup.ofExtent 250 70 1, RowGroup.ofExtent 90 20 1]
    let blocks : List Block := [⟨200, 100, ["c"], []⟩, ⟨0, 100, ["a"], []⟩, ⟨150, -90, ["d"], []⟩,
      ⟨80, 70, ["b"], []⟩]
    let others : List Block := [⟨0, 300, ["a"], []⟩]
    let context : SplitContext := ⟨"", ∅, none, ∅⟩
    1 ≤ w.minSize ∧ 1 ≤ narrow.minSize ∧ narrow.minSize = narrow.maxSize ∧
      (∀ r ∈ rowGroups, 0 ≤ r.size) ∧
      (∃ earliest splits latest,
        (planRowGroups rowGroups [] context 50 50).outcome = .ok earliest ∧
        (planRowGroups rowGroups blocks context 50 120).outcome = .ok splits ∧
        (planRowGroups rowGroups [] context 50 120).outcome = .ok latest ∧
        (∀ k, ((earliest.take k).flatMap Split.rowGroups).length ≤
            ((splits.take k).flatMap Split.rowGroups).length ∧
          ((splits.take k).flatMap Split.rowGroups).length ≤
            ((latest.take k).flatMap Split.rowGroups).length) ∧
        latest.length ≤ splits.length ∧ splits.length ≤ earliest.length) ∧
      ∃ splits splits',
        (planRowGroups rowGroups blocks context 50 50).outcome = .ok splits ∧
        (planRowGroups rowGroups others context 50 50).outcome = .ok splits' ∧
        splits'.map Split.rowGroups = splits.map Split.rowGroups := by
  intro w narrow rowGroups blocks others context
  have hmin : 1 ≤ w.minSize := by decide
  have hnarrow : 1 ≤ narrow.minSize := by decide
  have hsizes : ∀ r ∈ rowGroups, 0 ≤ r.size := by decide
  obtain ⟨earliest, splits, latest, hearliest, hsplits, hlatest, hcover, hcount, hcount', -⟩ :=
    planRowGroups_between_blockless w hmin rowGroups blocks context hsizes
  obtain ⟨-, same, -, -, hsame, -, -, -, -, hothers⟩ :=
    planRowGroups_between_blockless narrow hnarrow rowGroups blocks context hsizes
  obtain ⟨same', hsame', hequal⟩ := hothers rfl others
  exact ⟨hmin, hnarrow, rfl, hsizes, ⟨earliest, splits, latest, hearliest, hsplits, hlatest,
    hcover, hcount, hcount'⟩, same, same', hsame, hsame', hequal⟩

end SplitPlanning
