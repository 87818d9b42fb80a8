import SplitPlanning.Proofs.Split.StatelessPlanning

/-! # Plans are partitions within the window -/

namespace SplitPlanning

/-! ## Nothing is lost -/

namespace SizeWindow

theorem length_divide_le (w : SizeWindow) (boundary : Int → Option Int)
    (rowGroups : List RowGroup) : (w.divide boundary rowGroups).length ≤ rowGroups.length := by
  induction rowGroups using divide.induct w boundary with
  | case1 => simp
  | case2 first rest ih =>
    have hleft : (w.left (boundary first.startOffset) first.size rest).length ≤ rest.length := by
      rw [left, List.length_drop]
      exact Nat.sub_le _ _
    rw [divide_cons, List.length_cons, List.length_cons]
    omega

theorem totalOf_members_divide (w : SizeWindow) (boundary : Int → Option Int)
    (amount : RowGroup → Int) (rowGroups : List RowGroup) :
    totalOf (fun run ↦ totalOf amount run.members) (w.divide boundary rowGroups) =
      totalOf amount rowGroups := by
  rw [← totalOf_flatMap, flatMap_members_divide]

section Splits

variable (w : SizeWindow) (rowGroups : List RowGroup) (blocks : List Block)
  (context : SplitContext)

theorem flatMap_rowGroups_statelessSplits :
    (w.statelessSplits rowGroups blocks context).flatMap Split.rowGroups = rowGroups := by
  calc
    (w.statelessSplits rowGroups blocks context).flatMap Split.rowGroups =
        (w.divide (boundaryIn blocks) rowGroups).flatMap Run.members := by
      rw [statelessSplits, List.flatMap_map]
      rfl
    _ = rowGroups := w.flatMap_members_divide _ _

theorem totalOf_size_statelessSplits :
    totalOf Split.size (w.statelessSplits rowGroups blocks context) =
      totalOf RowGroup.size rowGroups := by
  calc
    totalOf Split.size (w.statelessSplits rowGroups blocks context) =
        totalOf (fun run ↦ totalOf RowGroup.size run.members)
          (w.divide (boundaryIn blocks) rowGroups) :=
      totalOf_map _ _ _
    _ = totalOf RowGroup.size rowGroups := w.totalOf_members_divide _ _ _

theorem totalOf_rowCount_statelessSplits :
    totalOf Split.rowCount (w.statelessSplits rowGroups blocks context) =
      totalOf RowGroup.rowCount rowGroups := by
  calc
    totalOf Split.rowCount (w.statelessSplits rowGroups blocks context) =
        totalOf (fun run ↦ totalOf RowGroup.rowCount run.members)
          (w.divide (boundaryIn blocks) rowGroups) :=
      totalOf_map _ _ _
    _ = totalOf RowGroup.rowCount rowGroups := w.totalOf_members_divide _ _ _

end Splits

end SizeWindow

/-- **Complete ordered partition.** Planning in a window always succeeds. No split is empty, and the
splits read in order are the row groups of the file, whose totals they share. -/
theorem planRowGroups_partition (w : SizeWindow) (rowGroups : List RowGroup)
    (blocks : List Block) (context : SplitContext) :
    ∃ splits,
      (planRowGroups rowGroups blocks context w.minSize w.maxSize).outcome = .ok splits ∧
      splits.length ≤ rowGroups.length ∧
      (∀ s ∈ splits, s.rowGroups ≠ [] ∧
        s.size = totalOf RowGroup.size s.rowGroups ∧
        s.rowCount = totalOf RowGroup.rowCount s.rowGroups) ∧
      splits.flatMap Split.rowGroups = rowGroups ∧
      totalOf Split.size splits = totalOf RowGroup.size rowGroups ∧
      totalOf Split.rowCount splits = totalOf RowGroup.rowCount rowGroups := by
  refine ⟨w.statelessSplits rowGroups blocks context, planRowGroups_outcome .., ?_, ?_,
    w.flatMap_rowGroups_statelessSplits .., w.totalOf_size_statelessSplits ..,
    w.totalOf_rowCount_statelessSplits ..⟩
  · rw [SizeWindow.statelessSplits, List.length_map]
    exact w.length_divide_le _ _
  · intro s hs
    obtain ⟨run, -, rfl⟩ := SizeWindow.exists_run_of_mem_statelessSplits hs
    exact ⟨run.members_ne_nil, rfl, rfl⟩

/-! ## The bounds of the window -/

namespace SizeWindow

variable {w : SizeWindow} {boundary : Int → Option Int} {run : Run}

/-- What a run held in front of a member is less than the maximum, also in front of the first. -/
theorem Admissible.size_lt_maxSize (h : w.Admissible boundary run) {before after : List RowGroup}
    {r : RowGroup} (hmembers : run.members = before ++ r :: after) :
    totalOf RowGroup.size before < w.maxSize := by
  by_cases hne : before = []
  · rw [hne, totalOf_nil]
    exact w.maxSize_pos
  · exact (h before r after hmembers hne).1

theorem minSize_le_of_mem_dropLast_statelessSplits {rowGroups : List RowGroup}
    {blocks : List Block} {context : SplitContext} {s : Split}
    (h : s ∈ (w.statelessSplits rowGroups blocks context).dropLast) : w.minSize ≤ s.size := by
  rw [statelessSplits, ← List.map_dropLast] at h
  obtain ⟨run, hrun, rfl⟩ := List.mem_map.mp h
  exact minSize_le_of_mem_dropLast_divide hrun

end SizeWindow

/-- **Splits keep to the window.** Every split but the last holds the minimum, and a split exceeds
the maximum by less than its last row group. -/
theorem planRowGroups_size_bounds (w : SizeWindow) (rowGroups : List RowGroup)
    (blocks : List Block) (context : SplitContext) :
    ∃ splits,
      (planRowGroups rowGroups blocks context w.minSize w.maxSize).outcome = .ok splits ∧
      (∀ s ∈ splits.dropLast, w.minSize ≤ s.size) ∧
      ∀ s ∈ splits,
        (∀ before, before <+: s.rowGroups → before ≠ s.rowGroups →
          totalOf RowGroup.size before < w.maxSize) ∧
        ∀ last, s.rowGroups.getLast? = some last → s.size - last.size < w.maxSize := by
  refine ⟨w.statelessSplits rowGroups blocks context, planRowGroups_outcome ..,
    fun s ↦ SizeWindow.minSize_le_of_mem_dropLast_statelessSplits, ?_⟩
  intro s hs
  obtain ⟨run, hrun, rfl⟩ := SizeWindow.exists_run_of_mem_statelessSplits hs
  have hadmissible := SizeWindow.admissible_of_mem_divide hrun
  constructor
  · intro before hprefix hproper
    obtain ⟨after, hmembers⟩ := hprefix
    cases after with
    | nil => exact absurd (by rw [← hmembers, List.append_nil]) hproper
    | cons r after => exact hadmissible.size_lt_maxSize hmembers.symm
  · intro last hlast
    obtain ⟨before, hmembers⟩ := List.getLast?_eq_some_iff.mp hlast
    have hbefore := hadmissible.size_lt_maxSize hmembers
    have hsize : (run.toSplit blocks context).size = totalOf RowGroup.size before + last.size := by
      change totalOf RowGroup.size run.members = _
      have hsplit : run.members = before ++ [last] := hmembers
      rw [hsplit, totalOf_append, totalOf_cons, totalOf_nil, Int.add_zero]
    omega

end SplitPlanning
