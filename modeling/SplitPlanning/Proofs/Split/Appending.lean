import SplitPlanning.Proofs.Split.StatelessPlanning

/-!
# Files that grow

A split is closed in front of a row group, and only the last one for want of any. Nothing is assumed
of offsets, sizes or blocks.
-/

namespace SplitPlanning

/-- Whether a run is another one that may have gone on. -/
structure Run.Extends (grown run : Run) : Prop where
  first_eq : grown.first = run.first
  following_isPrefix : run.following <+: grown.following

theorem Run.Extends.members_isPrefix {grown run : Run} (h : grown.Extends run) :
    run.members <+: grown.members := by
  rw [Run.members, Run.members, h.first_eq, List.prefix_cons_inj]
  exact h.following_isPrefix

theorem Run.Extends.hosts_eq {grown run : Run} (h : grown.Extends run) (blocks : List Block)
    (context : SplitContext) :
    (run.toSplit blocks context).hosts = (grown.toSplit blocks context).hosts := by
  rw [Run.hosts_toSplit, Run.hosts_toSplit, h.first_eq]

namespace SizeWindow

variable {w : SizeWindow}

/-! ## One run -/

section Taken

variable {boundary : Option Int} {size : Int} {rest : List RowGroup}

/-- Row groups behind others take none of these out of a run. -/
theorem taken_isPrefix_taken_append (more : List RowGroup) :
    w.taken boundary size rest <+: w.taken boundary size (rest ++ more) := by
  induction rest generalizing size with
  | nil => exact List.nil_prefix
  | cons r rest ih =>
    rw [List.cons_append]
    by_cases hcontinues : w.Continues boundary size r
    · rw [taken_of_continues hcontinues, taken_of_continues hcontinues, List.prefix_cons_inj]
      exact ih
    · rw [taken_of_not_continues hcontinues]
      exact List.nil_prefix

/-- A run that was closed in front of a row group is closed there, whatever lies further behind. -/
theorem taken_append_of_left_ne_nil (h : w.left boundary size rest ≠ []) (more : List RowGroup) :
    w.taken boundary size (rest ++ more) = w.taken boundary size rest := by
  induction rest generalizing size with
  | nil => exact absurd rfl h
  | cons r rest ih =>
    rw [List.cons_append]
    by_cases hcontinues : w.Continues boundary size r
    · rw [left_of_continues hcontinues] at h
      rw [taken_of_continues hcontinues, taken_of_continues hcontinues, ih h]
    · rw [taken_of_not_continues hcontinues, taken_of_not_continues hcontinues]

theorem left_append_of_left_ne_nil (h : w.left boundary size rest ≠ []) (more : List RowGroup) :
    w.left boundary size (rest ++ more) = w.left boundary size rest ++ more := by
  have hfront : (w.taken boundary size rest).length ≤ rest.length := by
    calc
      (w.taken boundary size rest).length ≤
          (w.taken boundary size rest ++ w.left boundary size rest).length := by
        rw [List.length_append]
        exact Nat.le_add_right _ _
      _ = rest.length := by rw [taken_append_left]
  rw [left, taken_append_of_left_ne_nil h, List.drop_append_of_le_length hfront, left]

end Taken

/-! ## All runs -/

/-- Row groups that are added leave all runs but the last as they are and extend that one. -/
theorem divide_append (w : SizeWindow) (boundary : Int → Option Int) {rowGroups : List RowGroup}
    (hne : rowGroups ≠ []) (more : List RowGroup) :
    ∃ closed last grown later,
      w.divide boundary rowGroups = closed ++ [last] ∧
      w.divide boundary (rowGroups ++ more) = closed ++ grown :: later ∧ grown.Extends last := by
  induction rowGroups using divide.induct w boundary with
  | case1 => exact absurd rfl hne
  | case2 first rest ih =>
    rw [List.cons_append, divide_cons, divide_cons]
    by_cases hleft : w.left (boundary first.startOffset) first.size rest = []
    · -- the run took all there was, so it is the last one
      let last : Run := ⟨first, w.taken (boundary first.startOffset) first.size rest⟩
      refine ⟨[], last, _, _, ?_, rfl, rfl, taken_isPrefix_taken_append more⟩
      rw [hleft, divide_nil, List.nil_append]
    · -- the run was closed in front of a row group
      obtain ⟨closed, last, grown, later, hruns, hgrown, hextends⟩ := ih hleft
      rw [taken_append_of_left_ne_nil hleft, left_append_of_left_ne_nil hleft, hruns, hgrown]
      exact ⟨_ :: closed, last, grown, later, rfl, rfl, hextends⟩

end SizeWindow

/-- **Closed splits stay.** Row groups that are added behind others leave all splits but the last
one as they are, which may take more of them behind. -/
theorem planRowGroups_append (w : SizeWindow) (rowGroups more : List RowGroup)
    (hne : rowGroups ≠ []) (blocks : List Block) (context : SplitContext) :
    ∃ closed last grown later,
      (planRowGroups rowGroups blocks context w.minSize w.maxSize).outcome =
        .ok (closed ++ [last]) ∧
      (planRowGroups (rowGroups ++ more) blocks context w.minSize w.maxSize).outcome =
        .ok (closed ++ grown :: later) ∧
      last.rowGroups <+: grown.rowGroups ∧ last.hosts = grown.hosts := by
  obtain ⟨closed, last, grown, later, hruns, hgrown, hextends⟩ :=
    w.divide_append (boundaryIn blocks) hne more
  refine ⟨closed.map (Run.toSplit blocks context), last.toSplit blocks context,
    grown.toSplit blocks context, later.map (Run.toSplit blocks context), ?_, ?_,
    hextends.members_isPrefix, hextends.hosts_eq blocks context⟩
  · rw [planRowGroups_outcome, SizeWindow.statelessSplits, hruns, List.map_append,
      List.map_singleton]
  · rw [planRowGroups_outcome, SizeWindow.statelessSplits, hgrown, List.map_append, List.map_cons]

/-- A split that the end of the file closed takes two more row groups, up to a boundary. -/
theorem planRowGroups_append_grown :
    let w : SizeWindow := ⟨50, 120, by decide, by decide⟩
    let rowGroups := [RowGroup.ofExtent 10 60 1, RowGroup.ofExtent 160 40 1]
    let more := [RowGroup.ofExtent 90 20 1, RowGroup.ofExtent 150 (-5) 0,
      RowGroup.ofExtent 205 70 1]
    let blocks : List Block := [⟨0, 100, ["a"], []⟩, ⟨80, 70, ["b"], []⟩, ⟨200, 100, ["c"], []⟩]
    let context : SplitContext := ⟨"", ∅, none, ∅⟩
    rowGroups ≠ [] ∧
      ∃ closed last grown later,
        (planRowGroups rowGroups blocks context w.minSize w.maxSize).outcome =
          .ok (closed ++ [last]) ∧
        (planRowGroups (rowGroups ++ more) blocks context w.minSize w.maxSize).outcome =
          .ok (closed ++ grown :: later) ∧
        last.rowGroups <+: grown.rowGroups ∧ last.hosts = grown.hosts := by
  intro w rowGroups more blocks context
  have hne : rowGroups ≠ [] := by decide
  exact ⟨hne, planRowGroups_append w rowGroups more hne blocks context⟩

end SplitPlanning
