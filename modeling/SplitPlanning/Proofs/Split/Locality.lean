import SplitPlanning.Proofs.Split.StatelessPlanning
import SplitPlanning.Proofs.Storage.Answers

/-! # Hosts near the data -/

namespace SplitPlanning

/-- A split that holds the minimum goes on only in front of the boundary. -/
theorem SizeWindow.Continues.lt_of_mem {w : SizeWindow} {boundary : Option Int} {size : Int}
    {r : RowGroup} (h : w.Continues boundary size r) (hmin : w.minSize ≤ size) :
    ∀ bound ∈ boundary, r.startOffset < bound := by
  intro bound hbound
  apply Int.not_le.mp
  intro hle
  exact h.2 ⟨hmin, bound, hbound, hle⟩

theorem SizeWindow.first_startOffset_le {w : SizeWindow} {boundary : Int → Option Int}
    {rowGroups : List RowGroup}
    (hsorted : rowGroups.Pairwise fun r s ↦ r.startOffset ≤ s.startOffset) {run : Run}
    (hrun : run ∈ w.divide boundary rowGroups) {r : RowGroup} (hr : r ∈ run.members) :
    run.first.startOffset ≤ r.startOffset := by
  rw [← w.flatMap_members_divide boundary rowGroups, List.pairwise_flatMap] at hsorted
  have hmembers := hsorted.1 run hrun
  rcases List.mem_cons.mp hr with rfl | hfollowing
  · exact Int.le_refl _
  · exact (List.pairwise_cons.mp hmembers).1 r hfollowing

/-- The hosts given for a position in some block are those of the first block that holds it. -/
theorem hostsNear_of_mem {blocks : List Block}
    (hsorted : blocks.Pairwise fun b c ↦ b.offset ≤ c.offset) {position : Int} {b : Block}
    (hb : b ∈ blocks) (hmem : position ∈ b) :
    ∃ first, blocks.find? (position ∈ ·) = some first ∧
      hostsNear blocks position = first.hosts := by
  obtain ⟨first, hfind, hlocate⟩ := locateIn_of_mem hsorted hb hmem
  exact ⟨first, hfind, hostsNear_of_locateIn hlocate⟩

/-- Whether a split names the hosts of the first block that holds its start, and takes row groups
although it holds the minimum only where they are given to the same block. -/
def Split.IsLocal (blocks : List Block) (minSize : Int) (s : Split) : Prop :=
  ∃ start, s.start = .ok start ∧
    ((∃ b ∈ blocks, start ∈ b) → ∃ b, blocks.find? (start ∈ ·) = some b ∧ s.hosts = b.hosts) ∧
    ∀ before r after, s.rowGroups = before ++ r :: after → before ≠ [] →
      minSize ≤ totalOf RowGroup.size before →
      locateIn blocks r.startOffset = locateIn blocks start ∧
        s.hosts = hostsNear blocks r.startOffset

theorem Run.isLocal_toSplit {w : SizeWindow} {blocks : List Block}
    (hblocks : blocks.Pairwise fun b c ↦ b.offset ≤ c.offset)
    (hlengths : ∀ b ∈ blocks, 0 ≤ b.length) {run : Run}
    (hfirst : ∀ r ∈ run.members, run.first.startOffset ≤ r.startOffset)
    (hadmissible : w.Admissible (boundaryIn blocks) run) (context : SplitContext) :
    (run.toSplit blocks context).IsLocal blocks w.minSize := by
  refine ⟨run.first.startOffset, rfl, ?_, ?_⟩
  · rintro ⟨b, hb, hmem⟩
    exact hostsNear_of_mem hblocks hb hmem
  · intro before r after hmembers hne hmin
    rw [Run.rowGroups_toSplit] at hmembers
    have hcontinues := hadmissible before r after hmembers hne
    have hr : r ∈ run.members := by
      rw [hmembers]
      exact List.mem_append_right before List.mem_cons_self
    have hlocate := locateIn_eq_of_lt_boundary hlengths (hfirst r hr) (hcontinues.lt_of_mem hmin)
    refine ⟨hlocate, ?_⟩
    rw [Run.hosts_toSplit, hostsNear, hostsNear, hlocate]

/-- **Splits are near their data.** If row groups and blocks are in ascending order and no block
has a negative length, every split of a plan is local. -/
theorem planRowGroups_isLocal (w : SizeWindow) (rowGroups : List RowGroup) (blocks : List Block)
    (context : SplitContext)
    (hrowGroups : rowGroups.Pairwise fun r s ↦ r.startOffset ≤ s.startOffset)
    (hblocks : blocks.Pairwise fun b c ↦ b.offset ≤ c.offset)
    (hlengths : ∀ b ∈ blocks, 0 ≤ b.length) :
    ∃ splits,
      (planRowGroups rowGroups blocks context w.minSize w.maxSize).outcome = .ok splits ∧
      ∀ s ∈ splits, s.IsLocal blocks w.minSize := by
  refine ⟨w.statelessSplits rowGroups blocks context, planRowGroups_outcome .., ?_⟩
  intro s hs
  obtain ⟨run, hrun, rfl⟩ := SizeWindow.exists_run_of_mem_statelessSplits hs
  exact Run.isLocal_toSplit hblocks hlengths
    (fun r ↦ SizeWindow.first_startOffset_le hrowGroups hrun)
    (SizeWindow.admissible_of_mem_divide hrun) context

/-- Two blocks that overlap, a gap and a third block; row groups that lie across the edges. -/
theorem planRowGroups_isLocal_overlapping :
    let rowGroups := [RowGroup.ofExtent 10 60 1, RowGroup.ofExtent 70 40 1,
      RowGroup.ofExtent 90 70 1, RowGroup.ofExtent 160 20 1, RowGroup.ofExtent 199 5 1]
    let blocks : List Block := [⟨0, 100, ["a"], []⟩, ⟨80, 70, ["b"], []⟩, ⟨200, 100, ["c"], []⟩]
    let context : SplitContext := ⟨"", ∅, none, ∅⟩
    rowGroups.Pairwise (fun r s ↦ r.startOffset ≤ s.startOffset) ∧
      blocks.Pairwise (fun b c ↦ b.offset ≤ c.offset) ∧
      (∀ b ∈ blocks, 0 ≤ b.length) ∧
      ∃ splits, (planRowGroups rowGroups blocks context 50 120).outcome = .ok splits ∧
        ∀ s ∈ splits, s.IsLocal blocks 50 := by
  intro rowGroups blocks context
  have hrowGroups : rowGroups.Pairwise (fun r s ↦ r.startOffset ≤ s.startOffset) := by decide
  have hblocks : blocks.Pairwise (fun b c ↦ b.offset ≤ c.offset) := by decide
  have hlengths : ∀ b ∈ blocks, 0 ≤ b.length := by decide
  exact ⟨hrowGroups, hblocks, hlengths, planRowGroups_isLocal
    ⟨50, 120, by decide, by decide⟩ rowGroups blocks context hrowGroups hblocks hlengths⟩

example :
    let rowGroups := [RowGroup.ofExtent 10 60 1, RowGroup.ofExtent 70 40 1,
      RowGroup.ofExtent 90 70 1, RowGroup.ofExtent 160 20 1]
    let blocks : List Block := [⟨0, 100, ["a"], []⟩, ⟨80, 70, ["b"], []⟩]
    let planned := (planRowGroups rowGroups blocks ⟨"", ∅, none, ∅⟩ 50 120).outcome
    planned.toOption.map (·.map fun s ↦ (s.hosts, s.rowGroups.length)) =
      some [(["a"], 3), (["b"], 1)] := by decide

end SplitPlanning
