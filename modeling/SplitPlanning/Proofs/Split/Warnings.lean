import Mathlib.Data.List.Forall2
import SplitPlanning.Proofs.Split.StatelessPlanning
import SplitPlanning.Proofs.Storage.Location

/-!
# What planning reports

A plan looks up two things at the start of every split, and only the block may be reported as
missed. Row groups behind the first one of a split never are.
-/

namespace SplitPlanning

/-- Whether a split starts in none of the blocks, although there are some. -/
def Split.MissesBlocks (blocks : List Block) (s : Split) : Prop :=
  blocks ≠ [] ∧ ∃ start ∈ s.start.toOption, ∀ b ∈ blocks, start ∉ b

instance (blocks : List Block) (s : Split) : Decidable (s.MissesBlocks blocks) :=
  inferInstanceAs (Decidable (blocks ≠ [] ∧ ∃ start ∈ s.start.toOption, ∀ b ∈ blocks, start ∉ b))

/-- Whether the block at a place stands in for one that holds the start of a split. -/
structure Split.FallsBackTo (blocks : List Block) (s : Split) (start : Int) (i : Nat)
    (used : Block) : Prop where
  start_eq : s.start = .ok start
  notMem : ∀ b ∈ blocks, start ∉ b
  getElem?_eq : blocks[i]? = some used
  locateIn_eq : locateIn blocks start = some ⟨i, used, false⟩
  hosts_eq : s.hosts = used.hosts
  nearest : (∀ b ∈ blocks, 0 ≤ b.length) →
    IsLastBefore blocks start i used ∨ IsFirstAhead blocks start i used

/-- Whether an event tells where a split starts and which block stands in there. -/
def Split.ReportedBy (blocks : List Block) (s : Split) (e : Event) : Prop :=
  ∃ start i used, s.FallsBackTo blocks start i used ∧ e = .blockMissed start used

namespace Run

variable {blocks : List Block} {run : Run} (context : SplitContext)

theorem missesBlocks_toSplit_iff : (run.toSplit blocks context).MissesBlocks blocks ↔
    blocks ≠ [] ∧ ∀ b ∈ blocks, run.first.startOffset ∉ b := by
  simp only [Split.MissesBlocks, start_toSplit, Except.toOption, Option.mem_some_iff,
    exists_eq_left']

section Sorted

variable (hblocks : blocks.Pairwise fun b c ↦ b.offset ≤ c.offset)

include hblocks

theorem events_of_not_missesBlocks (h : ¬(run.toSplit blocks context).MissesBlocks blocks) :
    run.events blocks = [] := by
  by_cases hheld : ∃ b ∈ blocks, run.first.startOffset ∈ b
  · obtain ⟨b, hb, hmem⟩ := hheld
    obtain ⟨i, first, -, hlocate⟩ := exists_isFirstHolder hblocks hb hmem
    rw [events, hlocate]
    rfl
  · have hempty : blocks = [] := by
      apply Decidable.not_not.mp
      intro hne
      apply h
      rw [missesBlocks_toSplit_iff]
      exact ⟨hne, fun b hb hmem ↦ hheld ⟨b, hb, hmem⟩⟩
    rw [events, locateIn_eq_none_iff.mpr hempty]
    rfl

theorem events_of_missesBlocks (h : (run.toSplit blocks context).MissesBlocks blocks) :
    ∃ e, run.events blocks = [e] ∧ (run.toSplit blocks context).ReportedBy blocks e := by
  obtain ⟨hne, hnone⟩ := (missesBlocks_toSplit_iff context).mp h
  have hnot : ∀ b ∈ blocks[firstBehind blocks run.first.startOffset]?,
      run.first.startOffset ∉ b :=
    fun b hb ↦ hnone b (List.mem_of_getElem? hb)
  obtain ⟨i, used, hused, hlocate⟩ := exists_locateIn_of_notMem hne hnot
  refine ⟨.blockMissed run.first.startOffset used, ?_, run.first.startOffset, i, used, ?_, rfl⟩
  · rw [events, hlocate]
    rfl
  · exact
      { start_eq := start_toSplit blocks context run
        notMem := hnone
        getElem?_eq := hused
        locateIn_eq := hlocate
        hosts_eq := hostsNear_of_locateIn hlocate
        nearest := fun hlengths ↦
          isLastBefore_or_isFirstAhead_of_locateIn hblocks hlengths hne hnone hlocate }

/-- Run by run, those that miss the blocks are reported and no others. -/
theorem forall₂_reportedBy_events (runs : List Run) :
    List.Forall₂ (Split.ReportedBy blocks)
      ((runs.map (toSplit blocks context)).filter (·.MissesBlocks blocks))
      (runs.flatMap (events blocks)) := by
  induction runs with
  | nil => exact List.Forall₂.nil
  | cons run runs ih =>
    rw [List.map_cons, List.flatMap_cons]
    by_cases hmisses : (run.toSplit blocks context).MissesBlocks blocks
    · obtain ⟨e, hevents, hreported⟩ := events_of_missesBlocks context hblocks hmisses
      rw [List.filter_cons, if_pos (decide_eq_true hmisses), hevents, List.singleton_append]
      exact List.Forall₂.cons hreported ih
    · have hsilent := events_of_not_missesBlocks context hblocks hmisses
      rw [List.filter_cons, if_neg (mt of_decide_eq_true hmisses), hsilent, List.nil_append]
      exact ih

end Sorted

end Run

/-- **One warning for each split that misses the blocks.** The events of a plan are the warnings for
those splits, in their order, and behind them one event with the true numbers. -/
theorem planRowGroups_events (w : SizeWindow) (rowGroups : List RowGroup) (blocks : List Block)
    (context : SplitContext) (hblocks : blocks.Pairwise fun b c ↦ b.offset ≤ c.offset) :
    ∃ splits warnings,
      (planRowGroups rowGroups blocks context w.minSize w.maxSize).outcome = .ok splits ∧
      (planRowGroups rowGroups blocks context w.minSize w.maxSize).events = warnings ++
        [.splitsPlanned splits.length rowGroups.length blocks.length w.minSize w.maxSize] ∧
      List.Forall₂ (Split.ReportedBy blocks) (splits.filter (·.MissesBlocks blocks)) warnings ∧
      (∀ e ∈ warnings, e.severity = .warning) ∧
      (Event.splitsPlanned splits.length rowGroups.length blocks.length w.minSize
        w.maxSize).severity = .debug := by
  refine ⟨w.statelessSplits rowGroups blocks context,
    (w.divide (boundaryIn blocks) rowGroups).flatMap (Run.events blocks),
    planRowGroups_outcome .., ?_, Run.forall₂_reportedBy_events context hblocks _, ?_, rfl⟩
  · rw [planRowGroups_eq_statelessPlan]
    rfl
  · intro e he
    obtain ⟨run, -, he⟩ := List.mem_flatMap.mp he
    exact Placement.severity_of_mem_events he

/-- Splits in front of all blocks, in a gap and behind all, and a block of negative length. -/
theorem planRowGroups_events_gaps :
    let w : SizeWindow := ⟨50, 120, by decide, by decide⟩
    let rowGroups := [RowGroup.ofExtent 4 60 1, RowGroup.ofExtent 10 30 1,
      RowGroup.ofExtent 50 10 0, RowGroup.ofExtent 70 20 1, RowGroup.ofExtent 75 50 1,
      RowGroup.ofExtent 310 70 1]
    let blocks : List Block := [⟨10, 30, ["a"], []⟩, ⟨60, -20, ["b"], []⟩, ⟨80, 70, ["c"], []⟩,
      ⟨200, 100, ["d"], []⟩]
    let context : SplitContext := ⟨"", ∅, none, ∅⟩
    blocks.Pairwise (fun b c ↦ b.offset ≤ c.offset) ∧
      ∃ splits warnings,
        (planRowGroups rowGroups blocks context w.minSize w.maxSize).outcome = .ok splits ∧
        (planRowGroups rowGroups blocks context w.minSize w.maxSize).events =
          warnings ++ [.splitsPlanned splits.length 6 4 50 120] ∧
        List.Forall₂ (Split.ReportedBy blocks) (splits.filter (·.MissesBlocks blocks)) warnings ∧
        (∀ e ∈ warnings, e.severity = .warning) ∧
        (Event.splitsPlanned splits.length 6 4 50 120).severity = .debug := by
  intro w rowGroups blocks context
  have hblocks : blocks.Pairwise (fun b c ↦ b.offset ≤ c.offset) := by decide
  exact ⟨hblocks, planRowGroups_events w rowGroups blocks context hblocks⟩

example :
    let rowGroups := [RowGroup.ofExtent 4 60 1, RowGroup.ofExtent 10 30 1,
      RowGroup.ofExtent 50 10 0, RowGroup.ofExtent 70 20 1, RowGroup.ofExtent 75 50 1,
      RowGroup.ofExtent 310 70 1]
    let blocks : List Block := [⟨10, 30, ["a"], []⟩, ⟨60, -20, ["b"], []⟩, ⟨80, 70, ["c"], []⟩,
      ⟨200, 100, ["d"], []⟩]
    (planRowGroups rowGroups blocks ⟨"", ∅, none, ∅⟩ 50 120).events =
      [.blockMissed 4 ⟨10, 30, ["a"], []⟩, .blockMissed 75 ⟨60, -20, ["b"], []⟩,
        .blockMissed 310 ⟨200, 100, ["d"], []⟩, .splitsPlanned 4 6 4 50 120] := by
  decide

end SplitPlanning
