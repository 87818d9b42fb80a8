import SplitPlanning.Proofs.Job.Planning
import SplitPlanning.Proofs.Split.Locality
import SplitPlanning.Proofs.Storage.DerivedBlocks

/-!
# Plans over derived blocks

A cursor over blocks of one size gives each position in the file to the block that its quotient by
the block size names. So no block is missed, and a split that holds the minimum takes nothing from
behind the block of its start.
-/

namespace SplitPlanning

/-- What a cursor over the blocks of a file is to answer about a position, by arithmetic alone. -/
structure BlockLayout.AnswersAt (layout : BlockLayout) (fileSize : Int) (cursor : BlockCursor)
    (position : Int) : Prop where
  /-- In the file the block of the position answers, and its end is the next boundary. -/
  inside : position < fileSize →
    ∃ index b, (layout.blocks fileSize 0 none)[index]? = some b ∧
      b.offset = position / layout.blockSize * layout.blockSize ∧
      b.stop = min ((position / layout.blockSize + 1) * layout.blockSize) fileSize ∧
      (cursor.locate position).2 = some ⟨index, b, true⟩ ∧
      Placement.events position (cursor.locate position).2 = [] ∧
      (cursor.nextBoundary position).2 = some b.stop
  /-- From the end of the file on, the last block is used in place of one that is missing. -/
  behind : 0 < fileSize → fileSize ≤ position →
    ∃ last, (layout.blocks fileSize 0 none).getLast? = some last ∧
      (cursor.locate position).2 =
        some ⟨(layout.blocks fileSize 0 none).length - 1, last, false⟩ ∧
      Placement.events position (cursor.locate position).2 = [.blockMissed position last] ∧
      (cursor.nextBoundary position).2 = none

/-- Whatever it was asked before, a cursor answers by block arithmetic. -/
theorem BlockLayout.answersAt_askAll (layout : BlockLayout) (fileSize : Int)
    (queries : List BlockCursor.Query) {position : Int} (hposition : 0 ≤ position) :
    layout.AnswersAt fileSize
      ((BlockCursor.ofBlocks (layout.blocks fileSize 0 none)).askAll queries) position where
  inside hinside := by
    refine ⟨layout.blockIndex position, layout.blockAt fileSize (layout.blockStart position),
      layout.getElem?_blockIndex hposition hinside, rfl, ?_, ?_, ?_, ?_⟩
    · rw [layout.stop_blockAt, layout.blockStart_add_blockSize]
    · rw [BlockCursor.locate_askAll, layout.locateIn_blocks hposition hinside]
    · rw [BlockCursor.locate_askAll, layout.locateIn_blocks hposition hinside]
      rfl
    · rw [BlockCursor.nextBoundary_askAll, layout.boundaryIn_blocks hposition hinside,
        layout.stop_blockAt]
  behind hfile hbehind := by
    have hlast := List.getLast?_eq_some_getLast (layout.blocks_ne_nil hfile)
    refine ⟨_, hlast, ?_, ?_, ?_⟩
    · rw [BlockCursor.locate_askAll, layout.locateIn_blocks_of_le hbehind, hlast, Option.map_some]
    · rw [BlockCursor.locate_askAll, layout.locateIn_blocks_of_le hbehind, hlast]
      rfl
    · rw [BlockCursor.nextBoundary_askAll, layout.boundaryIn_blocks_of_le hbehind]

/-! ## Runs that start in the file -/

section Runs

variable (layout : BlockLayout) {fileSize : Int} {run : Run}
  (hposition : 0 ≤ run.first.startOffset) (hinside : run.first.startOffset < fileSize)

include hposition hinside

theorem Run.events_derived : run.events (layout.blocks fileSize 0 none) = [] := by
  rw [Run.events, layout.locateIn_blocks hposition hinside]
  rfl

theorem hostsNear_derived :
    hostsNear (layout.blocks fileSize 0 none) run.first.startOffset = layout.hosts :=
  hostsNear_of_locateIn (layout.locateIn_blocks hposition hinside)

/-- What an admissible run takes although it holds the minimum starts in the block of its start. -/
theorem SizeWindow.Admissible.lt_block_stop {w : SizeWindow}
    (h : w.Admissible (boundaryIn (layout.blocks fileSize 0 none)) run)
    {before after : List RowGroup} {r : RowGroup} (hmembers : run.members = before ++ r :: after)
    (hmin : w.minSize ≤ totalOf RowGroup.size before) :
    r.startOffset < min (layout.blockStart run.first.startOffset + layout.blockSize) fileSize := by
  have hboundary := layout.boundaryIn_blocks hposition hinside
  cases before with
  | nil =>
    obtain ⟨rfl, -⟩ := List.cons.inj hmembers
    exact lt_of_mem_boundaryIn hboundary
  | cons s before =>
    have hcontinues := h (s :: before) r after hmembers (List.cons_ne_nil s before)
    exact hcontinues.lt_of_mem hmin _ hboundary

end Runs

/-! ## The plan of a footer -/

namespace JobPlanner.MadeFrom

variable {p : JobPlanner} {c : Configuration} (h : p.MadeFrom c) {storage : Storage}
  {footer : Footer} {fileSize : Int} (hsize : storage.fileSize footer.path = .ok fileSize)
  (hstarts : ∀ r ∈ footer.rowGroups, 0 ≤ r.startOffset ∧ r.startOffset < fileSize)

include h hsize hstarts

theorem severity_ne_warning_planFooter {e : Event} (he : e ∈ (p.planFooter storage footer).events) :
    e.severity ≠ .warning := by
  have hnone : (h.window.divide (boundaryIn (p.layout.blocks fileSize 0 none))
      footer.rowGroups).flatMap (Run.events (p.layout.blocks fileSize 0 none)) = [] := by
    rw [List.flatMap_eq_nil_iff]
    intro run hrun
    obtain ⟨hposition, hinside⟩ := hstarts run.first
      (SizeWindow.mem_of_mem_divide hrun List.mem_cons_self)
    exact run.events_derived p.layout hposition hinside
  rw [h.planFooter_eq hsize] at he
  simp only [SizeWindow.statelessPlan, hnone, List.nil_append, List.mem_cons, List.not_mem_nil,
    or_false] at he
  rcases he with rfl | rfl <;> simp [Event.severity]

end JobPlanner.MadeFrom

/-- **Planning over derived blocks is block arithmetic.** A cursor that was asked anything before
answers by arithmetic. So no warning is reported, and no row group that a split takes although it
holds the minimum starts at or behind the end of the block of its start. -/
theorem planFooter_over_derived_blocks :
    (∀ (layout : BlockLayout) (fileSize position : Int) (queries : List BlockCursor.Query),
      0 ≤ position →
        layout.AnswersAt fileSize
          ((BlockCursor.ofBlocks (layout.blocks fileSize 0 none)).askAll queries) position) ∧
    ∀ (c : Configuration) (p : JobPlanner) (storage : Storage) (footer : Footer) (fileSize : Int),
      JobPlanner.ofConfiguration c = .ok p → storage.fileSize footer.path = .ok fileSize →
      (∀ r ∈ footer.rowGroups, 0 ≤ r.startOffset ∧ r.startOffset < fileSize) →
        ∃ splits, (p.planFooter storage footer).outcome = .ok splits ∧
          (∀ e ∈ (p.planFooter storage footer).events, e.severity ≠ .warning) ∧
          ∀ s ∈ splits, c.blockHosts none = .ok s.hosts ∧
            ∃ start, s.start = .ok start ∧
              ∀ before r after, s.rowGroups = before ++ r :: after →
                p.filePlanner.minSize ≤ totalOf RowGroup.size before →
                r.startOffset <
                  min ((start / p.layout.blockSize + 1) * p.layout.blockSize) fileSize := by
  constructor
  · intro layout fileSize position queries hposition
    exact layout.answersAt_askAll fileSize queries hposition
  · intro c p storage footer fileSize hp hsize hstarts
    have h := JobPlanner.madeFrom_of_ofConfiguration hp
    have hplanned := h.planFooter_eq hsize
    refine ⟨_, by rw [hplanned]; rfl, fun e ↦ h.severity_ne_warning_planFooter hsize hstarts, ?_⟩
    intro s hs
    obtain ⟨run, hrun, rfl⟩ := SizeWindow.exists_run_of_mem_statelessSplits hs
    obtain ⟨hposition, hinside⟩ := hstarts run.first
      (SizeWindow.mem_of_mem_divide hrun List.mem_cons_self)
    refine ⟨?_, run.first.startOffset, rfl, ?_⟩
    · rw [h.hosts]
      congr 1
      exact (hostsNear_derived p.layout hposition hinside).symm
    · intro before r after hmembers hmin
      have hadmissible := SizeWindow.admissible_of_mem_divide hrun
      have hlt := hadmissible.lt_block_stop p.layout hposition hinside hmembers hmin
      rwa [p.layout.blockStart_add_blockSize] at hlt

/-- Row groups at the edges of blocks of ten bytes and in the shorter block at the end. -/
theorem planFooter_over_derived_blocks_edges :
    let layout : BlockLayout := ⟨10, ["a", "b"], by decide⟩
    let c : Configuration := Dictionary.ofList
      [("split.min-size", .integer 8), ("fs.block.size", .integer 10),
        ("fs.block.hosts", .text "a, b")]
    let p : JobPlanner := ⟨⟨8, ByteSize.max.bytes, "", c⟩, layout⟩
    let storage : Storage := Dictionary.ofList [("f", ⟨.file, 25, .error ⟨"OSError", "f"⟩⟩)]
    let footer : Footer := ⟨"f", [RowGroup.ofExtent 4 5 1, RowGroup.ofExtent 9 4 1,
      RowGroup.ofExtent 10 9 1, RowGroup.ofExtent 20 3 1, RowGroup.ofExtent 24 1 1], "", ∅, none⟩
    layout.AnswersAt 25 ((BlockCursor.ofBlocks (layout.blocks 25 0 none)).askAll
        [.locate 24, .nextBoundary 3, .locate 30]) 20 ∧
      JobPlanner.ofConfiguration c = .ok p ∧
      storage.fileSize footer.path = .ok 25 ∧
      (∀ r ∈ footer.rowGroups, 0 ≤ r.startOffset ∧ r.startOffset < 25) ∧
      ∃ splits, (p.planFooter storage footer).outcome = .ok splits ∧
        (∀ e ∈ (p.planFooter storage footer).events, e.severity ≠ .warning) ∧
        ∀ s ∈ splits, c.blockHosts none = .ok s.hosts ∧
          ∃ start, s.start = .ok start ∧
            ∀ before r after, s.rowGroups = before ++ r :: after →
              8 ≤ totalOf RowGroup.size before →
              r.startOffset < min ((start / 10 + 1) * 10) 25 := by
  intro layout c p storage footer
  have hp : JobPlanner.ofConfiguration c = .ok p := rfl
  have hsize : storage.fileSize footer.path = .ok 25 := rfl
  have hstarts : ∀ r ∈ footer.rowGroups, 0 ≤ r.startOffset ∧ r.startOffset < 25 := by decide
  have hanswers := planFooter_over_derived_blocks.1 layout 25 20
    [.locate 24, .nextBoundary 3, .locate 30] (by decide)
  exact ⟨hanswers, hp, hsize, hstarts,
    planFooter_over_derived_blocks.2 c p storage footer 25 hp hsize hstarts⟩

end SplitPlanning
