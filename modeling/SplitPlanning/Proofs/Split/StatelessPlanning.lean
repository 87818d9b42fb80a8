import SplitPlanning.Proofs.Split.Division
import SplitPlanning.Proofs.Storage.CursorHistory
import SplitPlanning.Split.Planner

/-!
# Planning without a cursor

The plan of a file, said without the cursor that its splits share: every run asks afresh for the
block of its start and for the boundary behind it. The scan with one cursor returns the same splits
and reports the same events.
-/

namespace SplitPlanning

/-- The hosts of the block given for a position to who asks only once. -/
def hostsNear (blocks : List Block) (position : Int) : List String :=
  (((locateIn blocks position).map Placement.block).map Block.hosts).getD []

theorem hostsNear_of_locateIn {blocks : List Block} {position : Int} {placement : Placement}
    (h : locateIn blocks position = some placement) :
    hostsNear blocks position = placement.block.hosts := by
  rw [hostsNear, h]
  rfl

namespace Run

def toSplit (blocks : List Block) (context : SplitContext) (run : Run) : Split where
  rowGroups := run.members
  size := run.size
  rowCount := totalOf RowGroup.rowCount run.members
  hosts := hostsNear blocks run.first.startOffset
  context := context

@[simp] theorem rowGroups_toSplit (blocks : List Block) (context : SplitContext) (run : Run) :
    (run.toSplit blocks context).rowGroups = run.members := rfl

@[simp] theorem hosts_toSplit (blocks : List Block) (context : SplitContext) (run : Run) :
    (run.toSplit blocks context).hosts = hostsNear blocks run.first.startOffset := rfl

@[simp] theorem start_toSplit (blocks : List Block) (context : SplitContext) (run : Run) :
    (run.toSplit blocks context).start = .ok run.first.startOffset := rfl

def events (blocks : List Block) (run : Run) : List Event :=
  Placement.events run.first.startOffset (locateIn blocks run.first.startOffset)

end Run

/-- What is reported about a block is a warning. -/
theorem Placement.severity_of_mem_events {position : Int} {placement : Option Placement}
    {e : Event} (he : e ∈ Placement.events position placement) : e.severity = .warning := by
  rcases placement with _ | ⟨index, block, _ | _⟩
  · contradiction
  · obtain rfl := List.mem_singleton.mp he
    rfl
  · contradiction

namespace SizeWindow

/-- The splits of a file, each from answers of a fresh cursor about its own start. -/
def statelessSplits (w : SizeWindow) (rowGroups : List RowGroup) (blocks : List Block)
    (context : SplitContext) : List Split :=
  (w.divide (boundaryIn blocks) rowGroups).map (Run.toSplit blocks context)

/-- The splits of a file with the blocks that each missed and, behind all, the totals. -/
def statelessPlan {ε : Type} (w : SizeWindow) (rowGroups : List RowGroup) (blocks : List Block)
    (context : SplitContext) : Journal ε (List Split) :=
  let splits := w.statelessSplits rowGroups blocks context
  ⟨(w.divide (boundaryIn blocks) rowGroups).flatMap (Run.events blocks) ++
      [.splitsPlanned splits.length rowGroups.length blocks.length w.minSize w.maxSize],
    .ok splits⟩

theorem exists_run_of_mem_statelessSplits {w : SizeWindow} {rowGroups : List RowGroup}
    {blocks : List Block} {context : SplitContext} {s : Split}
    (h : s ∈ w.statelessSplits rowGroups blocks context) :
    ∃ run ∈ w.divide (boundaryIn blocks) rowGroups, run.toSplit blocks context = s :=
  List.mem_map.mp h

theorem map_rowGroups_statelessSplits (w : SizeWindow) (rowGroups : List RowGroup)
    (blocks : List Block) (context : SplitContext) :
    (w.statelessSplits rowGroups blocks context).map Split.rowGroups =
      (w.divide (boundaryIn blocks) rowGroups).map Run.members := by
  rw [statelessSplits, List.map_map]
  rfl

theorem flatMap_take_statelessSplits (w : SizeWindow) (rowGroups : List RowGroup)
    (blocks : List Block) (context : SplitContext) (i : Nat) :
    ((w.statelessSplits rowGroups blocks context).take i).flatMap Split.rowGroups =
      ((w.divide (boundaryIn blocks) rowGroups).take i).flatMap Run.members := by
  rw [statelessSplits, ← List.map_take, List.flatMap_map]
  rfl

end SizeWindow

/-! ## Open splits -/

namespace OpenSplit

def addAll (s : OpenSplit) (rowGroups : List RowGroup) : OpenSplit :=
  rowGroups.foldl add s

@[simp] theorem addAll_nil (s : OpenSplit) : s.addAll [] = s := rfl

@[simp] theorem addAll_cons (s : OpenSplit) (r : RowGroup) (rest : List RowGroup) :
    s.addAll (r :: rest) = (s.add r).addAll rest := rfl

@[simp] theorem members_addAll (s : OpenSplit) (rowGroups : List RowGroup) :
    (s.addAll rowGroups).members = s.members ++ rowGroups := by
  induction rowGroups generalizing s with
  | nil => rw [addAll_nil, List.append_nil]
  | cons r rest ih => rw [addAll_cons, ih, members_add, List.append_assoc, List.singleton_append]

@[simp] theorem block_addAll (s : OpenSplit) (rowGroups : List RowGroup) :
    (s.addAll rowGroups).block = s.block := by
  induction rowGroups generalizing s with
  | nil => rfl
  | cons r rest ih => rw [addAll_cons, ih, block_add]

theorem takes_eq_true_iff {s : OpenSplit} (hne : s.members ≠ []) (w : SizeWindow) (r : RowGroup) :
    s.takes w r = true ↔ w.Continues s.boundary s.size r := by
  have hfull : s.isEmpty = false := List.isEmpty_eq_false_iff.mpr hne
  have hcrosses : s.crossesBoundary r = true ↔ ∃ bound ∈ s.boundary, bound ≤ r.startOffset := by
    unfold crossesBoundary
    cases s.boundary <;> simp
  unfold takes closesBefore SizeWindow.Continues
  rw [hfull, Bool.and_eq_true, Bool.not_eq_true', ← Bool.not_eq_true, Bool.and_eq_true,
    Bool.and_eq_true, hcrosses]
  simp only [Bool.not_false, true_and, decide_eq_true_eq]

end OpenSplit

/-- The split opened at a row group, with the answers of a fresh cursor. -/
def openedAt (blocks : List Block) (r : RowGroup) : OpenSplit :=
  (OpenSplit.new ((locateIn blocks r.startOffset).map Placement.block)
    (boundaryIn blocks r.startOffset)).add r

@[simp] theorem boundary_openedAt (blocks : List Block) (r : RowGroup) :
    (openedAt blocks r).boundary = boundaryIn blocks r.startOffset := rfl

@[simp] theorem size_openedAt (blocks : List Block) (r : RowGroup) :
    (openedAt blocks r).size = r.size :=
  Int.zero_add _

theorem Run.toSplit_eq_close (blocks : List Block) (context : SplitContext) (run : Run) :
    run.toSplit blocks context =
      ((openedAt blocks run.first).addAll run.following).close context := by
  have hsize := ((openedAt blocks run.first).addAll run.following).size_eq
  unfold OpenSplit.close
  rw [hsize, OpenSplit.members_addAll, OpenSplit.block_addAll]
  rfl

/-! ## The scan -/

namespace BlockCursor

variable {cursor : BlockCursor}

/-- The second question at one position is answered as if it were the first. -/
theorem Settled.openSplit_split (h : cursor.Settled) (r : RowGroup) :
    (cursor.openSplit r).split = openedAt cursor.blocks r := by
  have hlocated : (cursor.locate r.startOffset).2 = locateIn cursor.blocks r.startOffset := by
    rw [h.locate_eq]
    rfl
  have hbounded : ((cursor.locate r.startOffset).1.nextBoundary r.startOffset).2 =
      boundaryIn cursor.blocks r.startOffset := by
    have hsettled : (cursor.locate r.startOffset).1.Settled := h.advance r.startOffset
    rw [hsettled.nextBoundary_eq]
    rfl
  simp only [openSplit, openedAt, hlocated, hbounded]

theorem Settled.openSplit_events (h : cursor.Settled) (r : RowGroup) :
    (cursor.openSplit r).events =
      Placement.events r.startOffset (locateIn cursor.blocks r.startOffset) := by
  unfold openSplit
  rw [h.locate_eq]
  rfl

theorem Settled.openSplit_cursor (h : cursor.Settled) (r : RowGroup) :
    (cursor.openSplit r).cursor.Settled :=
  (h.advance r.startOffset).advance r.startOffset

@[simp] theorem blocks_openSplit (cursor : BlockCursor) (r : RowGroup) :
    (cursor.openSplit r).cursor.blocks = cursor.blocks := rfl

end BlockCursor

namespace Packing

variable {w : SizeWindow} {cursor : BlockCursor} {current : OpenSplit}

/-- The packing of runs, each with answers of its own. -/
def ofRuns (blocks : List Block) (runs : List Run) : Packing where
  splits := runs.map fun run ↦ (openedAt blocks run.first).addAll run.following
  events := runs.flatMap (Run.events blocks)

/-- Packs a row group that opens a split and the row groups behind it. -/
def opened (w : SizeWindow) (cursor : BlockCursor) (r : RowGroup) (rest : List RowGroup) :
    Packing :=
  let opening := cursor.openSplit r
  let later := continued w opening.cursor opening.split rest
  ⟨later.splits, opening.events ++ later.events⟩

theorem continued_of_takes {r : RowGroup} (h : current.takes w r = true) (rest : List RowGroup) :
    continued w cursor current (r :: rest) = continued w cursor (current.add r) rest :=
  if_pos h

theorem continued_of_not_takes {r : RowGroup} (h : ¬current.takes w r = true)
    (rest : List RowGroup) :
    continued w cursor current (r :: rest) =
      ⟨current :: (opened w cursor r rest).splits, (opened w cursor r rest).events⟩ :=
  if_neg h

/-- From every settled cursor on, the open split takes what it goes on with of these row groups,
and those left are packed as the runs that they are divided into. -/
def PackedAsRuns (w : SizeWindow) (rest : List RowGroup) : Prop :=
  ∀ (cursor : BlockCursor) (current : OpenSplit), cursor.Settled → current.members ≠ [] →
    continued w cursor current rest =
      let later := ofRuns cursor.blocks (w.divide (boundaryIn cursor.blocks)
        (w.left current.boundary current.size rest))
      ⟨current.addAll (w.taken current.boundary current.size rest) :: later.splits, later.events⟩

theorem PackedAsRuns.opened_eq {rest : List RowGroup} (h : PackedAsRuns w rest)
    (hsettled : cursor.Settled) (r : RowGroup) :
    opened w cursor r rest =
      ofRuns cursor.blocks (w.divide (boundaryIn cursor.blocks) (r :: rest)) := by
  have hmembers : (openedAt cursor.blocks r).members ≠ [] := List.cons_ne_nil _ _
  have hlater := h _ _ (hsettled.openSplit_cursor r) hmembers
  rw [size_openedAt, boundary_openedAt, BlockCursor.blocks_openSplit] at hlater
  rw [SizeWindow.divide_cons, opened]
  simp only [hsettled.openSplit_split, hsettled.openSplit_events, hlater]
  rfl

/-- The cursor is settled again when the next split is opened, so nothing that it was asked
before counts. -/
theorem packedAsRuns (w : SizeWindow) (rest : List RowGroup) : PackedAsRuns w rest := by
  induction rest with
  | nil =>
    intro cursor current _ _
    change _ = (⟨_ :: List.map _ (w.divide _ []), List.flatMap _ (w.divide _ [])⟩ : Packing)
    rw [SizeWindow.divide_nil]
    rfl
  | cons r rest ih =>
    intro cursor current hsettled hne
    by_cases hcontinues : w.Continues current.boundary current.size r
    · have htakes := (OpenSplit.takes_eq_true_iff hne w r).mpr hcontinues
      have hmembers : (current.add r).members ≠ [] := by simp
      rw [continued_of_takes htakes, ih _ _ hsettled hmembers,
        SizeWindow.taken_of_continues hcontinues, SizeWindow.left_of_continues hcontinues]
      rfl
    · have hcloses : ¬current.takes w r = true :=
        fun htakes ↦ hcontinues ((OpenSplit.takes_eq_true_iff hne w r).mp htakes)
      rw [continued_of_not_takes hcloses, ih.opened_eq hsettled,
        SizeWindow.taken_of_not_continues hcontinues, SizeWindow.left_of_not_continues hcontinues]
      rfl

/-- Scanning a file packs the runs that its row groups are divided into. -/
theorem ofRowGroups_eq_ofRuns (w : SizeWindow) (blocks : List Block) (rowGroups : List RowGroup) :
    ofRowGroups w blocks rowGroups = ofRuns blocks (w.divide (boundaryIn blocks) rowGroups) := by
  cases rowGroups with
  | nil =>
    rw [SizeWindow.divide_nil]
    rfl
  | cons r rest =>
    exact (packedAsRuns w rest).opened_eq (BlockCursor.settled_ofBlocks blocks) r

end Packing

/-! ## The plan -/

theorem planRowGroups_bounds (w : SizeWindow) (rowGroups : List RowGroup) (blocks : List Block)
    (context : SplitContext) :
    planRowGroups rowGroups blocks context w.minSize w.maxSize =
      w.plan rowGroups blocks context := by
  unfold planRowGroups
  rw [SizeWindow.make_bounds, Journal.bind_of_ok (j := Journal.ofExcept (.ok w)) rfl]
  rfl

theorem planRowGroups_eq_statelessPlan (w : SizeWindow) (rowGroups : List RowGroup)
    (blocks : List Block) (context : SplitContext) :
    planRowGroups rowGroups blocks context w.minSize w.maxSize =
      w.statelessPlan rowGroups blocks context := by
  have hclosed : ((Packing.ofRuns blocks (w.divide (boundaryIn blocks) rowGroups)).splits.map
      (·.close context)) = w.statelessSplits rowGroups blocks context := by
    unfold Packing.ofRuns SizeWindow.statelessSplits
    rw [List.map_map]
    apply List.map_congr_left
    intro run _
    exact (run.toSplit_eq_close blocks context).symm
  rw [planRowGroups_bounds, SizeWindow.plan, Packing.ofRowGroups_eq_ofRuns]
  rw [SizeWindow.statelessPlan, ← hclosed, List.length_map]
  rfl

theorem planRowGroups_outcome (w : SizeWindow) (rowGroups : List RowGroup) (blocks : List Block)
    (context : SplitContext) :
    (planRowGroups rowGroups blocks context w.minSize w.maxSize).outcome =
      .ok (w.statelessSplits rowGroups blocks context) := by
  rw [planRowGroups_eq_statelessPlan]
  rfl

/-- **Planning keeps no state.** A plan is the one made without a cursor, splits and reports, and
the splits from any one on are the plan of the row groups from its first one on. -/
theorem planRowGroups_stateless (w : SizeWindow) (rowGroups : List RowGroup)
    (blocks : List Block) (context : SplitContext) :
    planRowGroups rowGroups blocks context w.minSize w.maxSize =
        w.statelessPlan rowGroups blocks context ∧
      ∀ i, (planRowGroups
          (rowGroups.drop
            (((w.statelessSplits rowGroups blocks context).take i).flatMap Split.rowGroups).length)
          blocks context w.minSize w.maxSize).outcome =
        .ok ((w.statelessSplits rowGroups blocks context).drop i) := by
  refine ⟨planRowGroups_eq_statelessPlan w rowGroups blocks context, ?_⟩
  intro i
  rw [planRowGroups_outcome, SizeWindow.flatMap_take_statelessSplits]
  congr 1
  rw [SizeWindow.statelessSplits, SizeWindow.divide_drop, List.map_drop]
  rfl

end SplitPlanning
