import Mathlib.Data.List.Forall2
import SplitPlanning.Proofs.Footer.Conversion
import SplitPlanning.Proofs.Split.StatelessPlanning
import SplitPlanning.Proofs.Storage.Location

/-!
# What planning looks at

Where splits end and which blocks they are near depends only on where row groups and blocks begin
and how many bytes they have. Rows, columns, hosts and all that the splits of a file have in common
may differ.
-/

namespace SplitPlanning

/-! ## Extents -/

/-- Two blocks of which only the hosts and names may differ. -/
structure Block.SameExtent (b c : Block) : Prop where
  offset_eq : b.offset = c.offset
  length_eq : b.length = c.length

/-- Two row groups of which only the rows, columns and ordinals may differ. -/
structure RowGroup.SameExtent (r s : RowGroup) : Prop where
  startOffset_eq : r.startOffset = s.startOffset
  size_eq : r.size = s.size

namespace Block.SameExtent

variable {b c : Block}

theorem stop_eq (h : b.SameExtent c) : b.stop = c.stop := by
  rw [stop, stop, h.offset_eq, h.length_eq]

theorem mem_iff (h : b.SameExtent c) {position : Int} : position ∈ b ↔ position ∈ c := by
  rw [Block.mem_iff, Block.mem_iff, h.offset_eq, h.stop_eq]

end Block.SameExtent

/-! ## Answers about blocks of the same extents -/

section Blocks

variable {blocks blocks' : List Block} (h : List.Forall₂ Block.SameExtent blocks blocks')

include h

theorem firstBehind_eq_of_sameExtent (position : Int) :
    firstBehind blocks position = firstBehind blocks' position := by
  unfold firstBehind
  induction h with
  | nil => rfl
  | cons hfirst _ ih => rw [List.findIdx_cons, List.findIdx_cons, hfirst.stop_eq, ih]

theorem rel_getElem?_of_sameExtent (i : Nat) :
    Option.Rel Block.SameExtent blocks[i]? blocks'[i]? := by
  induction h generalizing i with
  | nil => exact .none
  | cons hfirst _ ih =>
    cases i with
    | zero => exact .some hfirst
    | succ i => exact ih i

theorem boundaryIn_eq_of_sameExtent : boundaryIn blocks = boundaryIn blocks' := by
  funext position
  have hfound := rel_getElem?_of_sameExtent h (firstBehind blocks position)
  rw [boundaryIn_eq, boundaryIn_eq, ← firstBehind_eq_of_sameExtent h position]
  generalize blocks[firstBehind blocks position]? = found at hfound ⊢
  generalize blocks'[firstBehind blocks position]? = found' at hfound ⊢
  cases hfound with
  | none => rfl
  | some hextent =>
    simp only [Option.map_some, hextent.mem_iff, hextent.stop_eq, hextent.offset_eq]

/-- The blocks given for a position stand at one place. -/
theorem rel_locateIn_of_sameExtent (position : Int) :
    Option.Rel (fun p q ↦ p.index = q.index) (locateIn blocks position)
      (locateIn blocks' position) := by
  have hfound := rel_getElem?_of_sameExtent h (firstBehind blocks position)
  have hnear := rel_getElem?_of_sameExtent h (firstBehind blocks position - 1)
  rw [locateIn_eq, locateIn_eq, ← firstBehind_eq_of_sameExtent h position]
  unfold BlockCursor.placement?
  generalize blocks[firstBehind blocks position - 1]? = near at hnear ⊢
  generalize blocks'[firstBehind blocks position - 1]? = near' at hnear ⊢
  have hfallback : Option.Rel (fun p q : Placement ↦ p.index = q.index)
      (near.map (⟨firstBehind blocks position - 1, ·, false⟩))
      (near'.map (⟨firstBehind blocks position - 1, ·, false⟩)) := by
    cases hnear with
    | none => exact .none
    | some _ => exact .some rfl
  generalize blocks[firstBehind blocks position]? = found at hfound ⊢
  generalize blocks'[firstBehind blocks position]? = found' at hfound ⊢
  cases hfound with
  | none => exact hfallback
  | some hextent =>
    simp only [hextent.mem_iff]
    split
    · exact .some rfl
    · exact hfallback

end Blocks

/-! ## Runs of row groups of the same extents -/

/-- Two runs whose row groups have the same extents, one by one. -/
structure Run.SameExtents (run run' : Run) : Prop where
  first : run.first.SameExtent run'.first
  following : List.Forall₂ RowGroup.SameExtent run.following run'.following

namespace Run.SameExtents

variable {run run' : Run}

theorem members (h : run.SameExtents run') :
    List.Forall₂ RowGroup.SameExtent run.members run'.members :=
  List.Forall₂.cons h.first h.following

theorem size_eq (h : run.SameExtents run') : run.size = run'.size := by
  apply totalOf_eq_of_forall₂
  exact h.members.flip.imp fun _ _ hextent ↦ hextent.size_eq

end Run.SameExtents

namespace SizeWindow

variable {w : SizeWindow}

theorem continues_iff_of_sameExtent {r s : RowGroup} (h : r.SameExtent s)
    (boundary : Option Int) (size : Int) :
    w.Continues boundary size r ↔ w.Continues boundary size s := by
  unfold Continues
  rw [h.startOffset_eq]

theorem taken_of_sameExtent {rest rest' : List RowGroup}
    (h : List.Forall₂ RowGroup.SameExtent rest rest') (boundary : Option Int) (size : Int) :
    List.Forall₂ RowGroup.SameExtent (w.taken boundary size rest)
      (w.taken boundary size rest') := by
  induction h generalizing size with
  | nil => exact .nil
  | @cons r s rest rest' hfirst _ ih =>
    by_cases hcontinues : w.Continues boundary size r
    · have hcontinues' := (continues_iff_of_sameExtent hfirst boundary size).mp hcontinues
      rw [taken_of_continues hcontinues, taken_of_continues hcontinues', hfirst.size_eq]
      exact .cons hfirst (ih _)
    · have hcontinues' := mt (continues_iff_of_sameExtent hfirst boundary size).mpr hcontinues
      rw [taken_of_not_continues hcontinues, taken_of_not_continues hcontinues']
      exact .nil

theorem left_of_sameExtent {rest rest' : List RowGroup}
    (h : List.Forall₂ RowGroup.SameExtent rest rest') (boundary : Option Int) (size : Int) :
    List.Forall₂ RowGroup.SameExtent (w.left boundary size rest) (w.left boundary size rest') := by
  rw [left, left, (taken_of_sameExtent h boundary size).length_eq]
  exact List.forall₂_drop _ h

theorem divide_of_sameExtent {rowGroups rowGroups' : List RowGroup}
    (h : List.Forall₂ RowGroup.SameExtent rowGroups rowGroups') (boundary : Int → Option Int) :
    List.Forall₂ Run.SameExtents (w.divide boundary rowGroups) (w.divide boundary rowGroups') := by
  induction rowGroups using divide.induct w boundary generalizing rowGroups' with
  | case1 =>
    obtain rfl := List.forall₂_nil_left_iff.mp h
    rw [divide_nil]
    exact .nil
  | case2 first rest ih =>
    obtain ⟨first', rest', hfirst, hrest, rfl⟩ := List.forall₂_cons_left_iff.mp h
    rw [divide_cons, divide_cons, ← hfirst.startOffset_eq, ← hfirst.size_eq]
    exact .cons ⟨hfirst, taken_of_sameExtent hrest _ _⟩ (ih (left_of_sameExtent hrest _ _))

end SizeWindow

/-! ## Splits -/

/-- A split names the hosts of the block at a place, which is the one given for its start. -/
def Split.NamesBlock (blocks : List Block) (s : Split) (i : Nat) : Prop :=
  ∃ start b inside, s.start = .ok start ∧ locateIn blocks start = some ⟨i, b, inside⟩ ∧
    blocks[i]? = some b ∧ s.hosts = b.hosts

/-- Equal in what is counted, and near the blocks at one place of both lists if there are any. -/
structure Split.Parallels (blocks blocks' : List Block) (s s' : Split) : Prop where
  count_eq : s.rowGroups.length = s'.rowGroups.length
  size_eq : s.size = s'.size
  hosts : (∃ i, s.NamesBlock blocks i ∧ s'.NamesBlock blocks' i) ∨
    blocks = [] ∧ blocks' = [] ∧ s.hosts = [] ∧ s'.hosts = []

theorem Run.namesBlock_toSplit {blocks : List Block} {run : Run} {placement : Placement}
    (h : locateIn blocks run.first.startOffset = some placement) (context : SplitContext) :
    (run.toSplit blocks context).NamesBlock blocks placement.index :=
  ⟨run.first.startOffset, placement.block, placement.inside, start_toSplit blocks context run, h,
    getElem?_of_locateIn h, hostsNear_of_locateIn h⟩

theorem Run.SameExtents.parallels_toSplit {run run' : Run} (h : run.SameExtents run')
    {blocks blocks' : List Block} (hblocks : List.Forall₂ Block.SameExtent blocks blocks')
    (context context' : SplitContext) :
    (run.toSplit blocks context).Parallels blocks blocks' (run'.toSplit blocks' context') where
  count_eq := h.members.length_eq
  size_eq := h.size_eq
  hosts := by
    have hplaces := rel_locateIn_of_sameExtent hblocks run.first.startOffset
    generalize hlocate : locateIn blocks run.first.startOffset = given at hplaces
    generalize hlocate' : locateIn blocks' run.first.startOffset = given' at hplaces
    cases hplaces with
    | none =>
      obtain rfl := locateIn_eq_none_iff.mp hlocate
      obtain rfl := List.forall₂_nil_left_iff.mp hblocks
      exact Or.inr ⟨rfl, rfl, rfl, rfl⟩
    | some hindex =>
      rw [h.first.startOffset_eq] at hlocate'
      refine Or.inl ⟨_, namesBlock_toSplit hlocate context, ?_⟩
      rw [hindex]
      exact namesBlock_toSplit hlocate' context'

/-- **Planning looks at extents only.** Over row groups and blocks of the same extents two plans
have equally many splits, which take equally many row groups of equal size and name the hosts of the
blocks at one place of the two lists. -/
theorem planRowGroups_of_sameExtent (w : SizeWindow) {rowGroups rowGroups' : List RowGroup}
    (hrowGroups : List.Forall₂ RowGroup.SameExtent rowGroups rowGroups')
    {blocks blocks' : List Block} (hblocks : List.Forall₂ Block.SameExtent blocks blocks')
    (context context' : SplitContext) :
    ∃ splits splits',
      (planRowGroups rowGroups blocks context w.minSize w.maxSize).outcome = .ok splits ∧
      (planRowGroups rowGroups' blocks' context' w.minSize w.maxSize).outcome = .ok splits' ∧
      splits.length = splits'.length ∧
      List.Forall₂ (Split.Parallels blocks blocks') splits splits' := by
  have hruns := SizeWindow.divide_of_sameExtent (w := w) hrowGroups (boundaryIn blocks)
  have hsplits : List.Forall₂ (Split.Parallels blocks blocks')
      (w.statelessSplits rowGroups blocks context)
      (w.statelessSplits rowGroups' blocks' context') := by
    rw [SizeWindow.statelessSplits, SizeWindow.statelessSplits,
      ← boundaryIn_eq_of_sameExtent hblocks, List.forall₂_map_left_iff,
      List.forall₂_map_right_iff]
    exact hruns.imp fun _ _ hrun ↦ hrun.parallels_toSplit hblocks context context'
  exact ⟨_, _, planRowGroups_outcome .., planRowGroups_outcome .., hsplits.length_eq, hsplits⟩

/-- Row groups out of order, and blocks that overlap and have other hosts in the second list. -/
theorem planRowGroups_of_sameExtent_other_hosts :
    let w : SizeWindow := ⟨50, 120, by decide, by decide⟩
    let column : ColumnChunk := ⟨"x", "SNAPPY", 4, 70, 90, 9, ["PLAIN"]⟩
    let rowGroups := [RowGroup.ofExtent 4 60 1, RowGroup.ofExtent 70 40 1,
      RowGroup.ofExtent 45 20 1, RowGroup.ofExtent 310 (-5) 0]
    let rowGroups' : List RowGroup := [⟨4, 60, 9, [column], some 0⟩, ⟨70, 40, 0, [], some 7⟩,
      ⟨45, 20, -1, [column, column], none⟩, ⟨310, -5, 8, [], some 1⟩]
    let blocks : List Block := [⟨10, 50, ["a"], []⟩, ⟨40, 60, ["b"], ["n"]⟩, ⟨200, 0, [], []⟩]
    let blocks' : List Block := [⟨10, 50, [], ["m"]⟩, ⟨40, 60, ["b", "c"], []⟩, ⟨200, 0, ["a"], []⟩]
    let context : SplitContext := ⟨"", ∅, none, ∅⟩
    let context' : SplitContext := ⟨"message m", Dictionary.ofList [("k", .text "v")], some "p", ∅⟩
    List.Forall₂ RowGroup.SameExtent rowGroups rowGroups' ∧
      List.Forall₂ Block.SameExtent blocks blocks' ∧
      ∃ splits splits',
        (planRowGroups rowGroups blocks context w.minSize w.maxSize).outcome = .ok splits ∧
        (planRowGroups rowGroups' blocks' context' w.minSize w.maxSize).outcome = .ok splits' ∧
        splits.length = splits'.length ∧
        List.Forall₂ (Split.Parallels blocks blocks') splits splits' := by
  intro w column rowGroups rowGroups' blocks blocks' context context'
  have hrowGroups : List.Forall₂ RowGroup.SameExtent rowGroups rowGroups' :=
    .cons ⟨rfl, rfl⟩ (.cons ⟨rfl, rfl⟩ (.cons ⟨rfl, rfl⟩ (.cons ⟨rfl, rfl⟩ .nil)))
  have hblocks : List.Forall₂ Block.SameExtent blocks blocks' :=
    .cons ⟨rfl, rfl⟩ (.cons ⟨rfl, rfl⟩ (.cons ⟨rfl, rfl⟩ .nil))
  exact ⟨hrowGroups, hblocks, planRowGroups_of_sameExtent w hrowGroups hblocks context context'⟩

end SplitPlanning
