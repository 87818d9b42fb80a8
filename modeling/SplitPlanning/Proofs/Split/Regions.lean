import Mathlib.Data.List.SplitBy
import SplitPlanning.Proofs.Split.Locality
import SplitPlanning.Proofs.Storage.Boundaries

/-!
# One split for each storage region

In a window that asks for no minimum and is wider than the file, only boundaries close splits. Along
a split the boundary stays, and the next split starts at or behind it, where another one holds.
-/

namespace SplitPlanning

/-! ## Places in parts -/

section Parts

variable {α : Type}

/-- The number of the part that holds the member at a place, for parts laid end to end. -/
def partAt : List (List α) → Nat → Nat
  | [], _ => 0
  | part :: rest, i => if i < part.length then 0 else partAt rest (i - part.length) + 1

theorem partAt_of_lt {part : List α} {i : Nat} (h : i < part.length) (rest : List (List α)) :
    partAt (part :: rest) i = 0 :=
  if_pos h

theorem partAt_of_le {part : List α} {i : Nat} (h : part.length ≤ i) (rest : List (List α)) :
    partAt (part :: rest) i = partAt rest (i - part.length) + 1 :=
  if_neg (Nat.not_lt.mpr h)

/-- If the related neighbours are those inside parts, they are the ones that share a part. -/
theorem partAt_eq_succ_iff {related : α → α → Bool} {parts : List (List α)} (hne : [] ∉ parts)
    (hinside : ∀ part ∈ parts, part.IsChain fun x y ↦ related x y)
    (hacross : parts.IsChain fun p q ↦ ∃ hp hq, related (p.getLast hp) (q.head hq) = false)
    {i : Nat} {x y : α} (hx : parts.flatten[i]? = some x) (hy : parts.flatten[i + 1]? = some y) :
    partAt parts i = partAt parts (i + 1) ↔ related x y = true := by
  induction parts generalizing i with
  | nil => simp at hx
  | cons part rest ih =>
    rw [List.flatten_cons] at hx hy
    rcases Nat.lt_trichotomy (i + 1) part.length with hlt | hlast | hbehind
    · -- both members are in the first part
      rw [partAt_of_lt hlt, partAt_of_lt (Nat.lt_of_succ_lt hlt)]
      rw [List.getElem?_append_left (by omega), List.getElem?_eq_some_iff] at hx hy
      obtain ⟨-, rfl⟩ := hx
      obtain ⟨-, rfl⟩ := hy
      have hchain := List.isChain_iff_getElem.mp (hinside part List.mem_cons_self) i hlt
      exact iff_of_true rfl hchain
    · -- the first part ends between the two members
      rw [partAt_of_lt (by omega), partAt_of_le (by omega)]
      rw [List.getElem?_append_left (by omega)] at hx
      rw [List.getElem?_append_right (by omega), hlast, Nat.sub_self] at hy
      cases rest with
      | nil => simp at hy
      | cons next rest =>
        obtain ⟨hpart, hnext, hunrelated⟩ := (List.isChain_cons.mp hacross).1 next rfl
        have hlastmember : part.getLast hpart = x := by
          have hend : part.length - 1 = i := by omega
          rw [List.getLast_eq_getElem, ← Option.some_inj, ← hx, ← List.getElem?_eq_getElem, hend]
        have hfirstmember : next.head hnext = y := by
          rw [List.flatten_cons, List.getElem?_append_left (List.length_pos_of_ne_nil hnext)] at hy
          rw [← Option.some_inj, ← hy, ← List.head?_eq_getElem?, List.head?_eq_some_head]
        rw [hlastmember, hfirstmember] at hunrelated
        simp [hunrelated]
    · -- both members are behind the first part
      rw [partAt_of_le (by omega), partAt_of_le (by omega), Nat.add_right_cancel_iff,
        Nat.sub_add_comm (by omega)]
      rw [List.getElem?_append_right (by omega)] at hx hy
      rw [Nat.sub_add_comm (by omega)] at hy
      exact ih (fun h ↦ hne (List.mem_cons_of_mem part h))
        (fun p hp ↦ hinside p (List.mem_cons_of_mem part hp))
        (List.isChain_cons.mp hacross).2 hx hy

/-- Neighbours share a part of `List.splitBy` exactly if they are related. -/
theorem partAt_splitBy_eq_succ_iff (related : α → α → Bool) {l : List α} {i : Nat}
    (h : i + 1 < l.length) :
    partAt (l.splitBy related) i = partAt (l.splitBy related) (i + 1) ↔
      related l[i] l[i + 1] = true := by
  apply partAt_eq_succ_iff (List.nil_notMem_splitBy related l)
    (fun part ↦ List.isChain_of_mem_splitBy) (List.isChain_getLast_head_splitBy related l)
  · rw [List.flatten_splitBy, List.getElem?_eq_getElem]
  · rw [List.flatten_splitBy, List.getElem?_eq_getElem]

end Parts

/-! ## Windows wider than the file -/

/-- Whether the sizes of row groups never matter in a window. -/
structure SizeWindow.IsWider (w : SizeWindow) (rowGroups : List RowGroup) : Prop where
  minSize_nonpos : w.minSize ≤ 0
  size_nonneg : ∀ r ∈ rowGroups, 0 ≤ r.size
  total_lt : totalOf RowGroup.size rowGroups < w.maxSize

/-- Whether the same boundary lies behind two row groups. -/
def sameBoundary (blocks : List Block) (r s : RowGroup) : Bool :=
  boundaryIn blocks r.startOffset = boundaryIn blocks s.startOffset

theorem sameBoundary_eq_true_iff {blocks : List Block} {r s : RowGroup} :
    sameBoundary blocks r s = true ↔
      boundaryIn blocks r.startOffset = boundaryIn blocks s.startOffset :=
  decide_eq_true_iff

theorem sameBoundary_eq_false_iff {blocks : List Block} {r s : RowGroup} :
    sameBoundary blocks r s = false ↔
      boundaryIn blocks r.startOffset ≠ boundaryIn blocks s.startOffset :=
  decide_eq_false_iff_not

namespace SizeWindow

variable {w : SizeWindow} {rowGroups : List RowGroup} {blocks : List Block}

theorem IsWider.of_append {before rest : List RowGroup} (h : w.IsWider (before ++ rest)) :
    w.IsWider before ∧ w.IsWider rest := by
  have hbefore : ∀ r ∈ before, 0 ≤ r.size :=
    fun r hr ↦ h.size_nonneg r (List.mem_append_left rest hr)
  have hrest : ∀ r ∈ rest, 0 ≤ r.size :=
    fun r hr ↦ h.size_nonneg r (List.mem_append_right before hr)
  have hbeforetotal := totalOf_nonneg hbefore
  have hresttotal := totalOf_nonneg hrest
  have htotal := h.total_lt
  rw [totalOf_append] at htotal
  exact ⟨⟨h.minSize_nonpos, hbefore, by omega⟩, ⟨h.minSize_nonpos, hrest, by omega⟩⟩

/-- In such a window a split goes on up to the boundary. -/
theorem IsWider.continues_iff {before : List RowGroup} (h : w.IsWider before)
    (boundary : Option Int) (r : RowGroup) :
    w.Continues boundary (totalOf RowGroup.size before) r ↔
      ∀ bound ∈ boundary, r.startOffset < bound := by
  have hfull := Int.le_trans h.minSize_nonpos (totalOf_nonneg h.size_nonneg)
  constructor
  · exact fun hcontinues ↦ hcontinues.lt_of_mem hfull
  · intro hfront
    refine ⟨h.total_lt, ?_⟩
    rintro ⟨-, bound, hbound, hle⟩
    exact Int.not_le.mpr (hfront bound hbound) hle

section Divide

variable (hlengths : ∀ b ∈ blocks, 0 ≤ b.length)

include hlengths

/-- Along a run that only a boundary may close, the boundary stays the same. -/
theorem Admissible.boundaryIn_eq {run : Run} (h : w.Admissible (boundaryIn blocks) run)
    (hwider : w.IsWider run.members)
    (hfirst : ∀ r ∈ run.members, run.first.startOffset ≤ r.startOffset) {r : RowGroup}
    (hr : r ∈ run.members) :
    boundaryIn blocks r.startOffset = boundaryIn blocks run.first.startOffset := by
  rcases List.mem_cons.mp hr with rfl | hfollowing
  · rfl
  · obtain ⟨before, after, hsplit⟩ := List.append_of_mem hfollowing
    have hmembers : run.members = (run.first :: before) ++ r :: after := by
      rw [Run.members, hsplit, List.cons_append]
    have hcontinues := h _ r after hmembers (List.cons_ne_nil _ _)
    rw [hmembers] at hwider
    have hfront := (hwider.of_append.1.continues_iff _ r).mp hcontinues
    exact boundaryIn_eq_of_lt_boundary hlengths (hfirst r hr) hfront

omit hlengths in
/-- Where only a boundary may close a run, another boundary lies behind the first row group left. -/
theorem IsWider.boundaryIn_ne_of_left {first next : RowGroup} {rest later : List RowGroup}
    (hwider : w.IsWider (first :: w.taken (boundaryIn blocks first.startOffset) first.size rest))
    (hleft : w.left (boundaryIn blocks first.startOffset) first.size rest = next :: later) :
    boundaryIn blocks first.startOffset ≠ boundaryIn blocks next.startOffset := by
  intro hsame
  apply not_continues_of_left_eq hleft
  rw [← totalOf_cons, hwider.continues_iff, hsame]
  exact fun bound ↦ lt_of_mem_boundaryIn

/-- The runs are the longest lists of neighbours with one boundary. -/
theorem map_members_divide_eq_splitBy (hwider : w.IsWider rowGroups)
    (hrowGroups : rowGroups.Pairwise fun r s ↦ r.startOffset ≤ s.startOffset) :
    (w.divide (boundaryIn blocks) rowGroups).map Run.members =
      rowGroups.splitBy (sameBoundary blocks) := by
  induction rowGroups using divide.induct w (boundaryIn blocks) with
  | case1 => rw [divide_nil, List.map_nil, List.splitBy_nil]
  | case2 first rest ih =>
    let run : Run := ⟨first, w.taken (boundaryIn blocks first.startOffset) first.size rest⟩
    let left := w.left (boundaryIn blocks first.startOffset) first.size rest
    have hsplit : first :: rest = run.members ++ left := by
      rw [Run.members, List.cons_append, taken_append_left]
    have hrun : run ∈ w.divide (boundaryIn blocks) (first :: rest) := by
      rw [divide_cons]
      exact List.mem_cons_self
    have hparts := (hsplit ▸ hwider).of_append
    have hsame : ∀ r ∈ run.members,
        boundaryIn blocks r.startOffset = boundaryIn blocks first.startOffset :=
      fun r ↦ (admissible_of_mem_divide hrun).boundaryIn_eq hlengths hparts.1
        (fun s ↦ first_startOffset_le hrowGroups hrun)
    have hchain : run.members.IsChain fun r s ↦ sameBoundary blocks r s := by
      apply List.Pairwise.isChain
      apply List.pairwise_of_forall_mem_list
      intro r hr s hs
      rw [sameBoundary_eq_true_iff, hsame r hr, hsame s hs]
    have hends : ∀ r ∈ run.members.getLast?, ∀ s ∈ left.head?, sameBoundary blocks r s = false := by
      intro r hr s hs
      obtain ⟨later, hleft⟩ := List.head?_eq_some_iff.mp hs
      rw [sameBoundary_eq_false_iff, hsame r (List.mem_of_getLast? hr)]
      exact hparts.1.boundaryIn_ne_of_left hleft
    have hleftsorted : left.Pairwise fun r s ↦ r.startOffset ≤ s.startOffset :=
      (List.pairwise_append.mp (hsplit ▸ hrowGroups)).2.1
    calc
      (w.divide (boundaryIn blocks) (first :: rest)).map Run.members =
          run.members :: (w.divide (boundaryIn blocks) left).map Run.members := by
        rw [divide_cons, List.map_cons]
      _ = run.members.splitBy (sameBoundary blocks) ++ left.splitBy (sameBoundary blocks) := by
        rw [ih hparts.2 hleftsorted, List.splitBy_of_isChain run.members_ne_nil hchain,
          List.singleton_append]
      _ = (first :: rest).splitBy (sameBoundary blocks) := by
        rw [hsplit, List.splitBy_append hends]

end Divide

end SizeWindow

/-! ## Row groups by block -/

section ByBlock

variable {blocks : List Block} {rowGroups : List RowGroup}

def startingIn (rowGroups : List RowGroup) (b : Block) : List RowGroup :=
  rowGroups.filter fun r ↦ r.startOffset ∈ b

theorem mem_startingIn {b : Block} {r : RowGroup} :
    r ∈ startingIn rowGroups b ↔ r ∈ rowGroups ∧ r.startOffset ∈ b := by
  rw [startingIn, List.mem_filter, decide_eq_true_eq]

/-- The row groups of each block, without blocks in which none starts. -/
def groupsByBlock (blocks : List Block) (rowGroups : List RowGroup) : List (List RowGroup) :=
  (blocks.map (startingIn rowGroups)).filter (· ≠ [])

/-- Where the members with a property come first, taking them out does not change the order. -/
theorem filter_append_filter_not {α : Type} {p : α → Bool} {l : List α}
    (h : l.Pairwise fun x y ↦ p y = true → p x = true) :
    l.filter p ++ l.filter (fun x ↦ !p x) = l := by
  induction l with
  | nil => rfl
  | cons x l ih =>
    obtain ⟨hx, hl⟩ := List.pairwise_cons.mp h
    cases hp : p x with
    | true => rw [List.filter_cons_of_pos hp, List.filter_cons_of_neg (by simp [hp]),
        List.cons_append, ih hl]
    | false =>
      have hnone : l.filter p = [] := by
        rw [List.filter_eq_nil_iff]
        intro y hy hpy
        rw [hx y hy hpy] at hp
        contradiction
      rw [List.filter_cons_of_neg (by simp [hp]), hnone, List.nil_append,
        List.filter_cons_of_pos (by simp [hp]), ← List.nil_append (l.filter _), ← hnone, ih hl]

/-- Laid end to end, the row groups of the blocks are all row groups. -/
theorem flatten_map_startingIn (hblocks : blocks.Pairwise fun b c ↦ b.offset ≤ c.offset)
    (hoverlap : DoNotOverlap blocks)
    (hrowGroups : rowGroups.Pairwise fun r s ↦ r.startOffset ≤ s.startOffset)
    (hinside : ∀ r ∈ rowGroups, ∃ b ∈ blocks, r.startOffset ∈ b) :
    (blocks.map (startingIn rowGroups)).flatten = rowGroups := by
  induction blocks generalizing rowGroups with
  | nil =>
    have hempty : rowGroups = [] := by
      apply List.eq_nil_iff_forall_not_mem.mpr
      intro r hr
      obtain ⟨b, hb, -⟩ := hinside r hr
      exact List.not_mem_nil hb
    rw [hempty, List.map_nil, List.flatten_nil]
  | cons b blocks ih =>
    obtain ⟨hoffset, hblocks⟩ := List.pairwise_cons.mp hblocks
    obtain ⟨hapart, hoverlap⟩ := List.pairwise_cons.mp hoverlap
    let outside := rowGroups.filter fun r ↦ !decide (r.startOffset ∈ b)
    have hfront : rowGroups.Pairwise fun r s ↦
        decide (s.startOffset ∈ b) = true → decide (r.startOffset ∈ b) = true := by
      apply hrowGroups.imp_of_mem
      intro r s hr _ hle hmem
      rw [decide_eq_true_eq] at hmem ⊢
      obtain ⟨c, hc, hrc⟩ := hinside r hr
      have hoffset_le : b.offset ≤ c.offset := by
        rcases List.mem_cons.mp hc with rfl | hlater
        · exact Int.le_refl _
        · exact hoffset c hlater
      have hstart := Int.le_trans hoffset_le (Block.mem_iff.mp hrc).1
      exact Block.mem_iff.mpr ⟨hstart, Int.lt_of_le_of_lt hle (Block.mem_iff.mp hmem).2⟩
    have houtside : blocks.map (startingIn rowGroups) = blocks.map (startingIn outside) := by
      apply List.map_congr_left
      intro c hc
      rw [startingIn, startingIn, List.filter_filter]
      apply List.filter_congr
      intro r _
      by_cases hmem : r.startOffset ∈ c
      · have hnot : r.startOffset ∉ b := fun hb ↦ hapart c hc _ hb hmem
        simp [hmem, hnot]
      · simp [hmem]
    have hinside : ∀ r ∈ outside, ∃ c ∈ blocks, r.startOffset ∈ c := by
      intro r hr
      obtain ⟨hr, hnot⟩ := List.mem_filter.mp hr
      obtain ⟨c, hc, hmem⟩ := hinside r hr
      rcases List.mem_cons.mp hc with rfl | hlater
      · simp [hmem] at hnot
      · exact ⟨c, hlater, hmem⟩
    rw [List.map_cons, List.flatten_cons, houtside,
      ih hblocks hoverlap (hrowGroups.filter _) hinside]
    exact filter_append_filter_not hfront

/-- Behind positions in different blocks lie different boundaries. -/
theorem DoNotOverlap.boundaryIn_ne (h : DoNotOverlap blocks)
    (hblocks : blocks.Pairwise fun b c ↦ b.offset ≤ c.offset) {b c : Block} (hb : b ∈ blocks)
    (hc : c ∈ blocks) (hapart : ∀ position, position ∈ b → position ∉ c) {position other : Int}
    (hmemb : position ∈ b) (hmemc : other ∈ c) :
    boundaryIn blocks position ≠ boundaryIn blocks other := by
  rw [h.boundaryIn_of_mem hblocks hb hmemb, h.boundaryIn_of_mem hblocks hc hmemc, ne_eq,
    Option.some_inj]
  intro hstop
  rw [Block.mem_iff] at hmemb hmemc
  -- two blocks that end together share the later of the two positions
  have hlater : max position other ∈ b := Block.mem_iff.mpr (by omega)
  exact hapart _ hlater (Block.mem_iff.mpr (by omega))

/-- The groups are the longest lists of neighbours with one boundary. -/
theorem groupsByBlock_eq_splitBy (hblocks : blocks.Pairwise fun b c ↦ b.offset ≤ c.offset)
    (hoverlap : DoNotOverlap blocks)
    (hrowGroups : rowGroups.Pairwise fun r s ↦ r.startOffset ≤ s.startOffset)
    (hinside : ∀ r ∈ rowGroups, ∃ b ∈ blocks, r.startOffset ∈ b) :
    groupsByBlock blocks rowGroups = rowGroups.splitBy (sameBoundary blocks) := by
  symm
  rw [List.splitBy_eq_iff]
  refine ⟨?flatten, ?nonempty, ?inside, ?across⟩
  case flatten =>
    rw [groupsByBlock, List.flatten_filter_ne_nil,
      flatten_map_startingIn hblocks hoverlap hrowGroups hinside]
  case nonempty => simp [groupsByBlock]
  case inside =>
    intro group hgroup
    obtain ⟨b, hb, rfl⟩ := List.mem_map.mp (List.mem_filter.mp hgroup).1
    apply List.Pairwise.isChain
    apply List.pairwise_of_forall_mem_list
    intro r hr s hs
    rw [sameBoundary_eq_true_iff, hoverlap.boundaryIn_of_mem hblocks hb (mem_startingIn.mp hr).2,
      hoverlap.boundaryIn_of_mem hblocks hb (mem_startingIn.mp hs).2]
  case across =>
    have hdiffer : (blocks.map (startingIn rowGroups)).Pairwise fun group next ↦
        ∀ r ∈ group, ∀ s ∈ next, sameBoundary blocks r s = false := by
      rw [List.pairwise_map]
      apply hoverlap.imp_of_mem
      intro b c hb hc hapart r hr s hs
      rw [sameBoundary_eq_false_iff]
      exact hoverlap.boundaryIn_ne hblocks hb hc hapart (mem_startingIn.mp hr).2
        (mem_startingIn.mp hs).2
    apply List.Pairwise.isChain
    apply (hdiffer.filter _).imp_of_mem
    intro group next hgroup hnext hne
    have hgroup_ne : group ≠ [] := of_decide_eq_true (List.mem_filter.mp hgroup).2
    have hnext_ne : next ≠ [] := of_decide_eq_true (List.mem_filter.mp hnext).2
    exact ⟨hgroup_ne, hnext_ne, hne _ (List.getLast_mem hgroup_ne) _ (List.head_mem hnext_ne)⟩

end ByBlock

/-! ## The plan -/

/-- **One split for each storage region.** Where sizes never matter, neighbouring row groups share a
split exactly if the same boundary lies behind them. If blocks do not overlap and hold all starts,
the splits are the row groups of each block. -/
theorem planRowGroups_by_region (rowGroups : List RowGroup) (blocks : List Block)
    (context : SplitContext) (minSize maxSize : Int) (hsizes : ∀ r ∈ rowGroups, 0 ≤ r.size)
    (hrowGroups : rowGroups.Pairwise fun r s ↦ r.startOffset ≤ s.startOffset)
    (hblocks : blocks.Pairwise fun b c ↦ b.offset ≤ c.offset)
    (hlengths : ∀ b ∈ blocks, 0 ≤ b.length) (hmin : minSize ≤ 0)
    (hmax : totalOf RowGroup.size rowGroups < maxSize) :
    ∃ splits,
      (planRowGroups rowGroups blocks context minSize maxSize).outcome = .ok splits ∧
      (∀ i (h : i + 1 < rowGroups.length),
        partAt (splits.map Split.rowGroups) i = partAt (splits.map Split.rowGroups) (i + 1) ↔
          boundaryIn blocks rowGroups[i].startOffset =
            boundaryIn blocks rowGroups[i + 1].startOffset) ∧
      (DoNotOverlap blocks → (∀ r ∈ rowGroups, ∃ b ∈ blocks, r.startOffset ∈ b) →
        splits.map Split.rowGroups = groupsByBlock blocks rowGroups) := by
  have htotal := totalOf_nonneg hsizes
  let w : SizeWindow := ⟨minSize, maxSize, by omega, by omega⟩
  have hwider : w.IsWider rowGroups := ⟨hmin, hsizes, hmax⟩
  have hsplits : (w.statelessSplits rowGroups blocks context).map Split.rowGroups =
      rowGroups.splitBy (sameBoundary blocks) := by
    rw [← SizeWindow.map_members_divide_eq_splitBy hlengths hwider hrowGroups,
      SizeWindow.statelessSplits, List.map_map]
    rfl
  refine ⟨w.statelessSplits rowGroups blocks context, planRowGroups_outcome w .., ?_, ?_⟩
  · intro i h
    rw [hsplits, partAt_splitBy_eq_succ_iff _ h, sameBoundary_eq_true_iff]
  · intro hoverlap hinside
    rw [hsplits, groupsByBlock_eq_splitBy hblocks hoverlap hrowGroups hinside]

/-- An empty block between two others, row groups without bytes and two at the edge of a block. -/
theorem planRowGroups_by_region_empty_block :
    let rowGroups := [RowGroup.ofExtent 4 60 1, RowGroup.ofExtent 64 0 0,
      RowGroup.ofExtent 99 40 1, RowGroup.ofExtent 100 0 0, RowGroup.ofExtent 100 20 1]
    let blocks : List Block := [⟨0, 100, ["a"], []⟩, ⟨100, 0, ["b"], []⟩, ⟨100, 50, ["c"], []⟩]
    let context : SplitContext := ⟨"", ∅, none, ∅⟩
    (∀ r ∈ rowGroups, 0 ≤ r.size) ∧
      rowGroups.Pairwise (fun r s ↦ r.startOffset ≤ s.startOffset) ∧
      blocks.Pairwise (fun b c ↦ b.offset ≤ c.offset) ∧
      (∀ b ∈ blocks, 0 ≤ b.length) ∧
      totalOf RowGroup.size rowGroups < 121 ∧
      DoNotOverlap blocks ∧
      (∀ r ∈ rowGroups, ∃ b ∈ blocks, r.startOffset ∈ b) ∧
      ∃ splits, (planRowGroups rowGroups blocks context 0 121).outcome = .ok splits ∧
        (∀ i (h : i + 1 < rowGroups.length),
          partAt (splits.map Split.rowGroups) i = partAt (splits.map Split.rowGroups) (i + 1) ↔
            boundaryIn blocks rowGroups[i].startOffset =
              boundaryIn blocks rowGroups[i + 1].startOffset) ∧
        splits.map Split.rowGroups = groupsByBlock blocks rowGroups := by
  intro rowGroups blocks context
  have hsizes : ∀ r ∈ rowGroups, 0 ≤ r.size := by decide
  have hrowGroups : rowGroups.Pairwise (fun r s ↦ r.startOffset ≤ s.startOffset) := by decide
  have hblocks : blocks.Pairwise (fun b c ↦ b.offset ≤ c.offset) := by decide
  have hlengths : ∀ b ∈ blocks, 0 ≤ b.length := by decide
  have hmax : totalOf RowGroup.size rowGroups < 121 := by decide
  have hoverlap : DoNotOverlap blocks := by
    simp only [DoNotOverlap, blocks, List.pairwise_cons, Block.mem_iff, Block.stop]
    simp
    omega
  have hinside : ∀ r ∈ rowGroups, ∃ b ∈ blocks, r.startOffset ∈ b := by decide
  obtain ⟨splits, houtcome, hneighbours, hgroups⟩ := planRowGroups_by_region rowGroups blocks
    context 0 121 hsizes hrowGroups hblocks hlengths (Int.le_refl 0) hmax
  exact ⟨hsizes, hrowGroups, hblocks, hlengths, hmax, hoverlap, hinside, splits, houtcome,
    hneighbours, hgroups hoverlap hinside⟩

end SplitPlanning
