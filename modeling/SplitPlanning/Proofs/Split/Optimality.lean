import SplitPlanning.Proofs.Split.StatelessPlanning
import SplitPlanning.Proofs.Storage.Boundaries

/-!
# No division into admissible runs has fewer of them

A run that starts later holds less at any row group and has its boundary no earlier, so it goes on
at least as far as one that started in front of it. Hence the runs of a plan stay ahead of those of
any other division, whose window and boundaries may be its own.
-/

namespace SplitPlanning

namespace SizeWindow

/-! ## Going on for longer -/

/-- Whether a split in front of a boundary goes on with every row group that a split in another
window, in front of a boundary of its own, goes on with although it is no smaller. -/
def Outlasts (w : SizeWindow) (boundary : Option Int) (w' : SizeWindow) (boundary' : Option Int) :
    Prop :=
  ∀ size size' r, size ≤ size' → w'.Continues boundary' size' r → w.Continues boundary size r

/-- Larger bounds and a later boundary let a split go on for longer. -/
theorem outlasts_of_noLater {w w' : SizeWindow} {boundary boundary' : Option Int}
    (hmin : w'.minSize ≤ w.minSize) (hmax : w'.maxSize ≤ w.maxSize)
    (hboundary : NoLater boundary' boundary) : w.Outlasts boundary w' boundary' := by
  intro size size' r hsize hcontinues
  refine ⟨Int.lt_of_le_of_lt hsize (Int.lt_of_lt_of_le hcontinues.1 hmax), ?_⟩
  rintro ⟨hfull, bound, hbound, hle⟩
  obtain ⟨earlier, hearlier, hearlier_le⟩ := hboundary bound hbound
  have hfull' : w'.minSize ≤ size' := by omega
  exact hcontinues.2 ⟨hfull', earlier, hearlier, Int.le_trans hearlier_le hle⟩

variable {w w' : SizeWindow} {boundary boundary' : Int → Option Int}

/-- What is left behind row groups that a split goes on with lies behind all of them. -/
theorem left_isSuffix {bound : Option Int} {size : Int} {members : List RowGroup}
    (h : ∀ before r after, members = before ++ r :: after →
      w.Continues bound (size + totalOf RowGroup.size before) r) (rest : List RowGroup) :
    w.left bound size (members ++ rest) <:+ rest := by
  induction members generalizing size with
  | nil => exact List.drop_suffix _ _
  | cons r members ih =>
    have hfirst : w.Continues bound size r := by simpa using h [] r members rfl
    rw [List.cons_append, left_of_continues hfirst]
    apply ih
    intro before s after hmembers
    have hnext := h (r :: before) s after (by rw [hmembers, List.cons_append])
    rwa [totalOf_cons, ← Int.add_assoc] at hnext

/-- A run that starts inside an admissible run which it outlasts takes all the rest of that. -/
theorem Admissible.left_isSuffix {run : Run} (h : w'.Admissible boundary' run)
    {before following : List RowGroup} {first : RowGroup}
    (hmembers : run.members = before ++ first :: following) (hsizes : ∀ r ∈ before, 0 ≤ r.size)
    (houtlasts : w.Outlasts (boundary first.startOffset) w' (boundary' run.first.startOffset))
    (rest : List RowGroup) :
    w.left (boundary first.startOffset) first.size (following ++ rest) <:+ rest := by
  apply SizeWindow.left_isSuffix
  intro between r after hfollowing
  have hsplit : run.members = (before ++ first :: between) ++ r :: after := by
    rw [hmembers, hfollowing, List.append_assoc, List.cons_append]
  have hcontinues := h _ r after hsplit (by simp)
  rw [totalOf_append, totalOf_cons] at hcontinues
  have hbefore := totalOf_nonneg hsizes
  exact houtlasts _ _ r (by omega) hcontinues

/-! ## Staying ahead -/

/-- A division of row groups into admissible runs. -/
structure AdmissibleDivision (w : SizeWindow) (boundary : Int → Option Int)
    (rowGroups : List RowGroup) (runs : List Run) : Prop where
  flatMap_members : runs.flatMap Run.members = rowGroups
  admissible : ∀ run ∈ runs, w.Admissible boundary run

theorem admissibleDivision_divide (w : SizeWindow) (boundary : Int → Option Int)
    (rowGroups : List RowGroup) :
    w.AdmissibleDivision boundary rowGroups (w.divide boundary rowGroups) where
  flatMap_members := w.flatMap_members_divide boundary rowGroups
  admissible _ := admissible_of_mem_divide

/-- Whether every run, wherever it starts among the row groups, outlasts those that another window
and other boundaries allow from there or from further in front. -/
structure OutlastsAmong (w : SizeWindow) (boundary : Int → Option Int) (w' : SizeWindow)
    (boundary' : Int → Option Int) (rowGroups : List RowGroup) : Prop where
  same : ∀ r ∈ rowGroups, w.Outlasts (boundary r.startOffset) w' (boundary' r.startOffset)
  later : rowGroups.Pairwise fun r s ↦
    w.Outlasts (boundary s.startOffset) w' (boundary' r.startOffset)

theorem OutlastsAmong.of_suffix {rowGroups rest : List RowGroup}
    (h : w.OutlastsAmong boundary w' boundary' rowGroups) (hsuffix : rest <:+ rowGroups) :
    w.OutlastsAmong boundary w' boundary' rest where
  same r hr := h.same r (hsuffix.mem hr)
  later := h.later.sublist hsuffix.sublist

theorem OutlastsAmong.of_member {run : Run} {before following rest : List RowGroup}
    {first : RowGroup} (h : w.OutlastsAmong boundary w' boundary' (run.members ++ rest))
    (hmembers : run.members = before ++ first :: following) :
    w.Outlasts (boundary first.startOffset) w' (boundary' run.first.startOffset) := by
  have hmem : first ∈ run.members := by simp [hmembers]
  rcases List.mem_cons.mp hmem with heq | hfollowing
  · rw [heq]
    exact h.same run.first (by simp [Run.members])
  · have hlater := h.later
    rw [Run.members, List.cons_append, List.pairwise_cons] at hlater
    exact hlater.1 first (List.mem_append_left rest hfollowing)

/-- One run: whoever is ahead in front of a run of the other division is ahead behind it. -/
theorem left_isSuffix_of_isSuffix {run : Run} {first : RowGroup} {rest later : List RowGroup}
    (hrun : w'.Admissible boundary' run)
    (houtlasts : w.OutlastsAmong boundary w' boundary' (run.members ++ later))
    (hsizes : ∀ r ∈ run.members, 0 ≤ r.size)
    (hahead : first :: rest <:+ run.members ++ later) :
    w.left (boundary first.startOffset) first.size rest <:+ later := by
  have hleft : w.left (boundary first.startOffset) first.size rest <:+ first :: rest :=
    (List.drop_suffix _ rest).trans (List.suffix_cons first rest)
  obtain ⟨before, hsplit⟩ := hahead
  rcases List.append_eq_append_iff.mp hsplit with ⟨inside, hmembers, hrest⟩ | ⟨behind, -, hlater⟩
  · cases inside with
    | nil =>
      rw [List.nil_append] at hrest
      rwa [← hrest]
    | cons s following =>
      obtain ⟨rfl, rfl⟩ := List.cons.inj hrest
      apply hrun.left_isSuffix hmembers _ (houtlasts.of_member hmembers)
      intro r hr
      exact hsizes r (by simp [hmembers, hr])
  · rw [hlater]
    exact hleft.trans (List.suffix_append behind _)

/-- All runs: behind equally many runs, a division that was ahead at the start leaves an end of what
the other division leaves. -/
theorem divide_drop_isSuffix {runs : List Run} {rowGroups : List RowGroup}
    (hruns : ∀ run ∈ runs, w'.Admissible boundary' run)
    (houtlasts : w.OutlastsAmong boundary w' boundary' (runs.flatMap Run.members))
    (hsizes : ∀ r ∈ runs.flatMap Run.members, 0 ≤ r.size)
    (hahead : rowGroups <:+ runs.flatMap Run.members) (k : Nat) :
    ((w.divide boundary rowGroups).drop k).flatMap Run.members <:+
      (runs.drop k).flatMap Run.members := by
  induction k generalizing runs rowGroups with
  | zero => simpa only [List.drop_zero, flatMap_members_divide] using hahead
  | succ k ih =>
    cases rowGroups with
    | nil => simp
    | cons first rest =>
      cases runs with
      | nil => simp at hahead
      | cons run runs =>
        rw [List.flatMap_cons] at houtlasts hsizes hahead
        have hnext := left_isSuffix_of_isSuffix (hruns run List.mem_cons_self) houtlasts
          (fun r hr ↦ hsizes r (List.mem_append_left _ hr)) hahead
        rw [divide_cons, List.drop_succ_cons, List.drop_succ_cons]
        exact ih (fun run' hrun' ↦ hruns run' (List.mem_cons_of_mem run hrun'))
          (houtlasts.of_suffix (List.suffix_append _ _))
          (fun r hr ↦ hsizes r (List.mem_append_right _ hr)) hnext

section Ahead

variable {rowGroups : List RowGroup} {runs : List Run}
  (hruns : w'.AdmissibleDivision boundary' rowGroups runs)
  (houtlasts : w.OutlastsAmong boundary w' boundary' rowGroups)
  (hsizes : ∀ r ∈ rowGroups, 0 ≤ r.size)

include hruns houtlasts hsizes

/-- Behind equally many runs, a division leaves an end of what any that it outlasts leaves. -/
theorem divide_drop_isSuffix_drop (k : Nat) :
    ((w.divide boundary rowGroups).drop k).flatMap Run.members <:+
      (runs.drop k).flatMap Run.members := by
  obtain rfl := hruns.flatMap_members
  exact divide_drop_isSuffix hruns.admissible houtlasts hsizes (List.suffix_refl _) k

/-- The first runs of a division cover as much as equally many runs that it outlasts, or more. -/
theorem length_take_le_divide (k : Nat) :
    ((runs.take k).flatMap Run.members).length ≤
      (((w.divide boundary rowGroups).take k).flatMap Run.members).length := by
  have hleft := (divide_drop_isSuffix_drop hruns houtlasts hsizes k).length_le
  have hothers := congrArg List.length hruns.flatMap_members
  have hdivided := congrArg List.length (w.flatMap_members_divide boundary rowGroups)
  rw [← List.take_append_drop k runs, List.flatMap_append, List.length_append] at hothers
  rw [← List.take_append_drop k (w.divide boundary rowGroups), List.flatMap_append,
    List.length_append] at hdivided
  omega

theorem length_divide_le_of_outlasts : (w.divide boundary rowGroups).length ≤ runs.length := by
  have hleft := divide_drop_isSuffix_drop hruns houtlasts hsizes runs.length
  rw [List.drop_length, List.flatMap_nil, List.suffix_nil, List.flatMap_eq_nil_iff] at hleft
  apply List.drop_eq_nil_iff.mp
  apply List.eq_nil_iff_forall_not_mem.mpr
  intro run hrun
  exact run.members_ne_nil (hleft run hrun)

end Ahead

/-- Where runs outlast those of another planning, its splits stay ahead and are no more. -/
theorem OutlastsAmong.statelessSplits_ahead {blocks blocks' : List Block}
    {rowGroups : List RowGroup}
    (houtlasts : w.OutlastsAmong (boundaryIn blocks) w' (boundaryIn blocks') rowGroups)
    (hsizes : ∀ r ∈ rowGroups, 0 ≤ r.size) (context context' : SplitContext) :
    (∀ k, (((w'.statelessSplits rowGroups blocks' context').take k).flatMap
          Split.rowGroups).length ≤
        (((w.statelessSplits rowGroups blocks context).take k).flatMap Split.rowGroups).length) ∧
      (w.statelessSplits rowGroups blocks context).length ≤
        (w'.statelessSplits rowGroups blocks' context').length := by
  -- To stay ahead of the runs of a plan it is enough that these are admissible.
  have hruns := w'.admissibleDivision_divide (boundaryIn blocks') rowGroups
  constructor
  · intro k
    rw [flatMap_take_statelessSplits, flatMap_take_statelessSplits]
    exact length_take_le_divide hruns houtlasts hsizes k
  · rw [statelessSplits, statelessSplits, List.length_map, List.length_map]
    exact length_divide_le_of_outlasts hruns houtlasts hsizes

/-! ## Which runs outlast others -/

/-- Runs that outlast others wherever both start do so among any row groups, in any order. -/
theorem outlastsAmong_of_forall
    (h : ∀ position later, w.Outlasts (boundary later) w' (boundary' position))
    (rowGroups : List RowGroup) : w.OutlastsAmong boundary w' boundary' rowGroups where
  same r _ := h r.startOffset r.startOffset
  later := List.pairwise_of_forall fun r s ↦ h r.startOffset s.startOffset

/-- Larger bounds and boundaries that lie no earlier let runs go on for longer. -/
theorem outlastsAmong_of_noLater (hmin : w'.minSize ≤ w.minSize) (hmax : w'.maxSize ≤ w.maxSize)
    (hboundary : ∀ position later, position ≤ later → NoLater (boundary' position) (boundary later))
    {rowGroups : List RowGroup}
    (hrowGroups : rowGroups.Pairwise fun r s ↦ r.startOffset ≤ s.startOffset) :
    w.OutlastsAmong boundary w' boundary' rowGroups where
  same r _ := outlasts_of_noLater hmin hmax (hboundary _ _ (Int.le_refl r.startOffset))
  later := hrowGroups.imp fun hle ↦ outlasts_of_noLater hmin hmax (hboundary _ _ hle)

theorem outlastsAmong_boundaryIn_of_le {blocks : List Block} {rowGroups : List RowGroup}
    (hmin : w'.minSize ≤ w.minSize) (hmax : w'.maxSize ≤ w.maxSize)
    (hlengths : ∀ b ∈ blocks, 0 ≤ b.length)
    (hrowGroups : rowGroups.Pairwise fun r s ↦ r.startOffset ≤ s.startOffset) :
    w.OutlastsAmong (boundaryIn blocks) w' (boundaryIn blocks) rowGroups :=
  outlastsAmong_of_noLater hmin hmax (fun _ _ ↦ boundaryIn_noLater hlengths) hrowGroups

theorem outlastsAmong_boundaryIn (w : SizeWindow) {blocks : List Block} {rowGroups : List RowGroup}
    (hlengths : ∀ b ∈ blocks, 0 ≤ b.length)
    (hrowGroups : rowGroups.Pairwise fun r s ↦ r.startOffset ≤ s.startOffset) :
    w.OutlastsAmong (boundaryIn blocks) w (boundaryIn blocks) rowGroups :=
  outlastsAmong_boundaryIn_of_le (Int.le_refl _) (Int.le_refl _) hlengths hrowGroups

end SizeWindow

/-- **Planning is optimal.** The splits are a division into admissible runs, the first of them cover
at least as many row groups as equally many runs of any admissible division, and none of these
divisions has fewer runs. -/
theorem planRowGroups_optimal (w : SizeWindow) (rowGroups : List RowGroup) (blocks : List Block)
    (context : SplitContext) (hsizes : ∀ r ∈ rowGroups, 0 ≤ r.size)
    (hrowGroups : rowGroups.Pairwise fun r s ↦ r.startOffset ≤ s.startOffset)
    (hlengths : ∀ b ∈ blocks, 0 ≤ b.length) :
    ∃ splits,
      (planRowGroups rowGroups blocks context w.minSize w.maxSize).outcome = .ok splits ∧
      (∃ runs, w.AdmissibleDivision (boundaryIn blocks) rowGroups runs ∧
        splits.map Split.rowGroups = runs.map Run.members) ∧
      ∀ runs, w.AdmissibleDivision (boundaryIn blocks) rowGroups runs →
        (∀ k, ((runs.take k).flatMap Run.members).length ≤
          ((splits.take k).flatMap Split.rowGroups).length) ∧
        splits.length ≤ runs.length := by
  have houtlasts := w.outlastsAmong_boundaryIn hlengths hrowGroups
  refine ⟨w.statelessSplits rowGroups blocks context, planRowGroups_outcome ..,
    ⟨w.divide (boundaryIn blocks) rowGroups, w.admissibleDivision_divide .., ?_⟩, ?_⟩
  · rw [SizeWindow.statelessSplits, List.map_map]
    rfl
  · intro runs hruns
    constructor
    · intro k
      rw [SizeWindow.flatMap_take_statelessSplits]
      exact SizeWindow.length_take_le_divide hruns houtlasts hsizes k
    · rw [SizeWindow.statelessSplits, List.length_map]
      exact SizeWindow.length_divide_le_of_outlasts hruns houtlasts hsizes

/-- Two overlapping blocks and a gap; a row group without bytes; two that start at one place. -/
theorem planRowGroups_optimal_overlapping :
    let w : SizeWindow := ⟨50, 120, by decide, by decide⟩
    let rowGroups := [RowGroup.ofExtent 10 60 1, RowGroup.ofExtent 70 0 0,
      RowGroup.ofExtent 70 40 1, RowGroup.ofExtent 160 70 1, RowGroup.ofExtent 199 20 1]
    let blocks : List Block := [⟨0, 100, ["a"], []⟩, ⟨80, 70, ["b"], []⟩, ⟨200, 100, ["c"], []⟩]
    let context : SplitContext := ⟨"", ∅, none, ∅⟩
    (∀ r ∈ rowGroups, 0 ≤ r.size) ∧
      rowGroups.Pairwise (fun r s ↦ r.startOffset ≤ s.startOffset) ∧
      (∀ b ∈ blocks, 0 ≤ b.length) ∧
      ∃ splits, (planRowGroups rowGroups blocks context w.minSize w.maxSize).outcome = .ok splits ∧
        (∃ runs, w.AdmissibleDivision (boundaryIn blocks) rowGroups runs ∧
          splits.map Split.rowGroups = runs.map Run.members) ∧
        ∀ runs, w.AdmissibleDivision (boundaryIn blocks) rowGroups runs →
          (∀ k, ((runs.take k).flatMap Run.members).length ≤
            ((splits.take k).flatMap Split.rowGroups).length) ∧
          splits.length ≤ runs.length := by
  intro w rowGroups blocks context
  have hsizes : ∀ r ∈ rowGroups, 0 ≤ r.size := by decide
  have hrowGroups : rowGroups.Pairwise (fun r s ↦ r.startOffset ≤ s.startOffset) := by decide
  have hlengths : ∀ b ∈ blocks, 0 ≤ b.length := by decide
  exact ⟨hsizes, hrowGroups, hlengths,
    planRowGroups_optimal w rowGroups blocks context hsizes hrowGroups hlengths⟩

end SplitPlanning
