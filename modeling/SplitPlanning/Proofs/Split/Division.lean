import SplitPlanning.Footer.RowGroup
import SplitPlanning.Split.SizeWindow

/-!
# Dividing row groups into runs

Where splits end, said without a scan: a run takes the longest list of next row groups that each
meet the size bounds and the boundary of the run, and the next run begins with the first row group
left. The boundary is any function of the position where a run starts.
-/

namespace SplitPlanning

/-! ## Runs -/

/-- Neighbouring row groups, at least one. -/
structure Run where
  first : RowGroup
  following : List RowGroup
deriving DecidableEq, Repr

namespace Run

def members (run : Run) : List RowGroup :=
  run.first :: run.following

def size (run : Run) : Int :=
  totalOf RowGroup.size run.members

theorem members_ne_nil (run : Run) : run.members ≠ [] :=
  List.cons_ne_nil _ _

@[simp] theorem length_members (run : Run) : run.members.length = run.following.length + 1 := rfl

end Run

namespace SizeWindow

/-- Whether a split of some size in front of a boundary goes on with a row group. -/
def Continues (w : SizeWindow) (boundary : Option Int) (size : Int) (r : RowGroup) : Prop :=
  size < w.maxSize ∧ ¬(w.minSize ≤ size ∧ ∃ bound ∈ boundary, bound ≤ r.startOffset)

instance (w : SizeWindow) (boundary : Option Int) (size : Int) (r : RowGroup) :
    Decidable (w.Continues boundary size r) :=
  inferInstanceAs (Decidable (_ ∧ ¬(_ ∧ _)))

/-- The next row groups that a split of some size goes on with, one after the other. -/
def taken (w : SizeWindow) (boundary : Option Int) : Int → List RowGroup → List RowGroup
  | _, [] => []
  | size, r :: rest =>
    if w.Continues boundary size r then r :: taken w boundary (size + r.size) rest else []

def left (w : SizeWindow) (boundary : Option Int) (size : Int) (rest : List RowGroup) :
    List RowGroup :=
  rest.drop (w.taken boundary size rest).length

/-- The runs of a list of row groups, each in front of the boundary that belongs to its start. -/
def divide (w : SizeWindow) (boundary : Int → Option Int) : List RowGroup → List Run
  | [] => []
  | first :: rest =>
    ⟨first, w.taken (boundary first.startOffset) first.size rest⟩ ::
      divide w boundary (w.left (boundary first.startOffset) first.size rest)
termination_by rowGroups => rowGroups.length
decreasing_by
  rw [left, List.length_drop, List.length_cons]
  omega

/-- Every row group that a run took behind its first ones was one to go on with. -/
def Admissible (w : SizeWindow) (boundary : Int → Option Int) (run : Run) : Prop :=
  ∀ before r after, run.members = before ++ r :: after → before ≠ [] →
    w.Continues (boundary run.first.startOffset) (totalOf RowGroup.size before) r

/-! ## The row groups taken -/

section Taken

variable {w : SizeWindow} {boundary : Option Int}

/-- A split that is closed in front of a row group holds the minimum, whatever closed it. -/
theorem minSize_le_of_not_continues {size : Int} {r : RowGroup}
    (h : ¬w.Continues boundary size r) : w.minSize ≤ size := by
  by_cases hmax : size < w.maxSize
  · by_cases hmin : w.minSize ≤ size
    · exact hmin
    · exact absurd ⟨hmax, fun hcloses ↦ hmin hcloses.1⟩ h
  · have hwindow := w.minSize_le_maxSize
    omega

theorem taken_of_continues {size : Int} {r : RowGroup} (h : w.Continues boundary size r)
    (rest : List RowGroup) :
    w.taken boundary size (r :: rest) = r :: w.taken boundary (size + r.size) rest :=
  if_pos h

theorem taken_of_not_continues {size : Int} {r : RowGroup} (h : ¬w.Continues boundary size r)
    (rest : List RowGroup) : w.taken boundary size (r :: rest) = [] :=
  if_neg h

theorem left_of_continues {size : Int} {r : RowGroup} (h : w.Continues boundary size r)
    (rest : List RowGroup) :
    w.left boundary size (r :: rest) = w.left boundary (size + r.size) rest := by
  rw [left, taken_of_continues h, List.length_cons, List.drop_succ_cons, left]

theorem left_of_not_continues {size : Int} {r : RowGroup} (h : ¬w.Continues boundary size r)
    (rest : List RowGroup) : w.left boundary size (r :: rest) = r :: rest := by
  rw [left, taken_of_not_continues h, List.length_nil, List.drop_zero]

theorem taken_append_left (w : SizeWindow) (boundary : Option Int) (size : Int)
    (rest : List RowGroup) : w.taken boundary size rest ++ w.left boundary size rest = rest := by
  induction rest generalizing size with
  | nil => rfl
  | cons r rest ih =>
    by_cases h : w.Continues boundary size r
    · rw [taken_of_continues h, left_of_continues h, List.cons_append, ih]
    · rw [taken_of_not_continues h, left_of_not_continues h, List.nil_append]

theorem continues_of_taken_eq {size : Int} {rest before after : List RowGroup} {r : RowGroup}
    (htaken : w.taken boundary size rest = before ++ r :: after) :
    w.Continues boundary (size + totalOf RowGroup.size before) r := by
  induction rest generalizing size before with
  | nil => simp [taken] at htaken
  | cons s rest ih =>
    by_cases h : w.Continues boundary size s
    · rw [taken_of_continues h] at htaken
      cases before with
      | nil =>
        obtain ⟨rfl, -⟩ := List.cons.inj htaken
        rwa [totalOf_nil, Int.add_zero]
      | cons t before =>
        obtain ⟨rfl, hlater⟩ := List.cons.inj htaken
        rw [totalOf_cons, ← Int.add_assoc]
        exact ih hlater
    · rw [taken_of_not_continues h] at htaken
      simp at htaken

/-- The first row group left is one not to go on with. -/
theorem not_continues_of_left_eq {size : Int} {rest later : List RowGroup} {r : RowGroup}
    (hleft : w.left boundary size rest = r :: later) :
    ¬w.Continues boundary (size + totalOf RowGroup.size (w.taken boundary size rest)) r := by
  induction rest generalizing size with
  | nil => simp [left] at hleft
  | cons s rest ih =>
    by_cases h : w.Continues boundary size s
    · rw [left_of_continues h] at hleft
      rw [taken_of_continues h, totalOf_cons, ← Int.add_assoc]
      exact ih hleft
    · rw [left_of_not_continues h] at hleft
      obtain ⟨rfl, -⟩ := List.cons.inj hleft
      rwa [taken_of_not_continues h, totalOf_nil, Int.add_zero]

/-- Boundaries in front of which the same row groups are gone on with make no difference. -/
theorem taken_congr {boundary' : Option Int}
    (h : ∀ size r, w.Continues boundary size r ↔ w.Continues boundary' size r) (size : Int)
    (rest : List RowGroup) : w.taken boundary size rest = w.taken boundary' size rest := by
  induction rest generalizing size with
  | nil => rfl
  | cons r rest ih =>
    by_cases hcontinues : w.Continues boundary size r
    · rw [taken_of_continues hcontinues, taken_of_continues ((h size r).mp hcontinues), ih]
    · have hcontinues' : ¬w.Continues boundary' size r := mt (h size r).mpr hcontinues
      rw [taken_of_not_continues hcontinues, taken_of_not_continues hcontinues']

end Taken

/-! ## The runs -/

section Divide

variable (w : SizeWindow) (boundary : Int → Option Int)

@[simp] theorem divide_nil : w.divide boundary [] = [] := by
  rw [divide]

theorem divide_cons (first : RowGroup) (rest : List RowGroup) :
    w.divide boundary (first :: rest) =
      ⟨first, w.taken (boundary first.startOffset) first.size rest⟩ ::
        w.divide boundary (w.left (boundary first.startOffset) first.size rest) := by
  rw [divide]

theorem flatMap_members_divide (rowGroups : List RowGroup) :
    (w.divide boundary rowGroups).flatMap Run.members = rowGroups := by
  induction rowGroups using divide.induct w boundary with
  | case1 => rw [divide_nil, List.flatMap_nil]
  | case2 first rest ih =>
    rw [divide_cons, List.flatMap_cons, ih, Run.members, List.cons_append, taken_append_left]

/-- Behind the first runs, the row groups left are divided like a list of their own. -/
theorem divide_drop (rowGroups : List RowGroup) (i : Nat) :
    w.divide boundary
        (rowGroups.drop (((w.divide boundary rowGroups).take i).flatMap Run.members).length) =
      (w.divide boundary rowGroups).drop i := by
  induction i generalizing rowGroups with
  | zero => simp
  | succ i ih =>
    cases rowGroups with
    | nil => simp
    | cons first rest =>
      rw [divide_cons, List.take_succ_cons, List.flatMap_cons, List.length_append,
        Run.length_members, List.drop_succ_cons]
      rw [Nat.add_right_comm, List.drop_succ_cons, ← List.drop_drop]
      exact ih _

variable {w boundary} {rowGroups : List RowGroup} {run : Run}

theorem divide_congr {boundary' : Int → Option Int}
    (h : ∀ position size r,
      w.Continues (boundary position) size r ↔ w.Continues (boundary' position) size r) :
    w.divide boundary rowGroups = w.divide boundary' rowGroups := by
  induction rowGroups using divide.induct w boundary with
  | case1 => rw [divide_nil, divide_nil]
  | case2 first rest ih =>
    have htaken := taken_congr (h first.startOffset) first.size rest
    have hleft : w.left (boundary first.startOffset) first.size rest =
        w.left (boundary' first.startOffset) first.size rest := by
      rw [left, left, htaken]
    rw [divide_cons, divide_cons, ih, htaken, hleft]

theorem mem_of_mem_divide (h : run ∈ w.divide boundary rowGroups) {r : RowGroup}
    (hr : r ∈ run.members) : r ∈ rowGroups := by
  rw [← w.flatMap_members_divide boundary rowGroups]
  exact List.mem_flatMap.mpr ⟨run, h, hr⟩

theorem admissible_of_mem_divide (h : run ∈ w.divide boundary rowGroups) :
    w.Admissible boundary run := by
  induction rowGroups using divide.induct w boundary with
  | case1 => simp at h
  | case2 first rest ih =>
    rw [divide_cons] at h
    rcases List.mem_cons.mp h with rfl | hlater
    · intro before r after hmembers hne
      obtain ⟨s, before, rfl⟩ := List.exists_cons_of_ne_nil hne
      obtain ⟨rfl, htaken⟩ := List.cons.inj hmembers
      exact continues_of_taken_eq htaken
    · exact ih hlater

/-- A run with another one behind it was closed in front of a row group. -/
theorem minSize_le_of_mem_dropLast_divide (h : run ∈ (w.divide boundary rowGroups).dropLast) :
    w.minSize ≤ run.size := by
  induction rowGroups using divide.induct w boundary with
  | case1 => simp at h
  | case2 first rest ih =>
    rw [divide_cons] at h
    cases hleft : w.left (boundary first.startOffset) first.size rest with
    | nil => simp [hleft] at h
    | cons next later =>
      have hrefused := not_continues_of_left_eq hleft
      have hne : w.divide boundary (next :: later) ≠ [] := by
        rw [divide_cons]
        exact List.cons_ne_nil _ _
      rw [hleft, List.dropLast_cons_of_ne_nil hne] at h
      rcases List.mem_cons.mp h with rfl | hlater
      · exact minSize_le_of_not_continues hrefused
      · rw [← hleft] at hlater
        exact ih hlater

end Divide

end SizeWindow

end SplitPlanning
