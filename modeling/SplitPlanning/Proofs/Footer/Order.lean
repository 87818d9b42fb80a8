import Mathlib.Data.List.Chain
import SplitPlanning.Proofs.Footer.Conversion

/-!
# The order of row groups

Each start is compared with the one before it only, which puts all of them in order. How many bytes
the columns take up is not looked at, so row groups of an accepted footer may overlap.
-/

namespace SplitPlanning

namespace RowGroupMetadata

def start? (m : RowGroupMetadata) : Option Int :=
  m.columns.head?.map ColumnMetadata.startOffset

/-- Whether every row group has a column and no first column starts in front of one before it. -/
def Ascending (ms : List RowGroupMetadata) : Prop :=
  ∃ starts : List Int, ms.map start? = starts.map some ∧ starts.Pairwise (· ≤ ·)

/-! ## One row group -/

theorem start?_of_toRowGroup {m : RowGroupMetadata} {ordinal : Nat} {r : RowGroup}
    (h : m.toRowGroup ordinal = .ok r) : m.start? = some r.startOffset := by
  unfold toRowGroup at h
  unfold start?
  cases hcolumns : m.columns with
  | nil =>
    rw [hcolumns] at h
    contradiction
  | cons first rest =>
    rw [hcolumns] at h
    obtain rfl := Except.ok.inj h
    rfl

theorem exists_toRowGroup {m : RowGroupMetadata} {start : Int} (h : m.start? = some start)
    (ordinal : Nat) : ∃ r, m.toRowGroup ordinal = .ok r ∧ r.startOffset = start := by
  unfold start? at h
  unfold toRowGroup
  cases hcolumns : m.columns with
  | nil =>
    rw [hcolumns] at h
    contradiction
  | cons first rest =>
    rw [hcolumns] at h
    exact ⟨_, rfl, Option.some.inj h⟩

theorem checkOrder_eq_ok_iff {previous : Option Int} {current : Int} {u : Unit} :
    checkOrder previous current = .ok u ↔ ∀ start ∈ previous, start ≤ current := by
  cases previous with
  | none => simp [checkOrder]
  | some start =>
    simp only [checkOrder, Option.mem_some_iff, forall_eq']
    split <;> simp <;> omega

/-! ## All row groups -/

/-- The starts of accepted row groups, put behind the one that came before, form a chain. -/
theorem starts_of_toRowGroups {ms : List RowGroupMetadata} {ordinal : Nat} {previous : Option Int}
    {rowGroups : List RowGroup} (h : toRowGroups ordinal previous ms = .ok rowGroups) :
    ms.map start? = (rowGroups.map RowGroup.startOffset).map some ∧
      (previous.toList ++ rowGroups.map RowGroup.startOffset).IsChain (· ≤ ·) := by
  -- Each step checks one link, between the start that came before and the head of the list.
  induction ms generalizing ordinal previous rowGroups with
  | nil =>
    obtain rfl := Except.ok.inj h
    cases previous <;> simp
  | cons m ms ih =>
    obtain ⟨r, hr, h⟩ := exists_of_bind_eq_ok h
    obtain ⟨_, horder, h⟩ := exists_of_bind_eq_ok h
    obtain ⟨later, hlater, h⟩ := exists_of_bind_eq_ok h
    obtain rfl := Except.ok.inj h
    obtain ⟨hstarts, hchain⟩ := ih hlater
    constructor
    · rw [List.map_cons, start?_of_toRowGroup hr, hstarts]
      rfl
    · cases previous with
      | none => exact hchain
      | some start =>
        have hle := checkOrder_eq_ok_iff.mp horder start rfl
        exact List.IsChain.cons_cons hle hchain

theorem exists_toRowGroups {ms : List RowGroupMetadata} {starts : List Int} {previous : Option Int}
    (hstarts : ms.map start? = starts.map some)
    (hchain : (previous.toList ++ starts).IsChain (· ≤ ·)) (ordinal : Nat) :
    ∃ rowGroups, toRowGroups ordinal previous ms = .ok rowGroups := by
  induction ms generalizing starts previous ordinal with
  | nil => exact ⟨[], rfl⟩
  | cons m ms ih =>
    cases starts with
    | nil => contradiction
    | cons start starts =>
      obtain ⟨hstart, hrest⟩ := List.cons.inj hstarts
      obtain ⟨r, hr, rfl⟩ := exists_toRowGroup hstart ordinal
      have horder : checkOrder previous r.startOffset = .ok () := by
        rw [checkOrder_eq_ok_iff]
        rintro _ rfl
        exact (List.isChain_cons_cons.mp hchain).1
      have hbehind : ((some r.startOffset).toList ++ starts).IsChain (· ≤ ·) :=
        hchain.right_of_append
      obtain ⟨later, hlater⟩ := ih hrest hbehind (ordinal + 1)
      refine ⟨r :: later, ?_⟩
      rw [toRowGroups, bind_of_eq_ok hr, bind_of_eq_ok horder, bind_of_eq_ok hlater]
      rfl

theorem exists_toRowGroups_iff_ascending (ms : List RowGroupMetadata) :
    (∃ rowGroups, toRowGroups 0 none ms = .ok rowGroups) ↔ Ascending ms := by
  constructor
  · rintro ⟨rowGroups, h⟩
    obtain ⟨hstarts, hchain⟩ := starts_of_toRowGroups h
    exact ⟨_, hstarts, List.isChain_iff_pairwise.mp hchain⟩
  · rintro ⟨starts, hstarts, hascending⟩
    have hchain : ((none : Option Int).toList ++ starts).IsChain (· ≤ ·) :=
      List.isChain_iff_pairwise.mpr hascending
    exact exists_toRowGroups hstarts hchain 0

end RowGroupMetadata

/-! ## Footers -/

namespace Footer

theorem exists_ofMetadata_iff_ascending (path : String) (m : FileMetadata) :
    (∃ footer, ofMetadata path m = .ok footer) ↔ RowGroupMetadata.Ascending m.rowGroups := by
  rw [← RowGroupMetadata.exists_toRowGroups_iff_ascending]
  constructor
  · rintro ⟨footer, h⟩
    exact ⟨_, (toRowGroups_of_ofMetadata h).2⟩
  · rintro ⟨rowGroups, h⟩
    unfold ofMetadata
    rw [h]
    exact ⟨_, rfl⟩

theorem pairwise_startOffset_of_ofMetadata {path : String} {m : FileMetadata} {footer : Footer}
    (h : ofMetadata path m = .ok footer) :
    footer.rowGroups.Pairwise fun r s ↦ r.startOffset ≤ s.startOffset := by
  obtain ⟨-, hrowGroups⟩ := toRowGroups_of_ofMetadata h
  obtain ⟨-, hchain⟩ := RowGroupMetadata.starts_of_toRowGroups hrowGroups
  exact List.pairwise_map.mp (List.isChain_iff_pairwise.mp hchain)

/-- **Accepted row groups start in ascending order.** The ends of the row groups play no part in
this. -/
theorem ofMetadata_ascending (path : String) (m : FileMetadata) :
    (∀ footer, ofMetadata path m = .ok footer →
      footer.rowGroups.Pairwise fun r s ↦ r.startOffset ≤ s.startOffset) ∧
    ((∃ e, ofMetadata path m = .error e) ↔ ¬RowGroupMetadata.Ascending m.rowGroups) := by
  constructor
  · intro footer h
    exact pairwise_startOffset_of_ofMetadata h
  · rw [← exists_ofMetadata_iff_ascending path m]
    cases ofMetadata path m <;> simp

/-- Three row groups, two of which start at one byte. -/
theorem ofMetadata_ascending_equal_starts :
    let column (offset : Int) : ColumnMetadata :=
      ⟨"x", "SNAPPY", ["PLAIN"], false, none, offset, 5, 6, 1⟩
    let m : FileMetadata :=
      ⟨[⟨[column 4], 6, 1⟩, ⟨[column 9, column 14], 12, 1⟩, ⟨[column 9], 6, 1⟩], none, none, 3, []⟩
    ∃ footer, ofMetadata "a" m = .ok footer ∧
      footer.rowGroups.Pairwise fun r s ↦ r.startOffset ≤ s.startOffset := by
  intro column m
  exact ⟨_, rfl, (ofMetadata_ascending "a" m).1 _ rfl⟩

/-- The first row group ends at byte 104, and the second one starts at byte 54. -/
theorem ofMetadata_accepts_overlap :
    let column (offset : Int) : ColumnMetadata :=
      ⟨"x", "SNAPPY", ["PLAIN"], false, none, offset, 100, 120, 10⟩
    let m : FileMetadata :=
      ⟨[⟨[column 4], 120, 10⟩, ⟨[column 54], 120, 10⟩], some "message m", none, 20, []⟩
    (∀ g ∈ m.rowGroups, ∀ c ∈ g.columns, 0 ≤ c.totalCompressedSize) ∧
      ∃ footer, ofMetadata "a.parquet" m = .ok footer ∧
        ¬footer.rowGroups.Pairwise
          fun r s ↦ r.startOffset + r.compressedSize ≤ s.startOffset := by
  intro column m
  exact ⟨by decide, _, rfl, by decide⟩

end Footer

end SplitPlanning
