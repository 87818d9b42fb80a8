import Mathlib.Data.List.Forall2
import SplitPlanning.Footer.Basic
import SplitPlanning.Proofs.Outcome

/-! # From metadata to footers -/

namespace SplitPlanning

namespace RowGroupMetadata

theorem toRowGroup_amounts {m : RowGroupMetadata} {ordinal : Nat} {r : RowGroup}
    (h : m.toRowGroup ordinal = .ok r) : r.size = m.totalByteSize ∧ r.rowCount = m.rowCount := by
  unfold toRowGroup at h
  split at h
  · contradiction
  · obtain rfl := Except.ok.inj h
    exact ⟨rfl, rfl⟩

theorem forall₂_of_toRowGroups {ms : List RowGroupMetadata} {ordinal : Nat} {previous : Option Int}
    {rowGroups : List RowGroup} (h : toRowGroups ordinal previous ms = .ok rowGroups) :
    List.Forall₂ (fun entry r ↦ entry.1.toRowGroup entry.2 = .ok r) (ms.zipIdx ordinal)
      rowGroups := by
  induction ms generalizing ordinal previous rowGroups with
  | nil =>
    obtain rfl := Except.ok.inj h
    exact .nil
  | cons m ms ih =>
    obtain ⟨r, hr, h⟩ := exists_of_bind_eq_ok h
    obtain ⟨_, -, h⟩ := exists_of_bind_eq_ok h
    obtain ⟨later, hlater, h⟩ := exists_of_bind_eq_ok h
    obtain rfl := Except.ok.inj h
    exact .cons hr (ih hlater)

end RowGroupMetadata

/-- Amounts that agree member by member have the same total. -/
theorem totalOf_eq_of_forall₂ {α β : Type} {amount : α → Int} {amount' : β → Int} {l : List α}
    {l' : List β} (h : List.Forall₂ (fun a b ↦ amount' b = amount a) l l') :
    totalOf amount' l' = totalOf amount l := by
  induction h with
  | nil => rfl
  | cons hhead _ ih => rw [totalOf_cons, totalOf_cons, hhead, ih]

namespace Footer

variable {path : String} {m : FileMetadata} {footer : Footer}

theorem toRowGroups_of_ofMetadata (h : Footer.ofMetadata path m = .ok footer) :
    footer.path = path ∧
      RowGroupMetadata.toRowGroups 0 none m.rowGroups = .ok footer.rowGroups := by
  unfold Footer.ofMetadata at h
  split at h
  · contradiction
  · rename_i rowGroups hrowGroups
    obtain rfl := Except.ok.inj h
    exact ⟨rfl, hrowGroups⟩

/-- An amount that each row group takes over from its metadata has the total of the metadata. -/
theorem totalOf_rowGroups_of_ofMetadata (h : Footer.ofMetadata path m = .ok footer)
    {amount : RowGroup → Int} {described : RowGroupMetadata → Int}
    (hamount : ∀ {g : RowGroupMetadata} {place : Nat} {r : RowGroup},
      g.toRowGroup place = .ok r → amount r = described g) :
    totalOf amount footer.rowGroups = totalOf described m.rowGroups := by
  have hmade := RowGroupMetadata.forall₂_of_toRowGroups (toRowGroups_of_ofMetadata h).2
  calc
    totalOf amount footer.rowGroups =
        totalOf (fun entry ↦ described entry.1) m.rowGroups.zipIdx := by
      apply totalOf_eq_of_forall₂
      exact hmade.imp fun _ _ hr ↦ hamount hr
    _ = totalOf described m.rowGroups := by
      rw [← totalOf_map described Prod.fst, List.zipIdx_map_fst]

theorem totalOf_size_of_ofMetadata (h : Footer.ofMetadata path m = .ok footer) :
    totalOf RowGroup.size footer.rowGroups = totalOf RowGroupMetadata.totalByteSize m.rowGroups :=
  totalOf_rowGroups_of_ofMetadata h fun hr ↦ (RowGroupMetadata.toRowGroup_amounts hr).1

theorem totalOf_rowCount_of_ofMetadata (h : Footer.ofMetadata path m = .ok footer) :
    totalOf RowGroup.rowCount footer.rowGroups = totalOf RowGroupMetadata.rowCount m.rowGroups :=
  totalOf_rowGroups_of_ofMetadata h fun hr ↦ (RowGroupMetadata.toRowGroup_amounts hr).2

end Footer

end SplitPlanning
