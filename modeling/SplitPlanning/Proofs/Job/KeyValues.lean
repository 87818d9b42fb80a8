import Mathlib.Data.List.Forall2
import Mathlib.Data.List.Nodup
import SplitPlanning.Proofs.Footer.Order
import SplitPlanning.Proofs.Job.Conservation
import SplitPlanning.Proofs.Text.Utf8

/-!
# The keys and values of a file in its splits

No two encodings of texts are read alike, so nothing is lost as long as every key is one: the
entries stay in their places, and each value is read for itself, whatever its bytes.
-/

namespace SplitPlanning

open Text

namespace FileMetadata

/-- Whether keys and values are byte strings and every key is valid UTF-8 and occurs once. -/
structure KeysAreTexts (m : FileMetadata) : Prop where
  exists_bytes : ∀ entry ∈ m.keyValues, ∃ key value : List UInt8,
    entry = (.bytes key, .bytes value) ∧ key.toByteArray.IsValidUTF8
  keys_nodup : (m.keyValues.map Prod.fst).Nodup

/-- Whether an entry of a footer stands for one of the metadata: its key is the text encoded by the
key there, and its value is what is read from the bytes there, the exact text if they encode one. -/
def Renders (entry : Value × Value) (kept : String × Value) : Prop :=
  ∃ value : List UInt8, entry = (.bytes (Utf8.encode kept.1), .bytes value) ∧
    kept.2 = .text (Utf8.decode value) ∧ ∀ text, value = Utf8.encode text → kept.2 = .text text

theorem entryText_encode (text : String) : entryText (.bytes (Utf8.encode text)) = text :=
  Utf8.decode_encode text

theorem renders_bytes (key : String) (value : List UInt8) :
    Renders (.bytes (Utf8.encode key), .bytes value) (key, .text (entryText (.bytes value))) := by
  refine ⟨value, rfl, rfl, ?_⟩
  rintro text rfl
  rw [entryText_encode]

namespace KeysAreTexts

variable {m : FileMetadata} (h : m.KeysAreTexts)

include h

theorem exists_encode {entry : Value × Value} (he : entry ∈ m.keyValues) :
    ∃ key value, entry = (.bytes (Utf8.encode key), .bytes value) := by
  obtain ⟨octets, value, rfl, hvalid⟩ := h.exists_bytes entry he
  obtain ⟨key, rfl⟩ := (Utf8.isValidUTF8_iff_exists_encode octets).mp hvalid
  exact ⟨key, value, rfl⟩

/-- Keys that are read alike are equal. -/
theorem nodup_entryText : ((m.keyValues.map Prod.fst).map entryText).Nodup := by
  have hencode : ∀ key ∈ m.keyValues.map Prod.fst, ∃ text, key = .bytes (Utf8.encode text) := by
    intro key hkey
    obtain ⟨entry, he, rfl⟩ := List.mem_map.mp hkey
    obtain ⟨text, value, rfl⟩ := h.exists_encode he
    exact ⟨text, rfl⟩
  refine h.keys_nodup.map_on ?_
  intro key hkey other hother halike
  obtain ⟨text, rfl⟩ := hencode key hkey
  obtain ⟨text', rfl⟩ := hencode other hother
  rw [entryText_encode, entryText_encode] at halike
  rw [halike]

theorem entries_keyValueTexts :
    m.keyValueTexts.entries =
      m.keyValues.map fun entry ↦ (entryText entry.1, entryText entry.2) := by
  refine Dictionary.entries_ofList_of_nodup ?_
  have hnodup := h.nodup_entryText
  rw [List.map_map] at hnodup ⊢
  exact hnodup

/-- Entry by entry the texts stand for the keys and values of the file. -/
theorem forall₂_renders :
    List.Forall₂ Renders m.keyValues (m.keyValueTexts.map Value.text).entries := by
  have hentries : (m.keyValueTexts.map Value.text).entries =
      m.keyValues.map fun entry ↦ (entryText entry.1, .text (entryText entry.2)) := by
    rw [Dictionary.entries_map, h.entries_keyValueTexts, List.map_map]
    rfl
  rw [hentries, List.forall₂_map_right_iff, List.forall₂_same]
  intro entry he
  obtain ⟨key, value, rfl⟩ := h.exists_encode he
  rw [entryText_encode]
  exact renders_bytes key value

end KeysAreTexts

end FileMetadata

theorem Footer.keyValues_of_ofMetadata {path : String} {m : FileMetadata} {footer : Footer}
    (h : Footer.ofMetadata path m = .ok footer) :
    footer.keyValues = m.keyValueTexts.map Value.text := by
  unfold Footer.ofMetadata at h
  split at h
  · contradiction
  · obtain rfl := Except.ok.inj h
    rfl

/-! ## Splits -/

theorem context_of_mem_planRowGroups {rowGroups : List RowGroup} {blocks : List Block}
    {context : SplitContext} {minSize maxSize : Int} {splits : List Split}
    (h : (planRowGroups rowGroups blocks context minSize maxSize).outcome = .ok splits) {s : Split}
    (hs : s ∈ splits) : s.context = context := by
  obtain ⟨w, -, h⟩ := Journal.exists_of_outcome_bind_eq_ok h
  obtain rfl := Except.ok.inj h
  obtain ⟨packed, -, rfl⟩ := List.mem_map.mp hs
  rfl

namespace JobPlanner

theorem keyValues_of_mem_planFooter {p : JobPlanner} {storage : Storage} {footer : Footer}
    {splits : List Split} (h : (p.planFooter storage footer).outcome = .ok splits) {s : Split}
    (hs : s ∈ splits) : s.context.keyValues = footer.keyValues := by
  obtain ⟨blocks, -, h⟩ := Journal.exists_of_outcome_bind_eq_ok h
  have hcontext := context_of_mem_planRowGroups (eq_ok_of_mapError_eq_ok h) hs
  rw [hcontext]
  rfl

/-- The file of a footer is planned, and its splits are made of the row groups of the footer. -/
theorem MadeFrom.exists_planFooter {p : JobPlanner} {c : Configuration} (h : p.MadeFrom c)
    {storage : Storage} {footer : Footer} {size : Int}
    (hsize : storage.fileSize footer.path = .ok size) :
    ∃ splits, (p.planFooter storage footer).outcome = .ok splits ∧
      splits.flatMap Split.rowGroups = footer.rowGroups := by
  rw [h.planFooter_eq hsize]
  exact ⟨_, rfl, h.window.flatMap_rowGroups_statelessSplits _ _ _⟩

end JobPlanner

/-- **No key and no value is lost.** If keys are texts, the entries of the footer stand for those of
the metadata one by one, in order, and every split planned from the footer carries them. -/
theorem Footer.keyValues_lossless {m : FileMetadata} (h : m.KeysAreTexts) (path : String) :
    ((∃ footer, Footer.ofMetadata path m = .ok footer) ↔
      RowGroupMetadata.Ascending m.rowGroups) ∧
    ∀ footer, Footer.ofMetadata path m = .ok footer →
      List.Forall₂ FileMetadata.Renders m.keyValues footer.keyValues.entries ∧
      (∀ (p : JobPlanner) (storage : Storage) (splits : List Split),
        (p.planFooter storage footer).outcome = .ok splits →
          ∀ s ∈ splits, s.context.keyValues = footer.keyValues) ∧
      ∀ (c : Configuration) (p : JobPlanner) (storage : Storage) (size : Int),
        JobPlanner.ofConfiguration c = .ok p → storage.fileSize path = .ok size →
          ∃ splits, (p.planFooter storage footer).outcome = .ok splits ∧
            splits.flatMap Split.rowGroups = footer.rowGroups := by
  refine ⟨Footer.exists_ofMetadata_iff_ascending path m, ?_⟩
  intro footer hfooter
  refine ⟨?entries, ?carried, ?planned⟩
  case entries =>
    rw [Footer.keyValues_of_ofMetadata hfooter]
    exact h.forall₂_renders
  case carried =>
    intro p storage splits hsplits s hs
    exact JobPlanner.keyValues_of_mem_planFooter hsplits hs
  case planned =>
    intro c p storage size hp hsize
    have hpath : footer.path = path := (Footer.toRowGroups_of_ofMetadata hfooter).1
    rw [← hpath] at hsize
    exact (JobPlanner.madeFrom_of_ofConfiguration hp).exists_planFooter hsize

/-- Keys of one to four bytes, and a value that is no text. -/
theorem Footer.keyValues_lossless_ill_formed_value :
    let column : ColumnMetadata := ⟨"x", "GZIP", [], false, none, 4, 5, 5, 1⟩
    let m : FileMetadata := ⟨[⟨[column], 6, 3⟩], some "message m", none, 3,
      [(.bytes [0x6B], .bytes [0xFF, 0x41]), (.bytes [0xC3, 0xA9], .bytes [0xC3, 0xA9]),
        (.bytes [0xE2, 0x82, 0xAC], .bytes []),
        (.bytes [0xF0, 0x9F, 0x98, 0x80], .bytes [0xE2, 0x82])]⟩
    let c : Configuration := ∅
    let storage : Storage := Dictionary.ofList [("a", ⟨.file, 9, .ok m⟩)]
    ∃ p footer splits, JobPlanner.ofConfiguration c = .ok p ∧
      Footer.ofMetadata "a" m = .ok footer ∧
      List.Forall₂ FileMetadata.Renders m.keyValues footer.keyValues.entries ∧
      footer.keyValues.entries = [("k", .text "\uFFFDA"), ("é", .text "é"), ("€", .text ""),
        ("😀", .text "\uFFFD")] ∧
      (p.planFooter storage footer).outcome = .ok splits ∧
      splits.flatMap Split.rowGroups = footer.rowGroups ∧
      ∀ s ∈ splits, s.context.keyValues = footer.keyValues := by
  intro column m c storage
  have hkeys : m.KeysAreTexts := by
    constructor
    case exists_bytes =>
      intro entry he
      simp only [m, List.mem_cons, List.not_mem_nil, or_false] at he
      rcases he with rfl | rfl | rfl | rfl
      · exact ⟨_, _, rfl, (Utf8.isValidUTF8_iff_exists_encode _).mpr ⟨"k", by decide +kernel⟩⟩
      · exact ⟨_, _, rfl, (Utf8.isValidUTF8_iff_exists_encode _).mpr ⟨"é", by decide +kernel⟩⟩
      · exact ⟨_, _, rfl, (Utf8.isValidUTF8_iff_exists_encode _).mpr ⟨"€", by decide +kernel⟩⟩
      · exact ⟨_, _, rfl, (Utf8.isValidUTF8_iff_exists_encode _).mpr ⟨"😀", by decide +kernel⟩⟩
    case keys_nodup =>
      let octets : List (List UInt8) :=
        [[0x6B], [0xC3, 0xA9], [0xE2, 0x82, 0xAC], [0xF0, 0x9F, 0x98, 0x80]]
      have hoctets : octets.Nodup := by decide
      change (octets.map Value.bytes).Nodup
      exact hoctets.map fun _ _ ↦ Value.bytes.inj
  obtain ⟨-, hkept⟩ := Footer.keyValues_lossless hkeys "a"
  obtain ⟨hentries, hcarried, hplanned⟩ := hkept _ rfl
  obtain ⟨splits, hsplits, hrowGroups⟩ := hplanned c _ storage 9 rfl rfl
  exact ⟨_, _, splits, rfl, rfl, hentries, rfl, hsplits, hrowGroups,
    hcarried _ storage splits hsplits⟩

end SplitPlanning
