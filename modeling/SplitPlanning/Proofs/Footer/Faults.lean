import Mathlib.Data.Nat.Find
import SplitPlanning.Proofs.Footer.Order

/-!
# Faults of metadata

What may be wrong with a row group is said of its place alone. Metadata become a footer exactly if
nothing is wrong at any place, and otherwise the first place with something wrong decides the error.
-/

namespace SplitPlanning

namespace ColumnMetadata

variable {column : ColumnMetadata} {offset : Int}

/-- A dictionary page counts if it is at a position and in front of the data pages. -/
structure BeginsWithDictionary (column : ColumnMetadata) (offset : Int) : Prop where
  present : column.hasDictionaryPage = true
  offset_eq : column.dictionaryPageOffset = some offset
  offset_pos : 0 < offset
  offset_lt : offset < column.dataPageOffset

/-- Whether an offset is that of the first page of a column. -/
def BeginsAt (column : ColumnMetadata) (offset : Int) : Prop :=
  column.BeginsWithDictionary offset ∨
    (∀ other, ¬column.BeginsWithDictionary other) ∧ offset = column.dataPageOffset

theorem startOffset_of_beginsWithDictionary (h : column.BeginsWithDictionary offset) :
    column.startOffset = offset := by
  unfold startOffset
  rw [h.offset_eq]
  exact if_pos ⟨h.present, h.offset_pos, h.offset_lt⟩

theorem startOffset_of_forall_not (h : ∀ other, ¬column.BeginsWithDictionary other) :
    column.startOffset = column.dataPageOffset := by
  unfold startOffset
  split
  case h_1 other hother =>
    apply if_neg
    rintro ⟨hpresent, hpos, hlt⟩
    exact h other ⟨hpresent, hother, hpos, hlt⟩
  case h_2 => rfl

theorem beginsAt_startOffset (column : ColumnMetadata) : column.BeginsAt column.startOffset := by
  by_cases h : ∃ other, column.BeginsWithDictionary other
  · obtain ⟨other, hother⟩ := h
    rw [startOffset_of_beginsWithDictionary hother]
    exact .inl hother
  · exact .inr ⟨not_exists.mp h, startOffset_of_forall_not (not_exists.mp h)⟩

theorem beginsAt_iff : column.BeginsAt offset ↔ column.startOffset = offset := by
  constructor
  · rintro (h | ⟨hnone, rfl⟩)
    · exact startOffset_of_beginsWithDictionary h
    · exact startOffset_of_forall_not hnone
  · rintro rfl
    exact column.beginsAt_startOffset

/-- Whether a column chunk takes over what metadata say about a column. -/
structure Describes (column : ColumnMetadata) (chunk : ColumnChunk) : Prop where
  path_eq : chunk.path = column.path
  codec_eq : chunk.codec = column.codec
  encodings_eq : chunk.encodings = column.encodings
  totalCompressedSize_eq : chunk.totalCompressedSize = column.totalCompressedSize
  totalUncompressedSize_eq : chunk.totalUncompressedSize = column.totalUncompressedSize
  valueCount_eq : chunk.valueCount = column.valueCount
  beginsAt : column.BeginsAt chunk.startOffset

theorem describes_toChunk (column : ColumnMetadata) : column.Describes column.toChunk :=
  ⟨rfl, rfl, rfl, rfl, rfl, rfl, column.beginsAt_startOffset⟩

end ColumnMetadata

namespace RowGroupMetadata

/-- Whether an offset is that of the first column. -/
def BeginsAt (g : RowGroupMetadata) (offset : Int) : Prop :=
  ∃ first ∈ g.columns.head?, first.BeginsAt offset

theorem beginsAt_iff {g : RowGroupMetadata} {offset : Int} :
    g.BeginsAt offset ↔ g.start? = some offset := by
  unfold BeginsAt start?
  simp only [ColumnMetadata.beginsAt_iff, Option.map_eq_some_iff, Option.mem_def]

/-! ## Taking over -/

/-- Whether a row group takes over what metadata say about the one at a place. -/
structure Describes (g : RowGroupMetadata) (place : Nat) (r : RowGroup) : Prop where
  ordinal_eq : r.ordinal = some (place : Int)
  size_eq : r.size = g.totalByteSize
  rowCount_eq : r.rowCount = g.rowCount
  columns : List.Forall₂ ColumnMetadata.Describes g.columns r.columns
  startOffset_eq : r.columns.head?.map ColumnChunk.startOffset = some r.startOffset

theorem describes_of_toRowGroup {g : RowGroupMetadata} {place : Nat} {r : RowGroup}
    (h : g.toRowGroup place = .ok r) : g.Describes place r := by
  have hcolumns : List.Forall₂ ColumnMetadata.Describes g.columns
      (g.columns.map ColumnMetadata.toChunk) := by
    rw [List.forall₂_map_right_iff, List.forall₂_same]
    exact fun column _ ↦ column.describes_toChunk
  unfold toRowGroup at h
  split at h
  case h_1 => contradiction
  case h_2 first rest hfirst =>
    obtain rfl := Except.ok.inj h
    refine ⟨rfl, rfl, rfl, hcolumns, ?_⟩
    rw [hfirst]
    rfl

theorem forall₂_describes_of_toRowGroups {ms : List RowGroupMetadata} {ordinal : Nat}
    {previous : Option Int} {rowGroups : List RowGroup}
    (h : toRowGroups ordinal previous ms = .ok rowGroups) :
    List.Forall₂ (fun entry r ↦ entry.1.Describes entry.2 r) (ms.zipIdx ordinal) rowGroups :=
  (forall₂_of_toRowGroups h).imp fun _ _ hr ↦ describes_of_toRowGroup hr

/-! ## Faults -/

inductive FaultAt (ms : List RowGroupMetadata) : Nat → FooterFault → Prop where
  | noColumns {place : Nat} {g : RowGroupMetadata} (hg : ms[place]? = some g)
      (hcolumns : g.columns = []) : FaultAt ms place (.noColumns place)
  | unsorted {place : Nat} {before g : RowGroupMetadata} {previous current : Int}
      (hbefore : ms[place]? = some before) (hg : ms[place + 1]? = some g)
      (hprevious : before.BeginsAt previous) (hcurrent : g.BeginsAt current)
      (hlt : current < previous) : FaultAt ms (place + 1) (.unsorted previous current)

structure FirstFaultAt (ms : List RowGroupMetadata) (place : Nat) (fault : FooterFault) : Prop where
  faultAt : FaultAt ms place fault
  not_faultAt : ∀ earlier < place, ∀ other, ¬FaultAt ms earlier other

variable {ms : List RowGroupMetadata} {place : Nat} {fault : FooterFault}

/-- What is wrong within the first row groups is wrong within all of them. -/
theorem FaultAt.of_take {count : Nat} (h : FaultAt (ms.take count) place fault) :
    place < count ∧ FaultAt ms place fault := by
  have hkept : ∀ {index : Nat} {g : RowGroupMetadata}, (ms.take count)[index]? = some g →
      index < count ∧ ms[index]? = some g := by
    intro index g hg
    rw [List.getElem?_take] at hg
    split at hg
    case isTrue hlt => exact ⟨hlt, hg⟩
    case isFalse => contradiction
  cases h with
  | noColumns hg hcolumns => exact ⟨(hkept hg).1, .noColumns (hkept hg).2 hcolumns⟩
  | unsorted hbefore hg hprevious hcurrent hlt =>
    exact ⟨(hkept hg).1, .unsorted (hkept hbefore).2 (hkept hg).2 hprevious hcurrent hlt⟩

theorem exists_firstFaultAt (h : FaultAt ms place fault) :
    ∃ first found, FirstFaultAt ms first found := by
  classical
  have hsome : ∃ place fault, FaultAt ms place fault := ⟨place, fault, h⟩
  obtain ⟨found, hfound⟩ := Nat.find_spec hsome
  exact ⟨Nat.find hsome, found, hfound,
    fun earlier hlt other hother ↦ Nat.find_min hsome hlt ⟨other, hother⟩⟩

/-! ## No faults -/

theorem getElem?_starts_iff {starts : List Int} (hstarts : ms.map start? = starts.map some)
    {start : Int} :
    starts[place]? = some start ↔ ∃ g, ms[place]? = some g ∧ g.start? = some start := by
  have hplace : ms[place]?.map start? = starts[place]?.map some := by
    rw [← List.getElem?_map, ← List.getElem?_map, hstarts]
  constructor
  · intro h
    rw [h] at hplace
    exact Option.map_eq_some_iff.mp hplace
  · rintro ⟨g, hg, hstart⟩
    rw [hg, Option.map_some, hstart] at hplace
    obtain ⟨found, hfound, hsome⟩ := Option.map_eq_some_iff.mp hplace.symm
    rw [hfound, hsome]

theorem exists_starts (h : ∀ g ∈ ms, g.columns ≠ []) :
    ∃ starts : List Int, ms.map start? = starts.map some := by
  induction ms with
  | nil => exact ⟨[], rfl⟩
  | cons g rest ih =>
    obtain ⟨starts, hstarts⟩ := ih fun other hother ↦ h other (List.mem_cons_of_mem g hother)
    obtain ⟨first, columns, hcolumns⟩ := List.exists_cons_of_ne_nil (h g List.mem_cons_self)
    refine ⟨first.startOffset :: starts, ?_⟩
    rw [List.map_cons, List.map_cons, hstarts, start?, hcolumns]
    rfl

/-- Row groups ascend exactly if nothing is wrong at any place. -/
theorem ascending_iff_forall_not_faultAt :
    Ascending ms ↔ ∀ place fault, ¬FaultAt ms place fault := by
  constructor
  · rintro ⟨starts, hstarts, hsorted⟩ place fault hfault
    cases hfault with
    | @noColumns _ g hg hcolumns =>
      have hmem : none ∈ ms.map start? :=
        List.mem_map.mpr ⟨g, List.mem_of_getElem? hg, by rw [start?, hcolumns]; rfl⟩
      rw [hstarts] at hmem
      simp at hmem
    | @unsorted place before g previous current hbefore hg hprevious hcurrent hlt =>
      have hfirst := (getElem?_starts_iff hstarts).mpr ⟨before, hbefore, beginsAt_iff.mp hprevious⟩
      have hsecond := (getElem?_starts_iff hstarts).mpr ⟨g, hg, beginsAt_iff.mp hcurrent⟩
      obtain ⟨hplace, rfl⟩ := List.getElem?_eq_some_iff.mp hfirst
      obtain ⟨hnext, rfl⟩ := List.getElem?_eq_some_iff.mp hsecond
      have hle := List.pairwise_iff_getElem.mp hsorted place (place + 1) hplace hnext (by omega)
      omega
  · intro hnone
    have hcolumns : ∀ g ∈ ms, g.columns ≠ [] := by
      intro g hg hnil
      obtain ⟨place, hplace⟩ := List.mem_iff_getElem?.mp hg
      exact hnone place _ (.noColumns hplace hnil)
    obtain ⟨starts, hstarts⟩ := exists_starts hcolumns
    refine ⟨starts, hstarts, List.isChain_iff_pairwise.mp (List.isChain_iff_getElem.mpr ?_)⟩
    intro place hnext
    by_contra hlt
    obtain ⟨before, hbefore, hprevious⟩ :=
      (getElem?_starts_iff hstarts).mp (List.getElem?_eq_getElem (Nat.lt_of_succ_lt hnext))
    obtain ⟨g, hg, hcurrent⟩ :=
      (getElem?_starts_iff hstarts).mp (List.getElem?_eq_getElem hnext)
    exact hnone _ _ (.unsorted hbefore hg (beginsAt_iff.mpr hprevious) (beginsAt_iff.mpr hcurrent)
      (Int.not_le.mp hlt))

/-! ## The first fault -/

section Behind

variable {g : RowGroupMetadata} {before behind : List RowGroupMetadata} {ordinal : Nat}
  {previous : Option Int} {rowGroups : List RowGroup}

theorem toRowGroups_of_noColumns (hcolumns : g.columns = []) :
    toRowGroups ordinal previous (g :: behind) = .error (.noColumns ordinal) := by
  have hg : g.toRowGroup ordinal = .error (.noColumns ordinal) := by
    unfold toRowGroup
    rw [hcolumns]
  rw [toRowGroups, bind_of_eq_error hg]

theorem toRowGroups_of_unsorted {start current : Int} (hcurrent : g.start? = some current)
    (hlt : current < start) :
    toRowGroups ordinal (some start) (g :: behind) = .error (.unsorted start current) := by
  obtain ⟨r, hr, rfl⟩ := exists_toRowGroup hcurrent ordinal
  have horder : checkOrder (some start) r.startOffset = .error (.unsorted start r.startOffset) :=
    if_pos hlt
  rw [toRowGroups, bind_of_eq_ok hr, bind_of_eq_error horder]

/-- Behind row groups that are accepted the last of their starts is the one to compare with. -/
theorem toRowGroups_append_of_error (hbefore : toRowGroups ordinal previous before = .ok rowGroups)
    (hbehind : toRowGroups (ordinal + before.length)
      (previous.toList ++ rowGroups.map RowGroup.startOffset).getLast? behind = .error fault) :
    toRowGroups ordinal previous (before ++ behind) = .error fault := by
  induction before generalizing ordinal previous rowGroups with
  | nil =>
    obtain rfl := Except.ok.inj hbefore
    cases previous <;> exact hbehind
  | cons m ms ih =>
    obtain ⟨r, hr, hbefore⟩ := exists_of_bind_eq_ok hbefore
    obtain ⟨_, horder, hbefore⟩ := exists_of_bind_eq_ok hbefore
    obtain ⟨later, hlater, hbefore⟩ := exists_of_bind_eq_ok hbefore
    obtain rfl := Except.ok.inj hbefore
    have hrest : toRowGroups (ordinal + 1) (some r.startOffset) (ms ++ behind) = .error fault := by
      apply ih hlater
      rw [List.map_cons, List.getLast?_append_of_ne_nil _ (List.cons_ne_nil _ _),
        List.length_cons, Nat.add_comm ms.length, ← Nat.add_assoc] at hbehind
      exact hbehind
    rw [List.cons_append, toRowGroups, bind_of_eq_ok hr, bind_of_eq_ok horder,
      bind_of_eq_error hrest]

end Behind

theorem toRowGroups_of_firstFaultAt (h : FirstFaultAt ms place fault) :
    toRowGroups 0 none ms = .error fault := by
  have hascending : Ascending (ms.take place) := by
    rw [ascending_iff_forall_not_faultAt]
    intro earlier other hfault
    obtain ⟨hlt, hfault⟩ := hfault.of_take
    exact h.not_faultAt earlier hlt other hfault
  obtain ⟨rowGroups, hbefore⟩ := (exists_toRowGroups_iff_ascending _).mpr hascending
  have hsplit : ∀ {g : RowGroupMetadata}, ms[place]? = some g →
      ms = ms.take place ++ g :: ms.drop (place + 1) ∧ (ms.take place).length = place := by
    intro g hg
    obtain ⟨hlt, rfl⟩ := List.getElem?_eq_some_iff.mp hg
    rw [← List.drop_eq_getElem_cons hlt, List.take_append_drop, List.length_take]
    exact ⟨rfl, Nat.min_eq_left (Nat.le_of_lt hlt)⟩
  cases h.faultAt with
  | noColumns hg hcolumns =>
    obtain ⟨hms, hlength⟩ := hsplit hg
    rw [hms]
    apply toRowGroups_append_of_error hbefore
    rw [hlength, Nat.zero_add]
    exact toRowGroups_of_noColumns hcolumns
  | @unsorted place before g previous current hlast hg hprevious hcurrent hlt =>
    obtain ⟨hms, hlength⟩ := hsplit hg
    obtain ⟨hstarts, -⟩ := starts_of_toRowGroups hbefore
    have hcount := congrArg List.length hstarts
    rw [List.length_map, List.length_map, hlength] at hcount
    have hprevious : (rowGroups.map RowGroup.startOffset).getLast? = some previous := by
      rw [List.getLast?_eq_getElem?, ← hcount]
      apply (getElem?_starts_iff hstarts).mpr
      refine ⟨before, ?_, beginsAt_iff.mp hprevious⟩
      rw [List.getElem?_take, if_pos (by omega)]
      exact hlast
    rw [hms]
    apply toRowGroups_append_of_error hbefore
    rw [Option.toList_none, List.nil_append, hprevious]
    exact toRowGroups_of_unsorted (beginsAt_iff.mp hcurrent) hlt

theorem toRowGroups_eq_error_iff :
    toRowGroups 0 none ms = .error fault ↔ ∃ place, FirstFaultAt ms place fault := by
  constructor
  · intro h
    have hsome : ∃ place other, FaultAt ms place other := by
      by_contra hnone
      push Not at hnone
      have hascending := ascending_iff_forall_not_faultAt.mpr hnone
      obtain ⟨rowGroups, hok⟩ := (exists_toRowGroups_iff_ascending ms).mpr hascending
      rw [h] at hok
      contradiction
    obtain ⟨_, _, hfault⟩ := hsome
    obtain ⟨first, found, hfirst⟩ := exists_firstFaultAt hfault
    have herror := toRowGroups_of_firstFaultAt hfirst
    rw [h] at herror
    obtain rfl := Except.error.inj herror
    exact ⟨first, hfirst⟩
  · rintro ⟨place, hfirst⟩
    exact toRowGroups_of_firstFaultAt hfirst

end RowGroupMetadata

/-! ## Footers -/

namespace Footer

theorem ofMetadata_eq_error_iff {path : String} {m : FileMetadata} {e : FooterError} :
    ofMetadata path m = .error e ↔
      ∃ place fault, RowGroupMetadata.FirstFaultAt m.rowGroups place fault ∧
        e = ⟨fault, some path⟩ := by
  have hfault : ∀ fault, (∃ place, RowGroupMetadata.FirstFaultAt m.rowGroups place fault) ↔
      RowGroupMetadata.toRowGroups 0 none m.rowGroups = .error fault :=
    fun _ ↦ RowGroupMetadata.toRowGroups_eq_error_iff.symm
  rw [exists_comm]
  simp only [exists_and_right, hfault]
  unfold ofMetadata
  cases RowGroupMetadata.toRowGroups 0 none m.rowGroups with
  | ok rowGroups => simp
  | error fault => simp [eq_comm]

/-- **Conversion is exact.** The smallest place at which something is wrong decides the error. If
there is none, the footer takes over every row group with its place and all its columns, and the
starts ascend over all pairs of row groups. -/
theorem ofMetadata_exact (path : String) (m : FileMetadata) :
    ((∃ e, ofMetadata path m = .error e) ↔
      ∃ place fault, RowGroupMetadata.FaultAt m.rowGroups place fault) ∧
    (∀ e, ofMetadata path m = .error e ↔
      ∃ place fault, RowGroupMetadata.FirstFaultAt m.rowGroups place fault ∧
        e = ⟨fault, some path⟩) ∧
    ∀ footer, ofMetadata path m = .ok footer →
      List.Forall₂ (fun entry r ↦ entry.1.Describes entry.2 r) m.rowGroups.zipIdx
        footer.rowGroups ∧
      footer.rowGroups.Pairwise fun r s ↦ r.startOffset ≤ s.startOffset := by
  refine ⟨?_, fun _ ↦ ofMetadata_eq_error_iff, ?_⟩
  · constructor
    · rintro ⟨e, he⟩
      obtain ⟨place, fault, hfirst, -⟩ := ofMetadata_eq_error_iff.mp he
      exact ⟨place, fault, hfirst.faultAt⟩
    · rintro ⟨place, fault, hfault⟩
      obtain ⟨first, found, hfirst⟩ := RowGroupMetadata.exists_firstFaultAt hfault
      exact ⟨_, ofMetadata_eq_error_iff.mpr ⟨first, found, hfirst, rfl⟩⟩
  · intro footer h
    obtain ⟨-, hrowGroups⟩ := toRowGroups_of_ofMetadata h
    exact ⟨RowGroupMetadata.forall₂_describes_of_toRowGroups hrowGroups,
      pairwise_startOffset_of_ofMetadata h⟩

/-- A dictionary page in front of the data and one at no position; and a file in which the second of
three row groups begins too early and the third has no column. -/
theorem ofMetadata_exact_two_files :
    let column (dictionary : Option Int) (data : Int) : ColumnMetadata :=
      ⟨"x", "SNAPPY", ["PLAIN"], dictionary.isSome, dictionary, data, 5, 6, 1⟩
    let sound : FileMetadata := ⟨[⟨[column (some 4) 9, column none 14], 12, 1⟩,
      ⟨[column (some 0) 30], 6, 1⟩], none, none, 2, []⟩
    let faulty : FileMetadata := ⟨[⟨[column none 9], 6, 1⟩, ⟨[column (some 4) 9], 6, 1⟩, ⟨[], 0, 0⟩],
      none, none, 2, []⟩
    (∃ footer, ofMetadata "a" sound = .ok footer ∧
      List.Forall₂ (fun entry r ↦ entry.1.Describes entry.2 r) sound.rowGroups.zipIdx
        footer.rowGroups ∧ footer.rowGroups.map RowGroup.startOffset = [4, 30]) ∧
    ∃ place, RowGroupMetadata.FirstFaultAt faulty.rowGroups place (.unsorted 9 4) := by
  intro column sound faulty
  have hdescribes := ((ofMetadata_exact "a" sound).2.2 _ rfl).1
  have herror : ofMetadata "a" faulty = .error ⟨.unsorted 9 4, some "a"⟩ := rfl
  obtain ⟨place, _, hfirst, heq⟩ := ((ofMetadata_exact "a" faulty).2.1 _).mp herror
  obtain rfl := (FooterError.mk.inj heq).1
  exact ⟨⟨_, rfl, hdescribes, rfl⟩, place, hfirst⟩

end Footer

end SplitPlanning
