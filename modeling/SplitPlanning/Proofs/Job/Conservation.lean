import SplitPlanning.Proofs.Job.Planning
import SplitPlanning.Proofs.Split.Partition

/-! # Nothing is lost over many files -/

namespace SplitPlanning

namespace JobPlanner.MadeFrom

variable {p : JobPlanner} {c : Configuration} {storage : Storage} (h : p.MadeFrom c)

theorem flatMap_rowGroups_splitsOf (file : SoundFile storage) :
    (h.splitsOf file).flatMap Split.rowGroups = file.footer.rowGroups :=
  h.window.flatMap_rowGroups_statelessSplits _ _ _

theorem context_of_mem_splitsOf {file : SoundFile storage} {s : Split}
    (hs : s ∈ h.splitsOf file) :
    s.context = ⟨file.footer.schema, c, some file.path, file.footer.keyValues⟩ := by
  obtain ⟨run, -, rfl⟩ := SizeWindow.exists_run_of_mem_statelessSplits hs
  change p.contextOf file.footer = _
  rw [contextOf, h.configuration, file.path_footer]

theorem totalOf_size_splitsOf (file : SoundFile storage) :
    totalOf Split.size (h.splitsOf file) =
      totalOf RowGroupMetadata.totalByteSize file.metadata.rowGroups := by
  rw [splitsOf, h.window.totalOf_size_statelessSplits,
    Footer.totalOf_size_of_ofMetadata file.footer_eq]

theorem totalOf_rowCount_splitsOf (file : SoundFile storage) :
    totalOf Split.rowCount (h.splitsOf file) =
      totalOf RowGroupMetadata.rowCount file.metadata.rowGroups := by
  rw [splitsOf, h.window.totalOf_rowCount_statelessSplits,
    Footer.totalOf_rowCount_of_ofMetadata file.footer_eq]

end JobPlanner.MadeFrom

/-- **Planning many files conserves them.** Each file has splits of its own, made of the row groups
of its footer in order, and the plan consists of them in order of the files. The totals are those of
the metadata, and a longer list of files has a longer plan that begins with the same splits. -/
theorem planFiles_conserves {c : Configuration} {p : JobPlanner}
    (hp : JobPlanner.ofConfiguration c = .ok p) (storage : Storage)
    (files : List (SoundFile storage)) :
    ∃ (splitsOf : SoundFile storage → List Split) (plan : Plan),
      (∀ file, (p.planFile storage file.path).outcome = .ok (splitsOf file) ∧
        (splitsOf file).flatMap Split.rowGroups = file.footer.rowGroups ∧
        ∀ s ∈ splitsOf file,
          s.context = ⟨file.footer.schema, c, some file.path, file.footer.keyValues⟩) ∧
      (p.planFiles storage (files.map SoundFile.path)).outcome = .ok plan ∧
      plan.splits = files.flatMap splitsOf ∧
      plan.splits.flatMap Split.rowGroups = files.flatMap (·.footer.rowGroups) ∧
      plan.byteCount = totalOf
        (fun file ↦ totalOf RowGroupMetadata.totalByteSize file.metadata.rowGroups) files ∧
      plan.rowCount = totalOf
        (fun file ↦ totalOf RowGroupMetadata.rowCount file.metadata.rowGroups) files ∧
      (p.planFiles storage (files.map SoundFile.path)).events.getLast? =
        some (.jobPlanned plan.size files.length plan.byteCount plan.rowCount) ∧
      ∀ more : List (SoundFile storage), ∃ later : Plan,
        (p.planFiles storage (more.map SoundFile.path)).outcome = .ok later ∧
        (p.planFiles storage ((files ++ more).map SoundFile.path)).outcome =
          .ok ⟨plan.splits ++ later.splits⟩ := by
  have h := JobPlanner.madeFrom_of_ofConfiguration hp
  refine ⟨h.splitsOf, ⟨files.flatMap h.splitsOf⟩, ?each, ?outcome, rfl, ?rowGroups, ?bytes, ?rows,
    ?last, ?append⟩
  case each =>
    intro file
    exact ⟨h.planFile_outcome file, h.flatMap_rowGroups_splitsOf file,
      fun s ↦ h.context_of_mem_splitsOf⟩
  case outcome => rw [h.planFiles_eq]
  case rowGroups =>
    change (files.flatMap h.splitsOf).flatMap Split.rowGroups = _
    rw [List.flatMap_assoc]
    congr 1
    funext file
    exact h.flatMap_rowGroups_splitsOf file
  case bytes =>
    rw [Plan.byteCount, totalOf_flatMap]
    congr 1
    funext file
    exact h.totalOf_size_splitsOf file
  case rows =>
    rw [Plan.rowCount, totalOf_flatMap]
    congr 1
    funext file
    exact h.totalOf_rowCount_splitsOf file
  case last => rw [h.planFiles_eq, List.getLast?_concat]
  case append =>
    intro more
    refine ⟨⟨more.flatMap h.splitsOf⟩, by rw [h.planFiles_eq], ?_⟩
    rw [h.planFiles_eq, List.flatMap_append]

/-- Two files, the first of them twice, in blocks of ten bytes. -/
theorem planFiles_conserves_repeated_path :
    let c : Configuration :=
      Dictionary.ofList [("split.min-size", .integer 8), ("fs.block.size", .integer 10)]
    let p : JobPlanner := ⟨⟨8, ByteSize.max.bytes, "", c⟩, ⟨10, ["localhost"], by decide⟩⟩
    let column (offset : Int) : ColumnMetadata := ⟨"x", "GZIP", [], false, none, offset, 5, 5, 1⟩
    let m : FileMetadata := ⟨[⟨[column 4], 6, 3⟩, ⟨[column 12], 9, 2⟩, ⟨[column 21], 7, 1⟩],
      some "message m", none, 6, [(.bytes [107], .bytes [118])]⟩
    let n : FileMetadata := ⟨[⟨[column 4], 5, 10⟩], some "message n", none, 10, []⟩
    let storage : Storage :=
      Dictionary.ofList [("a", ⟨.file, 30, .ok m⟩), ("b", ⟨.file, 12, .ok n⟩)]
    JobPlanner.ofConfiguration c = .ok p ∧
      ∃ plan, (p.planFiles storage ["a", "b", "a"]).outcome = .ok plan ∧
        plan.splits.flatMap (fun s ↦ s.rowGroups.map RowGroup.startOffset) =
          [4, 12, 21, 4, 4, 12, 21] ∧
        (p.planFiles storage ["a", "b", "a"]).events.getLast? =
          some (.jobPlanned plan.size 3 49 22) := by
  intro c p column m n storage
  have hp : JobPlanner.ofConfiguration c = .ok p := rfl
  let a : SoundFile storage := ⟨"a", m, _, 30, rfl, rfl, rfl⟩
  let b : SoundFile storage := ⟨"b", n, _, 12, rfl, rfl, rfl⟩
  obtain ⟨_, plan, -, houtcome, -, hrowGroups, hbytes, hrows, hlast, -⟩ :=
    planFiles_conserves hp storage [a, b, a]
  refine ⟨hp, plan, houtcome, ?_, ?_⟩
  · rw [← List.map_flatMap, hrowGroups]
    rfl
  · rw [hbytes, hrows] at hlast
    exact hlast

end SplitPlanning
