import SplitPlanning.Proofs.Job.Planning

/-!
# Failures of a job

A file fails at the first of three stages: its metadata cannot be read, they do not pass the checks
of a footer, or there is no regular file. A list of files fails with the first of them that fails.
-/

namespace SplitPlanning

theorem Storage.eq_notAFile_of_fileSize {storage : Storage} {path : String} {cause : StorageError}
    (h : storage.fileSize path = .error cause) : cause = .notAFile path := by
  unfold Storage.fileSize at h
  split at h
  · contradiction
  · exact (Except.error.inj h).symm

/-- How planning the file at a path fails: at the first stage that does. -/
inductive FileFailure (storage : Storage) (path : String) where
  | unreadable (cause : StorageError) (metadata_eq : storage.metadata path = .error cause)
  | malformed (metadata : FileMetadata) (cause : FooterError)
      (metadata_eq : storage.metadata path = .ok metadata)
      (footer_eq : Footer.ofMetadata path metadata = .error cause)
  | irregular (metadata : FileMetadata) (footer : Footer)
      (metadata_eq : storage.metadata path = .ok metadata)
      (footer_eq : Footer.ofMetadata path metadata = .ok footer)
      (fileSize_eq : storage.fileSize path = .error (.notAFile path))

namespace FileFailure

variable {storage : Storage} {path : String}

def error : FileFailure storage path → PlanningError
  | unreadable cause _ => .storage cause
  | malformed _ cause _ _ => .footer cause
  | irregular .. => .storage (.notAFile path)

/-- That a footer was read is reported before it is checked. -/
def events : FileFailure storage path → List Event
  | unreadable .. => []
  | malformed metadata .. => [.footerRead path metadata.rowGroups.length metadata.rowCount]
  | irregular metadata .. => [.footerRead path metadata.rowGroups.length metadata.rowCount]

end FileFailure

/-- No stage of a file fails for the sizes that a configuration asks for. -/
theorem FileFailure.error_ne_window {storage : Storage} {path : String}
    (failure : FileFailure storage path) (cause : WindowError) : failure.error ≠ .window cause := by
  cases failure with
  | unreadable | malformed | irregular => exact PlanningError.noConfusion

theorem FileFailure.severity_of_mem_events {storage : Storage} {path : String}
    {failure : FileFailure storage path} {e : Event} (he : e ∈ failure.events) :
    e.severity ≠ .info := by
  cases failure with
  | unreadable => contradiction
  | malformed | irregular =>
    obtain rfl := List.mem_singleton.mp he
    simp [Event.severity]

/-! ## Sound files and files that fail -/

/-- A file passes all stages or fails at one. -/
theorem exists_soundFile_or_fileFailure (storage : Storage) (path : String) :
    (∃ file : SoundFile storage, file.path = path) ∨ Nonempty (FileFailure storage path) := by
  cases hmetadata : storage.metadata path with
  | error cause => exact .inr ⟨.unreadable cause hmetadata⟩
  | ok metadata =>
    cases hfooter : Footer.ofMetadata path metadata with
    | error cause => exact .inr ⟨.malformed metadata cause hmetadata hfooter⟩
    | ok footer =>
      cases hsize : storage.fileSize path with
      | error cause =>
        obtain rfl := Storage.eq_notAFile_of_fileSize hsize
        exact .inr ⟨.irregular metadata footer hmetadata hfooter hsize⟩
      | ok size => exact .inl ⟨⟨path, metadata, footer, size, hmetadata, hfooter, hsize⟩, rfl⟩

/-- No file does both. -/
theorem SoundFile.isEmpty_fileFailure {storage : Storage} (file : SoundFile storage) :
    IsEmpty (FileFailure storage file.path) := by
  constructor
  intro failure
  cases failure with
  | unreadable cause hmetadata =>
    rw [file.metadata_eq] at hmetadata
    contradiction
  | malformed metadata cause hmetadata hfooter =>
    rw [file.metadata_eq] at hmetadata
    obtain rfl := Except.ok.inj hmetadata
    rw [file.footer_eq] at hfooter
    contradiction
  | irregular metadata footer _ _ hsize =>
    rw [file.fileSize_eq] at hsize
    contradiction

/-- The first file of a list that fails. -/
structure FirstFailure (storage : Storage) (paths : List String) where
  before : List (SoundFile storage)
  path : String
  failure : FileFailure storage path
  behind : List String
  paths_eq : paths = before.map SoundFile.path ++ path :: behind

/-- All files of a list are sound or there is a first one that fails. -/
theorem exists_soundFiles_or_firstFailure (storage : Storage) (paths : List String) :
    (∃ files : List (SoundFile storage), files.map SoundFile.path = paths) ∨
      Nonempty (FirstFailure storage paths) := by
  induction paths with
  | nil => exact .inl ⟨[], rfl⟩
  | cons path rest ih =>
    rcases exists_soundFile_or_fileFailure storage path with ⟨file, rfl⟩ | hfailure
    · rcases ih with ⟨files, rfl⟩ | hlater
      · exact .inl ⟨file :: files, rfl⟩
      · obtain ⟨later⟩ := hlater
        exact .inr ⟨⟨file :: later.before, later.path, later.failure, later.behind,
          congrArg (file.path :: ·) later.paths_eq⟩⟩
    · obtain ⟨failure⟩ := hfailure
      exact .inr ⟨⟨[], path, failure, rest, rfl⟩⟩

theorem nonempty_firstFailure_iff {storage : Storage} {paths : List String} :
    Nonempty (FirstFailure storage paths) ↔
      ∃ path ∈ paths, Nonempty (FileFailure storage path) := by
  constructor
  · rintro ⟨before, path, failure, behind, rfl⟩
    exact ⟨path, List.mem_append_cons_self, ⟨failure⟩⟩
  · rintro ⟨path, hpath, ⟨failure⟩⟩
    rcases exists_soundFiles_or_firstFailure storage paths with ⟨files, rfl⟩ | hfirst
    · obtain ⟨file, -, rfl⟩ := List.mem_map.mp hpath
      exact (file.isEmpty_fileFailure.false failure).elim
    · exact hfirst

namespace JobPlanner

variable {p : JobPlanner} {c : Configuration} {storage : Storage} {path : String}

/-! ## One file -/

theorem planFile_of_failure (p : JobPlanner) (failure : FileFailure storage path) :
    p.planFile storage path = ⟨failure.events, .error failure.error⟩ := by
  unfold planFile
  cases failure with
  | unreadable cause hmetadata =>
    have hload : storage.loadFooter path = ⟨[], .error (.storage cause)⟩ := by
      unfold Storage.loadFooter
      rw [hmetadata, Journal.bind_of_error rfl]
      rfl
    rw [hload, Journal.bind_of_error rfl]
    rfl
  | malformed metadata cause hmetadata hfooter =>
    rw [Storage.loadFooter_of_metadata hmetadata, hfooter, Journal.bind_of_error rfl]
    rfl
  | irregular metadata footer hmetadata hfooter hsize =>
    have hpath : footer.path = path := (Footer.toRowGroups_of_ofMetadata hfooter).1
    have hplan : p.planFooter storage footer = ⟨[], .error (.storage (.notAFile path))⟩ := by
      unfold planFooter BlockLayout.listFileBlocks
      rw [hpath, hsize, Journal.bind_of_error rfl, Journal.bind_of_error rfl]
      rfl
    rw [Storage.loadFooter_of_metadata hmetadata, hfooter, Journal.bind_of_ok rfl, hplan,
      Journal.bind_of_error rfl]
    rfl

theorem MadeFrom.planFile_events (h : p.MadeFrom c) (file : SoundFile storage) :
    (p.planFile storage file.path).events =
      let blocks := p.layout.blocks file.size 0 none
      let runs := h.window.divide (boundaryIn blocks) file.footer.rowGroups
      [.footerRead file.path file.metadata.rowGroups.length file.metadata.rowCount,
        .blocksListed file.size blocks.length p.layout.blockSize] ++
      runs.flatMap (Run.events blocks) ++
      [.splitsPlanned (h.splitsOf file).length file.footer.rowGroups.length blocks.length
          h.window.minSize h.window.maxSize,
        .filePlanned file.path file.footer.rowGroups.length (h.splitsOf file).length] := by
  unfold planFile
  rw [file.loadFooter_eq, Journal.bind_of_ok rfl, h.planFooter_eq file.fileSize_footer,
    Journal.bind_of_ok rfl, Journal.bind_of_ok rfl]
  simp [SizeWindow.statelessPlan, splitsOf, Journal.report, Journal.mapError]

/-- Nothing of it is reported at the level of the totals. -/
theorem MadeFrom.severity_of_mem_planFile_events (h : p.MadeFrom c) (file : SoundFile storage)
    {e : Event} (he : e ∈ (p.planFile storage file.path).events) : e.severity ≠ .info := by
  rw [h.planFile_events] at he
  simp only [List.mem_append, List.mem_flatMap, List.mem_cons, List.not_mem_nil, or_false] at he
  rcases he with ((rfl | rfl) | ⟨run, -, he⟩) | rfl | rfl
  case inl.inr => simp [Placement.severity_of_mem_events he]
  all_goals simp [Event.severity]

/-! ## Many files -/

/-- A list of files ends with its first file that fails. -/
theorem MadeFrom.planEach_of_failure (h : p.MadeFrom c) (files : List (SoundFile storage))
    (failure : FileFailure storage path) (behind : List String) :
    p.planEach storage (files.map SoundFile.path ++ path :: behind) =
      ⟨(files.flatMap fun file ↦ (p.planFile storage file.path).events) ++ failure.events,
        .error failure.error⟩ := by
  -- The sound files in front are planned one by one; the file that fails is the base.
  induction files with
  | nil =>
    rw [List.map_nil, List.nil_append, planEach, planFile_of_failure p failure,
      Journal.bind_of_error rfl]
    rfl
  | cons file files ih =>
    rw [List.map_cons, List.cons_append, planEach, Journal.bind_of_ok (h.planFile_outcome file),
      ih, Journal.bind_of_error rfl, List.flatMap_cons, List.append_assoc]

/-- And no totals are reported. -/
theorem MadeFrom.planFiles_of_failure (h : p.MadeFrom c) {paths : List String}
    (first : FirstFailure storage paths) :
    p.planFiles storage paths =
      ⟨(first.before.flatMap fun file ↦ (p.planFile storage file.path).events) ++
          first.failure.events, .error first.failure.error⟩ := by
  rcases first with ⟨files, path, failure, behind, rfl⟩
  unfold planFiles
  rw [h.planEach_of_failure, Journal.bind_of_error rfl]

theorem MadeFrom.planFiles_outcome (h : p.MadeFrom c) (storage : Storage) (paths : List String) :
    (∃ plan, (p.planFiles storage paths).outcome = .ok plan) ∨
      ∃ first : FirstFailure storage paths,
        (p.planFiles storage paths).outcome = .error first.failure.error := by
  rcases exists_soundFiles_or_firstFailure storage paths with ⟨files, rfl⟩ | ⟨⟨first⟩⟩
  · exact .inl ⟨⟨files.flatMap h.splitsOf⟩, by rw [h.planFiles_eq]⟩
  · exact .inr ⟨first, by rw [h.planFiles_of_failure first]⟩

theorem MadeFrom.severity_of_mem_events_of_failure (h : p.MadeFrom c) {paths : List String}
    (first : FirstFailure storage paths) {e : Event}
    (he : e ∈ (p.planFiles storage paths).events) : e.severity ≠ .info := by
  rw [h.planFiles_of_failure first, List.mem_append, List.mem_flatMap] at he
  rcases he with ⟨file, -, he⟩ | he
  · exact h.severity_of_mem_planFile_events file he
  · exact FileFailure.severity_of_mem_events he

end JobPlanner

/-- **Failures are confined to files.** Planning fails exactly if some path does, with the error of
the first one that does, at its first stage that fails. What was reported up to there stays
reported, and no totals are. -/
theorem planFiles_confines_failures {c : Configuration} {p : JobPlanner}
    (hp : JobPlanner.ofConfiguration c = .ok p) (storage : Storage) (paths : List String) :
    (∀ cause, (p.planFiles storage paths).outcome ≠ .error (.window cause)) ∧
      ((∃ e, (p.planFiles storage paths).outcome = .error e) ↔
        ∃ path ∈ paths, Nonempty (FileFailure storage path)) ∧
      ((∃ path ∈ paths, Nonempty (FileFailure storage path)) →
        Nonempty (FirstFailure storage paths)) ∧
      (∀ first : FirstFailure storage paths,
        (∀ file ∈ first.before, IsEmpty (FileFailure storage file.path) ∧
          ∃ splits, (p.planFile storage file.path).outcome = .ok splits) ∧
        p.planFiles storage paths =
          ⟨(first.before.flatMap fun file ↦ (p.planFile storage file.path).events) ++
            first.failure.events, .error first.failure.error⟩ ∧
        ∀ e ∈ (p.planFiles storage paths).events, e.severity ≠ .info) ∧
      ((∀ path ∈ paths, IsEmpty (FileFailure storage path)) →
        ∃ plan, (p.planFiles storage paths).outcome = .ok plan) := by
  have h := JobPlanner.madeFrom_of_ofConfiguration hp
  refine ⟨?sizes, ?iff, nonempty_firstFailure_iff.mpr, ?first, ?plan⟩
  case sizes =>
    intro cause hwindow
    rcases h.planFiles_outcome storage paths with ⟨plan, hok⟩ | ⟨first, herror⟩
    · rw [hok] at hwindow
      contradiction
    · rw [herror] at hwindow
      exact first.failure.error_ne_window cause (Except.error.inj hwindow)
  case iff =>
    rw [← nonempty_firstFailure_iff]
    constructor
    · rintro ⟨e, he⟩
      rcases h.planFiles_outcome storage paths with ⟨plan, hok⟩ | ⟨first, -⟩
      · rw [hok] at he
        contradiction
      · exact ⟨first⟩
    · rintro ⟨first⟩
      exact ⟨first.failure.error, by rw [h.planFiles_of_failure first]⟩
  case first =>
    intro first
    exact ⟨fun file _ ↦ ⟨file.isEmpty_fileFailure, h.splitsOf file, h.planFile_outcome file⟩,
      h.planFiles_of_failure first, fun e ↦ h.severity_of_mem_events_of_failure first⟩
  case plan =>
    intro hsound
    rcases h.planFiles_outcome storage paths with hplan | ⟨first, -⟩
    · exact hplan
    · obtain ⟨path, hpath, ⟨failure⟩⟩ := nonempty_firstFailure_iff.mp ⟨first⟩
      exact ((hsound path hpath).false failure).elim

/-- A file, a directory that has metadata, and a path with nothing there. -/
theorem planFiles_confines_failures_of_directory :
    let c : Configuration :=
      Dictionary.ofList [("split.min-size", .integer 8), ("fs.block.size", .integer 10)]
    let p : JobPlanner := ⟨⟨8, ByteSize.max.bytes, "", c⟩, ⟨10, ["localhost"], by decide⟩⟩
    let column (offset : Int) : ColumnMetadata := ⟨"x", "GZIP", [], false, none, offset, 5, 5, 1⟩
    let m : FileMetadata := ⟨[⟨[column 4], 6, 3⟩, ⟨[column 12], 9, 2⟩], some "message m", none, 5, []⟩
    let storage : Storage :=
      Dictionary.ofList [("a", ⟨.file, 30, .ok m⟩), ("b", ⟨.directory, 0, .ok m⟩)]
    JobPlanner.ofConfiguration c = .ok p ∧
      p.planFiles storage ["a", "b", "c"] =
        ⟨(p.planFile storage "a").events ++ [.footerRead "b" 2 5],
          .error (.storage (.notAFile "b"))⟩ ∧
      ∀ e ∈ (p.planFiles storage ["a", "b", "c"]).events, e.severity ≠ .info := by
  intro c p column m storage
  have hp : JobPlanner.ofConfiguration c = .ok p := rfl
  let a : SoundFile storage := ⟨"a", m, _, 30, rfl, rfl, rfl⟩
  let first : FirstFailure storage ["a", "b", "c"] :=
    ⟨[a], "b", .irregular m _ rfl rfl rfl, ["c"], rfl⟩
  obtain ⟨-, -, -, hfirst, -⟩ := planFiles_confines_failures hp storage ["a", "b", "c"]
  obtain ⟨-, hplanned, hlevels⟩ := hfirst first
  have hbefore : (first.before.flatMap fun file ↦ (p.planFile storage file.path).events) =
      (p.planFile storage "a").events :=
    List.flatMap_singleton _ a
  rw [hbefore] at hplanned
  exact ⟨hp, hplanned, hlevels⟩

end SplitPlanning
