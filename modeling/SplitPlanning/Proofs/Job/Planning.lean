import SplitPlanning.JobPlanner
import SplitPlanning.Proofs.Footer.Conversion
import SplitPlanning.Proofs.Outcome
import SplitPlanning.Proofs.Split.StatelessPlanning

/-!
# Plans of a configured planner

A planner made from a configuration has sizes that form a window, so only files can make it fail.
-/

namespace SplitPlanning

theorem SizeWindow.bounds_of_make {minSize maxSize : Int} {w : SizeWindow}
    (h : SizeWindow.make minSize maxSize = .ok w) : w.minSize = minSize ∧ w.maxSize = maxSize := by
  unfold SizeWindow.make at h
  split at h
  · obtain rfl := Except.ok.inj h
    exact ⟨rfl, rfl⟩
  · contradiction

theorem BlockLayout.eq_of_make {blockSize : Int} {hosts : List String} {layout : BlockLayout}
    (h : BlockLayout.make blockSize hosts = .ok layout) :
    layout.blockSize = blockSize ∧ layout.hosts = hosts := by
  unfold BlockLayout.make at h
  split at h
  · obtain rfl := Except.ok.inj h
    exact ⟨rfl, rfl⟩
  · contradiction

namespace JobPlanner

/-! ## The planner of a configuration -/

/-- What a configuration decides about a planner. -/
structure MadeFrom (p : JobPlanner) (c : Configuration) : Prop where
  minSize : c.minSplitSize none = .ok p.filePlanner.minSize
  maxSize : c.maxSplitSize none = .ok p.filePlanner.maxSize
  maxSize_pos : 0 < p.filePlanner.maxSize
  minSize_le_maxSize : p.filePlanner.minSize ≤ p.filePlanner.maxSize
  configuration : p.filePlanner.configuration = c
  blockSize : c.blockSize none = .ok p.layout.blockSize
  hosts : c.blockHosts none = .ok p.layout.hosts

theorem madeFrom_of_ofConfiguration {c : Configuration} {p : JobPlanner}
    (h : ofConfiguration c = .ok p) : p.MadeFrom c := by
  obtain ⟨minSize, hmin, h⟩ := exists_of_bind_eq_ok h
  obtain ⟨maxSize, hmax, h⟩ := exists_of_bind_eq_ok h
  obtain ⟨filePlanner, hplanner, h⟩ := exists_of_bind_eq_ok h
  obtain ⟨layout, hlayout, h⟩ := exists_of_bind_eq_ok h
  obtain ⟨w, hw, hplanner⟩ := exists_of_bind_eq_ok (eq_ok_of_mapError_eq_ok hplanner)
  obtain ⟨blockSize, hblockSize, hlayout⟩ := exists_of_bind_eq_ok hlayout
  obtain ⟨hosts, hhosts, hlayout⟩ := exists_of_bind_eq_ok hlayout
  obtain rfl := Except.ok.inj h
  obtain rfl := Except.ok.inj hplanner
  obtain ⟨rfl, rfl⟩ := SizeWindow.bounds_of_make hw
  obtain ⟨rfl, rfl⟩ := BlockLayout.eq_of_make (eq_ok_of_mapError_eq_ok hlayout)
  exact
    { minSize := eq_ok_of_mapError_eq_ok hmin
      maxSize := eq_ok_of_mapError_eq_ok hmax
      maxSize_pos := w.maxSize_pos
      minSize_le_maxSize := w.minSize_le_maxSize
      configuration := rfl
      blockSize := eq_ok_of_mapError_eq_ok hblockSize
      hosts := eq_ok_of_mapError_eq_ok hhosts }

variable {p : JobPlanner} {c : Configuration} {storage : Storage}

def MadeFrom.window (h : p.MadeFrom c) : SizeWindow where
  minSize := p.filePlanner.minSize
  maxSize := p.filePlanner.maxSize
  maxSize_pos := h.maxSize_pos
  minSize_le_maxSize := h.minSize_le_maxSize

/-! ## One file -/

/-- What all splits of the file with a footer have in common. -/
def contextOf (p : JobPlanner) (footer : Footer) : SplitContext where
  schema := footer.schema
  configuration := p.filePlanner.configuration
  path := some footer.path
  keyValues := footer.keyValues

/-- Whether the sizes of a planner are the bounds of a window. -/
structure PlansIn (p : JobPlanner) (w : SizeWindow) : Prop where
  minSize_eq : p.filePlanner.minSize = w.minSize
  maxSize_eq : p.filePlanner.maxSize = w.maxSize

theorem MadeFrom.plansIn (h : p.MadeFrom c) : p.PlansIn h.window :=
  ⟨rfl, rfl⟩

/-- The file of a footer is planned in the window over the blocks of its size. -/
theorem PlansIn.planFooter_eq {w : SizeWindow} (h : p.PlansIn w) {footer : Footer} {size : Int}
    (hsize : storage.fileSize footer.path = .ok size) :
    p.planFooter storage footer =
      let blocks := p.layout.blocks size 0 none
      let planned : Journal PlanningError (List Split) :=
        w.statelessPlan footer.rowGroups blocks (p.contextOf footer)
      ⟨.blocksListed size blocks.length p.layout.blockSize :: planned.events, planned.outcome⟩ := by
  have hlisted : p.layout.listFileBlocks storage footer.path 0 none =
      ⟨[.blocksListed size (p.layout.blocks size 0 none).length p.layout.blockSize],
        .ok (p.layout.blocks size 0 none)⟩ := by
    unfold BlockLayout.listFileBlocks
    rw [hsize]
    rfl
  have hplanned : p.filePlanner.plan footer.rowGroups (p.layout.blocks size 0 none)
      (some footer.schema) (some footer.path) footer.keyValues =
        w.statelessPlan footer.rowGroups (p.layout.blocks size 0 none) (p.contextOf footer) := by
    unfold FilePlanner.plan
    rw [h.minSize_eq, h.maxSize_eq]
    exact planRowGroups_eq_statelessPlan w _ _ _
  unfold planFooter
  rw [hlisted, Journal.bind_of_ok rfl, hplanned]
  rfl

theorem MadeFrom.planFooter_eq (h : p.MadeFrom c) {footer : Footer} {size : Int}
    (hsize : storage.fileSize footer.path = .ok size) :
    p.planFooter storage footer =
      let blocks := p.layout.blocks size 0 none
      let planned : Journal PlanningError (List Split) :=
        h.window.statelessPlan footer.rowGroups blocks (p.contextOf footer)
      ⟨.blocksListed size blocks.length p.layout.blockSize :: planned.events, planned.outcome⟩ :=
  h.plansIn.planFooter_eq hsize

end JobPlanner

/-- Metadata that can be read are reported as read and then checked. -/
theorem Storage.loadFooter_of_metadata {storage : Storage} {path : String}
    {metadata : FileMetadata} (h : storage.metadata path = .ok metadata) :
    storage.loadFooter path =
      ⟨[.footerRead path metadata.rowGroups.length metadata.rowCount],
        (Footer.ofMetadata path metadata).mapError .footer⟩ := by
  unfold Storage.loadFooter
  rw [h, Journal.bind_of_ok rfl, Journal.bind_of_ok rfl]
  rfl

/-- A regular file of a storage with metadata that pass the checks of a footer. -/
structure SoundFile (storage : Storage) where
  path : String
  metadata : FileMetadata
  footer : Footer
  size : Int
  metadata_eq : storage.metadata path = .ok metadata
  footer_eq : Footer.ofMetadata path metadata = .ok footer
  fileSize_eq : storage.fileSize path = .ok size

namespace SoundFile

variable {storage : Storage} (file : SoundFile storage)

@[simp] theorem path_footer : file.footer.path = file.path :=
  (Footer.toRowGroups_of_ofMetadata file.footer_eq).1

theorem fileSize_footer : storage.fileSize file.footer.path = .ok file.size := by
  rw [file.path_footer, file.fileSize_eq]

theorem loadFooter_eq :
    storage.loadFooter file.path =
      ⟨[.footerRead file.path file.metadata.rowGroups.length file.metadata.rowCount],
        .ok file.footer⟩ := by
  rw [Storage.loadFooter_of_metadata file.metadata_eq, file.footer_eq]
  rfl

end SoundFile

namespace JobPlanner

variable {p : JobPlanner} {c : Configuration} {storage : Storage}

def MadeFrom.splitsOf (h : p.MadeFrom c) (file : SoundFile storage) : List Split :=
  h.window.statelessSplits file.footer.rowGroups (p.layout.blocks file.size 0 none)
    (p.contextOf file.footer)

theorem MadeFrom.planFile_outcome (h : p.MadeFrom c) (file : SoundFile storage) :
    (p.planFile storage file.path).outcome = .ok (h.splitsOf file) := by
  unfold planFile
  rw [file.loadFooter_eq, Journal.bind_of_ok rfl, h.planFooter_eq file.fileSize_footer,
    Journal.bind_of_ok rfl]
  rfl

/-! ## Many files -/

theorem MadeFrom.planEach_eq (h : p.MadeFrom c) (files : List (SoundFile storage)) :
    p.planEach storage (files.map SoundFile.path) =
      ⟨files.flatMap fun file ↦ (p.planFile storage file.path).events,
        .ok (files.flatMap h.splitsOf)⟩ := by
  induction files with
  | nil => rfl
  | cons file files ih =>
    rw [List.map_cons, planEach, Journal.bind_of_ok (h.planFile_outcome file), ih,
      Journal.bind_of_ok rfl]
    simp

/-- Behind the plans of the files the totals are reported. -/
theorem MadeFrom.planFiles_eq (h : p.MadeFrom c) (files : List (SoundFile storage)) :
    p.planFiles storage (files.map SoundFile.path) =
      let plan : Plan := ⟨files.flatMap h.splitsOf⟩
      ⟨(files.flatMap fun file ↦ (p.planFile storage file.path).events) ++
          [.jobPlanned plan.size files.length plan.byteCount plan.rowCount], .ok plan⟩ := by
  unfold planFiles
  rw [h.planEach_eq, Journal.bind_of_ok rfl, List.length_map]
  rfl

end JobPlanner

end SplitPlanning
