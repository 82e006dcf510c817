import ReleaseMatrix.Proofs.Filing
import ReleaseMatrix.Proofs.ReportEntries
import ReleaseMatrix.Proofs.Settling

namespace ReleaseMatrix

theorem Archive.fileName_ne_defaultScratchDir {product version : String} {t : Target} :
    fileName product version t ≠ ReleaseConfig.defaultScratchDir := by
  intro same
  have ends := @suffix_fileName product version t
  rw [same] at ends
  exact absurd ends (by decide)

theorem not_isSpareName_defaultScratchDir : isSpareName ReleaseConfig.defaultScratchDir = false := by decide +kernel

namespace Release

open Workspace (Within)
open FileTree (usable)

/-- The place in a project that the path of the scratch directory names: the directory, or a link to it. -/
def attic (proj : Location) : Location :=
  proj ++ [ReleaseConfig.defaultScratchDir]

/-- Whether a place may have changed once the targets are built and the scratch directory is gone. -/
def isSpent (r : Release) (targets : List Target) (scratch proj out k : Location) : Bool :=
  (attic proj).isPrefixOf k || r.isUsed targets scratch out k

/-- What is left for sure of the files that a release starts from when it packages its archives. -/
def remains (r : Release) (targets : List Target) (scratch proj out : Location) (w : Workspace) : FileTree :=
  w.files.without fun k => r.isSpent targets scratch proj out k || isSparePlace out k

/-- Files that a release can be made in. The targets can be built there, and the archives packaged afterwards: neither
the project directory nor the output directory is in the scratch directory, which is none of the two, and nor is a
path that leads to one of them. -/
structure Premises (r : Release) (targets : List Target) (scratch proj out : Location) (w : Workspace) : Prop where
  ground : r.Ground targets scratch out w
  yard : r.packaging.Yard proj out (r.isSpent targets scratch proj out) w
  scratchDir : r.config.scratchDir = r.config.projectDir.join ReleaseConfig.defaultScratchDir
  apart : scratch ≠ proj
  clear : ∀ name, isSpareName name → ¬ out ++ [name] <+: scratch

/-- The files once the scratch directory is removed. -/
def swept (r : Release) (w : Workspace) : Workspace :=
  ((Files.removeDirectory r.config.scratchDir).exec w).2

/-- The packages that follow the builds, and the files that they leave. -/
def packed (r : Release) (o : Outcomes Archive) (w : Workspace) : List PackageResult × Workspace :=
  (r.buildPackages o.successes).run (r.swept w)

/-- The files when the packages of a release are started on. -/
def unpackaged (r : Release) (c : Catalog) (w : Workspace) : Workspace :=
  r.swept ((r.buildArchives c.targets).run (r.prepare.exec w).2).2

variable {r : Release} {targets : List Target} {scratch proj out k : Location} {w x y z : Workspace} {name : String}
variable {o : Outcomes Archive}

theorem run_settle (r : Release) (o : Outcomes Archive) (w : Workspace) :
    (r.settle o).run w = (r.packaging.finish o (r.packed o w).1).run (r.packed o w).2 := rfl

theorem isSpent_iff : r.isSpent targets scratch proj out k = true ↔
    attic proj <+: k ∨ ∃ t ∈ targets, r.Area scratch out t k := by
  rw [isSpent, Bool.or_eq_true, List.isPrefixOf_iff_prefix, isUsed_eq_true]

theorem isSpent_closed {m : Location} (inside : k <+: m) (spent : r.isSpent targets scratch proj out k) :
    r.isSpent targets scratch proj out m := by
  rw [isSpent_iff] at spent ⊢
  refine spent.imp (·.trans inside) fun ⟨t, member, area⟩ => ⟨t, member, ?_⟩
  exact area.imp (·.trans inside) (Or.imp (·.trans inside) (·.trans inside))

/-- What remains is neither spent nor where packaging puts something. -/
theorem not_spent_of_remains {e : Entry} (found : (r.remains targets scratch proj out w).get? k = some e) :
    ¬ r.isSpent targets scratch proj out k ∧ ¬ isSparePlace out k := by
  by_cases root : k = []
  · subst root
    refine ⟨fun spent => ?_, fun spare => ?_⟩
    · obtain inside | ⟨t, -, area⟩ := isSpent_iff.mp spent
      · simp [attic] at inside
      · exact area.ne_root rfl
    · obtain ⟨name, -, inside⟩ := isSparePlace_iff.mp spare
      simp at inside
  · rw [remains, FileTree.get?_without root] at found
    split at found
    · cases found
    · next free => simpa [not_or] using free

theorem within_spent (proj : Location) (built : Within (fun k => ∃ t ∈ targets, r.Area scratch out t k) w x) :
    Within (fun k => r.isSpent targets scratch proj out k) w x :=
  built.mono fun _ area => isSpent_iff.mpr (.inr area)

theorem rests_of_within (within : Within (fun k => r.isSpent targets scratch proj out k) w x) :
    x.Rests (r.remains targets scratch proj out w) w.directory :=
  within.rests (fun _ _ spent found => absurd spent (not_spent_of_remains found).1) (w.rests_without _)

theorem isName_defaultScratchDir : IsName ReleaseConfig.defaultScratchDir :=
  ⟨by decide, by decide, by decide, by decide⟩

/-- What building packages comes to, if it is not left out. -/
theorem stages_buildPackages {base : FileTree} {here : Location} (site : r.packaging.Site base here proj out)
    (confined : r.packager.Confined) (versions : ∀ a ∈ o.successes, a.version = r.config.version)
    (ready : PackageBuilder.Ready base here out y) :
    r.packaging.packageBuilder.Stages base here out r.config.version y y ((r.buildPackages o.successes).run y).2
      ((r.buildPackages o.successes).run y).1 := by
  unfold buildPackages
  split
  · exact ⟨ready.staged, fun _ member => (nomatch member), fun _ => id⟩
  · exact site.toSite.stages_buildEach confined site.version versions ready.staged

namespace Premises

variable (premises : r.Premises targets scratch proj out w)
include premises

theorem site : r.packaging.Site (r.remains targets scratch proj out w) w.directory proj out :=
  premises.yard.site fun _ _ => isSpent_closed

/-- Nothing is to be prepared where both directories are. -/
theorem exec_prepare : (r.prepare.exec w).2 = w := by
  have made := Files.makeDirectories_of_leads ((w.rests_without _).leads premises.ground.leadsOut)
  rw [prepare, TaskM.exec_bind, TaskM.exec_describe]
  rcases first : (Files.makeDirectories r.config.outDir).exec w with ⟨error | _, u⟩
  all_goals
    rw [first] at made
    obtain rfl : u = w := made
  · rfl
  · change ((Files.makeDirectories r.config.scratchDir).describe ReleaseError.files |>.exec u).2 = u
    rw [TaskM.exec_describe]
    exact Files.makeDirectories_of_leads ((u.rests_without _).leads premises.ground.leadsScratch)

theorem not_spent_out : ¬ r.isSpent targets scratch proj out out :=
  (not_spent_of_remains premises.site.leads.directory).1

theorem not_spent_proj : ¬ r.isSpent targets scratch proj out proj :=
  (not_spent_of_remains premises.site.leadsProject.directory).1

/-- Building the targets and removing the scratch directory changes nothing where packaging puts something. -/
theorem not_spent_of_spare (spare : isSpareName name) (inside : out ++ [name] <+: k) :
    ¬ r.isSpent targets scratch proj out k := fun spent => by
  obtain above | ⟨t, member, above | above | above⟩ := isSpent_iff.mp spent
  · obtain high | high | ⟨-, same⟩ := prefix_concat above inside
    · exact premises.not_spent_out (isSpent_iff.mpr (.inl high))
    · exact (not_spent_of_remains premises.site.leadsProject.directory).2 (isSparePlace_iff.mpr ⟨name, spare, high⟩)
    · rw [← same, not_isSpareName_defaultScratchDir] at spare
      cases spare
  · obtain high | high | ⟨same, -⟩ := prefix_concat above inside
    · exact premises.not_spent_out (isSpent_iff.mpr (.inr ⟨t, member, .inl high⟩))
    · exact premises.clear name spare high
    · exact premises.ground.apart same
  · obtain rfl : Archive.draftName r.config.product r.config.version t = name := by
      have shape := List.prefix_of_prefix_length_le above inside (by simp [draftPlace])
      simpa [draftPlace] using shape.eq_of_length (by simp [draftPlace])
    rw [Archive.not_isSpareName_draftName] at spare
    cases spare
  · obtain rfl : Archive.fileName r.config.product r.config.version t = name := by
      have shape := List.prefix_of_prefix_length_le above inside (by simp [archivePlace])
      simpa [archivePlace] using shape.eq_of_length (by simp [archivePlace])
    rw [Archive.not_isSpareName_fileName] at spare
    cases spare

/-- Removing the scratch directory changes nothing else. -/
theorem within_swept (rests : x.Rests (r.remains targets scratch proj out w) w.directory) :
    Within (attic proj <+: ·) x (r.swept x) := by
  have leads := rests.leads premises.site.leadsProject
  have emptied : (FileM.emptied x (attic proj)).Rests (r.remains targets scratch proj out w) w.directory :=
    (FileM.within_emptied x (attic proj)).rests
      (fun _ _ inside found => absurd (isSpent_iff.mpr (.inl inside)) (not_spent_of_remains found).1) rests
  have removed := FileM.removeTree_join leads (emptied.leads premises.site.leadsProject) isName_defaultScratchDir
  have root : attic proj ≠ [] := by simp [attic]
  rw [swept, Files.exec_removeDirectory, premises.scratchDir]
  split
  · change ((FileM.removeTree (r.config.projectDir.join ReleaseConfig.defaultScratchDir)).exec x) = _ at removed
    rw [removed]
    split
    · exact .refl _ x
    · exact .refl _ x
    · exact FileM.within_erase root
    · exact FileM.within_felled root
    · exact .refl _ x
  · exact .refl _ x

/-- What has changed when the archives are packaged is spent. -/
theorem within_start (built : Within (fun k => ∃ t ∈ targets, r.Area scratch out t k) w x) :
    Within (fun k => r.isSpent targets scratch proj out k) w (r.swept x) :=
  have spent := within_spent proj built
  spent.trans ((premises.within_swept (rests_of_within spent)).mono fun _ inside => isSpent_iff.mpr (.inl inside))

/-- Removing the scratch directory leaves the places in the output directory as they are. -/
theorem swept_kept (built : Within (fun k => ∃ t ∈ targets, r.Area scratch out t k) w x)
    (other : name ≠ ReleaseConfig.defaultScratchDir) :
    (r.swept x).files.get? (out ++ [name]) = x.files.get? (out ++ [name]) := by
  refine (premises.within_swept (rests_of_within (within_spent proj built))).files _ fun above => ?_
  obtain same | high := List.prefix_concat_iff.mp above
  · exact other (by simpa [attic] using (List.append_inj' same rfl).2.symm)
  · exact premises.not_spent_out (isSpent_iff.mpr (.inl high))

/-- Where packages are made, nothing has changed when the archives are packaged. -/
theorem ready (within : Within (fun k => r.isSpent targets scratch proj out k) w y) :
    PackageBuilder.Ready (r.remains targets scratch proj out w) w.directory out y where
  rests := rests_of_within within
  vacant n free := by
    have spare : isSpareName (PackageScratch.nameOf n) := isSpareName_of_isPackagingName (isPackagingName_nameOf n)
    rw [within.files _ (premises.not_spent_of_spare spare (List.prefix_refl _))] at free
    exact (premises.yard.wellFormed.vacant free).congr fun k inside _ =>
      ⟨within.files k (premises.not_spent_of_spare spare inside),
        within.alone k (premises.not_spent_of_spare spare inside)⟩

/-- Building the targets and removing the scratch directory leaves loose packages as they are. -/
theorem not_spent_of_package (package : Collection.isPackageName name) :
    ¬ r.isSpent targets scratch proj out (proj ++ [name]) := fun spent => by
  have spare : isSpareName name := isSpareName_of_isPackagingName (isPackagingName_of_isPackageName package)
  have above (inside : ∃ l, r.isSpent targets scratch proj out l ∧ l <+: proj) : False := by
    obtain ⟨l, spent, inside⟩ := inside
    exact premises.not_spent_proj (isSpent_closed inside spent)
  obtain inside | ⟨t, member, inside | inside | inside⟩ := isSpent_iff.mp spent
  · obtain same | high := List.prefix_concat_iff.mp inside
    · obtain rfl : ReleaseConfig.defaultScratchDir = name := by simpa [attic] using same
      rw [not_isSpareName_defaultScratchDir] at spare
      cases spare
    · exact above ⟨_, isSpent_iff.mpr (.inl (List.prefix_refl _)), high⟩
  · obtain same | high := List.prefix_concat_iff.mp inside
    · exact premises.apart (List.append_inj' same rfl).1
    · exact above ⟨_, isSpent_iff.mpr (.inr ⟨t, member, .inl (List.prefix_refl _)⟩), high⟩
  · obtain same | high := List.prefix_concat_iff.mp inside
    · obtain rfl : Archive.draftName r.config.product r.config.version t = name := by
        simpa using (List.append_inj' same rfl).2
      rw [Archive.not_isSpareName_draftName] at spare
      cases spare
    · exact above ⟨_, isSpent_iff.mpr (.inr ⟨t, member, .inr (.inl (List.prefix_refl _))⟩), high⟩
  · obtain same | high := List.prefix_concat_iff.mp inside
    · obtain rfl : Archive.fileName r.config.product r.config.version t = name := by
        simpa using (List.append_inj' same rfl).2
      rw [Archive.not_isSpareName_fileName] at spare
      cases spare
    · exact above ⟨_, isSpent_iff.mpr (.inr ⟨t, member, .inr (.inr (List.prefix_refl _))⟩), high⟩

variable (within : Within (fun k => r.isSpent targets scratch proj out k) w y)
include within

theorem loose_start (loose : Packaging.Loose proj y name) : Packaging.Loose proj w name := by
  obtain ⟨package, e, there, file⟩ := loose
  exact ⟨package, e, (within.files _ (premises.not_spent_of_package package)).symm.trans there, file⟩

theorem isName_of_loose (loose : Packaging.Loose proj y name) : IsName name :=
  premises.yard.isName_of_loose (premises.loose_start within loose)

theorem manifest : (∀ target, y.files.get? (out ++ [Checksums.manifestName]) ≠ some (.link target)) ∧
    y.files.Alone (out ++ [Checksums.manifestName]) := by
  have unspent := premises.not_spent_of_spare isSpareName_manifestName (List.prefix_refl _)
  rw [within.files _ unspent]
  exact ⟨premises.yard.noLink, within.alone _ unspent premises.yard.alone⟩

omit within
variable (confined : r.packager.Confined) (built : Within (fun k => ∃ t ∈ targets, r.Area scratch out t k) w x)
  (versions : ∀ a ∈ o.successes, a.version = r.config.version)
include confined built versions

/-- What building packages comes to after the builds. -/
theorem stages_packed : r.packaging.packageBuilder.Stages (r.remains targets scratch proj out w) w.directory out
    r.config.version (r.swept x) (r.swept x) (r.packed o x).2 (r.packed o x).1 :=
  stages_buildPackages premises.site confined versions (premises.ready (premises.within_start built))

/-- The end of a release changes only loose packages, the places they come to, and the manifest. -/
theorem within_settle :
    Within (fun k => Packaging.CollectionArea proj out (r.packed o x).2 k ∨ out ++ [Checksums.manifestName] <+: k)
      (r.packed o x).2 ((r.settle o).run x).2 := by
  have start := premises.within_start built
  obtain ⟨noLink, alone⟩ := premises.manifest start
  exact premises.site.within_finish_of_staged (premises.stages_packed confined built versions).staged
    (fun _ => premises.isName_of_loose start) noLink alone o (r.packed o x).1

theorem rests_settle : ((r.settle o).run x).2.Rests (r.remains targets scratch proj out w) w.directory :=
  premises.site.rests_of_finish (premises.stages_packed confined built versions).staged.ready.rests
    (premises.within_settle confined built versions)

/-- What follows the builds changes nothing in the output directory but what has a name that it gives itself. -/
theorem settle_kept (foreign : isSpareName name = false) (other : name ≠ ReleaseConfig.defaultScratchDir) :
    ((r.settle o).run x).2.files.get? (out ++ [name]) = x.files.get? (out ++ [name]) := by
  have start := premises.within_start built
  obtain ⟨noLink, alone⟩ := premises.manifest start
  rw [run_settle, premises.site.finish_kept (premises.stages_packed confined built versions).staged
      (fun _ => premises.isName_of_loose start) noLink alone o _ foreign, premises.swept_kept built other]

end Premises

end Release

end ReleaseMatrix
