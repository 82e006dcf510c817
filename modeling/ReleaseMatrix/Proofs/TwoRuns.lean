import ReleaseMatrix.Proofs.PackageAgreement
import ReleaseMatrix.Proofs.ReportedFiles

namespace ReleaseMatrix

open Workspace (Within)
open FileTree (usable)

namespace Workspace

variable {w : Workspace} {p : Path} {l : Location} {name : String}

theorem isFile_join_of_file (leads : w.Leads p l) (valid : IsName name) (fits : usable p name = .ok ()) {e : Entry}
    (there : w.files.get? (l ++ [name]) = some e) (file : e.isFile) : w.isFile (p.join name) = true := by
  rw [isFile, entry?, find_join_of_file leads valid fits there file]
  exact file

theorem isFile_join_of_free (leads : w.Leads p l) (valid : IsName name) (free : w.files.get? (l ++ [name]) = none) :
    w.isFile (p.join name) = false := by
  by_contra file
  obtain ⟨e, there, -⟩ := exists_of_isFile_join leads valid (by simpa using file)
  simp [free] at there

end Workspace

/-- The packages that a report tells of, each with its target. -/
def Report.packageEntries (report : Report) : List (Target × PackageReport) :=
  report.targets.flatMap fun t => t.packages.map (t.target, ·)

theorem Report.Accounts.packageEntries {report : Report} {o : Outcomes Archive} {results : List PackageResult}
    (accounts : report.Accounts o results) :
    report.packageEntries = results.map fun r => (r.target, PackageReport.ofResult r) :=
  accounts.packages

namespace Packaging

variable {p : Packaging} {c : Catalog} {base : FileTree} {here proj out k : Location} {w : Workspace} {name : String}
variable {o : Outcomes Archive}

namespace Site

variable (site : p.Site base here proj out)
include site

/-- Collecting packages changes nothing below a directory for a package. -/
theorem not_collected_scratch (rests : w.Rests base here) {n : Nat} (inside : out ++ [PackageScratch.nameOf n] <+: k) :
    ¬ CollectionArea proj out w k := by
  rintro ⟨apart, name, loose, above | above⟩
  · obtain high | high | ⟨same, -⟩ := Release.prefix_concat above inside
    · exact site.not_above_out rests loose high
    · have way := site.away _ (isPackagingName_nameOf n) proj _ high site.leadsProject.directory
      cases way
    · exact apart same
  · have shape := List.prefix_of_prefix_length_le above inside (by simp)
    obtain rfl : name = PackageScratch.nameOf n := by simpa using shape.eq_of_length (by simp)
    have other := PackageScratch.not_isPackageName (PackageScratch.isWorkName_nameOf n)
    simp [loose.1] at other

/-- Packages can be made again after a run. -/
theorem blank_finish (blank : PackageBuilder.Blank base here out w) (names : ∀ name, Loose proj w name → IsName name)
    (noLink : ∀ target, w.files.get? (out ++ [Checksums.manifestName]) ≠ some (.link target))
    (alone : w.files.Alone (out ++ [Checksums.manifestName])) (o : Outcomes Archive) (results : List PackageResult) :
    PackageBuilder.Blank base here out ((p.finish o results).run w).2 := by
  have within := site.within_finish blank.rests names noLink alone o results
  have away {n : Nat} {k : Location} (inside : out ++ [PackageScratch.nameOf n] <+: k) :
      ¬ (CollectionArea proj out w k ∨ out ++ [Checksums.manifestName] <+: k) := by
    rintro (collected | manifest)
    · exact site.not_collected_scratch blank.rests inside collected
    · have shape := List.prefix_of_prefix_length_le inside manifest (by simp)
      have same : PackageScratch.nameOf n = Checksums.manifestName := by simpa using shape.eq_of_length (by simp)
      have packaging := isPackagingName_nameOf n
      rw [same, not_isPackagingName_manifestName] at packaging
      cases packaging
  have collected := (site.collected_run blank.rests names).1
  have free : ¬ CollectionArea proj out w (out ++ [Checksums.manifestName]) :=
    site.not_collectionArea blank.rests fun loose => not_isPackageName_manifestName loose.1
  have written := site.within_manifest (site.rests_of_collection blank.rests collected.within)
    (by rwa [collected.within.files _ free]) (collected.within.alone _ free alone)
  refine ⟨⟨site.rests_of_finish blank.rests within, fun n _ => ?_⟩, fun n => ?_, fun name e package there => ?_⟩
  · exact (blank.vacant n (blank.free n)).congr fun k inside _ =>
      ⟨within.files k (away inside), within.alone k (away inside)⟩
  · exact (within.files _ (away (List.prefix_refl _))).trans (blank.free n)
  · have unwritten : ¬ out ++ [Checksums.manifestName] <+: out ++ [name] := fun inside => by
      obtain rfl : Checksums.manifestName = name := by simpa using inside.eq_of_length (by simp)
      exact not_isPackageName_manifestName package
    rw [left_finish, gatheredIn, written.files _ unwritten] at there
    obtain same | ⟨d, stands, file⟩ := collected.replaced name
    · exact blank.files name e package (same.symm.trans there)
    · exact Option.some_inj.mp (there.symm.trans stands) ▸ file

end Site

theorem exec_run_of_made {u : Workspace} (made : (Files.makeDirectories p.config.outDir).exec w = (.ok (), u)) :
    (p.run c).exec w =
      let packed := (p.packageBuilder.buildEach (p.existing c u).successes).run u
      let finished := (p.finish (p.existing c u) packed.1).run packed.2
      (.ok finished.1, finished.2) := by
  rw [run, TaskM.exec_bind, TaskM.exec_describe, made]
  dsimp only [Except.mapError]
  rw [TaskM.exec_bind, TaskM.exec_get]
  rfl

/-- If an earlier run left the archives of outcomes and no others, then what it left are those whose targets are
packaged. -/
theorem successes_existing (order : o.entries.map Prod.fst = c.targets)
    (left : ∀ entry ∈ o.entries, (p.existingArchive w entry.1).toOption = entry.2.toOption) :
    (p.existing c w).successes = o.successes.filter fun a => PackageSpec.isApplicable a.target p.config.formats := by
  have own (t : Target) (a : Archive) (found : (p.existingArchive w t).toOption = some a) : a.target = t := by
    rw [existingArchive] at found
    split at found
    · exact (Option.some_inj.mp found) ▸ rfl
    · cases found
  have all : o.successes = c.targets.filterMap fun t => (p.existingArchive w t).toOption := by
    rw [Outcomes.successes, ← order, List.filterMap_map]
    refine List.filterMap_congr fun entry member => ?_
    rw [Function.comp_apply, left entry member]
  rw [all, existing, Outcomes.successes, List.filterMap_map, applicable, List.filter_filterMap, List.filterMap_filter]
  refine List.filterMap_congr fun t _ => ?_
  cases found : (p.existingArchive w t).toOption with
  | none => simp [found]
  | some a => simp [found, own t a found, Option.filter]

end Packaging

namespace Release

/-- The same release without its packages. -/
def skipping (r : Release) : Release :=
  { r with config := { r.config with skipNative := true } }

/-- A release that makes no packages and then packaging alone have come to what one release comes to: the same packages,
and none for a target that failed. -/
structure Repackages (r : Release) (one first native : Report) : Prop where
  same : native.packageEntries = one.packageEntries
  unpackaged : first.packageEntries = []
  failed : ∀ t ∈ one.targets, t.isFailed → PackageSpec.isApplicable t.target r.config.formats →
    t.packages = [] ∧ ∃ s ∈ native.targets, s.target = t.target ∧ s.packages = [] ∧
      s.outcome = .error (TargetFailure.archive (.missing (Stage.archivePath r t.target))).message

variable {r : Release} {c : Catalog} {targets : List Target} {scratch proj out : Location} {u w x y : Workspace}
variable {o : Outcomes Archive} {t : Target} {jobs : Nat} {crew : Crew}

theorem exec_run_of_prepare (prepared : r.prepare.exec w = (.ok (), u)) : (r.run c).exec w =
    let built := (r.buildArchives c.targets).run u
    (.ok ((r.settle built.1).run built.2).1, ((r.settle built.1).run built.2).2) := by
  rw [run, TaskM.exec_bind, prepared]
  rfl

theorem run_settle_skipping (r : Release) (o : Outcomes Archive) (w : Workspace) :
    (r.skipping.settle o).run w = (r.packaging.finish o []).run (r.swept w) := by
  rfl

/-- Building is the same with and without packages. -/
theorem next_skipping (r : Release) (t : Target) (stage : Stage) (w : Workspace) :
    stage.next r.skipping t w = stage.next r t w := by
  cases stage <;> rfl

/-- Workers whose archives are not packaged do what they do otherwise. -/
theorem Crew.Reach.of_skipping {breaks : Target → Prop} {start : Crew}
    (reach : Crew.Reach r.skipping targets scratch out breaks start crew) :
    Crew.Reach r targets scratch out breaks start crew := by
  induction reach with
  | start => exact .start
  | next _ step ih =>
    refine ih.next ?_
    cases step with
    | start step => exact .start step
    | advance running at_i atStage =>
      rw [next_skipping]
      exact .advance running at_i atStage
    | fail running at_i breaking failed within tidy =>
      exact .fail running at_i breaking failed within ⟨tidy.noLink, tidy.alone⟩
    | finish at_i done step => exact .finish at_i done step
    | join step => exact .join step

/-- What an earlier build left: the archives of its outcomes, the same as in other files, and none of a target that
failed. -/
structure Leaves (r : Release) (out : Location) (o : Outcomes Archive) (x y : Workspace) : Prop where
  archives : ∀ t a, (t, .ok a) ∈ o.entries → a = ⟨t, r.config.version, Stage.archivePath r t⟩ ∧
    usable r.config.outDir (Archive.fileName r.config.product r.config.version t) = .ok () ∧
    ∃ e, e.isFile ∧ x.files.get? (r.archivePlace out t) = some e ∧ y.files.get? (r.archivePlace out t) = some e
  missing : ∀ t e, (t, .error e) ∈ o.entries → y.files.get? (r.archivePlace out t) = none

namespace Premises

variable (premises : r.Premises targets scratch proj out u)
include premises

/-- Packages can be made after the builds where there was nothing in the output directory before. -/
theorem blank_swept (empty : ∀ name, u.files.get? (out ++ [name]) = none)
    (built : Within (fun k => ∃ t ∈ targets, r.Area scratch out t k) u x) :
    PackageBuilder.Blank (r.remains targets scratch proj out u) u.directory out (r.swept x) := by
  have start := premises.within_start built
  have free (name : String) (spare : isSpareName name) : (r.swept x).files.get? (out ++ [name]) = none :=
    (start.files _ (premises.not_spent_of_spare spare (List.prefix_refl _))).trans (empty name)
  refine ⟨premises.ready start, fun n => free _ (isSpareName_of_isPackagingName (isPackagingName_nameOf n)),
    fun name e package there => ?_⟩
  rw [free _ (isSpareName_of_isPackagingName (isPackagingName_of_isPackageName package))] at there
  cases there

variable (empty : ∀ name, u.files.get? (out ++ [name]) = none) (names : ∀ t ∈ targets, IsName t.id)
  (order : o.entries.map Prod.fst = targets)
  (builtX : Within (fun k => ∃ t ∈ targets, r.Area scratch out t k) u x)
  (builtY : Within (fun k => ∃ t ∈ targets, r.Area scratch out t k) u y) (leaves : r.Leaves out o x y)
include empty builtY

/-- After a run without packages, packages can be made. -/
theorem blank_first (o : Outcomes Archive) :
    PackageBuilder.Blank (r.remains targets scratch proj out u) u.directory out ((r.skipping.settle o).run y).2 := by
  have start := premises.within_start builtY
  obtain ⟨noLink, alone⟩ := premises.manifest start
  rw [run_settle_skipping]
  exact premises.site.blank_finish (premises.blank_swept empty builtY) (fun _ => premises.isName_of_loose start) noLink
    alone o []

/-- A run without packages leaves the archives where the builds left them. -/
theorem first_kept (t : Target) :
    ((r.skipping.settle o).run y).2.files.get? (r.archivePlace out t) = y.files.get? (r.archivePlace out t) := by
  have start := premises.within_start builtY
  obtain ⟨noLink, alone⟩ := premises.manifest start
  have staged := (premises.blank_swept empty builtY).toReady.staged (b := r.packaging.packageBuilder)
  have kept := premises.site.finish_kept staged (fun _ => premises.isName_of_loose start) noLink alone o []
    (@Archive.not_isSpareName_fileName r.config.product r.config.version t)
  rw [run_settle_skipping]
  exact kept.trans (premises.swept_kept builtY Archive.fileName_ne_defaultScratchDir)

include names order leaves

/-- Packaging alone finds the archives of the run before it. -/
theorem existing_first {outcome : Except TargetFailure Archive} (member : (t, outcome) ∈ o.entries) :
    r.packaging.existingArchive ((r.skipping.settle o).run y).2 t =
      outcome.mapError fun _ => .archive (.missing (Stage.archivePath r t)) := by
  have listed : t ∈ targets := order ▸ List.mem_map_of_mem member
  have valid : IsName (Archive.fileName r.config.product r.config.version t) :=
    (premises.ground.site names).isName_archive listed
  have kept := premises.first_kept empty builtY (o := o) t
  have leads := (premises.blank_first empty builtY o).rests.leads premises.site.leadsOut
  have path : r.packaging.archiver.path r.packaging.config.version t =
      r.packaging.config.outDir.join (Archive.fileName r.config.product r.config.version t) := rfl
  unfold Packaging.existingArchive
  dsimp only
  cases outcome with
  | ok a =>
    obtain ⟨rfl, fits, e, file, -, there⟩ := leaves.archives t a member
    rw [path, Workspace.isFile_join_of_file leads valid fits (kept.trans there) file]
    rfl
  | error e =>
    rw [path, Workspace.isFile_join_of_free leads valid (kept.trans (leaves.missing t e member))]
    rfl

variable (nodup : targets.Nodup) (plain : r.packager.Plain) (faithful : r.packager.Faithful)
include builtX plain faithful

/-- The archives of the first run come to the same packages as those of one run. -/
theorem same_packages (native : r.config.skipNative = false) (all : targets = c.targets) :
    ((r.packaging.packageBuilder.buildEach
      (r.packaging.existing c ((r.skipping.settle o).run y).2).successes).run ((r.skipping.settle o).run y).2).1 =
      (r.packed o x).1 := by
  have site := premises.site
  have alike : r.packaging.packageBuilder.Alike (r.remains targets scratch proj out u) u.directory out o.successes
      (r.swept x) ((r.skipping.settle o).run y).2 := by
    refine ⟨premises.blank_swept empty builtX, premises.blank_first empty builtY o, fun a member => ?_⟩
    obtain ⟨t, listed⟩ := Outcomes.mem_entries_of_mem_successes member
    obtain ⟨rfl, -, e, file, thereX, thereY⟩ := leaves.archives t a listed
    have isTarget : t ∈ targets := order ▸ List.mem_map_of_mem listed
    have foreign := @Archive.not_isSpareName_fileName r.config.product r.config.version t
    rw [isSpareName, Bool.or_eq_false_iff] at foreign
    exact ⟨_, e, (premises.ground.site names).isName_archive isTarget, foreign.1, rfl, file,
      (premises.swept_kept builtX Archive.fileName_ne_defaultScratchDir).trans thereX,
      (premises.first_kept empty builtY t).trans thereY⟩
  have versions : ∀ a ∈ o.successes, '/' ∉ a.version.toList := fun a member => by
    obtain ⟨t, listed⟩ := Outcomes.mem_entries_of_mem_successes member
    obtain ⟨rfl, -⟩ := leaves.archives t a listed
    exact site.version
  have found : (r.packaging.existing c ((r.skipping.settle o).run y).2).successes =
      o.successes.filter fun a => PackageSpec.isApplicable a.target r.packaging.config.formats := by
    refine Packaging.successes_existing (order.trans all) fun entry member => ?_
    rw [premises.existing_first empty names order builtY leaves member]
    cases entry.2 <;> rfl
  have proper : out.IsProper :=
    premises.yard.wellFormed.proper out .directory ((u.rests_without _).keeps _ _ rfl premises.yard.leadsOut.directory)
  rw [found]
  calc
    _ = ((r.packaging.packageBuilder.buildEach o.successes).run ((r.skipping.settle o).run y).2).1 :=
      congrArg Prod.fst (PackageBuilder.buildEach_filter r.packaging.packageBuilder o.successes _)
    _ = ((r.packaging.packageBuilder.buildEach o.successes).run (r.swept x)).1 :=
      (site.toSite.buildEach_agrees proper plain faithful versions alike).symm
    _ = (r.packed o x).1 := by
      rw [packed, buildPackages, native]
      rfl

/-- Packaging what a run without packages left repeats what one run comes to. -/
theorem repackages (nodup : c.targets.Nodup) (native : r.config.skipNative = false) (all : targets = c.targets)
    (made : ((Files.makeDirectories r.config.outDir).exec w).1 = .ok ()) :
    ∃ report z, (r.packaging.run c).exec ((r.skipping.settle o).run y).2 = (.ok report, z) ∧
      r.Repackages ((r.settle o).run x).1 ((r.skipping.settle o).run y).1 report := by
  have leads := (premises.blank_first empty builtY o).rests.leads premises.site.leadsOut
  have again : (Files.makeDirectories r.packaging.config.outDir).exec ((r.skipping.settle o).run y).2 =
    (.ok (), ((r.skipping.settle o).run y).2) := Files.makeDirectories_again made leads
  have packages := premises.same_packages empty names order builtX builtY leaves plain faithful native all
  have own : o.Own := fun ⟨t, outcome⟩ member a same => by
    obtain rfl : outcome = .ok a := same
    rw [(leaves.archives t a member).1]
  subst all
  obtain ⟨listed, one⟩ := Packaging.accounts_finish order nodup own (r.packaged_buildPackages o.successes (r.swept x)).inOrder
    r.packaging (r.packed o x).2
  obtain ⟨-, first⟩ := Packaging.accounts_finish order nodup own (.nil _) r.packaging (r.swept y)
  have ended := r.packaging.packageBuilder.ended_buildEach
    (r.packaging.existing c ((r.skipping.settle o).run y).2).successes ((r.skipping.settle o).run y).2
  obtain ⟨-, later⟩ := Packaging.accounts_finish (r.packaging.order_existing c _) (nodup.filter _)
    (r.packaging.own_existing c _) (PackageResult.inOrder_of_ended ended) r.packaging
    ((r.packaging.packageBuilder.buildEach
      (r.packaging.existing c ((r.skipping.settle o).run y).2).successes).run ((r.skipping.settle o).run y).2).2
  have unpackaged : ((r.skipping.settle o).run y).1.packageEntries = [] := by
    rw [run_settle_skipping]
    exact first.packageEntries
  refine ⟨_, _, Packaging.exec_run_of_made again, ?_⟩
  refine ⟨?_, unpackaged, fun t member failed applies => ?_⟩
  · rw [later.packageEntries, packages]
    exact one.packageEntries.symm
  have none := (one.failed t member failed).2
  rw [run_settle, Packaging.targets_finish] at member
  obtain ⟨⟨s, outcome⟩, entry, rfl⟩ := List.mem_map.mp member
  cases outcome with
  | ok a => cases failed
  | error e =>
    have left : r.packaging.existingArchive ((r.skipping.settle o).run y).2 s =
      .error (.archive (.missing (Stage.archivePath r s))) :=
        premises.existing_first empty names order builtY leaves entry
    have isTarget : s ∈ c.targets := order ▸ List.mem_map_of_mem entry
    have found : (s, .error (.archive (.missing (Stage.archivePath r s)))) ∈
        (r.packaging.existing c ((r.skipping.settle o).run y).2).entries :=
      List.mem_map.mpr ⟨s, List.mem_filter.mpr ⟨isTarget, applies⟩, congrArg (Prod.mk s) left⟩
    have told (results : List PackageResult) (z : Workspace) :
        TargetReport.ofOutcome s (.error (.archive (.missing (Stage.archivePath r s)))) results ∈
          ((r.packaging.finish (r.packaging.existing c ((r.skipping.settle o).run y).2) results).run z).1.targets := by
      rw [Packaging.targets_finish]
      exact List.mem_map_of_mem found
    exact ⟨none, _, told _ _, rfl, (later.failed _ (told _ _) rfl).2, rfl⟩

end Premises

variable {breaks : Target → Prop} {o' : Outcomes Archive} {jobs' : Nat} {crew' : Crew}

/-- A crew leaves the archives of its outcomes, and none of a target that failed if there was none before. -/
theorem Crew.Reach.leaves (confined : r.compiler.Confined) (nodup : targets.Nodup) (names : ∀ t ∈ targets, IsName t.id)
    (ground : r.Ground targets scratch out u) (empty : ∀ name, u.files.get? (out ++ [name]) = none)
    (sound : ∀ t ∈ targets, ¬ breaks t)
    (reach : Crew.Reach r targets scratch out breaks (.initial jobs targets u) crew)
    (returned : crew.pool.outcomes? targets = some o) : r.Leaves out o crew.workspace crew.workspace := by
  have draftable (t : Target) (_ : t ∈ targets) : r.Draftable out t u := fun e found => by
    rw [draftPlace, empty] at found
    cases found
  refine ⟨fun t a member => ?_, fun t e member => ?_⟩
  · obtain ⟨-, -, fits, content, executable, -, there⟩ :=
      reach.stands confined nodup names ground draftable returned member
    exact ⟨(reach.outcomes returned).2 t a member, fits, _, rfl, there, there⟩
  · obtain ⟨i, ending, at_i, done, settled⟩ := reach.exists_ending returned member
    have nameless : (Stage.done ending).isNamed = false := by
      cases ending with
      | error _ => rfl
      | ok _ => cases settled
    rw [reach.unnamed confined nodup names ground draftable i t _ at_i (sound t (List.mem_of_getElem? at_i)) done
      nameless]
    exact empty _

/-- Where the archives are the same as in other files, so is what was left there. -/
theorem Leaves.congr (leaves : r.Leaves out o x x) (order : o.entries.map Prod.fst = targets)
    (same : ∀ t ∈ targets, x.files.get? (r.archivePlace out t) = y.files.get? (r.archivePlace out t)) :
    r.Leaves out o x y where
  archives t a member := by
    obtain ⟨own, fits, e, file, there, -⟩ := leaves.archives t a member
    exact ⟨own, fits, e, file, there, (same t (order ▸ List.mem_map_of_mem member)).symm.trans there⟩
  missing t e member := (same t (order ▸ List.mem_map_of_mem member)).symm.trans (leaves.missing t e member)

/-- Two crews, each with its own workers and in its own order, come to the same outcomes and the same archives. -/
theorem Crew.Reach.same_outcomes {ids : List String} (accepted : Catalog.ofIds ids = .ok c)
    (confined : r.compiler.Confined) (reads : r.compiler.Reads fun k => ¬ scratch <+: k ∧ ¬ out <+: k)
    (ground : r.Ground c.targets scratch out u) (rooted : ∀ t ∈ c.targets, Rooted scratch t u)
    (reach : Crew.Reach r c.targets scratch out (fun _ => False) (.initial jobs c.targets u) crew)
    (returned : crew.pool.outcomes? c.targets = some o)
    (reach' : Crew.Reach r c.targets scratch out (fun _ => False) (.initial jobs' c.targets u) crew')
    (returned' : crew'.pool.outcomes? c.targets = some o') :
    o = o' ∧ ∀ t ∈ c.targets,
      crew.workspace.files.get? (r.archivePlace out t) = crew'.workspace.files.get? (r.archivePlace out t) := by
  obtain ⟨nodup, -⟩ := Catalog.targets_of_ofIds accepted
  have order := (reach.outcomes returned).1
  have order' := (reach'.outcomes returned').1
  have installs := confined.installs r.config.product
  have depends := reads.depends confined.toEnclosed
  have alone (t : Target) (member : t ∈ c.targets) : o.get? t = o'.get? t ∧
      crew.workspace.files.get? (r.archivePlace out t) = crew'.workspace.files.get? (r.archivePlace out t) := by
    obtain ⟨outcome, archive⟩ :=
      (reach.mono fun _ => False.elim).works_alone accepted installs depends ground (rooted t member) member returned
    obtain ⟨outcome', archive'⟩ :=
      (reach'.mono fun _ => False.elim).works_alone accepted installs depends ground (rooted t member) member returned'
    exact ⟨outcome.trans outcome'.symm,
      (archive _ (List.prefix_refl _)).trans (archive' _ (List.prefix_refl _)).symm⟩
  refine ⟨Outcomes.eq_of_get? (order.trans order'.symm) (order ▸ nodup) fun t listed => ?_,
    fun t member => (alone t member).2⟩
  exact (alone t (order ▸ listed)).1

/-- Packaging alone, in the files that a run left, repeats the packages of another run. -/
def Repeats (r : Release) (c : Catalog) (one : Report) (first : Report × Workspace) : Prop :=
  ∃ report z, (r.packaging.run c).exec first.2 = (.ok report, z) ∧ r.Repackages one first.1 report

end Release

/-- A packager that puts the same entry under the same name for the same request is faithful. -/
theorem Packager.faithful_of_put {p : Packager} {name : PackageRequest → String} {entry : PackageRequest → Entry}
    (puts : ∀ q dir w l, w.Leads dir l → (p.pack q dir).exec w = match FileTree.checkPath dir with
      | .ok _ => (.ok (), FileM.changed w (·.put (l ++ [name q]) (entry q)))
      | .error fault => (.error (.failed (.files dir fault.message)), w)) : p.Faithful := by
  intro q dir w v l leads leads' vacant vacant' same
  have alike (k : Location) (inside : l <+: k) : w.files.get? k = v.files.get? k := by
    by_cases root : k = l
    · rw [root, leads.directory, leads'.directory]
    · rw [(vacant k inside root).1, (vacant' k inside root).1]
  rw [puts q dir w l leads, puts q dir v l leads']
  cases FileTree.checkPath dir with
  | error fault => exact ⟨rfl, alike⟩
  | ok _ =>
    refine ⟨rfl, fun k inside => ?_⟩
    have root : l ++ [name q] ≠ [] := by simp
    simp only [FileM.changed, FileTree.get?_put root, alike k inside]

theorem Packager.faithful_fixed (content : Bytes) : (fixed content).Faithful :=
  faithful_of_put fun _ _ _ _ leads => exec_fixed_of_leads leads

namespace Release

/-- The files of a project that was never released. -/
def unreleased : Workspace :=
  ⟨⟨[(["p"], .directory), (["p", "build.zig"], .file [] false)], []⟩, ["p"], []⟩

/-- The same files once its release has made its directories. -/
def opened : Workspace :=
  ⟨⟨[(["p", ".release-scratch"], .directory), (["p", "pkg"], .directory), (["p"], .directory),
    (["p", "build.zig"], .file [] false)], []⟩, ["p"], []⟩

theorem exec_prepare_unreleased : packaged.prepare.exec unreleased = (.ok (), opened) := by
  have left : (packaged.prepare.exec unreleased).2.files.nodes = opened.files.nodes ∧
      (packaged.prepare.exec unreleased).2.files.groups = [] ∧
      (packaged.prepare.exec unreleased).2.directory = ["p"] ∧
      (packaged.prepare.exec unreleased).2.journal = [] := by
    decide +kernel
  refine TaskM.exec_eq_of_toBool (by decide +kernel) ?_
  obtain ⟨nodes, groups, directory, journal⟩ := left
  generalize (packaged.prepare.exec unreleased).2 = v at *
  obtain ⟨⟨_, _⟩, _, _⟩ := v
  obtain ⟨rfl, rfl, rfl, rfl⟩ : _ ∧ _ ∧ _ ∧ _ := ⟨nodes, groups, directory, journal⟩
  rfl

theorem premises_opened :
    packaged.Premises [⟨"x86-linux"⟩] ["p", ".release-scratch"] ["p"] ["p", "pkg"] opened :=
  premises_of_yard (yard_packaged (by decide +kernel)) rfl (by decide +kernel)

/-- The targets and formats of packages, and whether they were made. -/
def madePackages (report : Report) : List (String × PackageFormat × Bool) :=
  report.packageEntries.map fun entry => (entry.1.id, entry.2.format, entry.2.outcome.toBool)

end Release

/-- A packager that puts a link under the name of its output every time. -/
def Packager.linking (target : Path) : Packager where
  pack q dir := do
    let l ← WorkM.ofTask ((FileM.look (·.locate dir .target)).describe fun fault => .files dir fault.message)
    modify fun w => { w with files := w.files.put (l ++ [q.outputName]) (.link target) }

theorem Packager.faithful_linking (target : Path) : (linking target).Faithful :=
  @faithful_of_put (linking target) PackageRequest.outputName (fun _ => .link target) fun q dir w l leads => by
    rw [linking, TaskM.exec_bind, WorkM.exec_ofTask, TaskM.exec_describe, FileM.exec_look, Workspace.locate, leads.locate]
    cases FileTree.checkPath dir <;> rfl

/-- What a release is given whose packages are others in two runs. -/
structure Release.Discord where
  ids : List String
  project : Path
  compiler : Compiler
  packager : Packager
  nodes : List (Location × Entry)

namespace Release.Discord

def catalog (d : Discord) : Catalog :=
  ⟨d.ids.map Target.mk, none⟩

def release (d : Discord) : Release where
  config := { ReleaseConfig.standard 1 d.project "1" with formats := [.deb] }
  compiler := d.compiler
  packager := d.packager

def start (d : Discord) : Workspace :=
  ⟨⟨(["p"], .directory) :: (["p", "build.zig"], .file [] false) :: d.nodes, []⟩, ["p"], []⟩

/-- Whether two runs come to the packages of one. -/
def told (d : Discord) : Option Bool :=
  let one := (d.release.run d.catalog).exec d.start
  let first := (d.release.skipping.run d.catalog).exec d.start
  let native := (d.release.packaging.run d.catalog).exec first.2
  one.1.toOption.bind fun one => first.1.toOption.bind fun _ => native.1.toOption.map fun native =>
    decide (madePackages native = madePackages one)

/-- The output directory is not there, the packager does the same for the same request and archive, all runs succeed, and
the packages of two runs are not those of one. -/
def Happens (d : Discord) : Prop :=
  Catalog.ofIds d.ids = .ok d.catalog ∧ d.start.exists? d.release.config.outDir = false ∧ d.packager.Faithful ∧
    ∃ one v first x native z, (d.release.run d.catalog).exec d.start = (.ok one, v) ∧
      (d.release.skipping.run d.catalog).exec d.start = (.ok first, x) ∧
      (d.release.packaging.run d.catalog).exec x = (.ok native, z) ∧ native.packageEntries ≠ one.packageEntries

theorem happens_of_told {d : Discord} (faithful : d.packager.Faithful)
    (known : Catalog.ofIds d.ids = .ok d.catalog ∧ d.start.exists? d.release.config.outDir = false)
    (told : d.told = some false) : d.Happens := by
  rw [Discord.told] at told
  rcases run : (d.release.run d.catalog).exec d.start with ⟨error | one, v⟩
  · simp [run, Except.toOption] at told
  rcases run' : (d.release.skipping.run d.catalog).exec d.start with ⟨error | first, x⟩
  · simp [run, run', Except.toOption] at told
  rcases alone : (d.release.packaging.run d.catalog).exec x with ⟨error | native, z⟩
  · simp [run, run', alone, Except.toOption] at told
  refine ⟨known.1, known.2, faithful, one, v, first, x, native, z, run, run', alone, fun same => ?_⟩
  simp [run, run', alone, Except.toOption, madePackages, same] at told

/-- A compiler for one target. -/
def builds (id : String) : Compiler :=
  .fixed ["p", "build.zig"] fun t => if t.id = id then some binary else none

/-- A compiler that puts an archive into the output directory and fails. -/
def archiving : Compiler :=
  .prompt fun q => do
    modify fun w => { w with files := w.files.put ["p", "pkg", "mufiz_1_x86-linux.zip"] (.file [80, 75] false) }
    WorkM.fail (.toolchainFailed q.target.id none)

def all : List Discord := [
  -- The output directory is a directory that a target is built in, and is removed with it.
  { ids := ["x86-linux", "pkg"], project := ⟨"."⟩, compiler := builds "x86-linux", packager := .fixed [9],
    nodes := [(["p", ".release-scratch"], .link ⟨"."⟩)] },
  -- The path of the output directory goes through the scratch directory.
  { ids := ["x86-linux"], project := ⟨".release-scratch/.."⟩, compiler := builds "x86-linux", packager := .fixed [9],
    nodes := [] },
  -- The compiler leaves an archive of its own.
  { ids := ["x86-linux"], project := ⟨"."⟩, compiler := archiving, packager := .fixed [9], nodes := [] },
  -- Making the output directory makes the way to one that holds an archive.
  { ids := ["x86-linux"], project := ⟨"x/.."⟩, compiler := builds "", packager := .fixed [9],
    nodes := [(["p", "pkg"], .directory), (["p", "pkg", "mufiz_1_x86-linux.zip"], .file [] false)] },
  -- The packager leaves a link to the manifest.
  { ids := ["x86-linux"], project := ⟨"."⟩, compiler := builds "x86-linux", packager := .linking ⟨"../SHA256SUMS"⟩,
    nodes := [] }]

/-- The packages that one run makes. -/
def atOnce (d : Discord) : Option (List (String × PackageFormat × Bool)) :=
  ((d.release.run d.catalog).exec d.start).1.toOption.map madePackages

/-- The packages that are made after a run without any. -/
def inTwo (d : Discord) : Option (List (String × PackageFormat × Bool)) :=
  let first := (d.release.skipping.run d.catalog).exec d.start
  first.1.toOption.bind fun _ => ((d.release.packaging.run d.catalog).exec first.2).1.toOption.map madePackages

theorem told_of {d : Discord} {one two : List (String × PackageFormat × Bool)} (once : d.atOnce = some one)
    (twice : d.inTwo = some two) (other : two ≠ one) : d.told = some false := by
  obtain ⟨report, ended, rfl⟩ := Option.map_eq_some_iff.mp once
  obtain ⟨first, ended', rest⟩ := Option.bind_eq_some_iff.mp twice
  obtain ⟨native, ended'', rfl⟩ := Option.map_eq_some_iff.mp rest
  simp [told, ended, ended', ended'', other]

-- The runs are checked one by one, so that only one of them is held in memory at a time.
theorem atOnce_all : all.Forall₂ (fun d made => d.atOnce = some made)
    [[("x86-linux", .deb, false)], [("x86-linux", .deb, false)], [], [], [("x86-linux", .deb, false)]] := by
  refine .cons ?_ (.cons ?_ (.cons ?_ (.cons ?_ (.cons ?_ .nil)))) <;> decide +kernel

theorem inTwo_all : all.Forall₂ (fun d made => d.inTwo = some made)
    [[], [("x86-linux", .deb, true)], [("x86-linux", .deb, true)], [("x86-linux", .deb, true)],
      [("x86-linux", .deb, true)]] := by
  refine .cons ?_ (.cons ?_ (.cons ?_ (.cons ?_ (.cons ?_ .nil)))) <;> decide +kernel

theorem told_all : ∀ d ∈ all, d.told = some false := by
  have once := atOnce_all
  have twice := inTwo_all
  simp only [all, List.forall₂_cons] at once twice
  simp only [all, List.forall_mem_cons]
  exact ⟨told_of once.1 twice.1 (by simp), told_of once.2.1 twice.2.1 (by simp),
    told_of once.2.2.1 twice.2.2.1 (by simp), told_of once.2.2.2.1 twice.2.2.2.1 (by simp),
    told_of once.2.2.2.2.1 twice.2.2.2.2.1 (by simp), List.forall_mem_nil _⟩

end Release.Discord

end ReleaseMatrix
