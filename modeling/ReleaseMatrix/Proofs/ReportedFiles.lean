import ReleaseMatrix.Proofs.WholeRun

namespace ReleaseMatrix

open Workspace (Within)
open FileTree (usable)

/-- Every archive that a report tells of is a file where the report says, with a content that was made for its
target. -/
def Report.HasArchives (report : Report) (made : Target → Bytes → Prop) (w : Workspace) : Prop :=
  ∀ t ∈ report.targets, ∀ p, t.outcome = .ok p → ∃ l content executable,
    w.find p = .ok (l, .file content executable) ∧ made t.target content

/-- Every package that a report tells of is where the report says, and holds what the packager wrote last for its
target and format since `start`, unless another package lay loose in the project then and has its name. -/
def Report.HasPackages (report : Report) (config : ReleaseConfig) (proj out : Location) (start w : Workspace) :
    Prop :=
  ∀ t ∈ report.targets, ∀ f p, ⟨f, .ok p⟩ ∈ t.packages → ∃ s : PackageSpec, s.target = t.target ∧ s.format = f ∧
    p = config.outDir.join (s.releaseName config.product config.version) ∧
    ((proj ≠ out → ¬ Packaging.Loose proj start (s.releaseName config.product config.version)) →
      ∃ l e content r, w.find p = .ok (l, e) ∧ e.isFile ∧ e.content? = some content ∧ r.spec.target = s.target ∧
        r.spec.format = s.format ∧ start.Notes w (.produced r content))

/-- A package that a target's report tells of is a result. -/
theorem TargetReport.exists_result {t : Target} {outcome : Except TargetFailure Archive}
    {results : List PackageResult} {f : PackageFormat} {p : Path}
    (told : ⟨f, .ok p⟩ ∈ (ofOutcome t outcome results).packages) :
    ∃ r ∈ results, r.target = t ∧ r.format = f ∧ r.outcome = .ok p := by
  obtain ⟨r, listed, same⟩ := List.mem_map.mp told
  obtain ⟨member, own⟩ := List.mem_filter.mp listed
  rw [PackageReport.ofResult, PackageReport.mk.injEq] at same
  refine ⟨r, member, by simpa using own, same.1, ?_⟩
  cases built : r.outcome with
  | error error => simp [built, Except.mapError] at same
  | ok q => simpa [built, Except.mapError] using same.2

namespace Packaging.Site

variable {p : Packaging} {base : FileTree} {here proj out : Location} {start y z : Workspace}
variable {results : List PackageResult} {o : Outcomes Archive}

/-- What is delivered when packages are made is still there at the end. -/
theorem hasPackages (site : p.Site base here proj out) (plain : p.packager.Plain)
    (stages : p.packageBuilder.Stages base here out p.config.version y y z results)
    (names : ∀ name, Loose proj y name → IsName name) (loose : ∀ name, Loose proj y name → Loose proj start name)
    (manifest : (∀ target, y.files.get? (out ++ [Checksums.manifestName]) ≠ some (.link target)) ∧
      y.files.Alone (out ++ [Checksums.manifestName])) (begun : start.journal <+: y.journal) (o : Outcomes Archive) :
    ((p.finish o results).run z).1.HasPackages p.config proj out start ((p.finish o results).run z).2 := by
  have within := site.within_finish_of_staged stages.staged names manifest.1 manifest.2 o results
  have rests := site.rests_of_finish stages.staged.ready.rests within
  intro t member f q told
  rw [targets_finish] at member
  obtain ⟨⟨s, outcome⟩, -, rfl⟩ := List.mem_map.mp member
  obtain ⟨r, listed, rfl, rfl, built⟩ := TargetReport.exists_result told
  obtain ⟨spec, target, format, mapped, rfl, fits, e, content, request, there, file, what, target', format', notes⟩ :=
    stages.made r listed plain q built
  refine ⟨spec, target, format, rfl, fun free => ?_⟩
  have kept :
      ((p.finish o results).run z).2.files.get? (p.packageBuilder.place out spec p.config.version) = some e := by
    rw [within.files _ ?_, there]
    rintro (⟨apart, collected⟩ | written)
    · refine site.not_collectionArea stages.staged.ready.rests (fun lies => ?_) ⟨apart, collected⟩
      exact free apart (loose _ (site.loose_of_staged stages.staged apart lies))
    · have same : Checksums.manifestName = spec.releaseName p.config.product p.config.version := by
        simpa [PackageBuilder.place, packageBuilder] using written.eq_of_length (by simp [PackageBuilder.place])
      have package := spec.isPackageName_releaseName p.config.product p.config.version
      rw [← same] at package
      exact not_isPackageName_manifestName package
  have valid := PackageSpec.isName_releaseName_of_mapped mapped site.product site.version
  exact ⟨_, e, content, request, Workspace.find_join_of_file (rests.leads site.leadsOut) valid fits kept file, file,
    what, target', format', (notes.later within.journal).earlier begun⟩

end Packaging.Site

/-- What is delivered when packages are made in a yard is still there at the end. -/
theorem Packaging.Yard.hasPackages {p : Packaging} {proj out : Location} {y z : Workspace}
    {results : List PackageResult} (yard : p.Yard proj out (fun _ => false) y) (plain : p.packager.Plain)
    (stages : p.packageBuilder.Stages (y.files.without fun k => false || isSparePlace out k) y.directory out
      p.config.version y y z results) (o : Outcomes Archive) :
    ((p.finish o results).run z).1.HasPackages p.config proj out y ((p.finish o results).run z).2 := by
  have site := yard.site fun _ _ _ used => absurd used (by simp)
  exact site.hasPackages plain stages (fun _ => yard.isName_of_loose) (fun _ => id) ⟨yard.noLink, yard.alone⟩
    (List.prefix_refl _) o

namespace Release

variable {r : Release} {targets : List Target} {scratch proj out : Location} {w x : Workspace}
variable {o : Outcomes Archive}

namespace Premises

variable (premises : r.Premises targets scratch proj out w) (confined : r.packager.Confined)
  (built : Within (fun k => ∃ t ∈ targets, r.Area scratch out t k) w x)
  (versions : ∀ a ∈ o.successes, a.version = r.config.version)
include premises confined built versions

/-- The archives that stand when the builds have ended are where the report says. -/
theorem hasArchives (names : ∀ t ∈ targets, IsName t.id) {made : Target → Bytes → Prop}
    (stands : ∀ t a, (t, .ok a) ∈ o.entries →
      t ∈ targets ∧ a.path = Stage.archivePath r t ∧ r.Stands out t (made t) x) :
    ((r.settle o).run x).1.HasArchives made ((r.settle o).run x).2 := by
  intro t member p told
  rw [run_settle, Packaging.targets_finish] at member
  obtain ⟨⟨s, outcome⟩, listed, rfl⟩ := List.mem_map.mp member
  cases outcome with
  | error e => cases told
  | ok a =>
    obtain rfl : a.path = p := Except.ok.inj told
    obtain ⟨target, path, fits, content, executable, known, there⟩ := stands s a listed
    have site := premises.ground.site names
    have other := @Archive.fileName_ne_defaultScratchDir r.config.product r.config.version s
    have kept := premises.settle_kept confined built versions Archive.not_isSpareName_fileName other
    have leads := (premises.rests_settle confined built versions).leads premises.site.leadsOut
    refine ⟨r.archivePlace out s, content, executable, ?_, known⟩
    rw [path]
    exact Workspace.find_join_of_file leads (site.isName_archive target) fits (kept.trans there) rfl

end Premises

variable {breaks : Target → Prop} {jobs : Nat} {crew : Crew}

/-- The archives among the outcomes of a crew stand at their places when it has ended. -/
theorem Crew.Reach.stands (confined : r.compiler.Confined) (nodup : targets.Nodup)
    (names : ∀ t ∈ targets, IsName t.id)
    (ground : r.Ground targets scratch out w) (draftable : ∀ t ∈ targets, r.Draftable out t w)
    (reach : Crew.Reach r targets scratch out breaks (.initial jobs targets w) crew)
    (returned : crew.pool.outcomes? targets = some o) {t : Target} {a : Archive} (member : (t, .ok a) ∈ o.entries) :
    t ∈ targets ∧ a.path = Stage.archivePath r t ∧
      r.Stands out t (Crew.Archived r targets scratch out breaks (.initial jobs targets w) crew t)
        crew.workspace := by
  obtain ⟨i, listed, done⟩ := reach.exists_done returned member
  obtain ⟨rfl, stands⟩ := reach.filed confined nodup names ground draftable i t _ listed done
  exact ⟨List.mem_of_getElem? listed, rfl, stands⟩

/-- Every archive that the report of a release tells of is there when the release has ended, and is the one that was
made for its target then. The release needs an output directory that is not in its scratch directory, which it
removes, and drafts and a manifest that are no links or further names of files. -/
theorem reported_archives {ids : List String} {c : Catalog} (accepted : Catalog.ofIds ids = .ok c)
    (enclosed : r.compiler.Confined) (confined : r.packager.Confined) {u : Workspace}
    (premises : r.Premises c.targets scratch proj out u) (draftable : ∀ t ∈ c.targets, r.Draftable out t u) :
    (∀ breaks jobs crew o, Crew.Reach r c.targets scratch out breaks (.initial jobs c.targets u) crew →
      crew.pool.outcomes? c.targets = some o →
      ((r.settle o).run crew.workspace).1.HasArchives
        (Crew.Archived r c.targets scratch out breaks (.initial jobs c.targets u) crew)
        ((r.settle o).run crew.workspace).2) ∧
    ∀ w report v, r.prepare.exec w = (.ok (), u) → (r.run c).exec w = (.ok report, v) →
      ∃ crew, crew.workspace = ((r.buildArchives c.targets).run u).2 ∧ report.HasArchives
        (Crew.Archived r c.targets scratch out (fun _ => False) (.initial r.config.jobs c.targets u) crew) v := by
  obtain ⟨nodup, triples⟩ := Catalog.targets_of_ofIds accepted
  have names (t : Target) (listed : t ∈ c.targets) : IsName t.id := Target.isName_id (triples t listed)
  have worked (breaks jobs crew o)
      (reach : Crew.Reach r c.targets scratch out breaks (.initial jobs c.targets u) crew)
      (returned : crew.pool.outcomes? c.targets = some o) :
      ((r.settle o).run crew.workspace).1.HasArchives
        (Crew.Archived r c.targets scratch out breaks (.initial jobs c.targets u) crew)
        ((r.settle o).run crew.workspace).2 :=
    premises.hasArchives confined (reach.tended enclosed nodup names premises.ground).frame (reach.versions returned)
      names fun t a member => reach.stands enclosed nodup names premises.ground draftable returned member
  refine ⟨worked, fun w report v prepared run => ?_⟩
  obtain ⟨_, crew, first, reach, returned, left, settled⟩ := exists_crew_of_run run scratch out
  obtain ⟨-, rfl⟩ := Prod.ext_iff.mp (prepared.symm.trans first)
  obtain ⟨rfl, rfl⟩ := Prod.ext_iff.mp settled
  exact ⟨crew, left, worked _ _ crew _ reach returned⟩

end Release

/-- A packager that puts a package with the same content into its directory every time. -/
def Packager.fixed (content : Bytes) : Packager where
  pack q dir := do
    let l ← WorkM.ofTask ((FileM.look (·.locate dir .target)).describe fun fault => .files dir fault.message)
    modify fun w =>
      { w with files := w.files.put (l ++ ["package." ++ q.spec.format.extension]) (.file content false) }

namespace Packager

variable {content : Bytes} {q : PackageRequest} {dir : Path} {w : Workspace} {l : Location}

theorem exec_fixed_of_leads (leads : w.Leads dir l) : ((fixed content).pack q dir).exec w =
    match FileTree.checkPath dir with
    | .ok _ =>
      (.ok (), FileM.changed w (·.put (l ++ ["package." ++ q.spec.format.extension]) (.file content false)))
    | .error fault => (.error (.failed (.files dir fault.message)), w) := by
  rw [fixed, TaskM.exec_bind, WorkM.exec_ofTask, TaskM.exec_describe, FileM.exec_look, Workspace.locate, leads.locate]
  cases FileTree.checkPath dir <;> rfl

theorem plain_fixed (content : Bytes) : (fixed content).Plain where
  within q dir w l leads vacant := by
    rw [exec_fixed_of_leads leads]
    split
    · exact (FileM.within_put (by simp)).mono fun k inside =>
        ⟨(List.prefix_append l _).trans inside, fun same => by
          have := inside.length_le
          rw [same, List.length_append, List.length_singleton] at this
          omega⟩
    · exact .refl _ w
  names q dir w l leads vacant name e found := by
    rw [exec_fixed_of_leads leads] at found
    have none := (vacant (l ++ [name]) (List.prefix_append l _) (by simp)).1
    split at found
    · rw [FileM.changed, FileTree.get?_put (by simp)] at found
      split at found
      · next same =>
        obtain rfl : name = "package." ++ q.spec.format.extension := by simpa using same
        cases q.spec.format <;> decide
      · simp [none] at found
    · simp [none] at found
  noLink q dir w l leads vacant name target := by
    rw [exec_fixed_of_leads leads]
    have none := (vacant (l ++ [name]) (List.prefix_append l _) (by simp)).1
    split
    · rw [FileM.changed, FileTree.get?_put (by simp)]
      split
      · simp
      · simp [none]
    · simp [none]
  alone q dir w l leads vacant name := by
    rw [exec_fixed_of_leads leads]
    have alone := (vacant (l ++ [name]) (List.prefix_append l _) (by simp)).2
    split
    · exact alone.put _ _
    · exact alone
  quiet q dir w := by
    rw [fixed, TaskM.exec_bind, WorkM.exec_ofTask, TaskM.exec_describe, FileM.exec_look]
    cases w.locate dir .target <;> rfl

end Packager

namespace Release

variable {r : Release} {targets : List Target} {scratch proj out : Location} {w x : Workspace}
variable {o : Outcomes Archive}

/-- A release of a project with a toolchain and a packager. -/
def packaged : Release :=
  let r := fixed "." "1" [("x86-linux", binary)]
  { r with packager := .fixed [9], config := { r.config with formats := [.deb] } }

/-- The files of a project with both directories of a release. -/
def prepared (nodes : List (Location × Entry)) : Workspace :=
  project ((["p", "pkg"], .directory) :: nodes) []

theorem confined_packaged : packaged.compiler.Confined :=
  Compiler.confined_fixed (exists_output below_binary) (exists_output noLink_binary)

theorem free_prepared : (prepared []).files.get? (packaged.draftPlace ["p", "pkg"] ⟨"x86-linux"⟩) = none := by
  decide +kernel

theorem yard_packaged {w : Workspace} {used : Location → Bool}
    (known : (w.files.groups = [] ∧ w.files.get? (["p", "pkg"] ++ [Checksums.manifestName]) = none ∧
      ∀ n ∈ w.files.nodes, w.files.get? n.1.dropLast = some .directory ∧ Location.IsProper n.1) ∧
      let remains := w.files.without fun k => used k || isSparePlace ["p", "pkg"] k
      remains.Leads w.directory ⟨"./pkg"⟩ ["p", "pkg"] ∧ remains.Leads w.directory ⟨"."⟩ ["p"]) :
    packaged.packaging.Yard ["p"] ["p", "pkg"] used w := by
  obtain ⟨⟨single, free, nodes⟩, leadsOut, leadsProject⟩ := known
  exact {
    product := by decide
    version := by decide
    wellFormed := FileTree.wellFormed_of_nodes (fun n member => (nodes n member).1) (fun n member => (nodes n member).2)
      (by simp [single])
    leadsOut := leadsOut
    leadsProject := leadsProject
    noLink := fun target => by
      rw [free]
      simp
    alone := by simp [FileTree.Alone, single] }

theorem premises_of_yard {w : Workspace}
    (yard : packaged.packaging.Yard ["p"] ["p", "pkg"]
      (packaged.isSpent [⟨"x86-linux"⟩] ["p", ".release-scratch"] ["p"] ["p", "pkg"]) w)
    (single : w.files.groups = []) (known : w.files.get? (packaged.draftPlace ["p", "pkg"] ⟨"x86-linux"⟩) = none ∧
      let base := w.files.without (packaged.isUsed [⟨"x86-linux"⟩] ["p", ".release-scratch"] ["p", "pkg"])
      base.Leads w.directory ⟨"./.release-scratch"⟩ ["p", ".release-scratch"] ∧
        base.Leads w.directory ⟨"./pkg"⟩ ["p", "pkg"]) :
    packaged.Premises [⟨"x86-linux"⟩] ["p", ".release-scratch"] ["p"] ["p", "pkg"] w where
  ground := {
    product := ⟨by decide, by decide, by decide, by decide⟩
    version := by decide
    leadsScratch := known.2.1
    leadsOut := known.2.2
    apart := by decide
    sound := yard.wellFormed.sound
    tidy := fun t member => by
      obtain rfl : t = ⟨"x86-linux"⟩ := by simpa using member
      exact ⟨fun target => by simp [known.1], by simp [FileTree.Alone, single]⟩ }
  yard := yard
  scratchDir := rfl
  apart := by decide
  clear name spare inside := by simpa using inside.length_le

theorem premises_packaged :
    packaged.Premises [⟨"x86-linux"⟩] ["p", ".release-scratch"] ["p"] ["p", "pkg"] (prepared []) :=
  premises_of_yard (yard_packaged (by decide +kernel)) rfl (by decide +kernel)

theorem exec_prepare_packaged : packaged.prepare.exec (prepared []) = (.ok (), prepared []) :=
  TaskM.exec_eq_of_toBool (by decide +kernel) premises_packaged.exec_prepare

theorem reported_archives_packaged :
    let targets : List Target := [⟨"x86-linux"⟩]
    ∃ report v crew, packaged.prepare.exec (prepared []) = (.ok (), prepared []) ∧
      (packaged.run ⟨targets, none⟩).exec (prepared []) = (.ok report, v) ∧
      crew.workspace = ((packaged.buildArchives targets).run (prepared [])).2 ∧
      report.HasArchives (Crew.Archived packaged targets ["p", ".release-scratch"] ["p", "pkg"] (fun _ => False)
        (.initial 1 targets (prepared [])) crew) v ∧
      report.targets.map (fun t => (t.target.id, t.outcome.toBool)) = [("x86-linux", true)] := by
  intro targets
  have accepted : Catalog.ofIds ["x86-linux"] = .ok ⟨targets, none⟩ := by decide
  have known : (((packaged.run ⟨targets, none⟩).exec (prepared [])).1.map fun report =>
      report.targets.map fun t => (t.target.id, t.outcome.toBool)).toOption = some [("x86-linux", true)] := by
    decide +kernel
  rcases run : (packaged.run ⟨targets, none⟩).exec (prepared []) with ⟨error | report, v⟩
  · simp [run, Except.map, Except.toOption] at known
  · have archives := (reported_archives accepted confined_packaged (Packager.plain_fixed [9]).toConfined
      premises_packaged fun t member e found => by
        obtain rfl : t = ⟨"x86-linux"⟩ := by simpa [targets] using member
        rw [free_prepared] at found
        cases found).2
    obtain ⟨crew, left, stands⟩ := archives _ report v exec_prepare_packaged run
    exact ⟨report, v, crew, exec_prepare_packaged, rfl, left, stands,
      by simpa [run, Except.map, Except.toOption] using known⟩

/-- What a release is given that reports an archive which is not there at the end. -/
structure Mishap where
  outDir? : Option Path
  product? : Option String
  output : List (Location × Entry)
  nodes : List (Location × Entry)
  groups : List (List Location)

namespace Mishap

def start (m : Mishap) : Workspace :=
  project m.nodes m.groups

/-- What a command line comes to that gives an output directory, a product and a version. -/
def config (m : Mishap) : Except CommandLine.Failure ReleaseConfig :=
  (CommandLine.configure 1 m.start ⟨⟨⟨"."⟩, none⟩, m.outDir?, some "1.0.0", m.product?⟩ ⟨[], ⟨"fpm"⟩⟩
    ⟨[⟨"a"⟩], none⟩).map (CommandLine.BuildOptions.apply ⟨1, ⟨"zig"⟩, 0, true⟩ 1)

def release (m : Mishap) (config : ReleaseConfig) : Release :=
  { fixed "." "1.0.0" [("a", m.output)] with config := config }

/-- Whether a path names a file that starts as archives do. -/
def isArchive (w : Workspace) (p : Path) : Bool :=
  match w.find p with
  | .ok (_, .file content _) => content.take 2 == [80, 75]
  | _ => false

/-- Whether the archives that the release reports are there. -/
def told (m : Mishap) : Option (Option (List (Option Bool))) :=
  m.config.toOption.map fun config =>
    let run := ((m.release config).run ⟨[⟨"a"⟩], none⟩).exec m.start
    run.1.toOption.map fun report => report.targets.map fun t => t.outcome.toOption.map (isArchive run.2)

/-- A release that accepts its configuration and succeeds, and reports an archive that is not there. -/
def Happens (m : Mishap) : Prop :=
  ∃ config report v, m.config = .ok config ∧ ((m.release config).run ⟨[⟨"a"⟩], none⟩).exec m.start = (.ok report, v) ∧
    ∃ t ∈ report.targets, ∃ p, t.outcome = .ok p ∧ isArchive v p = false

theorem happens_of_told {m : Mishap} (told : m.told = some (some [some false])) : m.Happens := by
  rw [Mishap.told] at told
  rcases given : m.config with error | config
  · simp [given, Except.toOption] at told
  rcases run : ((m.release config).run ⟨[⟨"a"⟩], none⟩).exec m.start with ⟨error | report, v⟩
  · simp [given, run, Except.toOption] at told
  simp only [given, run, Except.toOption, Option.map_some, Option.some.injEq, List.map_eq_singleton_iff] at told
  obtain ⟨t, listed, told⟩ := told
  refine ⟨config, report, v, given, run, t, by simp [listed], ?_⟩
  cases outcome : t.outcome with
  | error message => simp [outcome] at told
  | ok p => exact ⟨p, rfl, by simpa [outcome] using told⟩

def all : List Mishap := [
  -- The output directory is in the scratch directory.
  { outDir? := some ⟨".release-scratch/o"⟩, product? := none, output := binary, nodes := [], groups := [] },
  -- Its path goes through the scratch directory.
  { outDir? := some ⟨".release-scratch/l"⟩, product? := none, output := binary,
    nodes := [(["p", "o"], .directory), (["p", ".release-scratch", "l"], .link ⟨"../o"⟩)], groups := [] },
  -- Its path goes through a link that a loose package replaces.
  { outDir? := some ⟨"o/x.deb"⟩, product? := none, output := binary,
    nodes := [(["p", "o"], .directory), (["p", "o", "x.deb"], .link ⟨"."⟩), (["p", "x.deb"], .file [] false)],
    groups := [] },
  -- The product has slashes, and its archive is in the scratch directory.
  { outDir? := none, product? := some "../.release-scratch/m",
    output := [(["bin"], .directory), ([".release-scratch"], .directory),
      ([".release-scratch", "m"], .file [7] true)],
    nodes := [], groups := [] },
  -- The manifest is a link to the archive.
  { outDir? := none, product? := none, output := binary,
    nodes := [(["p", "pkg"], .directory), (["p", "pkg", "SHA256SUMS"], .link ⟨"mufiz_1.0.0_a.zip"⟩)], groups := [] },
  -- The draft is a link to the scratch directory.
  { outDir? := none, product? := none, output := binary,
    nodes := [(["p", "pkg"], .directory),
      (["p", "pkg", "mufiz_1.0.0_a.zip.partial"], .link ⟨"../.release-scratch/l"⟩)],
    groups := [] },
  -- The draft is the same file as the manifest.
  { outDir? := none, product? := none, output := binary,
    nodes := [(["p", "pkg"], .directory), (["p", "pkg", "mufiz_1.0.0_a.zip.partial"], .file [] false),
      (["p", "pkg", "SHA256SUMS"], .file [] false)],
    groups := [[["p", "pkg", "mufiz_1.0.0_a.zip.partial"], ["p", "pkg", "SHA256SUMS"]]] },
  -- The draft is a device.
  { outDir? := none, product? := none, output := binary,
    nodes := [(["p", "pkg"], .directory), (["p", "pkg", "mufiz_1.0.0_a.zip.partial"], .void)], groups := [] }]

/-- Where archives are put in the scratch directory or into other files, a release can report archives that are not
there. -/
theorem all_happen : all.Forall Happens := by
  rw [List.forall_iff_forall_mem]
  have told : ∀ m ∈ all, m.told = some (some [some false]) := by
    simp only [all, List.forall_mem_cons]
    refine ⟨?_, ?_, ?_, ?_, ?_, ?_, ?_, ?_, List.forall_mem_nil _⟩ <;> decide +kernel
  exact fun m member => happens_of_told (told m member)

end Mishap

/-- Every package that the report of a release tells of is there when the release has ended, and holds what the
packager wrote for it, unless a loose package of the project has its name: that one takes its place when loose
packages are collected. This is told of the files that the builds leave, whatever they did, of those that the release
starts from, and of those that packages alone are made in. -/
theorem reported_packages {ids : List String} {c : Catalog} (accepted : Catalog.ofIds ids = .ok c)
    (plain : r.packager.Plain) :
    (∀ proj out w report v, (r.run c).exec w = (.ok report, v) →
      r.packaging.Yard proj out (fun _ => false) (r.unpackaged c w) →
      report.HasPackages r.config proj out (r.unpackaged c w) v) ∧
    (r.compiler.Confined → ∀ scratch proj out u, r.Premises c.targets scratch proj out u →
      (∀ breaks jobs crew o, Crew.Reach r c.targets scratch out breaks (.initial jobs c.targets u) crew →
        crew.pool.outcomes? c.targets = some o →
        ((r.settle o).run crew.workspace).1.HasPackages r.config proj out u ((r.settle o).run crew.workspace).2) ∧
      ∀ w report v, r.prepare.exec w = (.ok (), u) → (r.run c).exec w = (.ok report, v) →
        report.HasPackages r.config proj out u v) ∧
    ∀ proj out u, r.packaging.Yard proj out (fun _ => false) u →
      ∀ w report v, (Files.makeDirectories r.config.outDir).exec w = (.ok (), u) →
        (r.packaging.run c).exec w = (.ok report, v) → report.HasPackages r.config proj out u v := by
  obtain ⟨nodup, triples⟩ := Catalog.targets_of_ofIds accepted
  have names (t : Target) (listed : t ∈ c.targets) : IsName t.id := Target.isName_id (triples t listed)
  refine ⟨fun proj out w report v run yard => ?_, fun enclosed scratch proj out u premises => ?_,
    fun proj out u yard w report v prepared run => ?_⟩
  · obtain ⟨u, crew, first, reach, returned, left, settled⟩ := exists_crew_of_run run [] []
    obtain ⟨rfl, rfl⟩ := Prod.ext_iff.mp settled
    obtain rfl : (r.prepare.exec w).2 = u := by rw [first]
    rw [left, run_settle]
    have site := yard.site fun _ _ _ used => absurd used (by simp)
    exact yard.hasPackages plain (stages_buildPackages site plain.toConfined (reach.versions returned) yard.ready) _
  · have worked (breaks jobs crew o)
        (reach : Crew.Reach r c.targets scratch out breaks (.initial jobs c.targets u) crew)
        (returned : crew.pool.outcomes? c.targets = some o) :
        ((r.settle o).run crew.workspace).1.HasPackages r.config proj out u
          ((r.settle o).run crew.workspace).2 := by
      have built := (reach.tended enclosed nodup names premises.ground).frame
      have start := premises.within_start built
      exact premises.site.hasPackages plain (premises.stages_packed plain.toConfined built (reach.versions returned))
        (fun _ => premises.isName_of_loose start) (fun _ => premises.loose_start start) (premises.manifest start)
        start.journal o
    refine ⟨worked, fun w report v prepared run => ?_⟩
    obtain ⟨_, crew, first, reach, returned, -, settled⟩ := exists_crew_of_run run scratch out
    obtain ⟨-, rfl⟩ := Prod.ext_iff.mp (prepared.symm.trans first)
    obtain ⟨rfl, rfl⟩ := Prod.ext_iff.mp settled
    exact worked _ _ crew _ reach returned
  · obtain ⟨_, first, finished⟩ := Packaging.exists_of_run run
    obtain ⟨-, rfl⟩ := Prod.ext_iff.mp (prepared.symm.trans first)
    obtain ⟨rfl, rfl⟩ := Prod.ext_iff.mp finished
    have site := yard.site fun _ _ _ used => absurd used (by simp)
    exact yard.hasPackages plain
      (site.toSite.stages_buildEach plain.toConfined site.version (Packaging.version_existing _ c u)
        yard.ready.staged) _

/-- The packages that a report tells of, and whether they were made. -/
def packageMarks (report : Report) : List (List (PackageFormat × Bool)) :=
  report.targets.map fun t => t.packages.map fun q => (q.format, q.outcome.toBool)

theorem reported_packages_packaged :
    let c : Catalog := ⟨[⟨"x86-linux"⟩], none⟩
    let archived := prepared [(["p", "pkg", "mufiz_1_x86-linux.zip"], .file [] false)]
    (∃ report v, (packaged.run c).exec (prepared []) = (.ok report, v) ∧
      report.HasPackages packaged.config ["p"] ["p", "pkg"] (packaged.unpackaged c (prepared [])) v ∧
      report.HasPackages packaged.config ["p"] ["p", "pkg"] (prepared []) v ∧
      packageMarks report = [[(.deb, true)]]) ∧
    ∃ report v, (packaged.packaging.run c).exec archived = (.ok report, v) ∧
      report.HasPackages packaged.config ["p"] ["p", "pkg"] archived v ∧
      packageMarks report = [[(.deb, true)]] := by
  intro c archived
  have accepted : Catalog.ofIds ["x86-linux"] = .ok c := by decide
  obtain ⟨built, whole, packaging⟩ := reported_packages (r := packaged) accepted (Packager.plain_fixed [9])
  have known : ((packaged.run c).exec (prepared [])).1.toOption.map packageMarks = some [[(.deb, true)]] := by
    decide +kernel
  have known' : ((packaged.packaging.run c).exec archived).1.toOption.map packageMarks =
      some [[(.deb, true)]] := by
    decide +kernel
  constructor
  · rcases run : (packaged.run c).exec (prepared []) with ⟨error | report, v⟩
    · simp [run, Except.toOption] at known
    · refine ⟨report, v, rfl, ?_, ?_, by simpa [run, Except.toOption] using known⟩
      · exact built _ _ _ report v run (yard_packaged (by decide +kernel))
      · exact (whole confined_packaged _ _ _ _ premises_packaged).2 _ report v exec_prepare_packaged run
  · rcases run : (packaged.packaging.run c).exec archived with ⟨error | report, v⟩
    · simp [run, Except.toOption] at known'
    · have yard : packaged.packaging.Yard ["p"] ["p", "pkg"] (fun _ => false) archived :=
        yard_packaged (by decide +kernel)
      have made : (Files.makeDirectories packaged.config.outDir).exec archived = (.ok (), archived) :=
        TaskM.exec_eq_of_toBool (by decide +kernel)
          (Files.makeDirectories_of_leads ((archived.rests_without _).leads yard.leadsOut))
      exact ⟨report, v, rfl, packaging _ _ _ yard _ report v made run,
        by simpa [run, Except.toOption] using known'⟩

end Release

/-- What packaging is given that reports a package which is not there at the end, or not the one that was made. -/
structure Packaging.Mishap where
  product : String
  version : String
  outDir : Path
  nodes : List (Location × Entry)

namespace Packaging.Mishap

def start (m : Mishap) : Workspace :=
  Release.prepared m.nodes

def packaging (m : Mishap) : Packaging where
  config := { ReleaseConfig.standard 1 ⟨"."⟩ m.version with
    product := m.product, outDir := m.outDir, formats := [.deb] }
  packager := .fixed [9]

/-- Whether a path holds an output of the packager. -/
def holdsOutput (w : Workspace) (p : Path) : Bool :=
  w.journal.any fun e => match e with
    | .produced _ content => (w.read p).toOption == some content
    | _ => false

/-- Whether the packages that are reported hold what the packager wrote. -/
def told (m : Mishap) : Option (List (List (Option Bool))) :=
  let run := (m.packaging.run ⟨[⟨"x86-linux"⟩], none⟩).exec m.start
  run.1.toOption.map fun report => report.targets.map fun t => t.packages.map fun q =>
    q.outcome.toOption.map (holdsOutput run.2)

/-- Packaging that succeeds, and reports a package whose path holds nothing that the packager wrote. -/
def Happens (m : Mishap) : Prop :=
  ∃ report v, (m.packaging.run ⟨[⟨"x86-linux"⟩], none⟩).exec m.start = (.ok report, v) ∧
    ∃ t ∈ report.targets, ∃ q ∈ t.packages, ∃ p, q.outcome = .ok p ∧
      ∀ r content, .produced r content ∈ v.journal → v.read p ≠ .ok content

theorem happens_of_told {m : Mishap} (told : m.told = some [[some false]]) : m.Happens := by
  rw [Mishap.told] at told
  rcases run : (m.packaging.run ⟨[⟨"x86-linux"⟩], none⟩).exec m.start with ⟨error | report, v⟩
  · simp [run, Except.toOption] at told
  simp only [run, Except.toOption, Option.map_some, Option.some.injEq, List.map_eq_singleton_iff] at told
  obtain ⟨t, listed, q, listed', told⟩ := told
  refine ⟨report, v, run, t, by simp [listed], q, by simp [listed'], ?_⟩
  cases outcome : q.outcome with
  | error message => simp [outcome] at told
  | ok p =>
    refine ⟨p, rfl, fun r content noted holds => ?_⟩
    have none : holdsOutput v p = false := by simpa [outcome] using told
    rw [holdsOutput, List.any_eq_false] at none
    exact none _ noted (by simp [holds, Except.toOption])

def all : List Mishap := [
  -- A loose package has the name of the one that is made.
  { product := "m", version := "1", outDir := ⟨"pkg"⟩,
    nodes := [(["p", "pkg", "m_1_x86-linux.zip"], .file [] false), (["p", "m_1_x86-linux.deb"], .file [1] false)] },
  -- The product has slashes, and the package lies loose in the project.
  { product := "../m", version := "1", outDir := ⟨"pkg"⟩, nodes := [(["p", "m_1_x86-linux.zip"], .file [] false)] },
  -- The version has slashes.
  { product := "m", version := "1/../../m", outDir := ⟨"pkg"⟩,
    nodes := [(["p", "m_x86-linux.zip"], .file [] false), (["p", "pkg", "m_1"], .directory)] },
  -- The manifest is a link to the package.
  { product := "m", version := "1", outDir := ⟨"pkg"⟩,
    nodes := [(["p", "pkg", "m_1_x86-linux.zip"], .file [] false),
      (["p", "pkg", "SHA256SUMS"], .link ⟨"m_1_x86-linux.deb"⟩)] },
  -- The path of the output directory goes through a link that the package replaces.
  { product := "m", version := "1", outDir := ⟨"pkg/m_1_x86-linux.deb"⟩,
    nodes := [(["p", "pkg", "m_1_x86-linux.zip"], .file [] false),
      (["p", "pkg", "m_1_x86-linux.deb"], .link ⟨"."⟩)] }]

/-- Where packages can be taken for loose ones, or are put into other files, packaging can report packages that are
not there. -/
theorem each_happens : all.Forall Happens := by
  rw [List.forall_iff_forall_mem]
  have told : ∀ m ∈ all, m.told = some [[some false]] := by
    simp only [all, List.forall_mem_cons]
    refine ⟨?_, ?_, ?_, ?_, ?_, List.forall_mem_nil _⟩ <;> decide +kernel
  exact fun m member => happens_of_told (told m member)

end Packaging.Mishap

end ReleaseMatrix
