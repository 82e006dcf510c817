import ReleaseMatrix.Proofs.ArtifactNames
import ReleaseMatrix.Proofs.Manifest
import ReleaseMatrix.Proofs.ReportedFiles
import ReleaseMatrix.Proofs.SharedFiles

namespace ReleaseMatrix

open Workspace (Within)
open FileTree (usable)

namespace Checksums

variable {w v : Workspace} {dir : Path} {l : Location} {name s : String} {content : Bytes}

theorem mem_artifacts : (name, content) ∈ artifacts w l ↔ isListed name ∧
    ∃ e, w.files.get? (l ++ [name]) = some e ∧ e.isFile ∧ e.content? = some content := by
  rw [← held?_eq_some]
  simp only [artifacts, artifactsOf, List.mem_filterMap, List.mem_filter]
  constructor
  · rintro ⟨other, ⟨-, listed⟩, held⟩
    obtain ⟨found, holds, same⟩ := Option.map_eq_some_iff.mp held
    obtain ⟨rfl, rfl⟩ := Prod.ext_iff.mp same
    exact ⟨listed, holds⟩
  · rintro ⟨listed, held⟩
    obtain ⟨e, there, -⟩ := held?_eq_some.mp held
    exact ⟨name, ⟨FileTree.mem_names.mpr (by simp [there]), listed⟩, by simp [held]⟩

theorem mem_listing : (name, content) ∈ listing w dir l ↔ isListed name ∧ usable dir name = .ok () ∧
    ∃ e, w.files.get? (l ++ [name]) = some e ∧ e.isFile ∧ e.content? = some content := by
  have reachable : isReachable dir (name, content) = true ↔ usable dir name = .ok () := by
    rw [isReachable]
    cases usable dir name <;> simp [Except.toBool]
  rw [listing, List.mem_filter, mem_artifacts, reachable]
  constructor
  · rintro ⟨⟨listed, found⟩, fits⟩
    exact ⟨listed, fits, found⟩
  · rintro ⟨listed, fits, found⟩
    exact ⟨⟨listed, found⟩, fits⟩

/-- The text of a manifest covers a directory: it has one record for each regular file in it that is an archive or a
package and whose path can be used, and nothing else. Where no name has a line break in it, each record is a line. -/
structure Covers (w : Workspace) (dir : Path) (l : Location) (s : String) : Prop where
  each : ∀ name content, (name, content) ∈ listing w dir l ↔ isListed name ∧ usable dir name = .ok () ∧
    ∃ e, w.files.get? (l ++ [name]) = some e ∧ e.isFile ∧ e.content? = some content
  once : ((listing w dir l).map Prod.fst).Nodup
  text : s = String.join (((listing w dir l).map record).map (· ++ "\n"))
  lines : (∀ entry ∈ listing w dir l, '\n' ∉ entry.1.toList) →
    Text.split '\n' s = (listing w dir l).map record ++ [""]

theorem covers_of_text (text : s = String.join (((listing w dir l).map record).map (· ++ "\n"))) :
    Covers w dir l s where
  each _ _ := mem_listing
  once := nodup_listing w dir l
  text := text
  lines plain := by
    rw [text]
    refine Text.split_lines fun line member => ?_
    obtain ⟨entry, listed, rfl⟩ := List.mem_map.mp member
    exact newline_not_mem_record (plain entry listed)

/-- A listed name that packaging gives is that of a package. -/
theorem isPackageName_of_isListed (listed : isListed name) (packaging : isPackagingName name) :
    Collection.isPackageName name := by
  refine (Bool.or_eq_true_iff.mp packaging).resolve_left fun work => ?_
  rw [not_isListed_of_isWorkName work] at listed
  cases listed

/-- Files in which a manifest can be written that covers them: no link stands where something is listed, there is no
special file in the manifest's place, and the places of one file hold the same. -/
structure Coverable (l : Location) (w : Workspace) : Prop where
  noLinks : ∀ name, isListed name → ∀ target, w.files.get? (l ++ [name]) ≠ some (.link target)
  plain : ∀ e, w.files.get? (l ++ [manifestName]) = some e → e = .directory ∨ e.isFile
  linked : w.files.Linked

theorem Coverable.orderly (coverable : Coverable l w) (wellFormed : w.files.WellFormed) : Orderly l w :=
  fun name listed e there => ⟨(wellFormed.proper _ e there name (by simp)).1, fun target link =>
    coverable.noLinks name listed target (link ▸ there)⟩

end Checksums

open Checksums (Coverable Covers Orderly Restocked isListed manifestName)

/-- The manifest that a report tells of covers the output directory as it is at the end. It covers the packages that
the report tells of, made or collected. -/
structure Report.Covered (report : Report) (config : ReleaseConfig) (out : Location) (w : Workspace) : Prop where
  manifest : ∀ p, report.checksums? = some p → p = config.outDir.join manifestName ∧
    ∃ s, Checksums.manifest? w config.outDir = some s ∧ Covers w config.outDir out s
  packages : ∀ t ∈ report.targets, ∀ f p, ⟨f, .ok p⟩ ∈ t.packages → p ∈ Checksums.paths w config.outDir out
  collected : ∀ p ∈ report.collected, p ∈ Checksums.paths w config.outDir out

/-- The archives that a report tells of are among the files that a manifest of the output directory covers. -/
def Report.ListsArchives (report : Report) (config : ReleaseConfig) (out : Location) (w : Workspace) : Prop :=
  ∀ t ∈ report.targets, ∀ p, t.outcome = .ok p → p ∈ Checksums.paths w config.outDir out

theorem PackageBuilder.Staged.restocked {b : PackageBuilder} {base : FileTree} {here out : Location}
    {y z : Workspace} (staged : b.Staged base here out y z) (plain : b.packager.Plain) : Restocked out y z := by
  intro name listed
  by_cases made : ∃ other, IsName other ∧ isPackagingName other ∧ out ++ [other] <+: out ++ [name]
  · obtain ⟨other, valid, packaging, inside⟩ := made
    obtain rfl : other = name := by simpa using inside.eq_of_length (by simp)
    have package := Checksums.isPackageName_of_isListed listed packaging
    exact (staged.packages plain other package).imp_right fun file => ⟨valid, file⟩
  · exact .inl (staged.within.files _ made)

namespace Packaging

variable {p : Packaging} {base : FileTree} {here proj out : Location} {y z : Workspace} {name : String}
variable {results : List PackageResult} {o : Outcomes Archive}

theorem Gathered.mem_paths {w : Workspace} (gathered : p.Gathered out name w) (listed : isListed name) :
    p.config.outDir.join name ∈ Checksums.paths w p.config.outDir out := by
  obtain ⟨fits, e, there, file⟩ := gathered
  exact Checksums.mem_paths listed fits there file

/-- What a manifest that covers everything needs of the files that packages are made in. -/
structure Site.Settled (p : Packaging) (base : FileTree) (here proj out : Location) (z : Workspace) : Prop where
  rests : z.Rests base here
  names : ∀ name, Loose proj z name → IsName name
  orderly : Orderly out z
  plain : ∀ e, z.files.get? (out ++ [manifestName]) = some e → e = .directory ∨ e.isFile
  alone : z.files.Alone (out ++ [manifestName])
  alike : z.files.Alike

namespace Site

variable (site : p.Site base here proj out) (settled : Settled p base here proj out z)
include site settled

theorem collection : Collected proj out z (p.gatheredIn z) :=
  (site.collected_run settled.rests settled.names).1

theorem not_collected_manifest : ¬ CollectionArea proj out z (out ++ [manifestName]) :=
  site.not_collectionArea settled.rests fun loose => not_isPackageName_manifestName loose.1

theorem plain_gathered (e : Entry) (there : (p.gatheredIn z).files.get? (out ++ [manifestName]) = some e) :
    e = .directory ∨ e.isFile := by
  have collection := site.collection settled
  exact settled.plain e ((collection.within.files _ (site.not_collected_manifest settled)).symm.trans there)

theorem alone_gathered : (p.gatheredIn z).files.Alone (out ++ [manifestName]) := by
  have collection := site.collection settled
  exact collection.within.alone _ (site.not_collected_manifest settled) settled.alone

theorem rests_gathered : (p.gatheredIn z).Rests base here := by
  have collection := site.collection settled
  exact site.rests_of_collection settled.rests collection.within

/-- Writing the manifest changes nothing else. -/
theorem within_written : Within (out ++ [manifestName] <+: ·) (p.gatheredIn z)
    ((Checksums.write p.config.outDir manifestName).exec (p.gatheredIn z)).2 :=
  site.within_manifest (site.rests_gathered settled)
    (fun target link => by simpa [Entry.isFile] using site.plain_gathered settled _ link) (site.alone_gathered settled)

/-- Collecting packages leaves what is listed as it is, or puts a file there. -/
theorem restocked_gathered : Restocked out z (p.gatheredIn z) := by
  have collection := site.collection settled
  intro name listed
  by_cases loose : Loose proj z name
  · exact (collection.replaced name).imp_right fun file => ⟨settled.names name loose, file⟩
  · exact .inl (collection.within.files _ (site.not_collectionArea settled.rests loose))

/-- What is gathered when packages have been collected is still so at the end. -/
theorem gathered_finish (listed : isListed name) (gathered : p.Gathered out name (p.gatheredIn z)) :
    p.Gathered out name ((p.finish o results).run z).2 := by
  obtain ⟨fits, e, there, file⟩ := gathered
  refine ⟨fits, e, ?_, file⟩
  rw [left_finish, (site.within_written settled).files _ ?_, there]
  intro inside
  obtain rfl : manifestName = name := by simpa using inside.eq_of_length (by simp)
  rw [Checksums.not_isListed_manifestName] at listed
  cases listed

/-- The manifest that is written covers the output directory as it is then. -/
theorem covers_finish (q : Path) (told : ((p.finish o results).run z).1.checksums? = some q) :
    q = p.config.outDir.join manifestName ∧ ∃ s,
      Checksums.manifest? ((p.finish o results).run z).2 p.config.outDir = some s ∧
        Covers ((p.finish o results).run z).2 p.config.outDir out s := by
  have rests := site.rests_gathered settled
  have orderly := settled.orderly.restocked (site.restocked_gathered settled)
  have within := site.within_written settled
  rw [checksums_finish] at told
  rcases run : (Checksums.write p.config.outDir manifestName).exec (p.gatheredIn z) with ⟨error | path, v⟩
  · simp [run, Except.toOption] at told
  · obtain rfl : path = q := by simpa [run, Except.toOption] using told
    rw [run] at within
    -- The way to the output directory does not go through its manifest.
    have restsV : v.Rests base here := within.rests (site.manifest · · ·) rests
    obtain ⟨rfl, -, read⟩ := Checksums.manifest?_of_write (rests.leads site.leadsOut) orderly
      (site.plain_gathered settled) (site.alone_gathered settled) run (restsV.leads site.leadsOut)
    rw [left_finish, run]
    exact ⟨rfl, _, read, Checksums.covers_of_text rfl⟩

/-- What is collected is covered. -/
theorem collected_mem_paths (q : Path) (told : q ∈ ((p.finish o results).run z).1.collected) :
    q ∈ Checksums.paths ((p.finish o results).run z).2 p.config.outDir out := by
  rw [collected_finish] at told
  rcases run : (Collection.run p.config.projectDir p.config.outDir).exec z with ⟨error | all, u⟩
  · simp [run, Except.toOption] at told
  · have member : q ∈ all := by simpa [run, Except.toOption] using told
    obtain ⟨name, loose, rfl, gathered⟩ :=
      (site.collected_run settled.rests settled.names).2 all (by rw [run]) q member
    have listed := Checksums.isListed_of_isPackageName loose.1
    exact (site.gathered_finish settled listed (gathered settled.alike)).mem_paths listed

omit settled
variable (stages : p.packageBuilder.Stages base here out p.config.version y y z results)
  (names : ∀ name, Loose proj y name → IsName name)
include stages names

/-- Packages that are made leave the files ready for a manifest. -/
theorem settled_of_stages (plain : p.packager.Plain) (orderly : Orderly out y)
    (manifest : ∀ e, y.files.get? (out ++ [manifestName]) = some e → e = .directory ∨ e.isFile)
    (alone : y.files.Alone (out ++ [manifestName])) (linked : z.files.Linked) : Settled p base here proj out z where
  rests := stages.staged.ready.rests
  names _ := site.isName_of_loose stages.staged names
  orderly := orderly.restocked (stages.staged.restocked plain)
  plain e there := manifest e ((stages.staged.within.files _ (not_made_manifest out)).symm.trans there)
  alone := stages.staged.within.alone _ (not_made_manifest out) alone
  alike := linked.alike

omit names in
/-- The manifest that is written after packages are made covers what is there, with all that is reported of it. -/
theorem covered_finish (plain : p.packager.Plain) (settled : Settled p base here proj out z) (o : Outcomes Archive) :
    ((p.finish o results).run z).1.Covered p.config out ((p.finish o results).run z).2 where
  manifest := site.covers_finish settled
  collected := site.collected_mem_paths settled
  packages t member f q told := by
    rw [targets_finish] at member
    obtain ⟨⟨s, outcome⟩, -, rfl⟩ := List.mem_map.mp member
    obtain ⟨r, listed, rfl, rfl, built⟩ := TargetReport.exists_result told
    obtain ⟨spec, -, -, -, rfl, fits, e, -, -, there, file, -⟩ := stages.made r listed plain q built
    have listed := Checksums.isListed_of_isPackageName
      (spec.isPackageName_releaseName p.config.product p.config.version)
    have gathered : p.Gathered out (spec.releaseName p.config.product p.config.version) z := ⟨fits, e, there, file⟩
    exact (site.gathered_finish settled listed (gathered.later (site.collection settled).replaced)).mem_paths listed

end Site

namespace Yard

variable (yard : p.Yard proj out (fun _ => false) y) (coverable : Coverable out y)
include yard coverable

/-- Packages that are made in a yard are covered by the manifest that follows. -/
theorem covered (plain : p.packager.Plain)
    (stages : p.packageBuilder.Stages (y.files.without fun k => false || isSparePlace out k) y.directory out
      p.config.version y y z results) (linked : z.files.Linked) (o : Outcomes Archive) :
    ((p.finish o results).run z).1.Covered p.config out ((p.finish o results).run z).2 := by
  have site := yard.site fun _ _ _ used => absurd used (by simp)
  have settled := site.settled_of_stages stages (fun _ => yard.isName_of_loose) plain
    (coverable.orderly yard.wellFormed) coverable.plain yard.alone linked
  exact site.covered_finish stages plain settled o

/-- The archives that packages are made of were left by an earlier run, and are still covered. -/
theorem listsArchives {c : Catalog} (names : ∀ t ∈ c.targets, IsName t.id)
    (stages : p.packageBuilder.Stages (y.files.without fun k => false || isSparePlace out k) y.directory out
      p.config.version y y z results) :
    ((p.finish (p.existing c y) results).run z).1.ListsArchives p.config out
      ((p.finish (p.existing c y) results).run z).2 := by
  have site := yard.site fun _ _ _ used => absurd used (by simp)
  intro t member q told
  rw [targets_finish] at member
  obtain ⟨⟨s, outcome⟩, listed, rfl⟩ := List.mem_map.mp member
  cases outcome with
  | error e => cases told
  | ok a =>
    obtain rfl : a.path = q := Except.ok.inj told
    obtain ⟨rfl, target, file⟩ := eq_of_existing listed
    have isListed := Checksums.isListed_fileName p.config.product p.config.version s
    have found := FileM.find_join (yard.ready.rests.leads yard.leadsOut)
      (Archive.isName_fileName yard.product yard.version (names s target)) (coverable.noLinks _ isListed)
    have file : y.isFile (p.config.outDir.join (Archive.fileName p.config.product p.config.version s)) := file
    rw [Workspace.isFile, Workspace.entry?, found] at file
    cases fits : usable p.config.outDir (Archive.fileName p.config.product p.config.version s) with
    | error fault => simp [fits] at file
    | ok _ =>
      cases there : y.files.get? (out ++ [Archive.fileName p.config.product p.config.version s]) with
      | none => simp [fits, there] at file
      | some e =>
        have isFile : e.isFile := by simpa [fits, there] using file
        have kept := site.finish_kept stages.staged (fun _ => yard.isName_of_loose) yard.noLink yard.alone
          (p.existing c y) results (@Archive.not_isSpareName_fileName p.config.product p.config.version s)
        exact Checksums.mem_paths isListed fits (kept.trans there) isFile

end Yard

end Packaging

namespace Release

variable {r : Release} {targets : List Target} {scratch proj out : Location} {u w x : Workspace}
variable {o : Outcomes Archive} {jobs : Nat} {crew : Crew}

/-- A crew leaves what is listed as it is, or puts an archive there. -/
theorem Crew.Reach.restocked (confined : r.compiler.Confined) (nodup : targets.Nodup)
    (names : ∀ t ∈ targets, IsName t.id) (ground : r.Ground targets scratch out w)
    (draftable : ∀ t ∈ targets, r.Draftable out t w)
    (reach : Crew.Reach r targets scratch out (fun _ => False) (.initial jobs targets w) crew) :
    Restocked out w crew.workspace := by
  have site := ground.site names
  intro name listed
  by_cases archive : ∃ t ∈ targets, Archive.fileName r.config.product r.config.version t = name
  · obtain ⟨t, member, rfl⟩ := archive
    exact (reach.refilled confined nodup names ground draftable member (fun breaking => breaking)).imp_right
      fun file => ⟨site.isName_archive member, file⟩
  · refine .inl ((reach.tended confined nodup names ground).frame.files _ ?_)
    rintro ⟨t, member, inside | inside | inside⟩
    · obtain above | above | ⟨same, -⟩ := prefix_concat inside (List.prefix_refl _)
      · exact site.out_not_area member (.inl above)
      · have bound := (inside.trans above).length_le
        rw [List.length_append, List.length_singleton] at bound
        omega
      · exact ground.apart same
    · obtain rfl : Archive.draftName r.config.product r.config.version t = name := by
        simpa [draftPlace] using inside.eq_of_length (by simp [draftPlace])
      have partialName : ".partial".toList <:+ (Archive.draftName r.config.product r.config.version t).toList :=
        List.IsSuffix.trans (by decide) Archive.suffix_draftName
      rw [Checksums.not_isListed_of_partial partialName] at listed
      cases listed
    · exact archive ⟨t, member, by simpa [archivePlace] using inside.eq_of_length (by simp [archivePlace])⟩

theorem linked_buildPackages {base : FileTree} {here : Location} (site : r.packaging.Site base here proj out)
    (confined : r.packager.Confined) (keeps : r.packager.KeepsLinks)
    (versions : ∀ a ∈ o.successes, a.version = r.config.version) (ready : PackageBuilder.Ready base here out w)
    (linked : w.files.Linked) : ((r.buildPackages o.successes).run w).2.files.Linked := by
  unfold buildPackages
  split
  · exact linked
  · exact site.toSite.linked_buildEach keeps confined site.version versions ready linked

namespace Premises

variable (premises : r.Premises targets scratch proj out w)
  (built : Within (fun k => ∃ t ∈ targets, r.Area scratch out t k) w x)
include premises built

/-- Removing the scratch directory leaves what is listed as it is. -/
theorem restocked_swept : Restocked out x (r.swept x) := by
  intro name listed
  refine .inl ((premises.within_swept (rests_of_within (within_spent proj built))).files _ fun above => ?_)
  obtain same | high := List.prefix_concat_iff.mp above
  · obtain rfl : ReleaseConfig.defaultScratchDir = name := by
      simpa [attic] using (List.append_inj' same rfl).2
    exact absurd listed (by decide +kernel)
  · exact premises.not_spent_out (isSpent_iff.mpr (.inl high))

/-- What the manifest of a release covers, if its builds have left files that can be covered. -/
theorem covered (coverable : Coverable out w) (restocked : Restocked out w x) (linked : x.files.Linked)
    (plain : r.packager.Plain) (keeps : r.packager.KeepsLinks)
    (versions : ∀ a ∈ o.successes, a.version = r.config.version) :
    ((r.settle o).run x).1.Covered r.config out ((r.settle o).run x).2 := by
  have start := premises.within_start built
  have stages := premises.stages_packed plain.toConfined built versions
  have orderly := ((coverable.orderly premises.yard.wellFormed).restocked restocked).restocked
    (premises.restocked_swept built)
  have swept : (r.swept x).files.Linked := Files.keepsLinks_removeDirectory r.config.scratchDir x linked
  have unspent := premises.not_spent_of_spare (k := out ++ [manifestName]) isSpareName_manifestName (List.prefix_refl _)
  have settled := premises.site.settled_of_stages stages (fun _ => premises.isName_of_loose start) plain orderly
    (fun e there => coverable.plain e ((start.files _ unspent).symm.trans there)) (premises.manifest start).2
    (linked_buildPackages premises.site plain.toConfined keeps versions (premises.ready start) swept)
  exact premises.site.covered_finish stages plain settled o

/-- The archives that stand when the builds have ended are covered. -/
theorem listsArchives (confined : r.packager.Confined) (versions : ∀ a ∈ o.successes, a.version = r.config.version)
    {made : Target → Bytes → Prop}
    (stands : ∀ t a, (t, .ok a) ∈ o.entries → a.path = Stage.archivePath r t ∧ r.Stands out t (made t) x) :
    ((r.settle o).run x).1.ListsArchives r.config out ((r.settle o).run x).2 := by
  intro t member p told
  rw [run_settle, Packaging.targets_finish] at member
  obtain ⟨⟨s, outcome⟩, listed, rfl⟩ := List.mem_map.mp member
  cases outcome with
  | error e => cases told
  | ok a =>
    obtain rfl : a.path = p := Except.ok.inj told
    obtain ⟨path, fits, content, executable, -, there⟩ := stands s a listed
    have kept := premises.settle_kept confined built versions Archive.not_isSpareName_fileName
      (@Archive.fileName_ne_defaultScratchDir r.config.product r.config.version s)
    rw [path]
    exact Checksums.mem_paths (Checksums.isListed_fileName ..) fits (kept.trans there) rfl

end Premises

/-- The manifest of a release covers the output directory as it is when the release has ended: it has a record with
the digest of each archive and package that is a file there, and nothing else, and the archives and packages that the
report tells of are among them. This is told of the files that the builds leave, whatever they did, of those that the
release starts from, and of those that packages alone are made in. -/
theorem manifest_covers {ids : List String} {c : Catalog} (accepted : Catalog.ofIds ids = .ok c)
    (plain : r.packager.Plain) (keeps : r.packager.KeepsLinks) :
    (∀ proj out w report v, (r.run c).exec w = (.ok report, v) →
      r.packaging.Yard proj out (fun _ => false) (r.unpackaged c w) → Coverable out (r.unpackaged c w) →
      report.Covered r.config out v) ∧
    (r.compiler.Confined → r.compiler.KeepsLinks → ∀ scratch proj out u, r.Premises c.targets scratch proj out u →
      (∀ t ∈ c.targets, r.Draftable out t u) → Coverable out u →
      (∀ jobs crew o, Crew.Reach r c.targets scratch out (fun _ => False) (.initial jobs c.targets u) crew →
        crew.pool.outcomes? c.targets = some o →
        let settled := (r.settle o).run crew.workspace
        settled.1.Covered r.config out settled.2 ∧ settled.1.ListsArchives r.config out settled.2) ∧
      ∀ w report v, r.prepare.exec w = (.ok (), u) → (r.run c).exec w = (.ok report, v) →
        report.Covered r.config out v ∧ report.ListsArchives r.config out v) ∧
    ∀ proj out u, r.packaging.Yard proj out (fun _ => false) u → Coverable out u →
      ∀ w report v, (Files.makeDirectories r.config.outDir).exec w = (.ok (), u) →
        (r.packaging.run c).exec w = (.ok report, v) →
        report.Covered r.config out v ∧ report.ListsArchives r.config out v := by
  obtain ⟨nodup, triples⟩ := Catalog.targets_of_ofIds accepted
  have names (t : Target) (listed : t ∈ c.targets) : IsName t.id := Target.isName_id (triples t listed)
  refine ⟨fun proj out w report v run yard coverable => ?_,
    fun enclosed alike scratch proj out u premises draftable coverable => ?_,
    fun proj out u yard coverable w report v prepared run => ?_⟩
  · obtain ⟨u, crew, first, reach, returned, left, settled⟩ := exists_crew_of_run run [] []
    obtain ⟨rfl, rfl⟩ := Prod.ext_iff.mp settled
    obtain rfl : (r.prepare.exec w).2 = u := by rw [first]
    rw [left, run_settle]
    have site := yard.site fun _ _ _ used => absurd used (by simp)
    have versions := reach.versions returned
    exact yard.covered coverable plain (stages_buildPackages site plain.toConfined versions yard.ready)
      (linked_buildPackages site plain.toConfined keeps versions yard.ready coverable.linked) _
  · have worked (jobs crew o)
        (reach : Crew.Reach r c.targets scratch out (fun _ => False) (.initial jobs c.targets u) crew)
        (returned : crew.pool.outcomes? c.targets = some o) :
        ((r.settle o).run crew.workspace).1.Covered r.config out ((r.settle o).run crew.workspace).2 ∧
          ((r.settle o).run crew.workspace).1.ListsArchives r.config out ((r.settle o).run crew.workspace).2 := by
      have built := (reach.tended enclosed nodup names premises.ground).frame
      exact ⟨premises.covered built coverable (reach.restocked enclosed nodup names premises.ground draftable)
          (reach.linked alike enclosed nodup names premises.ground coverable.linked) plain keeps (reach.versions returned),
        premises.listsArchives built plain.toConfined (reach.versions returned) fun t a member =>
          (reach.stands enclosed nodup names premises.ground draftable returned member).2⟩
    refine ⟨worked, fun w report v prepared run => ?_⟩
    obtain ⟨_, crew, first, reach, returned, -, settled⟩ := exists_crew_of_run run scratch out
    obtain ⟨-, rfl⟩ := Prod.ext_iff.mp (prepared.symm.trans first)
    obtain ⟨rfl, rfl⟩ := Prod.ext_iff.mp settled
    exact worked _ crew _ reach returned
  · obtain ⟨_, first, finished⟩ := Packaging.exists_of_run run
    obtain ⟨-, rfl⟩ := Prod.ext_iff.mp (prepared.symm.trans first)
    obtain ⟨rfl, rfl⟩ := Prod.ext_iff.mp finished
    have site := yard.site fun _ _ _ used => absurd used (by simp)
    have versions := Packaging.version_existing r.packaging c u
    have stages := site.toSite.stages_buildEach plain.toConfined site.version versions yard.ready.staged
    have linked := site.toSite.linked_buildEach keeps plain.toConfined site.version versions yard.ready
      coverable.linked
    exact ⟨yard.covered coverable plain stages linked _, yard.listsArchives coverable names stages⟩

end Release

theorem FileTree.Linked.fill {t : FileTree} {l : Location} {entries : List (Location × Entry)} (linked : t.Linked)
    (below : ∀ n ∈ entries, n.1 ≠ []) (alone : ∀ k, l <+: k → k ≠ l → t.Alone k) : (t.fill l entries).Linked := by
  induction entries generalizing t with
  | nil => exact linked
  | cons n entries ih =>
    have inside : n.1 ≠ [] := below n (by simp)
    have free := alone (l ++ n.1) (List.prefix_append _ _) (by simpa using inside)
    exact ih (linked.put free (by simp [inside])) (fun m member => below m (by simp [member])) alone

theorem Compiler.keepsLinks_fixed {source : Location} {outputs : Target → Option (List (Location × Entry))}
    (below : ∀ t entries, outputs t = some entries → ∀ n ∈ entries, n.1 ≠ []) :
    (fixed source outputs).KeepsLinks := fun q w l leads empty linked => by
  rw [exec_fixed_of_leads leads]
  split
  · next entries _ found =>
    split
    · exact linked.fill (below _ _ found) fun k inside beside => linked.alone_of_free (empty k inside beside)
    · exact linked
  · exact linked

theorem Packager.keepsLinks_fixed (content : Bytes) : (fixed content).KeepsLinks :=
    fun q dir w l leads vacant linked => by
  rw [exec_fixed_of_leads leads]
  split
  · exact linked.put (vacant _ (List.prefix_append _ _) (by simp)).2 (by simp)
  · exact linked

/-- Where there are only directories and files, none of them a manifest, there is nothing to keep from being covered. -/
theorem Checksums.coverable_of_nodes {w : Workspace} {l : Location} (single : w.files.groups = [])
    (known : w.files.get? (l ++ [manifestName]) = none ∧ ∀ n ∈ w.files.nodes, n.2 = .directory ∨ n.2.isFile) :
    Coverable l w where
  noLinks name _ target link := by
    rw [FileTree.get?, if_neg (by simp)] at link
    obtain ⟨n, found, same⟩ := Option.map_eq_some_iff.mp link
    have plain := known.2 n (List.mem_of_find?_eq_some found)
    rw [same] at plain
    obtain bad | bad := plain <;> cases bad
  plain e there := by
    rw [known.1] at there
    cases there
  linked := ⟨by simp [FileTree.Alike, single], by simp [single], by simp [single]⟩

namespace Release

/-- The names that the manifest of a release covers. -/
def coveredNames (w : Workspace) : List String :=
  (Checksums.listing w packaged.config.outDir ["p", "pkg"]).map Prod.fst

theorem exists_report_of_names {x : TaskM ReleaseError Report} {w : Workspace} (names : List String)
    (told : ((x.exec w).1.toOption.map fun report => report.checksums?.isSome) = some true ∧
      coveredNames (x.exec w).2 = names) :
    ∃ report v, x.exec w = (.ok report, v) ∧ report.checksums?.isSome ∧ coveredNames v = names := by
  rcases run : x.exec w with ⟨error | report, v⟩ <;> rw [run] at told
  · simp [Except.toOption] at told
  · exact ⟨report, v, rfl, by simpa [Except.toOption] using told.1, told.2⟩

theorem manifest_covers_packaged :
    let c : Catalog := ⟨[⟨"x86-linux"⟩], none⟩
    let littered := prepared [(["p", "old.rpm"], .file [1] false)]
    let archived := prepared [(["p", "pkg", "mufiz_1_x86-linux.zip"], .file [] false)]
    (∃ report v, (packaged.run c).exec littered = (.ok report, v) ∧
      report.Covered packaged.config ["p", "pkg"] v ∧ report.checksums?.isSome ∧
      coveredNames v = ["mufiz_1_x86-linux.deb", "mufiz_1_x86-linux.zip", "old.rpm"]) ∧
    (∃ report v, (packaged.run c).exec (prepared []) = (.ok report, v) ∧
      (report.Covered packaged.config ["p", "pkg"] v ∧ report.ListsArchives packaged.config ["p", "pkg"] v) ∧
      report.checksums?.isSome ∧ coveredNames v = ["mufiz_1_x86-linux.deb", "mufiz_1_x86-linux.zip"]) ∧
    ∃ report v, (packaged.packaging.run c).exec archived = (.ok report, v) ∧
      (report.Covered packaged.config ["p", "pkg"] v ∧ report.ListsArchives packaged.config ["p", "pkg"] v) ∧
      report.checksums?.isSome ∧ coveredNames v = ["mufiz_1_x86-linux.deb", "mufiz_1_x86-linux.zip"] := by
  intro c littered archived
  have accepted : Catalog.ofIds ["x86-linux"] = .ok c := by decide
  obtain ⟨built, whole, packaging⟩ :=
    manifest_covers (r := packaged) accepted (Packager.plain_fixed [9]) (Packager.keepsLinks_fixed [9])
  refine ⟨?_, ?_, ?_⟩
  · obtain ⟨report, v, run, written, names⟩ := exists_report_of_names (x := packaged.run c) (w := littered)
      ["mufiz_1_x86-linux.deb", "mufiz_1_x86-linux.zip", "old.rpm"] (by decide +kernel)
    refine ⟨report, v, run, built _ _ _ report v run (yard_packaged (by decide +kernel)) ?_, written, names⟩
    exact Checksums.coverable_of_nodes (by decide +kernel) (by decide +kernel)
  · obtain ⟨report, v, run, written, names⟩ := exists_report_of_names (x := packaged.run c)
      (w := prepared []) ["mufiz_1_x86-linux.deb", "mufiz_1_x86-linux.zip"] (by decide +kernel)
    have draftable : ∀ t ∈ c.targets, packaged.Draftable ["p", "pkg"] t (prepared []) := fun t member e found => by
      obtain rfl : t = ⟨"x86-linux"⟩ := by simpa [c] using member
      rw [free_prepared] at found
      cases found
    have covers := whole confined_packaged (Compiler.keepsLinks_fixed (exists_output below_binary)) _ _ _ _
      premises_packaged draftable (Checksums.coverable_of_nodes rfl (by decide +kernel))
    exact ⟨report, v, run, covers.2 _ report v exec_prepare_packaged run, written, names⟩
  · obtain ⟨report, v, run, written, names⟩ := exists_report_of_names (x := packaged.packaging.run c) (w := archived)
      ["mufiz_1_x86-linux.deb", "mufiz_1_x86-linux.zip"] (by decide +kernel)
    have yard : packaged.packaging.Yard ["p"] ["p", "pkg"] (fun _ => false) archived :=
      yard_packaged (by decide +kernel)
    have made : (Files.makeDirectories packaged.config.outDir).exec archived = (.ok (), archived) :=
      TaskM.exec_eq_of_toBool (by decide +kernel)
        (Files.makeDirectories_of_leads ((archived.rests_without _).leads yard.leadsOut))
    exact ⟨report, v, run, packaging _ _ _ yard (Checksums.coverable_of_nodes rfl (by decide +kernel)) _ report v made run,
      written, names⟩

end Release

/-- What a release is given whose manifest leaves something out. -/
structure Checksums.Omission where
  id : String
  outputs : List (String × List (Location × Entry))
  nodes : List (Location × Entry)
  groups : List (List Location)

namespace Checksums.Omission

def start (m : Omission) : Workspace :=
  ⟨⟨(["p"], .directory) :: (["p", "build.zig"], .file [] false) :: m.nodes, m.groups⟩, ["p"], []⟩

def release (m : Omission) : Release :=
  .fixed "." "1.0.0" m.outputs

/-- Whether each file that belongs in the manifest has a line there. -/
def hasLines (w : Workspace) (dir : Path) (l : Location) : Bool :=
  (artifacts w l).all fun entry => (manifest? w dir).any fun s => record entry ∈ Text.split '\n' s

/-- Whether each archive that is reported is among the files that belong in the manifest. -/
def hasArchives (report : Report) (w : Workspace) (dir : Path) (l : Location) : Bool :=
  report.targets.all fun t => t.outcome.toOption.all fun p => (artifacts w l).any fun entry => p = dir.join entry.1

/-- Whether the manifest that is written tells of all that belongs there. -/
def told (m : Omission) : Option Bool :=
  let run := (m.release.run ⟨[⟨m.id⟩], none⟩).exec m.start
  run.1.toOption.bind fun report => report.checksums?.map fun _ =>
    hasLines run.2 ⟨"./pkg"⟩ ["p", "pkg"] && hasArchives report run.2 ⟨"./pkg"⟩ ["p", "pkg"]

/-- A release that writes a manifest without a line for some file that belongs in it, or that reports an archive which
is no such file. -/
def Happens (m : Omission) : Prop :=
  ∃ report v p, (m.release.run ⟨[⟨m.id⟩], none⟩).exec m.start = (.ok report, v) ∧ report.checksums? = some p ∧
    ((∃ entry ∈ artifacts v ["p", "pkg"], ∀ s, manifest? v ⟨"./pkg"⟩ = some s → record entry ∉ Text.split '\n' s) ∨
      ∃ t ∈ report.targets, ∃ q, t.outcome = .ok q ∧
        ∀ entry ∈ artifacts v ["p", "pkg"], q ≠ (⟨"./pkg"⟩ : Path).join entry.1)

theorem happens_of_told {m : Omission} (told : m.told = some false) : m.Happens := by
  rw [Omission.told] at told
  rcases run : (m.release.run ⟨[⟨m.id⟩], none⟩).exec m.start with ⟨error | report, v⟩
  · simp [run, Except.toOption] at told
  simp only [run, Except.toOption, Option.bind_some, Option.map_eq_some_iff, Bool.and_eq_false_iff] at told
  obtain ⟨p, written, missing | missing⟩ := told
  · rw [hasLines, List.all_eq_false] at missing
    obtain ⟨entry, member, unlisted⟩ := missing
    refine ⟨report, v, p, run, written, .inl ⟨entry, member, fun s read listed => unlisted ?_⟩⟩
    simp [read, listed]
  · rw [hasArchives, List.all_eq_false] at missing
    obtain ⟨t, member, unlisted⟩ := missing
    cases outcome : t.outcome with
    | error error => simp [outcome, Except.toOption] at unlisted
    | ok q =>
      refine ⟨report, v, p, run, written, .inr ⟨t, member, q, outcome, fun entry listed same => unlisted ?_⟩⟩
      simp only [outcome, Except.toOption, Option.all_some, List.any_eq_true]
      exact ⟨entry, listed, by simpa using same⟩

def all : List Omission := [
  -- A name has a line break in it.
  { id := "a", outputs := [],
    nodes := [(["p", "pkg"], .directory), (["p", "pkg", "a\nb.zip"], .file [] false)], groups := [] },
  -- The manifest is the same file as an archive.
  { id := "a", outputs := [],
    nodes := [(["p", "pkg"], .directory), (["p", "pkg", "SHA256SUMS"], .file [] false),
      (["p", "pkg", "b.zip"], .file [] false)],
    groups := [[["p", "pkg", "SHA256SUMS"], ["p", "pkg", "b.zip"]]] },
  -- The manifest is a device.
  { id := "a", outputs := [],
    nodes := [(["p", "pkg"], .directory), (["p", "pkg", "SHA256SUMS"], .void), (["p", "pkg", "b.zip"], .file [] false)],
    groups := [] },
  -- The draft of an archive is a device.
  { id := "a", outputs := [("a", Release.binary)],
    nodes := [(["p", "pkg"], .directory), (["p", "pkg", "mufiz_1.0.0_a.zip.partial"], .void)], groups := [] },
  -- The output directory is a directory that a target is built in, and is made again for a loose package.
  { id := "pkg", outputs := [("pkg", Release.binary)],
    nodes := [(["p", ".release-scratch"], .link ⟨"."⟩), (["p", "x.deb"], .file [] false)], groups := [] }]

/-- Where names break lines, other names or devices stand in the way, or archives are removed with what they were
built in, a manifest leaves something out. -/
theorem happens_each : all.Forall Happens := by
  rw [List.forall_iff_forall_mem]
  have told : ∀ m ∈ all, m.told = some false := by
    simp only [all, List.forall_mem_cons]
    refine ⟨?_, ?_, ?_, ?_, ?_, List.forall_mem_nil _⟩ <;> decide +kernel
  exact fun m member => happens_of_told (told m member)

end Checksums.Omission

end ReleaseMatrix
