import ReleaseMatrix.Proofs.PackageStage

namespace ReleaseMatrix

open Workspace (Within)
open FileTree (usable)

theorem Entry.not_isWay_of_isFile {e : Entry} (file : e.isFile) : e.isWay = false := by
  cases e <;> first | rfl | cases file

namespace FileTree

variable {t : FileTree} {l : Location}

/-- A tree that a file system can hold. -/
structure WellFormed (t : FileTree) : Prop where
  sound : t.Sound
  proper : ∀ k e, t.get? k = some e → Location.IsProper k
  present : ∀ group ∈ t.groups, ∀ k ∈ group, (t.get? k).isSome

theorem WellFormed.vacant (wellFormed : t.WellFormed) (free : t.get? l = none) : t.Vacant l := fun k inside below => by
  have none : t.get? k = none := by
    cases found : t.get? k with
    | none => rfl
    | some e =>
      have above := wellFormed.sound.above found inside (Ne.symm below)
      simp [free] at above
  refine ⟨none, fun group member listed => ?_⟩
  have some := wellFormed.present group member k listed
  simp [none] at some

theorem wellFormed_of_nodes (above : ∀ n ∈ t.nodes, t.get? n.1.dropLast = some .directory)
    (proper : ∀ n ∈ t.nodes, Location.IsProper n.1) (present : ∀ group ∈ t.groups, ∀ k ∈ group, (t.get? k).isSome) :
    t.WellFormed where
  sound := sound_of_nodes above
  proper k e found := by
    by_cases root : k = []
    · subst root
      exact fun name member => nomatch member
    · rw [get?, if_neg root] at found
      obtain ⟨n, node, -⟩ := Option.map_eq_some_iff.mp found
      have place : n.1 = k := by simpa using List.find?_some node
      exact place ▸ proper n (List.mem_of_find?_eq_some node)
  present := present

theorem Sound.without {picks : Location → Bool} (sound : t.Sound) (closed : ∀ k m, k <+: m → picks k → picks m) :
    (t.without picks).Sound := fun l name e found => by
  rw [get?_without (by simp)] at found
  split at found
  · cases found
  · next stays =>
    have above := sound l name e found
    by_cases root : l = []
    · subst root
      simp
    · rw [get?_without root, if_neg fun picked => stays (closed l _ (List.prefix_append _ _) picked), above]

end FileTree

/-- Whether a place has, below the output directory, a name that a release gives besides archives and drafts. -/
def isSparePlace (out k : Location) : Bool :=
  out.isPrefixOf k && (k.drop out.length).head?.any isSpareName

theorem isSparePlace_iff {out k : Location} :
    isSparePlace out k = true ↔ ∃ name, isSpareName name ∧ out ++ [name] <+: k := by
  rw [isSparePlace, Bool.and_eq_true, List.isPrefixOf_iff_prefix, Option.any_eq_true]
  constructor
  · rintro ⟨⟨rest, rfl⟩, name, head, spare⟩
    rw [List.drop_left] at head
    obtain ⟨more, rfl⟩ := List.head?_eq_some_iff.mp head
    exact ⟨name, spare, more, by simp⟩
  · rintro ⟨name, spare, rest, rfl⟩
    refine ⟨⟨[name] ++ rest, by simp⟩, name, ?_, spare⟩
    simp

namespace Packaging

/-- Packages and the directories they are made in are not put where the manifest goes. -/
theorem not_made_manifest (out : Location) : ¬ ∃ other, IsName other ∧ isPackagingName other ∧
    out ++ [other] <+: out ++ [Checksums.manifestName] := by
  rintro ⟨other, -, packaging, inside⟩
  obtain rfl : other = Checksums.manifestName := by simpa using inside.eq_of_length (by simp)
  rw [not_isPackagingName_manifestName] at packaging
  cases packaging

/-- Where a release works once its archives are made. The paths of the project and of the output directory lead there
along directories and links of a tree that has none of them where packages and the manifest go. -/
structure Site (p : Packaging) (base : FileTree) (here proj out : Location) : Prop
    extends p.packageBuilder.Site base here out where
  version : '/' ∉ p.config.version.toList
  leadsProject : base.Leads here p.config.projectDir proj
  manifest : ∀ k e, out ++ [Checksums.manifestName] <+: k → base.get? k = some e → e.isWay = false

/-- A file at the top level of the project that can be taken for a package left there. -/
def Loose (proj : Location) (w : Workspace) (name : String) : Prop :=
  Collection.isPackageName name ∧ ∃ e, w.files.get? (proj ++ [name]) = some e ∧ e.isFile

/-- The names of the loose packages of a directory. -/
def looseIn (w : Workspace) (proj : Location) : List String :=
  (w.files.names proj).filter fun name => Collection.isPackageName name && (w.files.get? (proj ++ [name])).any Entry.isFile

theorem mem_looseIn {w : Workspace} {proj : Location} {name : String} : name ∈ looseIn w proj ↔ Loose proj w name := by
  rw [looseIn, List.mem_filter, FileTree.mem_names, Bool.and_eq_true, Option.any_eq_true, Loose]
  constructor
  · rintro ⟨-, package, loose⟩
    exact ⟨package, loose⟩
  · rintro ⟨package, e, there, file⟩
    exact ⟨Option.isSome_of_eq_some there, package, e, there, file⟩

theorem looseNames_of_leads {w : Workspace} {proj : Location} {source : Path} (leads : w.Leads source proj) :
    Collection.looseNames w source = (FileTree.checkPath source).map fun _ => looseIn w proj := by
  rw [Collection.looseNames, Workspace.find, Workspace.locate, leads.locate]
  cases FileTree.checkPath source with
  | error fault => rfl
  | ok _ =>
    simp only [Except.map, bind, Except.bind, leads.directory]
    rfl

/-- The places that collecting the loose packages of a project can change. -/
def CollectionArea (proj out : Location) (w : Workspace) (k : Location) : Prop :=
  proj ≠ out ∧ ∃ name, Loose proj w name ∧ (proj ++ [name] <+: k ∨ out ++ [name] <+: k)

/-- At each place in the output directory stands what was there before, or a file. -/
def Replaced (out : Location) (w v : Workspace) : Prop :=
  ∀ name, Workspace.Refilled (out ++ [name]) w v

theorem Replaced.refl (out : Location) (w : Workspace) : Replaced out w w := fun _ => .inl rfl

theorem Replaced.trans {out : Location} {w v u : Workspace} (first : Replaced out w v) (second : Replaced out v u) :
    Replaced out w u := fun name => (first name).trans (second name)

/-- A package stands in the output directory, and its path can be used. -/
def Gathered (p : Packaging) (out : Location) (name : String) (w : Workspace) : Prop :=
  usable p.config.outDir name = .ok () ∧ ∃ e, w.files.get? (out ++ [name]) = some e ∧ e.isFile

theorem Gathered.later {p : Packaging} {out : Location} {name : String} {w v : Workspace}
    (gathered : p.Gathered out name w) (replaced : Replaced out w v) : p.Gathered out name v := by
  obtain ⟨fits, e, there, file⟩ := gathered
  rcases replaced name with same | now
  · exact ⟨fits, e, same.trans there, file⟩
  · exact ⟨fits, now⟩

/-- What holds while loose packages are collected: what is still at the place of one is a file. -/
structure Collected (proj out : Location) (w v : Workspace) : Prop where
  within : Within (CollectionArea proj out w) w v
  replaced : Replaced out w v
  files : ∀ name, Loose proj w name → ∀ e, v.files.get? (proj ++ [name]) = some e → e.isFile
  alike : w.files.Alike → v.files.Alike

theorem Collected.refl (proj out : Location) (w : Workspace) : Collected proj out w w where
  within := .refl _ w
  replaced := .refl out w
  files name loose e there := by
    obtain ⟨-, d, found, file⟩ := loose
    obtain rfl := Option.some_inj.mp (found.symm.trans there)
    exact file
  alike := id

variable {p : Packaging} {base : FileTree} {here proj out : Location} {w v : Workspace} {name : String}

namespace Site

variable (site : p.Site base here proj out)
include site

theorem leadsOut : base.Leads here p.config.outDir out :=
  site.leads

/-- A file in the way to a directory of the tree would not leave it in place. -/
theorem away_of_file {l k : Location} {e d : Entry} (rests : w.Rests base here) (there : w.files.get? l = some e)
    (file : e.isFile) (inside : l <+: k) (found : base.get? k = some d) : d.isWay = false := by
  by_contra way
  have kept : ∃ d, d.isWay ∧ w.files.get? l = some d := by
    by_cases same : l = k
    · subst same
      exact ⟨d, by simpa using way, rests.keeps l d (by simpa using way) found⟩
    · exact ⟨.directory, rfl, rests.keeps l _ rfl (site.sound.above found inside same)⟩
  obtain ⟨d, isWay, stands⟩ := kept
  obtain rfl := Option.some_inj.mp (there.symm.trans stands)
  simp [Entry.not_isWay_of_isFile file] at isWay

theorem not_above_project (package : Collection.isPackageName name) : ¬ out ++ [name] <+: proj := fun inside => by
  have way := site.away name (isPackagingName_of_isPackageName package) proj _ inside site.leadsProject.directory
  cases way

theorem not_above_out (rests : w.Rests base here) (loose : Loose proj w name) : ¬ proj ++ [name] <+: out := fun inside => by
  obtain ⟨-, e, there, file⟩ := loose
  have way := site.away_of_file rests there file inside site.leadsOut.directory
  cases way

theorem rests_of_collection (rests : w.Rests base here) (within : Within (CollectionArea proj out w) w v) :
    v.Rests base here := by
  refine within.rests (fun k e area found => ?_) rests
  obtain ⟨-, name, ⟨package, d, there, file⟩, inside | inside⟩ := area
  · exact site.away_of_file rests there file inside found
  · exact site.away name (isPackagingName_of_isPackageName package) k e inside found

theorem rests_of_finish (rests : w.Rests base here)
    (within : Within (fun k => CollectionArea proj out w k ∨ out ++ [Checksums.manifestName] <+: k) w v) :
    v.Rests base here := by
  refine within.rests (fun k e area found => ?_) rests
  obtain ⟨-, name, ⟨package, d, there, file⟩, inside | inside⟩ | inside := area
  · exact site.away_of_file rests there file inside found
  · exact site.away name (isPackagingName_of_isPackageName package) k e inside found
  · exact site.manifest k e inside found

/-- Moving a loose package changes its place and its destination. If it succeeds then a package is there. -/
theorem collected_move {u : Workspace} (rests : w.Rests base here) (collected : Collected proj out w u)
    (loose : Loose proj w name) (valid : IsName name) :
    let run := (Files.move (p.config.projectDir.join name) (p.config.outDir.join name)).exec u
    Collected proj out w run.2 ∧ Replaced out u run.2 ∧
      (run.1 = .ok () → w.files.Alike → p.Gathered out name run.2) := by
  have restsU := site.rests_of_collection rests collected.within
  have leads := restsU.leads site.leadsProject
  have leads' := restsU.leads site.leadsOut
  cases found : u.files.get? (proj ++ [name]) with
  | none =>
    obtain ⟨error, unmoved⟩ := Files.move_join_missing leads valid leads' valid found
    rw [unmoved]
    exact ⟨collected, .refl out u, fun ok => nomatch ok⟩
  | some e =>
    have file := collected.files name loose e found
    by_cases apart : proj = out
    · subst apart
      obtain ⟨outcome, unmoved, fits⟩ := Files.move_join_self leads leads' valid found
      rw [unmoved]
      exact ⟨collected, .refl proj u, fun ok _ => ⟨fits ok, e, found, file⟩⟩
    · have beside {a b : Location} {x y : String} (other : a ≠ b) (above : ¬ a ++ [x] <+: b) :
          ¬ a ++ [x] <+: b ++ [y] := by
        intro inside
        rcases List.prefix_concat_iff.mp inside with equal | inside
        · exact other (List.append_inj' equal rfl).1
        · exact above inside
      have fromProject (x : String) := beside (y := x) apart (site.not_above_out rests loose)
      have fromOut (x : String) := beside (y := x) (Ne.symm apart) (site.not_above_project loose.1)
      obtain ⟨outcome, unmoved, twin⟩ | ⟨moved, fits, -⟩ := Files.move_join leads valid leads' valid found
        (by rintro rfl; cases file) (fromProject name) (fromOut name)
      · rw [unmoved]
        refine ⟨collected, .refl out u, fun ok alike => ?_⟩
        obtain ⟨fits, twin⟩ := twin ok
        exact ⟨fits, e, ((collected.alike alike).get?_eq twin).trans found, file⟩
      · rw [moved]
        have there : (FileM.relocated u (proj ++ [name]) (out ++ [name])).files.get? (out ++ [name]) = some e :=
          FileM.get?_relocated_dest (by simp) (by simp) found
        have replaced : Replaced out u (FileM.relocated u (proj ++ [name]) (out ++ [name])) := fun x => by
          by_cases own : x = name
          · subst own
            exact .inr ⟨e, there, file⟩
          · rw [Workspace.Refilled, FileM.relocated_files]
            exact .inl (FileTree.get?_move (fromProject x) (by simpa using Ne.symm own))
        have within : Within (CollectionArea proj out w) u (FileM.relocated u (proj ++ [name]) (out ++ [name])) :=
          FileM.within_relocated.mono fun k inside => ⟨apart, name, loose, inside⟩
        refine ⟨⟨collected.within.trans within, collected.replaced.trans replaced, fun x looseX d stands => ?_,
          fun alike => ?_⟩, replaced, fun _ _ => ⟨fits, e, there, file⟩⟩
        · rw [FileM.relocated_files] at stands
          by_cases own : x = name
          · subst own
            rw [FileTree.get?_move_source (by simp) (List.prefix_refl _) (fromOut x)] at stands
            cases stands
          · rw [FileTree.get?_move (by simpa using Ne.symm own) (fromOut x)] at stands
            exact collected.files x looseX d stands
        · rw [FileM.relocated_files]
          exact (collected.alike alike).move (by simp) (by simp)

/-- Only loose packages are collected. -/
theorem loose_of_looseNames (rests : w.Rests base here) {names : List String}
    (found : Collection.looseNames w p.config.projectDir = .ok names) : ∀ name ∈ names, Loose proj w name := by
  rw [looseNames_of_leads (rests.leads site.leadsProject)] at found
  cases checked : FileTree.checkPath p.config.projectDir with
  | error fault => simp [checked, Except.map] at found
  | ok _ =>
    obtain rfl : looseIn w proj = names := by simpa [checked, Except.map] using found
    exact fun name => mem_looseIn.mp

/-- Collecting the loose packages of a project changes nothing but their places and their destinations. What it says to
be collected is there. -/
theorem collected_run (rests : w.Rests base here) (names : ∀ name, Loose proj w name → IsName name) :
    let run := (Collection.run p.config.projectDir p.config.outDir).exec w
    Collected proj out w run.2 ∧ ∀ paths, run.1 = .ok paths → ∀ path ∈ paths, ∃ name, Loose proj w name ∧
      path = p.config.outDir.join name ∧ (w.files.Alike → p.Gathered out name run.2) := by
  rw [Collection.run, TaskM.exec_bind, TaskM.exec_get]
  dsimp only
  split
  · exact ⟨.refl proj out w, fun paths ok path member => by simp_all [← Except.ok.inj ok]⟩
  rw [TaskM.exec_bind, TaskM.exec_describe, FileM.exec_look]
  cases found : Collection.looseNames w p.config.projectDir with
  | error fault => exact ⟨.refl proj out w, fun paths ok => nomatch ok⟩
  | ok loose =>
    have isLoose := site.loose_of_looseNames rests found
    have all := TaskM.exec_mapM_keeps (Collected proj out w) (fun path v => ∃ name, Loose proj w name ∧
        path = p.config.outDir.join name ∧ (w.files.Alike → p.Gathered out name v)) (l := loose)
      (f := fun name => do
        Files.move (p.config.projectDir.join name) (p.config.outDir.join name)
        pure (p.config.outDir.join name)) (fun name member u collected => ?_) (Collected.refl proj out w)
    · exact ⟨all.1, all.2.1⟩
    · obtain ⟨next, replaced, gathered⟩ :=
        site.collected_move rests collected (isLoose name member) (names name (isLoose name member))
      rw [TaskM.exec_bind]
      rcases moved : (Files.move (p.config.projectDir.join name) (p.config.outDir.join name)).exec u with ⟨_ | _, v⟩
      · rw [moved] at next replaced
        exact ⟨next, fun _ ok => (nomatch ok), fun _ ⟨name, loose, path, before⟩ =>
          ⟨name, loose, path, fun alike => (before alike).later replaced⟩⟩
      · rw [moved] at next replaced gathered
        refine ⟨next, fun path ok => ?_, fun _ ⟨name, loose, path, before⟩ =>
          ⟨name, loose, path, fun alike => (before alike).later replaced⟩⟩
        exact ⟨name, isLoose name member, (Except.ok.inj ok).symm, gathered rfl⟩

/-- Writing the manifest changes nothing else. -/
theorem within_manifest (rests : w.Rests base here)
    (noLink : ∀ target, w.files.get? (out ++ [Checksums.manifestName]) ≠ some (.link target))
    (alone : w.files.Alone (out ++ [Checksums.manifestName])) :
    Within (out ++ [Checksums.manifestName] <+: ·) w
      ((Checksums.write p.config.outDir Checksums.manifestName).exec w).2 := by
  have valid : IsName Checksums.manifestName := ⟨by decide, by decide, by decide, by decide⟩
  have leads := rests.leads site.leadsOut
  obtain ⟨outcome, parent⟩ := Files.exec_makeParent_join leads valid
  have written (content : Bytes) : Within (out ++ [Checksums.manifestName] <+: ·) w
      ((FileM.write (p.config.outDir.join Checksums.manifestName) content).exec w).2 := by
    rw [FileM.write_join leads valid noLink alone]
    split
    · exact .refl _ w
    · exact .refl _ w
    · exact FileM.within_put (by simp)
  rw [Checksums.write, TaskM.exec_bind, TaskM.exec_get]
  dsimp only
  rw [TaskM.exec_bind, TaskM.exec_ofExcept]
  cases Checksums.text w p.config.outDir with
  | error error => exact .refl _ w
  | ok content =>
    dsimp only
    rw [TaskM.exec_bind, Files.writeText, TaskM.exec_bind, parent]
    cases outcome with
    | error error => exact .refl _ w
    | ok _ =>
      have whole := written (Text.Utf8.encode content)
      dsimp only
      rw [TaskM.exec_describe]
      rcases wrote : (FileM.write (p.config.outDir.join Checksums.manifestName) (Text.Utf8.encode content)).exec w
        with ⟨_ | _, v⟩ <;> rw [wrote] at whole <;> exact whole

/-- Collecting packages changes nothing in the output directory that has not the name of a loose one. -/
theorem not_collectionArea (rests : w.Rests base here) (free : ¬ Loose proj w name) :
    ¬ CollectionArea proj out w (out ++ [name]) := by
  rintro ⟨apart, other, loose, inside | inside⟩
  · rcases List.prefix_concat_iff.mp inside with equal | above
    · exact apart (List.append_inj' equal rfl).1
    · exact site.not_above_out rests loose above
  · obtain rfl : other = name := by simpa using inside.eq_of_length (by simp)
    exact free loose

/-- Collecting packages and writing the manifest leave everything else as it is. -/
theorem within_finish (rests : w.Rests base here) (names : ∀ name, Loose proj w name → IsName name)
    (noLink : ∀ target, w.files.get? (out ++ [Checksums.manifestName]) ≠ some (.link target))
    (alone : w.files.Alone (out ++ [Checksums.manifestName])) (outcomes : Outcomes Archive)
    (packages : List PackageResult) :
    Within (fun k => CollectionArea proj out w k ∨ out ++ [Checksums.manifestName] <+: k) w
      ((p.finish outcomes packages).run w).2 := by
  have collected := (site.collected_run rests names).1.within
  have free : ¬ CollectionArea proj out w (out ++ [Checksums.manifestName]) :=
    site.not_collectionArea rests fun loose => not_isPackageName_manifestName loose.1
  have written := site.within_manifest (site.rests_of_collection rests collected)
    (by rwa [collected.files _ free]) (collected.alone _ free alone)
  exact (collected.mono fun _ => .inl).trans (written.mono fun _ => .inr)

/-- A place at the top level of the project where packaging puts something is in the output directory. -/
theorem same_of_packaging {other : String} (packaging : isPackagingName other)
    (inside : out ++ [other] <+: proj ++ [name]) : proj = out ∧ name = other := by
  obtain same | above := List.prefix_concat_iff.mp inside
  · obtain ⟨rfl, last⟩ := List.append_inj' same rfl
    exact ⟨rfl, by simpa using last.symm⟩
  · have way := site.away other packaging proj _ above site.leadsProject.directory
    cases way

variable {y : Workspace} (staged : p.packageBuilder.Staged base here out y w)
include staged

/-- A package that lies loose in another directory than the packages are made in was there before. -/
theorem loose_of_staged (apart : proj ≠ out) (loose : Loose proj w name) : Loose proj y name := by
  obtain ⟨package, e, there, file⟩ := loose
  refine ⟨package, e, ?_, file⟩
  rw [← staged.within.files _ ?_, there]
  rintro ⟨other, -, packaging, inside⟩
  exact apart (site.same_of_packaging packaging inside).1

theorem isName_of_loose (names : ∀ name, Loose proj y name → IsName name) (loose : Loose proj w name) :
    IsName name := by
  by_cases made : ∃ other, IsName other ∧ isPackagingName other ∧ out ++ [other] <+: proj ++ [name]
  · obtain ⟨other, valid, packaging, inside⟩ := made
    rwa [(site.same_of_packaging packaging inside).2]
  · obtain ⟨package, e, there, file⟩ := loose
    exact names name ⟨package, e, (staged.within.files _ made).symm.trans there, file⟩

/-- What is done after packages are made changes only loose packages, the places they come to, and the manifest. -/
theorem within_finish_of_staged (names : ∀ name, Loose proj y name → IsName name)
    (noLink : ∀ target, y.files.get? (out ++ [Checksums.manifestName]) ≠ some (.link target))
    (alone : y.files.Alone (out ++ [Checksums.manifestName])) (outcomes : Outcomes Archive)
    (packages : List PackageResult) :
    Within (fun k => CollectionArea proj out w k ∨ out ++ [Checksums.manifestName] <+: k) w
      ((p.finish outcomes packages).run w).2 := by
  refine site.within_finish staged.ready.rests (fun name => site.isName_of_loose staged names) ?_
    (staged.within.alone _ (not_made_manifest out) alone) outcomes packages
  rwa [staged.within.files _ (not_made_manifest out)]

/-- What is done to make packages and after that changes nothing in the output directory but what has a name that a
release gives besides archives and drafts. -/
theorem finish_kept (names : ∀ name, Loose proj y name → IsName name)
    (noLink : ∀ target, y.files.get? (out ++ [Checksums.manifestName]) ≠ some (.link target))
    (alone : y.files.Alone (out ++ [Checksums.manifestName])) (outcomes : Outcomes Archive)
    (packages : List PackageResult) (foreign : isSpareName name = false) :
    ((p.finish outcomes packages).run w).2.files.get? (out ++ [name]) = y.files.get? (out ++ [name]) := by
  rw [isSpareName, Bool.or_eq_false_iff] at foreign
  obtain ⟨notPackaging, notManifest⟩ := foreign
  have unmade : ¬ ∃ made, IsName made ∧ isPackagingName made ∧ out ++ [made] <+: out ++ [name] := by
    rintro ⟨made, -, packaging, inside⟩
    obtain rfl : made = name := by simpa using inside.eq_of_length (by simp)
    simp [packaging] at notPackaging
  have unfinished : ¬ (CollectionArea proj out w (out ++ [name]) ∨
      out ++ [Checksums.manifestName] <+: out ++ [name]) := by
    rintro (collected | written)
    · refine site.not_collectionArea staged.ready.rests (fun loose => ?_) collected
      simp [isPackagingName_of_isPackageName loose.1] at notPackaging
    · obtain rfl : Checksums.manifestName = name := by simpa using written.eq_of_length (by simp)
      simp at notManifest
  rw [(site.within_finish_of_staged staged names noLink alone outcomes packages).files _ unfinished,
    staged.within.files _ unmade]

end Site

/-- Where packages can be made and collected in the files of a project: both directories are there, and are found without
passing through what is used already or may get a name from packaging. The manifest is no link or another name of a
file. -/
structure Yard (p : Packaging) (proj out : Location) (used : Location → Bool) (w : Workspace) : Prop where
  product : '/' ∉ p.config.product.toList
  version : '/' ∉ p.config.version.toList
  wellFormed : w.files.WellFormed
  leadsOut : (w.files.without fun k => used k || isSparePlace out k).Leads w.directory p.config.outDir out
  leadsProject : (w.files.without fun k => used k || isSparePlace out k).Leads w.directory p.config.projectDir proj
  noLink : ∀ target, w.files.get? (out ++ [Checksums.manifestName]) ≠ some (.link target)
  alone : w.files.Alone (out ++ [Checksums.manifestName])

namespace Yard

variable {used : Location → Bool} (yard : p.Yard proj out used w)
include yard

theorem site (closed : ∀ k m, k <+: m → used k → used m) :
    p.Site (w.files.without fun k => used k || isSparePlace out k) w.directory proj out where
  product := yard.product
  version := yard.version
  sound := yard.wellFormed.sound.without fun k m inside picked => by
    rw [Bool.or_eq_true, isSparePlace_iff] at picked ⊢
    exact picked.imp (closed k m inside) fun ⟨name, spare, above⟩ => ⟨name, spare, above.trans inside⟩
  proper relative := by
    have there := yard.leadsOut.start
    rw [show p.config.outDir.start w.directory = w.directory by simp [Path.start, show p.config.outDir.isAbsolute = false from relative]] at there
    exact yard.wellFormed.proper _ _ ((w.rests_without _).keeps _ _ rfl there)
  leads := yard.leadsOut
  away name packaging k e inside found := by
    have spare : isSparePlace out k := isSparePlace_iff.mpr ⟨name, isSpareName_of_isPackagingName packaging, inside⟩
    rw [FileTree.get?_without (by rintro rfl; simp at inside), spare, Bool.or_true, if_pos rfl] at found
    cases found
  leadsProject := yard.leadsProject
  manifest k e inside found := by
    have spare : isSparePlace out k := isSparePlace_iff.mpr ⟨_, by simp [isSpareName], inside⟩
    rw [FileTree.get?_without (by rintro rfl; simp at inside), spare, Bool.or_true, if_pos rfl] at found
    cases found

theorem isName_of_loose (loose : Loose proj w name) : IsName name := by
  obtain ⟨-, e, there, -⟩ := loose
  exact (yard.wellFormed.proper _ e there name (by simp)).1

theorem ready : PackageBuilder.Ready (w.files.without fun k => used k || isSparePlace out k) w.directory out w where
  rests := w.rests_without _
  vacant _ free := yard.wellFormed.vacant free

end Yard

/-- The files once loose packages are collected. -/
def gatheredIn (p : Packaging) (w : Workspace) : Workspace :=
  ((Collection.run p.config.projectDir p.config.outDir).exec w).2

theorem collected_finish (p : Packaging) (o : Outcomes Archive) (results : List PackageResult) (w : Workspace) :
    ((p.finish o results).run w).1.collected =
      ((Collection.run p.config.projectDir p.config.outDir).exec w).1.toOption.getD [] := by
  rfl

theorem checksums_finish (p : Packaging) (o : Outcomes Archive) (results : List PackageResult) (w : Workspace) :
    ((p.finish o results).run w).1.checksums? =
      ((Checksums.write p.config.outDir Checksums.manifestName).exec (p.gatheredIn w)).1.toOption := by
  rfl

theorem left_finish (p : Packaging) (o : Outcomes Archive) (results : List PackageResult) (w : Workspace) :
    ((p.finish o results).run w).2 = ((Checksums.write p.config.outDir Checksums.manifestName).exec (p.gatheredIn w)).2 := by
  rfl

theorem targets_finish (p : Packaging) (outcomes : Outcomes Archive) (packages : List PackageResult) (w : Workspace) :
    ((p.finish outcomes packages).run w).1.targets =
      outcomes.entries.map fun entry => .ofOutcome entry.1 entry.2 packages := rfl

end Packaging

end ReleaseMatrix
