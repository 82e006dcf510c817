import ReleaseMatrix.Proofs.PackageSteps

namespace ReleaseMatrix

open Workspace (Within)
open FileTree (usable)

theorem FileTree.alone_clear {t : FileTree} {l k : Location} (inside : l <+: k) (below : k ≠ l) : (t.clear l).Alone k := by
  intro group member listed
  obtain ⟨before, old, rfl⟩ := List.mem_map.mp member
  simpa [inside, below, isPrefixOf_eq] using (List.mem_filter.mp listed).2

theorem FileM.vacant_felled {w : Workspace} {l : Location} (root : l ≠ []) : (felled w l).files.Vacant l :=
  fun k inside below => ⟨by rw [get?_felled root, if_pos inside], by
    rw [felled_files]
    exact (FileTree.alone_clear inside below).erase l⟩

namespace PackageBuilder

variable {b : PackageBuilder} {base : FileTree} {here out dest dir l : Location} {a : Archive} {s : PackageSpec}
variable {w v : Workspace}

/-- The places that building a package can change: directories for packages, and its destination. -/
def Area (out dest k : Location) : Prop :=
  (∃ n, out ++ [PackageScratch.nameOf n] <+: k) ∨ dest <+: k

/-- Where a package of a target is put. -/
def place (b : PackageBuilder) (out : Location) (s : PackageSpec) (version : String) : Location :=
  out ++ [s.releaseName b.product version]

/-- How building a package ends. If it is built then it is what the packager wrote last. -/
structure Built (b : PackageBuilder) (base : FileTree) (here out : Location) (version : String) (s : PackageSpec)
    (w : Workspace) (outcome : Except (Stop PackageError) Path) (v : Workspace) : Prop where
  ready : Ready base here out v
  within : Within (Area out (b.place out s version)) w v
  kept : (∀ p, outcome ≠ .ok p) → v.files.get? (b.place out s version) = w.files.get? (b.place out s version)
  made : b.packager.Plain → ∀ p, outcome = .ok p → usable b.outDir (s.releaseName b.product version) = .ok () ∧
    ∃ e content r, v.files.get? (b.place out s version) = some e ∧ e.isFile ∧ e.content? = some content ∧ r.spec = s ∧
      w.Notes v (.produced r content)

/-- A failure before there is a directory for the package. -/
theorem Ready.built_of_error (ready : Ready base here out w) {version : String} {stop : Stop PackageError} :
    b.Built base here out version s w (.error stop) w where
  ready := ready
  within := .refl _ w
  kept _ := rfl
  made _ _ made := nomatch made

/-- What is in the area of a package has a name that packaging gives. -/
theorem exists_name_of_area {version : String} {k : Location} (inside : Area out (b.place out s version) k) :
    ∃ name, isPackagingName name ∧ out ++ [name] <+: k := by
  obtain ⟨m, inside⟩ | inside := inside
  · exact ⟨_, isPackagingName_nameOf m, inside⟩
  · exact ⟨_, isPackagingName_of_isPackageName (s.isPackageName_releaseName b.product version), inside⟩

theorem place_ne (s : PackageSpec) (version : String) (n : Nat) :
    b.place out s version ≠ out ++ [PackageScratch.nameOf n] := by
  simp [place, PackageSpec.releaseName_ne_nameOf]

namespace Site

variable (site : b.Site base here out)
include site

/-- A package is built in a new directory, unless there is nothing to build it from. -/
theorem exec_buildOne (rests : w.Rests base here) : (∃ stop, (b.buildOne a s).exec w = (.error stop, w)) ∨
    ∃ archive dir l outcome v, Room base here out dir l ∧ w.files.get? l = none ∧
      (b.packIn dir ⟨b.product, a.version, s, archive, s.outputName b.product a.version⟩).exec
        (FileM.changed w (·.put l .directory)) = (outcome, v) ∧
      (b.buildOne a s).exec w = (outcome, ((FileM.removeTree dir).exec v).2) := by
  rw [exec_buildOne_eq]
  split
  · split
    · exact .inl ⟨_, rfl⟩
    · next error v _ refused =>
      obtain ⟨_, unmade⟩ | ⟨_, _, -, -, made⟩ := site.exec_make rests
      · obtain ⟨-, rfl⟩ := Prod.mk.inj (refused.symm.trans unmade)
        exact .inl ⟨_, rfl⟩
      · cases refused.symm.trans made
    · next archive dir v _ made =>
      obtain ⟨_, unmade⟩ | ⟨_, l, room, free, made'⟩ := site.exec_make rests
      · cases made.symm.trans unmade
      · obtain ⟨⟨⟩, rfl⟩ := Prod.mk.inj (made.symm.trans made')
        exact .inr ⟨archive, dir, l, _, _, room, free, rfl, rfl⟩
  · exact .inl ⟨_, rfl⟩

/-- Removing the directory of a package that was made ends the work on the package. -/
theorem built_of_packed {version : String} {n : Nat} {u : Workspace} {r : PackageRequest} {dir : Path}
    {outcome : Except (Stop PackageError) Path} (ready : Ready base here out w)
    (room : Room base here out dir (out ++ [PackageScratch.nameOf n])) (about : r.spec = s ∧ r.version = version)
    (opened : Within (out ++ [PackageScratch.nameOf n] <+: ·) w u)
    (directory : u.files.get? (out ++ [PackageScratch.nameOf n]) = some .directory)
    (packed : b.Packed (out ++ [PackageScratch.nameOf n]) (b.place out s version) r u outcome v) :
    b.Built base here out version s w outcome ((FileM.removeTree dir).exec v).2 := by
  have root : out ++ [PackageScratch.nameOf n] ≠ [] := by simp
  have beside : ¬ out ++ [PackageScratch.nameOf n] <+: b.place out s version := fun inside =>
    place_ne s version n (inside.eq_of_length (by simp [place])).symm
  have beside' : ¬ b.place out s version <+: out ++ [PackageScratch.nameOf n] := fun inside =>
    place_ne s version n (inside.eq_of_length (by simp [place]))
  have made : Within (fun k => out ++ [PackageScratch.nameOf n] <+: k ∨ b.place out s version <+: k) w v :=
    (opened.mono fun _ => .inl).trans (packed.within.mono fun k => Or.imp_left And.left)
  have area {k : Location} (inside : out ++ [PackageScratch.nameOf n] <+: k ∨ b.place out s version <+: k) :
      Area out (b.place out s version) k := inside.imp_left fun inside => ⟨n, inside⟩
  have restsV := site.rests ready.rests (made.mono fun _ inside => exists_name_of_area (area inside))
  have removed := room.removed v restsV (by rw [packed.within.files _ (by simp [beside']), directory])
  have within := made.trans ((FileM.within_felled root).mono fun _ => .inl)
  rw [removed]
  refine ⟨⟨site.rests ready.rests (within.mono fun _ inside => exists_name_of_area (area inside)), fun m free => ?_⟩,
    within.mono fun _ => area, fun failed => ?_, fun plain p ok => ?_⟩
  · by_cases own : PackageScratch.nameOf m = PackageScratch.nameOf n
    · rw [own]
      exact FileM.vacant_felled root
    · have away {k : Location} (inside : out ++ [PackageScratch.nameOf m] <+: k) :
          ¬ (out ++ [PackageScratch.nameOf n] <+: k ∨ b.place out s version <+: k) := by
        have same {name : String} (beside : out ++ [name] <+: k) : PackageScratch.nameOf m = name := by
          have shape := List.prefix_of_prefix_length_le inside beside (by simp)
          simpa using shape.eq_of_length (by simp)
        rintro (inside | inside)
        · exact own (same inside)
        · exact PackageSpec.releaseName_ne_nameOf s b.product version m (same inside).symm
      rw [within.files _ (away (List.prefix_refl _))] at free
      exact (ready.vacant m free).congr fun k inside _ => ⟨within.files k (away inside), within.alone k (away inside)⟩
  · rw [FileM.get?_felled root, if_neg beside, packed.kept failed, opened.files _ beside]
  · obtain ⟨fits, e, content, there, file, holds, notes⟩ := packed.made plain p ok
    obtain ⟨rfl, rfl⟩ := about
    refine ⟨fits, e, content, r, ?_, file, holds, rfl, (notes.later (FileM.within_felled root).journal).earlier opened.journal⟩
    rw [FileM.get?_felled root, if_neg beside, there]

/-- What a new directory for a package changes, and what it is. -/
theorem opened_of_free {n : Nat} (ready : Ready base here out w)
    (free : w.files.get? (out ++ [PackageScratch.nameOf n]) = none) :
    let u := FileM.changed w (·.put (out ++ [PackageScratch.nameOf n]) .directory)
    Within (out ++ [PackageScratch.nameOf n] <+: ·) w u ∧ u.Rests base here ∧
      u.files.get? (out ++ [PackageScratch.nameOf n]) = some .directory ∧
      u.files.Vacant (out ++ [PackageScratch.nameOf n]) := by
  have root : out ++ [PackageScratch.nameOf n] ≠ [] := by simp
  have opened : Within (out ++ [PackageScratch.nameOf n] <+: ·) w
      (FileM.changed w (·.put (out ++ [PackageScratch.nameOf n]) .directory)) := FileM.within_put root
  refine ⟨opened, site.rests ready.rests (opened.mono fun k inside => ⟨_, isPackagingName_nameOf n, inside⟩), ?_, ?_⟩
  · simp [FileM.changed, FileTree.get?_put root]
  · exact (ready.vacant n free).congr fun k _ below =>
      ⟨by rw [FileM.changed, FileTree.get?_put root, if_neg below], id⟩

/-- Building a package changes nothing but directories for packages, which are removed, and the package's
destination. -/
theorem built_buildOne (confined : b.packager.Confined) (ready : Ready base here out w)
    (plainVersion : '/' ∉ a.version.toList) {t : Target} (member : s ∈ PackageSpec.list t b.formats) :
    b.Built base here out a.version s w ((b.buildOne a s).exec w).1 ((b.buildOne a s).exec w).2 := by
  obtain ⟨stop, eq⟩ | ⟨archive, dir, l, outcome, v, room, free, packed, eq⟩ := site.exec_buildOne (a := a) (s := s) ready.rests
  · rw [eq]
    exact ready.built_of_error
  obtain ⟨n, rfl⟩ := room.named
  obtain ⟨opened, rests, directory, vacant⟩ := site.opened_of_free ready free
  have made := site.packed_packIn
    (r := ⟨b.product, a.version, s, archive, s.outputName b.product a.version⟩) room confined rests directory vacant
    (PackageSpec.isName_outputName member site.product plainVersion)
    (PackageSpec.isName_releaseName member site.product plainVersion)
  rw [packed] at made
  rw [eq]
  exact site.built_of_packed ready room ⟨rfl, rfl⟩ opened directory made

end Site

/-- At the destination of a package stands a file with what the packager wrote for its target and format since
`start`. -/
def Holds (b : PackageBuilder) (out : Location) (version : String) (start : Workspace) (s : PackageSpec)
    (w : Workspace) : Prop :=
  ∃ e content r, w.files.get? (b.place out s version) = some e ∧ e.isFile ∧ e.content? = some content ∧
    r.spec.target = s.target ∧ r.spec.format = s.format ∧ start.Notes w (.produced r content)

/-- A package that is reported to be built is at its destination. -/
def Delivered (b : PackageBuilder) (out : Location) (version : String) (start : Workspace) (r : PackageResult)
    (w : Workspace) : Prop :=
  ∀ p, r.outcome = .ok p → ∃ s, s.target = r.target ∧ s.format = r.format ∧ PackageArch.Mapped s.target ∧
    p = b.outDir.join (s.releaseName b.product version) ∧ usable b.outDir (s.releaseName b.product version) = .ok () ∧
    b.Holds out version start s w

/-- What holds while packages are built: only packages and the directories they are made in have changed, and what has
the name of a package is still the same or is a file. -/
structure Staged (b : PackageBuilder) (base : FileTree) (here out : Location) (start w : Workspace) : Prop where
  ready : Ready base here out w
  within : Within (fun k => ∃ name, IsName name ∧ isPackagingName name ∧ out ++ [name] <+: k) start w
  packages : b.packager.Plain → ∀ name, Collection.isPackageName name →
    w.files.get? (out ++ [name]) = start.files.get? (out ++ [name]) ∨
      ∃ e, w.files.get? (out ++ [name]) = some e ∧ e.isFile

open PackageArch (Mapped)

variable {version : String} {start : Workspace} {r : PackageResult}

/-- A package stays at its destination, or another one for the same target and format takes its place. -/
theorem Holds.later {s' : PackageSpec} {outcome : Except (Stop PackageError) Path} (plain : b.packager.Plain)
    (mapped : Mapped s.target) (mapped' : Mapped s'.target) (holds : b.Holds out version start s w)
    (begun : start.journal <+: w.journal) (built : b.Built base here out version s' w outcome v) :
    b.Holds out version start s v := by
  obtain ⟨e, content, r, there, file, what, target, format, notes⟩ := holds
  have kept (same : v.files.get? (b.place out s version) = w.files.get? (b.place out s version)) :
      b.Holds out version start s v :=
    ⟨e, content, r, same.trans there, file, what, target, format, notes.later built.within.journal⟩
  by_cases same : s.releaseName b.product version = s'.releaseName b.product version
  · have place : b.place out s version = b.place out s' version := by rw [place, place, same]
    cases outcome with
    | error stop => exact kept (by rw [place, built.kept (by simp)])
    | ok p =>
      have ends (s : PackageSpec) : s.ending <:+ (s.releaseName b.product version).toList :=
        ⟨(b.product ++ "_" ++ version).toList, by simp [PackageSpec.releaseName, PackageSpec.ending]⟩
      obtain ⟨targets, formats⟩ := PackageSpec.ending_inj mapped mapped' (ends s) (same ▸ ends s')
      obtain ⟨-, e', content', r', there', file', what', rfl, notes'⟩ := built.made plain p rfl
      exact ⟨e', content', r', place ▸ there', file', what', targets.symm, formats.symm, notes'.earlier begun⟩
  · refine kept (built.within.files _ ?_)
    rintro (⟨n, inside⟩ | inside)
    · exact place_ne s version n (inside.eq_of_length (by simp [place])).symm
    · exact same (by simpa [place] using (inside.eq_of_length (by simp [place])).symm)

theorem Delivered.later {s' : PackageSpec} {outcome : Except (Stop PackageError) Path} (plain : b.packager.Plain)
    (mapped' : Mapped s'.target) (delivered : b.Delivered out version start r w) (begun : start.journal <+: w.journal)
    (built : b.Built base here out version s' w outcome v) : b.Delivered out version start r v := fun p ok => by
  obtain ⟨s, target, format, mapped, path, fits, holds⟩ := delivered p ok
  exact ⟨s, target, format, mapped, path, fits, holds.later plain mapped mapped' begun built⟩

theorem Ready.staged (ready : Ready base here out w) : b.Staged base here out w w where
  ready := ready
  within := .refl _ w
  packages _ _ _ := .inl rfl

theorem Staged.next {outcome : Except (Stop PackageError) Path} (staged : b.Staged base here out start w)
    (valid : IsName (s.releaseName b.product version)) (built : b.Built base here out version s w outcome v) :
    b.Staged base here out start v where
  ready := built.ready
  within := staged.within.trans (built.within.mono fun k inside => by
    obtain ⟨n, inside⟩ | inside := inside
    · exact ⟨_, PackageScratch.isName_of_isWorkName (PackageScratch.isWorkName_nameOf n), isPackagingName_nameOf n, inside⟩
    · exact ⟨_, valid, isPackagingName_of_isPackageName (s.isPackageName_releaseName b.product version), inside⟩)
  packages plain name package := by
    have kept (same : v.files.get? (out ++ [name]) = w.files.get? (out ++ [name])) :
        v.files.get? (out ++ [name]) = start.files.get? (out ++ [name]) ∨
          ∃ e, v.files.get? (out ++ [name]) = some e ∧ e.isFile := by
      rw [same]
      exact staged.packages plain name package
    by_cases own : out ++ [name] = b.place out s version
    · cases outcome with
      | error stop => exact kept (own ▸ built.kept (by simp))
      | ok p =>
        obtain ⟨-, e, content, r, there, file, -⟩ := built.made plain p rfl
        exact .inr ⟨e, own ▸ there, file⟩
    · refine kept (built.within.files _ ?_)
      rintro (⟨n, inside⟩ | inside)
      · obtain rfl : PackageScratch.nameOf n = name := by simpa using inside.eq_of_length (by simp)
        rw [PackageScratch.not_isPackageName (PackageScratch.isWorkName_nameOf n)] at package
        cases package
      · exact own (inside.eq_of_length (by simp [place])).symm

/-- What is done for the packages of archives, from `w` to `v`. -/
structure Stages (b : PackageBuilder) (base : FileTree) (here out : Location) (version : String) (start w v : Workspace)
    (results : List PackageResult) : Prop where
  staged : b.Staged base here out start v
  made : ∀ r ∈ results, b.packager.Plain → b.Delivered out version start r v
  kept : ∀ r, (b.packager.Plain → b.Delivered out version start r w) → b.packager.Plain → b.Delivered out version start r v

theorem exec_buildAll_step (b : PackageBuilder) (a : Archive) (s : PackageSpec) (w : Workspace) :
    (do pure (PackageResult.mk s.target s.format (← (b.buildOne a s).outcome)) : TaskM Crash PackageResult).exec w =
      ((match ((b.buildOne a s).exec w).1 with
        | .ok p => .ok ⟨s.target, s.format, .ok p⟩
        | .error (.failed error) => .ok ⟨s.target, s.format, .error error⟩
        | .error (.crashed crash) => .error crash), ((b.buildOne a s).exec w).2) := by
  rw [TaskM.exec_bind, WorkM.exec_outcome]
  rcases (b.buildOne a s).exec w with ⟨(_ | _) | _, v⟩ <;> rfl

/-- A package that was built is delivered. -/
theorem Built.delivered {outcome : Except (Stop PackageError) Path} (built : b.Built base here out version s w outcome v)
    (plain : b.packager.Plain) (mapped : Mapped s.target) (begun : start.journal <+: w.journal) {p : Path}
    (ok : outcome = .ok p) (path : p = b.outDir.join (s.releaseName b.product version)) :
    b.Delivered out version start ⟨s.target, s.format, .ok p⟩ v := fun p' same => by
  obtain rfl := Except.ok.inj same
  obtain ⟨fits, e, content, r, there, file, what, rfl, notes⟩ := built.made plain p ok
  exact ⟨r.spec, rfl, rfl, mapped, path, fits, e, content, r, there, file, what, rfl, rfl, notes.earlier begun⟩

namespace Site

variable (site : b.Site base here out)
include site

theorem stages_buildAll (confined : b.packager.Confined) (plainVersion : '/' ∉ a.version.toList)
    (staged : b.Staged base here out start w) :
    b.Stages base here out a.version start w ((b.buildAll a).exec w).2 (b.settled a ((b.buildAll a).exec w).1) := by
  have all := TaskM.exec_mapM_keeps (b.Staged base here out start)
    (fun r w => b.packager.Plain → b.Delivered out a.version start r w) (l := PackageSpec.list a.target b.formats)
    (f := fun s => do pure (PackageResult.mk s.target s.format (← (b.buildOne a s).outcome))) ?_ staged
  · obtain ⟨done, made, kept⟩ := all
    refine ⟨done, fun r member plain => ?_, kept⟩
    unfold buildAll at member ⊢
    rcases run : ((PackageSpec.list a.target b.formats).mapM fun s => do
        pure (PackageResult.mk s.target s.format (← (b.buildOne a s).outcome)) : TaskM Crash _).exec w
      with ⟨crash | results, v⟩
    · rw [run] at member
      obtain ⟨s, -, rfl⟩ := List.mem_map.mp member
      exact fun p ok => (nomatch ok)
    · rw [run] at made member
      exact made results rfl r member plain
  · intro s member w staged
    have built := site.built_buildOne confined staged.ready plainVersion (a := a) member
    have mapped : Mapped s.target := by
      obtain ⟨mapped, same⟩ := PackageSpec.mapped_of_mem_list member
      rwa [same]
    rw [exec_buildAll_step]
    refine ⟨staged.next (PackageSpec.isName_releaseName member site.product plainVersion) built, fun r ok plain => ?_, fun r before plain =>
      (before plain).later plain mapped staged.within.journal built⟩
    rcases run : (b.buildOne a s).exec w with ⟨(error | crash) | p, v⟩
    · rw [run] at ok
      obtain rfl := Except.ok.inj ok
      exact fun p ok => (nomatch ok)
    · rw [run] at ok
      cases ok
    · rw [run] at ok built
      obtain rfl := Except.ok.inj ok
      obtain ⟨_, _, _, x, -, -, packed, -⟩ := exec_buildOne_ok run
      obtain ⟨_, _, -, -, -, path⟩ := exec_packIn_ok packed
      exact built.delivered plain mapped staged.within.journal rfl path

/-- What building the packages of archives comes to. -/
theorem stages_buildEach (confined : b.packager.Confined) {archives : List Archive}
    (plainVersion : '/' ∉ version.toList) (versions : ∀ a ∈ archives, a.version = version)
    (staged : b.Staged base here out start w) :
    b.Stages base here out version start w ((b.buildEach archives).run w).2 ((b.buildEach archives).run w).1 := by
  induction archives generalizing w with
  | nil => exact ⟨staged, fun _ member => (nomatch member), fun _ => id⟩
  | cons a archives ih =>
    obtain rfl := versions a (by simp)
    have first := site.stages_buildAll confined plainVersion staged
    have rest := ih (fun a member => versions a (by simp [member])) first.staged
    rw [buildEach_cons]
    refine ⟨rest.staged, fun r member => ?_, fun r before => rest.kept r (first.kept r before)⟩
    rcases List.mem_append.mp member with early | late
    · exact rest.kept r (first.made r early)
    · exact rest.made r late

end Site

end PackageBuilder

end ReleaseMatrix
