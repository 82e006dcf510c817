import ReleaseMatrix.Proofs.ManifestCover

namespace ReleaseMatrix

open Workspace (Within)
open FileTree (usable)

namespace PackageBuilder

variable {b : PackageBuilder} {a : Archive} {s : PackageSpec} {version : String} {w u v : Workspace} {out l : Location}
variable {dir : Path} {expected : String} {f : PackageFormat}

/-- Whether a name could be that of the output: it is a file's, and has the ending of the format. -/
def isCandidate (u : Workspace) (dir : Path) (f : PackageFormat) (name : String) : Bool :=
  u.isFile (dir.join name) && name.endsWith ("." ++ f.extension)

/-- The choice of an output among names, in the order that the directory lists them in. -/
def pick (u : Workspace) (dir : Path) (expected : String) (f : PackageFormat) (names : List String) : Option Path :=
  if u.isFile (dir.join expected) then some (dir.join expected)
  else match names.filter (isCandidate u dir f) with
    | [name] => some (dir.join name)
    | _ => none

/-- The output of a packager is the file with the expected name. If there is none, it is the only candidate in the
directory. -/
def Takes (u : Workspace) (dir : Path) (l : Location) (expected : String) (f : PackageFormat) (name : String) : Prop :=
  u.isFile (dir.join expected) ∧ name = expected ∨
    u.isFile (dir.join expected) = false ∧ ∀ other, other ∈ u.files.names l ∧ isCandidate u dir f other ↔ other = name

theorem produced?_eq_pick : produced? u dir expected f = pick u dir expected f ((u.list dir).toOption.getD []) := rfl

/-- The order in which a directory is listed does not matter for the choice. -/
theorem pick_eq_some_iff {names : List String} (listed : names.Perm (u.files.names l)) {path : Path} :
    pick u dir expected f names = some path ↔ ∃ name, Takes u dir l expected f name ∧ path = dir.join name := by
  unfold pick Takes
  cases file : u.isFile (dir.join expected) with
  | true => simpa using (eq_comm : dir.join expected = path ↔ _)
  | false =>
    have nodup : (names.filter (isCandidate u dir f)).Nodup := (listed.nodup_iff.mpr (u.files.nodup_names l)).filter _
    have single (name : String) : (∀ other, other ∈ u.files.names l ∧ isCandidate u dir f other ↔ other = name) ↔
        names.filter (isCandidate u dir f) = [name] := by
      rw [← List.perm_singleton, List.perm_ext_iff_of_nodup nodup (List.nodup_singleton name)]
      simp [listed.mem_iff]
    simp only [Bool.false_eq_true, if_false, false_and, true_and, false_or, single]
    split
    · next name only => simpa [only] using (eq_comm : dir.join name = path ↔ _)
    · next several => simpa using fun name only => absurd only (several name)

theorem pick_eq_none_iff {names : List String} (listed : names.Perm (u.files.names l)) :
    pick u dir expected f names = none ↔ ∀ name, ¬ Takes u dir l expected f name := by
  rw [Option.eq_none_iff_forall_ne_some]
  simp only [ne_eq, pick_eq_some_iff listed, not_exists, not_and]
  exact ⟨fun none name takes => none _ name takes rfl, fun none path name takes => absurd takes (none name)⟩

/-- The name of the directory that a package is made in. -/
def workName (b : PackageBuilder) (w : Workspace) : String :=
  PackageScratch.freshName ((w.list b.outDir).toOption.getD [])

/-- The path of the directory that a package is made in. -/
def workDir (b : PackageBuilder) (w : Workspace) : Path :=
  (PackageScratch.absolute w b.outDir).join (b.workName w)

/-- What the packager is asked for. -/
def request (b : PackageBuilder) (a : Archive) (s : PackageSpec) (archive : Path) : PackageRequest :=
  ⟨b.product, a.version, s, archive, s.outputName b.product a.version⟩

/-- A new directory can be made for a package. -/
structure Begins (b : PackageBuilder) (out : Location) (w : Workspace) : Prop where
  fits : usable (PackageScratch.absolute w b.outDir) (b.workName w) = .ok ()
  free : w.files.get? (out ++ [b.workName w]) = none

/-- The workspace with the new directory. -/
def begun (b : PackageBuilder) (out : Location) (w : Workspace) : Workspace :=
  FileM.changed w (·.put (out ++ [b.workName w]) .directory)

/-- The packager is run for an archive in the new directory, and leaves `u`. -/
structure Packs (b : PackageBuilder) (a : Archive) (s : PackageSpec) (out : Location) (w : Workspace)
    (outcome : Except (Stop PackageError) Unit) (u : Workspace) : Prop extends b.Begins out w where
  file : w.isFile a.path
  run : ∃ archive, w.canonical a.path = .ok archive ∧ (b.packager.pack (b.request a s archive) (b.workDir w)).exec
    ((b.begun out w).record (.packed (b.request a s archive))) = (outcome, u)

/-- The tree without what stands at the destination of a package. -/
def ground (b : PackageBuilder) (s : PackageSpec) (version : String) (out : Location) (w : Workspace) : FileTree :=
  w.files.without fun k => (b.place out s version).isPrefixOf k

/-- Nothing has changed since `w` but in the new directory for a package and at its destination. -/
def Amid (b : PackageBuilder) (s : PackageSpec) (version : String) (out : Location) (w v : Workspace) : Prop :=
  Within (fun k => out ++ [b.workName w] <+: k ∨ b.place out s version <+: k) w v

/-- Where a package can be made: the path of the output directory leads there without passing the destination. -/
structure Spot (b : PackageBuilder) (s : PackageSpec) (version : String) (out : Location) (w : Workspace) : Prop where
  wellFormed : w.files.WellFormed
  linked : w.files.Linked
  output : IsName (s.outputName b.product version)
  release : IsName (s.releaseName b.product version)
  leads : (b.ground s version out w).Leads w.directory b.outDir out

theorem exists_workName (b : PackageBuilder) (w : Workspace) : ∃ n, b.workName w = PackageScratch.nameOf n :=
  PackageScratch.exists_freshName _

theorem isName_workName (b : PackageBuilder) (w : Workspace) : IsName (b.workName w) := by
  obtain ⟨n, same⟩ := b.exists_workName w
  exact same ▸ PackageScratch.isName_of_isWorkName (PackageScratch.isWorkName_nameOf n)

theorem place_ne_workName : b.place out s version ≠ out ++ [b.workName w] := by
  obtain ⟨n, same⟩ := b.exists_workName w
  exact same ▸ place_ne s version n

theorem not_workName_prefix_place : ¬ out ++ [b.workName w] <+: b.place out s version := fun inside =>
  place_ne_workName (inside.eq_of_length (by simp [place])).symm

theorem not_place_prefix_workName : ¬ b.place out s version <+: out ++ [b.workName w] := fun inside =>
  place_ne_workName (inside.eq_of_length (by simp [place]))

theorem amid_of_within (within : Within (out ++ [b.workName w] <+: ·) w v) : b.Amid s version out w v :=
  within.mono fun _ => .inl

namespace Spot

variable (spot : b.Spot s version out w)
include spot

theorem leads_start : w.Leads b.outDir out :=
  (w.rests_without _).leads spot.leads

/-- The directories and links on the way to the output directory stay where they are while the package is made. -/
theorem rests (begins : b.Begins out w) (amid : b.Amid s version out w v) :
    v.Rests (b.ground s version out w) w.directory := by
  refine amid.rests (fun k e inside found => ?_) (w.rests_without _)
  have root : k ≠ [] := by
    rintro rfl
    rcases inside with inside | inside <;> simp [place] at inside
  rw [ground, FileTree.get?_without root, FileTree.isPrefixOf_eq] at found
  rcases inside with inside | inside
  · have none : w.files.get? k = none := by
      by_cases own : k = out ++ [b.workName w]
      · rw [own, begins.free]
      · exact (spot.wellFormed.vacant begins.free k inside own).1
    simp [none] at found
  · simp [inside] at found

/-- The way to the output directory from the root stays, too. -/
theorem leads_absolute (rests : v.Rests (b.ground s version out w) w.directory) :
    v.Leads (PackageScratch.absolute w b.outDir) out := by
  have sound : (b.ground s version out w).Sound := spot.wellFormed.sound.without fun k m inside picked => by
    rw [List.isPrefixOf_iff_prefix] at picked ⊢
    exact picked.trans inside
  have proper (relative : b.outDir.isAbsolute = false) : w.directory.IsProper := by
    have start := spot.leads_start.start
    rw [Path.start, relative] at start
    exact spot.wellFormed.proper _ _ start
  exact rests.leads (spot.leads.absolute sound proper (w.rests_without _))

theorem leads_workDir (begins : b.Begins out w) (amid : b.Amid s version out w v)
    (directory : v.files.get? (out ++ [b.workName w]) = some .directory) :
    v.Leads (b.workDir w) (out ++ [b.workName w]) :=
  (spot.leads_absolute (spot.rests begins amid)).join (b.isName_workName w) directory begins.fits

/-- The directory that the package is made in is removed with everything in it. -/
theorem exec_removeTree (begins : b.Begins out w) (amid : b.Amid s version out w v)
    (directory : v.files.get? (out ++ [b.workName w]) = some .directory) :
    (FileM.removeTree (b.workDir w)).exec v = (.ok (), FileM.felled v (out ++ [b.workName w])) := by
  have emptied : b.Amid s version out w (FileM.emptied v (out ++ [b.workName w])) :=
    amid.trans ((FileM.within_emptied v _).mono fun _ => .inl)
  have before := spot.leads_absolute (spot.rests begins amid)
  have after := spot.leads_absolute (spot.rests begins emptied)
  rw [workDir, FileM.removeTree_join before after (b.isName_workName w), begins.fits, directory]

theorem exec_make : (∃ error, (PackageScratch.make b.outDir).exec w = (.error error, w)) ∧ ¬ b.Begins out w ∨
    b.Begins out w ∧ (PackageScratch.make b.outDir).exec w = (.ok (b.workDir w), b.begun out w) := by
  obtain ⟨n, fresh⟩ := b.exists_workName w
  have made := PackageScratch.exec_make_of_leads (spot.leads_absolute (w.rests_without _)) fresh
  rw [← fresh] at made
  dsimp only at made
  cases fits : usable (PackageScratch.absolute w b.outDir) (b.workName w) with
  | error fault =>
    rw [fits] at made
    exact .inl ⟨⟨_, made⟩, fun begins => nomatch fits.symm.trans begins.fits⟩
  | ok _ =>
    cases free : w.files.get? (out ++ [b.workName w]) with
    | some e =>
      rw [fits, free] at made
      exact .inl ⟨⟨_, made⟩, fun begins => nomatch free.symm.trans begins.free⟩
    | none =>
      rw [fits, free] at made
      exact .inr ⟨⟨fits, free⟩, made⟩

end Spot

/-- What the packager has left when it was run in the new directory. -/
structure Left (b : PackageBuilder) (out : Location) (w u : Workspace) : Prop where
  within : Within (out ++ [b.workName w] <+: ·) w u
  directory : u.files.get? (out ++ [b.workName w]) = some .directory
  names : ∀ name e, u.files.get? (out ++ [b.workName w] ++ [name]) = some e → IsName name
  linked : u.files.Linked

theorem Spot.left {outcome : Except (Stop PackageError) Unit} (spot : b.Spot s version out w)
    (confined : b.packager.Confined) (keeps : b.packager.KeepsLinks) (packs : b.Packs a s out w outcome u) :
    b.Left out w u := by
  obtain ⟨archive, -, run⟩ := packs.run
  have root : out ++ [b.workName w] ≠ [] := by simp
  have opened : Within (out ++ [b.workName w] <+: ·) w ((b.begun out w).record (.packed (b.request a s archive))) :=
    (FileM.within_put root).trans (Workspace.within_record _ _ _)
  have directory : (b.begun out w).files.get? (out ++ [b.workName w]) = some .directory := by
    simp [begun, FileM.changed, FileTree.get?_put root]
  have leads := spot.leads_workDir packs.toBegins (amid_of_within opened) directory
  have vacant : (b.begun out w).files.Vacant (out ++ [b.workName w]) :=
    (spot.wellFormed.vacant packs.free).congr fun k _ below =>
      ⟨by rw [begun, FileM.changed, FileTree.get?_put root, if_neg below], id⟩
  have within := confined.within (b.request a s archive) _ _ _ leads vacant
  have names := confined.names (b.request a s archive) _ _ _ leads vacant
  have linked := keeps (b.request a s archive) _ _ _ leads vacant
    (spot.linked.put (spot.linked.alone_of_free packs.free) root)
  rw [run] at within names linked
  exact {
    within := opened.trans (within.mono fun _ => And.left)
    directory := by rw [within.files _ (by simp)]; exact directory
    names := names
    linked := linked }

theorem Left.amid (left : b.Left out w u) (event : Event) : b.Amid s version out w (u.record event) :=
  amid_of_within (left.within.trans (Workspace.within_record _ _ _))

theorem Left.amid_relocated (left : b.Left out w u) (event : Event) (name : String) : b.Amid s version out w
    (FileM.relocated (u.record event) (out ++ [b.workName w] ++ [name]) (b.place out s version)) :=
  (left.amid event).trans (FileM.within_relocated.mono fun _ => Or.imp_left (List.prefix_append _ _).trans)

theorem Takes.isFile {name : String} (takes : Takes u dir l expected f name) : u.isFile (dir.join name) := by
  obtain ⟨file, rfl⟩ | ⟨-, only⟩ := takes
  · exact file
  · have candidate := ((only name).mpr rfl).2
    rw [isCandidate, Bool.and_eq_true] at candidate
    exact candidate.1

theorem Takes.isName {name : String} (takes : Takes u dir l expected f name) (valid : IsName expected)
    (names : ∀ name e, u.files.get? (l ++ [name]) = some e → IsName name) : IsName name := by
  obtain ⟨-, rfl⟩ | ⟨-, only⟩ := takes
  · exact valid
  · obtain ⟨e, there⟩ := Option.isSome_iff_exists.mp (FileTree.mem_names.mp ((only name).mpr rfl).1)
    exact names name e there

/-- The output of the packager is the one that it takes of what the packager left. -/
abbrev Yields (b : PackageBuilder) (a : Archive) (s : PackageSpec) (out : Location) (w u : Workspace) (name : String) :
    Prop :=
  Takes u (b.workDir w) (out ++ [b.workName w]) (s.outputName b.product a.version) s.format name

/-- How building a package can end. -/
inductive Finishes (b : PackageBuilder) (a : Archive) (s : PackageSpec) (out : Location) (w : Workspace) :
    Except (Stop PackageError) Path → Workspace → Prop
  | unbegun {stop : Stop PackageError} (never : ∀ outcome u, ¬ b.Packs a s out w outcome u) :
      Finishes b a s out w (.error stop) w
  | unpacked {stop : Stop PackageError} {u : Workspace} (packs : b.Packs a s out w (.error stop) u) :
      Finishes b a s out w (.error stop) (FileM.felled u (out ++ [b.workName w]))
  | missing {u : Workspace} (packs : b.Packs a s out w (.ok ()) u) (none : ∀ name, ¬ b.Yields a s out w u name) :
      Finishes b a s out w (.error (.failed (.outputMissing s.target.id s.format.name)))
        (FileM.felled u (out ++ [b.workName w]))
  | unmoved {u : Workspace} {event : Event} {name error : String} (packs : b.Packs a s out w (.ok ()) u)
      (yields : b.Yields a s out w u name) (hindered : usable b.outDir (s.releaseName b.product a.version) = .ok () →
        w.files.get? (b.place out s a.version) = some .directory) :
      Finishes b a s out w (.error (.failed (.files (b.outDir.join (s.releaseName b.product a.version)) error)))
        (FileM.felled (u.record event) (out ++ [b.workName w]))
  | shared {u : Workspace} {event : Event} {name : String} (packs : b.Packs a s out w (.ok ()) u)
      (yields : b.Yields a s out w u name) (fits : usable b.outDir (s.releaseName b.product a.version) = .ok ())
      (twin : b.place out s a.version ∈ u.files.places (out ++ [b.workName w] ++ [name])) :
      Finishes b a s out w (.ok (b.outDir.join (s.releaseName b.product a.version)))
        (FileM.felled (u.record event) (out ++ [b.workName w]))
  | moved {u : Workspace} {event : Event} {name : String} (packs : b.Packs a s out w (.ok ()) u)
      (yields : b.Yields a s out w u name) (fits : usable b.outDir (s.releaseName b.product a.version) = .ok ()) :
      Finishes b a s out w (.ok (b.outDir.join (s.releaseName b.product a.version)))
        (FileM.felled
          (FileM.relocated (u.record event) (out ++ [b.workName w] ++ [name]) (b.place out s a.version))
          (out ++ [b.workName w]))

namespace Spot

variable (spot : b.Spot s a.version out w)
include spot

/-- The output of the packager stands in the new directory, and is none itself. -/
theorem exists_output {name : String} (begins : b.Begins out w) (left : b.Left out w u)
    (yields : b.Yields a s out w u name) : u.Leads (b.workDir w) (out ++ [b.workName w]) ∧ IsName name ∧
      ∃ e, u.files.get? (out ++ [b.workName w] ++ [name]) = some e ∧ e ≠ .directory := by
  have leads := spot.leads_workDir begins (amid_of_within left.within) left.directory
  have valid := yields.isName spot.output left.names
  exact ⟨leads, valid, Workspace.exists_of_isFile_join leads valid yields.isFile⟩

/-- The output of the packager is moved to its destination, unless it cannot be, or is there. -/
theorem finishes_of_yields {name : String} (packs : b.Packs a s out w (.ok ()) u) (left : b.Left out w u)
    (yields : b.Yields a s out w u name) (event : Event) :
    let dest := b.outDir.join (s.releaseName b.product a.version)
    let moved := (Files.move ((b.workDir w).join name) dest).exec (u.record event)
    b.Finishes a s out w ((moved.1.mapError fun e => .failed (.files dest e.message)).map fun _ => dest)
      ((FileM.removeTree (b.workDir w)).exec moved.2).2 := by
  have amid : b.Amid s a.version out w (u.record event) := left.amid event
  have leadsOut : (u.record event).Leads b.outDir out := (spot.rests packs.toBegins amid).leads spot.leads
  obtain ⟨leads, valid, e, there, noDirectory⟩ := spot.exists_output packs.toBegins left yields
  have apart : ¬ out ++ [b.workName w] ++ [name] <+: b.place out s a.version := fun inside =>
    not_workName_prefix_place ((List.prefix_append _ _).trans inside)
  have apart' : ¬ b.place out s a.version <+: out ++ [b.workName w] ++ [name] := fun inside =>
    not_place_prefix_workName (List.prefix_of_prefix_length_le inside (List.prefix_append _ _) (by simp [place]))
  dsimp only
  obtain ⟨result, unmoved, own⟩ | ⟨moves, fits, -⟩ :=
    Files.move_join (w := u.record event) leads valid leadsOut spot.release there noDirectory apart apart'
  · rw [unmoved, spot.exec_removeTree packs.toBegins amid left.directory]
    cases result with
    | error error =>
      refine .unmoved packs yields fun fits => ?_
      -- Both names can be looked up, so that the move would have succeeded without a directory in its way.
      by_contra noRoom
      have noRoom' : (u.record event).files.get? (b.place out s a.version) ≠ some .directory := by
        rwa [(left.within.trans (Workspace.within_record _ u event)).files _ not_workName_prefix_place]
      have readable := Workspace.usable_of_isFile leads valid yields.isFile
      obtain ⟨x, moved⟩ := Files.exists_move_join (w := u.record event) leads valid leadsOut spot.release there
        noDirectory apart apart' readable fits noRoom'
      cases unmoved.symm.trans moved
    | ok _ => exact .shared packs yields (own rfl).1 (own rfl).2
  · have above : ¬ out ++ [b.workName w] ++ [name] <+: out ++ [b.workName w] := fun inside => by
      simpa using inside.length_le
    have directory : (FileM.relocated (u.record event) (out ++ [b.workName w] ++ [name])
        (b.place out s a.version)).files.get? (out ++ [b.workName w]) = some .directory :=
      (FileM.within_relocated.files _ (not_or.mpr ⟨above, not_place_prefix_workName⟩)).trans left.directory
    rw [moves, ← place, spot.exec_removeTree packs.toBegins (left.amid_relocated event name) directory]
    exact .moved packs yields fits

/-- What is made of what the packager left. -/
theorem finishes_of_packs {outcome : Except (Stop PackageError) Unit} (packs : b.Packs a s out w outcome u)
    (left : b.Left out w u) {archive : Path} (run : (b.packager.pack (b.request a s archive) (b.workDir w)).exec
      ((b.begun out w).record (.packed (b.request a s archive))) = (outcome, u)) :
    let made := (b.packIn (b.workDir w) (b.request a s archive)).exec (b.begun out w)
    b.Finishes a s out w made.1 ((FileM.removeTree (b.workDir w)).exec made.2).2 := by
  have amid : b.Amid s a.version out w u := amid_of_within left.within
  have listed : ((u.list (b.workDir w)).toOption.getD []).Perm (u.files.names (out ++ [b.workName w])) := by
    rw [Workspace.list_of_leads (spot.leads_workDir packs.toBegins amid left.directory), workDir,
      FileTree.checkPath_of_usable packs.fits]
    exact .refl _
  dsimp only
  rw [exec_packIn, run]
  cases outcome with
  | error stop =>
    rw [spot.exec_removeTree packs.toBegins amid left.directory]
    exact .unpacked packs
  | ok _ =>
    dsimp only
    rw [produced?_eq_pick]
    cases found : pick u (b.workDir w) (b.request a s archive).outputName (b.request a s archive).spec.format
        ((u.list (b.workDir w)).toOption.getD []) with
    | none =>
      rw [spot.exec_removeTree packs.toBegins amid left.directory]
      exact .missing packs ((pick_eq_none_iff listed).mp found)
    | some path =>
      obtain ⟨name, yields, rfl⟩ := (pick_eq_some_iff listed).mp found
      dsimp only
      exact spot.finishes_of_yields packs left yields _

theorem finishes (confined : b.packager.Confined) (keeps : b.packager.KeepsLinks) :
    b.Finishes a s out w ((b.buildOne a s).exec w).1 ((b.buildOne a s).exec w).2 := by
  rw [exec_buildOne_eq]
  by_cases file : w.isFile a.path
  · rw [if_pos file]
    cases canonical : w.canonical a.path with
    | error fault =>
      refine .unbegun fun outcome u packs => ?_
      obtain ⟨archive, same, -⟩ := packs.run
      cases canonical.symm.trans same
    | ok archive =>
      obtain ⟨⟨error, refused⟩, never⟩ | ⟨begins, made⟩ := spot.exec_make
      · rw [refused]
        exact .unbegun fun _ _ packs => never packs.toBegins
      · rw [made]
        rcases run : (b.packager.pack (b.request a s archive) (b.workDir w)).exec
          ((b.begun out w).record (.packed (b.request a s archive))) with ⟨outcome, u⟩
        have packs : b.Packs a s out w outcome u := ⟨begins, file, archive, canonical, run⟩
        dsimp only
        exact spot.finishes_of_packs packs (spot.left confined keeps packs) run
  · rw [if_neg file]
    exact .unbegun fun outcome u packs => file packs.file

end Spot

theorem Packs.unique {outcome outcome' : Except (Stop PackageError) Unit} (packs : b.Packs a s out w outcome u)
    (packs' : b.Packs a s out w outcome' v) : outcome = outcome' ∧ u = v := by
  obtain ⟨archive, canonical, run⟩ := packs.run
  obtain ⟨archive', canonical', run'⟩ := packs'.run
  obtain rfl := Except.ok.inj (canonical.symm.trans canonical')
  exact Prod.mk.inj (run.symm.trans run')

namespace Finishes

variable {outcome : Except (Stop PackageError) Path} {name : String} (finishes : b.Finishes a s out w outcome v)
  (packs : b.Packs a s out w (.ok ()) u)
include finishes packs

/-- An output that was chosen is moved, unless its destination cannot be looked up or is a directory. -/
theorem delivered (yields : b.Yields a s out w u name)
    (fits : usable b.outDir (s.releaseName b.product a.version) = .ok ())
    (noRoom : w.files.get? (b.place out s a.version) ≠ some .directory) :
    outcome = .ok (b.outDir.join (s.releaseName b.product a.version)) := by
  cases finishes with
  | unbegun never => exact absurd packs (never _ _)
  | unpacked packs' => exact nomatch (packs.unique packs').1
  | missing packs' none =>
    obtain ⟨-, rfl⟩ := packs.unique packs'
    exact absurd yields (none name)
  | unmoved packs' yields' hindered => exact absurd (hindered fits) noRoom
  | shared packs' yields' fits' twin => rfl
  | moved packs' yields' fits' => rfl

/-- The output is missing just if there is none to be chosen. -/
theorem missing_iff : outcome = .error (.failed (.outputMissing s.target.id s.format.name)) ↔
    ∀ name, ¬ b.Yields a s out w u name := by
  have chosen {x : Workspace} {name : String} (packs' : b.Packs a s out w (.ok ()) x) (yields : b.Yields a s out w x name) :
      ¬ ∀ name, ¬ b.Yields a s out w u name := fun none => by
    obtain ⟨-, rfl⟩ := packs.unique packs'
    exact none name yields
  cases finishes with
  | unbegun never => exact absurd packs (never _ _)
  | unpacked packs' => exact nomatch (packs.unique packs').1
  | missing packs' none =>
    obtain ⟨-, rfl⟩ := packs.unique packs'
    exact ⟨fun _ => none, fun _ => rfl⟩
  | unmoved packs' yields hindered => exact iff_of_false (fun same => nomatch same) (chosen packs' yields)
  | shared packs' yields fits twin => exact iff_of_false (fun same => nomatch same) (chosen packs' yields)
  | moved packs' yields fits => exact iff_of_false (fun same => nomatch same) (chosen packs' yields)

end Finishes

namespace Spot

variable (spot : b.Spot s a.version out w)
include spot

/-- Once its directory is removed, only what else has changed for a package is not as it was. -/
theorem get?_felled {area : Location → Prop} {k : Location} (begins : b.Begins out w)
    (within : Within (fun k => out ++ [b.workName w] <+: k ∨ area k) w v) (outside : ¬ area k) :
    (FileM.felled v (out ++ [b.workName w])).files.get? k = w.files.get? k := by
  rw [FileM.get?_felled (by simp)]
  split
  · next inside =>
    by_cases own : k = out ++ [b.workName w]
    · rw [own, begins.free]
    · rw [(spot.wellFormed.vacant begins.free k inside own).1]
  · next beside => exact within.files k (not_or.mpr ⟨beside, outside⟩)

variable {outcome : Except (Stop PackageError) Path} (confined : b.packager.Confined) (keeps : b.packager.KeepsLinks)
include confined keeps

/-- However the work ends, nothing changes but what stands at the destination. -/
theorem get?_of_finishes (finishes : b.Finishes a s out w outcome v) {k : Location}
    (outside : ¬ b.place out s a.version <+: k) : v.files.get? k = w.files.get? k := by
  cases finishes with
  | unbegun never => rfl
  | unpacked packs =>
    have left := spot.left confined keeps packs
    exact spot.get?_felled packs.toBegins (amid_of_within left.within) outside
  | missing packs none =>
    have left := spot.left confined keeps packs
    exact spot.get?_felled packs.toBegins (amid_of_within left.within) outside
  | unmoved packs yields hindered =>
    have left := spot.left confined keeps packs
    exact spot.get?_felled packs.toBegins (left.amid _) outside
  | shared packs yields fits twin =>
    have left := spot.left confined keeps packs
    exact spot.get?_felled packs.toBegins (left.amid _) outside
  | moved packs yields fits =>
    have left := spot.left confined keeps packs
    exact spot.get?_felled packs.toBegins (left.amid_relocated _ _) outside

/-- Work that fails changes nothing. -/
theorem get?_of_finishes_error {stop : Stop PackageError} (finishes : b.Finishes a s out w (.error stop) v) (k : Location) :
    v.files.get? k = w.files.get? k := by
  have unchanged {u x : Workspace} {outcome : Except (Stop PackageError) Unit} (packs : b.Packs a s out w outcome u)
      (noted : Within (out ++ [b.workName w] <+: ·) u x) :
      (FileM.felled x (out ++ [b.workName w])).files.get? k = w.files.get? k := by
    have within : Within (fun k => out ++ [b.workName w] <+: k ∨ False) w x :=
      ((spot.left confined keeps packs).within.trans noted).mono fun _ => .inl
    exact spot.get?_felled packs.toBegins within id
  cases finishes with
  | unbegun never => rfl
  | unpacked packs => exact unchanged packs (.refl _ _)
  | missing packs none => exact unchanged packs (.refl _ _)
  | unmoved packs yields hindered => exact unchanged packs (Workspace.within_record _ _ _)

/-- After work that succeeds the destination holds what the packager's output was. -/
theorem exists_of_finishes_ok {p : Path} (finishes : b.Finishes a s out w (.ok p) v) :
    p = b.outDir.join (s.releaseName b.product a.version) ∧
      usable b.outDir (s.releaseName b.product a.version) = .ok () ∧ v.Leads b.outDir out ∧
      ∃ u name, b.Packs a s out w (.ok ()) u ∧ b.Yields a s out w u name ∧
        v.files.get? (b.place out s a.version) = u.files.get? (out ++ [b.workName w] ++ [name]) := by
  have dest : ¬ out ++ [b.workName w] <+: b.place out s a.version := not_workName_prefix_place
  have root : out ++ [b.workName w] ≠ [] := by simp
  have leads {x : Workspace} (begins : b.Begins out w) (amid : b.Amid s a.version out w x) :
      (FileM.felled x (out ++ [b.workName w])).Leads b.outDir out :=
    (spot.rests begins (amid.trans ((FileM.within_felled root).mono fun _ => .inl))).leads spot.leads
  cases finishes with
  | shared packs yields fits twin =>
    have left := spot.left confined keeps packs
    refine ⟨rfl, fits, leads packs.toBegins (left.amid _), _, _, packs, yields, ?_⟩
    rw [FileM.get?_felled root, if_neg dest]
    exact left.linked.alike.get?_eq twin
  | @moved u event name packs yields fits =>
    have left := spot.left confined keeps packs
    refine ⟨rfl, fits, leads packs.toBegins (left.amid_relocated _ _), _, _, packs, yields, ?_⟩
    obtain ⟨-, -, e, there, -⟩ := spot.exists_output packs.toBegins left yields
    rw [FileM.get?_felled root, if_neg dest, there]
    exact FileM.get?_relocated_dest (by simp) (by simp [place]) there

/-- No directory is new in the output directory after the work. -/
theorem directory_of_finishes (finishes : b.Finishes a s out w outcome v) {name : String}
    (directory : v.files.get? (out ++ [name]) = some .directory) : w.files.get? (out ++ [name]) = some .directory := by
  by_cases own : out ++ [name] = b.place out s a.version
  · rw [own] at directory ⊢
    cases outcome with
    | error stop => exact (spot.get?_of_finishes_error confined keeps finishes _).symm.trans directory
    | ok p =>
      obtain ⟨-, -, -, u, output, packs, yields, same⟩ := spot.exists_of_finishes_ok confined keeps finishes
      obtain ⟨-, -, e, there, noDirectory⟩ :=
        spot.exists_output packs.toBegins (spot.left confined keeps packs) yields
      have stands := (same.trans there).symm.trans directory
      exact absurd (Option.some_inj.mp stands) noDirectory
  · have beside : ¬ b.place out s a.version <+: out ++ [name] := fun inside =>
      own (inside.eq_of_length (by simp [place])).symm
    exact (spot.get?_of_finishes confined keeps finishes beside).symm.trans directory

/-- An output that is no link is read at the destination as it was read before. -/
theorem reads_output {name : String} (packs : b.Packs a s out w (.ok ()) u) (yields : b.Yields a s out w u name)
    (leads : v.Leads b.outDir out) (fits : usable b.outDir (s.releaseName b.product a.version) = .ok ())
    (same : v.files.get? (b.place out s a.version) = u.files.get? (out ++ [b.workName w] ++ [name]))
    (noLink : ∀ target, u.files.get? (out ++ [b.workName w] ++ [name]) ≠ some (.link target)) :
    ∃ e content, v.find (b.outDir.join (s.releaseName b.product a.version)) = .ok (b.place out s a.version, e) ∧
      e.isFile ∧ v.read (b.outDir.join (s.releaseName b.product a.version)) = .ok content ∧
      u.read ((b.workDir w).join name) = .ok content := by
  obtain ⟨inside, valid, -⟩ := spot.exists_output packs.toBegins (spot.left confined keeps packs) yields
  obtain ⟨-, e, look, there, regular⟩ := Workspace.find_of_isFile_join inside valid noLink yields.isFile
  obtain ⟨content, holds⟩ := Entry.exists_content regular
  have read {x : Workspace} {q : Path} {l : Location} (found : x.find q = .ok (l, e)) : x.read q = .ok content := by
    simp [Workspace.read, found, holds, bind, Except.bind, pure, Except.pure]
  have found := Workspace.find_join_of_file leads spot.release fits (same.trans there) regular
  exact ⟨e, content, found, regular, read found, read look⟩

end Spot

/-- Building one package changes nothing but what stands at the destination, and not even that if it fails. In particular
no directory is left behind. If it succeeds, what the packager left as its output is at the destination, and unless it is a
link it is read there as it was. The output is missing just if there is none to be chosen, in whatever order the directory
is listed, and otherwise it is moved, unless the destination cannot be looked up or is a directory. -/
theorem buildOne_isolated (spot : b.Spot s a.version out w) (confined : b.packager.Confined)
    (keeps : b.packager.KeepsLinks) :
    let dest := b.place out s a.version
    let room := out ++ [b.workName w]
    let run := (b.buildOne a s).exec w
    (∀ k, ¬ dest <+: k → run.2.files.get? k = w.files.get? k) ∧
    (∀ name, run.2.files.get? (out ++ [name]) = some .directory → w.files.get? (out ++ [name]) = some .directory) ∧
    (∀ stop, run.1 = .error stop → ∀ k, run.2.files.get? k = w.files.get? k) ∧
    (∀ p, run.1 = .ok p → p = b.outDir.join (s.releaseName b.product a.version) ∧
      ∃ u name, b.Packs a s out w (.ok ()) u ∧ b.Yields a s out w u name ∧
        run.2.files.get? dest = u.files.get? (room ++ [name]) ∧
        ((∀ target, u.files.get? (room ++ [name]) ≠ some (.link target)) → ∃ e content,
          run.2.find p = .ok (dest, e) ∧ e.isFile ∧ run.2.read p = .ok content ∧
            u.read ((b.workDir w).join name) = .ok content)) ∧
    ∀ u, b.Packs a s out w (.ok ()) u →
      (run.1 = .error (.failed (.outputMissing s.target.id s.format.name)) ↔ ∀ name, ¬ b.Yields a s out w u name) ∧
      (∀ name, b.Yields a s out w u name → usable b.outDir (s.releaseName b.product a.version) = .ok () →
        w.files.get? dest ≠ some .directory → run.1 = .ok (b.outDir.join (s.releaseName b.product a.version))) ∧
      ∀ names, names.Perm (u.files.names room) → ∀ path,
        pick u (b.workDir w) (s.outputName b.product a.version) s.format names = some path ↔
          ∃ name, b.Yields a s out w u name ∧ path = (b.workDir w).join name := by
  intro dest room run
  have finishes : b.Finishes a s out w run.1 run.2 := spot.finishes confined keeps
  refine ⟨fun k beside => ?_, fun name directory => ?_, fun stop failed k => ?_, fun p ok => ?_, fun u packs => ?_⟩
  · exact spot.get?_of_finishes confined keeps finishes beside
  · exact spot.directory_of_finishes confined keeps finishes directory
  · exact spot.get?_of_finishes_error confined keeps (failed ▸ finishes) k
  · obtain ⟨path, fits, leads, u, name, packs, yields, same⟩ :=
      spot.exists_of_finishes_ok confined keeps (ok ▸ finishes)
    refine ⟨path, u, name, packs, yields, same, fun noLink => ?_⟩
    rw [path]
    exact spot.reads_output confined keeps packs yields leads fits same noLink
  · exact ⟨finishes.missing_iff packs, fun name => finishes.delivered packs,
      fun names listed path => pick_eq_some_iff listed⟩

end PackageBuilder

/-- What stands in a filled tree stood there before, or was put there. -/
theorem FileTree.get?_fill {t : FileTree} {l k : Location} {entries : List (Location × Entry)} {e : Entry}
    (below : ∀ n ∈ entries, n.1 ≠ []) (found : (t.fill l entries).get? k = some e) :
    t.get? k = some e ∨ ∃ n ∈ entries, k = l ++ n.1 := by
  induction entries generalizing t with
  | nil => exact .inl found
  | cons n entries ih =>
    obtain before | ⟨m, member, rfl⟩ := ih (fun m member => below m (by simp [member])) found
    · have inside : n.1 ≠ [] := below n (by simp)
      rw [get?_put (by simp [inside])] at before
      split at before
      · next same => exact .inr ⟨n, by simp, same⟩
      · exact .inl before
    · exact .inr ⟨m, by simp [member], rfl⟩

/-- A packager that puts the same entries into its directory every time. -/
def Packager.leaving (entries : List (String × Entry)) : Packager where
  pack _ dir := do
    let l ← WorkM.ofTask ((FileM.look (·.locate dir .target)).describe fun fault => .files dir fault.message)
    modify fun w => { w with files := w.files.fill l (entries.map fun n => ([n.1], n.2)) }

namespace Packager

variable {entries : List (String × Entry)} {q : PackageRequest} {dir : Path} {w : Workspace} {l : Location}

theorem exec_leaving_of_leads (leads : w.Leads dir l) : ((leaving entries).pack q dir).exec w =
    match FileTree.checkPath dir with
    | .ok _ => (.ok (), FileM.changed w (·.fill l (entries.map fun n => ([n.1], n.2))))
    | .error fault => (.error (.failed (.files dir fault.message)), w) := by
  rw [leaving, TaskM.exec_bind, WorkM.exec_ofTask, TaskM.exec_describe, FileM.exec_look, Workspace.locate, leads.locate]
  cases FileTree.checkPath dir <;> rfl

theorem below_names (entries : List (String × Entry)) :
    ∀ n ∈ entries.map fun n => (([n.1], n.2) : Location × Entry), n.1 ≠ [] := by
  intro n member
  obtain ⟨m, -, rfl⟩ := List.mem_map.mp member
  simp

theorem confined_leaving (valid : ∀ n ∈ entries, IsName n.1) : (leaving entries).Confined where
  within q dir w l leads vacant := by
    rw [exec_leaving_of_leads leads]
    split
    · exact ⟨fun _ away => FileTree.get?_fill_of_away (below_names _) away,
        fun k _ alone => by rwa [FileM.changed, FileTree.Alone, FileTree.groups_fill], fun _ => rfl, List.prefix_refl _⟩
    · exact .refl _ w
  names q dir w l leads vacant name e found := by
    have free := (vacant (l ++ [name]) (List.prefix_append _ _) (by simp)).1
    rw [exec_leaving_of_leads leads] at found
    split at found
    · obtain before | ⟨n, member, same⟩ := FileTree.get?_fill (below_names _) found
      · simp [free] at before
      · obtain ⟨m, listed, rfl⟩ := List.mem_map.mp member
        obtain rfl : name = m.1 := by simpa using same
        exact valid m listed
    · simp [free] at found

theorem keepsLinks_leaving : (leaving entries).KeepsLinks := fun q dir w l leads vacant linked => by
  rw [exec_leaving_of_leads leads]
  split
  · exact linked.fill (below_names _) fun k inside beside => (vacant k inside beside).2
  · exact linked

end Packager

namespace PackageBuilder

/-- A builder of Debian packages. -/
def debs (entries : List (String × Entry)) (product : String) (outDir : Path) : PackageBuilder where
  packager := .leaving entries
  product := product
  outDir := outDir
  formats := [.deb]

def debSpec : PackageSpec :=
  ⟨⟨"x86-linux"⟩, .deb, "i386"⟩

def zipped : Archive where
  path := ⟨"m.zip"⟩
  target := ⟨"x86-linux"⟩
  version := "1"

/-- A project with an archive and an output directory. -/
def desk (nodes : List (Location × Entry)) : Workspace where
  files := ⟨(["p"], .directory) :: (["p", "m.zip"], .file [] false) :: (["p", "pkg"], .directory) :: nodes, []⟩
  directory := ["p"]
  journal := []

/-- What comes of building a package on the desk. -/
def trial (b : PackageBuilder) (nodes : List (Location × Entry)) : Except (Stop PackageError) Path × Workspace :=
  (b.buildOne zipped debSpec).exec (desk nodes)

theorem linked_desk (nodes : List (Location × Entry)) : (desk nodes).files.Linked where
  alike _ member := nomatch member
  present _ member := nomatch member
  single _ member := nomatch member

theorem buildOne_isolated_desk :
    let b := debs [("notes", .file [] false), ("some.deb", .file [9] false)] "m" ⟨"pkg"⟩
    let old : List (Location × Entry) := [(["p", "pkg", "m_1_x86-linux.deb"], .file [1] false)]
    b.Spot debSpec zipped.version ["p", "pkg"] (desk old) ∧ b.packager.Confined ∧ b.packager.KeepsLinks ∧
      (trial b old).1 = .ok ⟨"pkg/m_1_x86-linux.deb"⟩ ∧ (trial b old).2.read ⟨"pkg/m_1_x86-linux.deb"⟩ = .ok [9] ∧
      ∀ k, ¬ b.place ["p", "pkg"] debSpec zipped.version <+: k →
        (trial b old).2.files.get? k = (desk old).files.get? k := by
  intro b old
  have spot : b.Spot debSpec zipped.version ["p", "pkg"] (desk old) := {
    wellFormed := FileTree.wellFormed_of_nodes (by decide) (by decide) (by decide)
    linked := linked_desk _
    output := by decide
    release := by decide
    leads := by decide +kernel }
  have confined : b.packager.Confined := Packager.confined_leaving (by decide)
  have built : (trial b old).1 = .ok ⟨"pkg/m_1_x86-linux.deb"⟩ := TaskM.eq_ok_of_toOption (by decide +kernel)
  have read : (trial b old).2.read ⟨"pkg/m_1_x86-linux.deb"⟩ = .ok [9] := TaskM.eq_ok_of_toOption (by decide +kernel)
  refine ⟨spot, confined, Packager.keepsLinks_leaving, built, read, ?_⟩
  unfold trial
  exact (buildOne_isolated (a := zipped) spot confined Packager.keepsLinks_leaving).1

/-- Builds that are not isolated, or lose their package. The packager leaves a link under the expected name, which is moved
without the file that it leads to. The path of the output directory passes the destination, and the directory of the
package stays. The product has slashes, and a directory is made for it though the package cannot be moved. -/
theorem buildOne_astray :
    let linking : List (String × Entry) := [("real", .file [9] false), ("m_1_i386.deb", .link ⟨"real"⟩)]
    let plain : List (String × Entry) := [("some.deb", .file [9] false)]
    let through : List (Location × Entry) := [(["p", "pkg", "m_1_x86-linux.deb"], .link ⟨"."⟩)]
    let taken : List (Location × Entry) := [(["p", "pkg", "m_1_x86-linux.deb"], .directory)]
    ((Packager.leaving linking).Confined ∧ (Packager.leaving plain).Confined) ∧
    (let run := trial (debs linking "m" ⟨"pkg"⟩) []
     run.1.toOption = some ⟨"pkg/m_1_x86-linux.deb"⟩ ∧ run.2.isFile ⟨"pkg/m_1_x86-linux.deb"⟩ = false) ∧
    (let run := trial (debs plain "m" ⟨"pkg/m_1_x86-linux.deb"⟩) through
     run.1.toOption.isSome ∧ (desk through).files.names ["p", "pkg"] = ["m_1_x86-linux.deb"] ∧
      run.2.files.names ["p", "pkg"] = [".native-000000", "m_1_x86-linux.deb"]) ∧
    (let run := trial (debs plain "a/../m" ⟨"pkg"⟩) taken
     run.1.toOption = none ∧ (desk taken).files.names ["p", "pkg"] = ["m_1_x86-linux.deb"] ∧
      run.2.files.names ["p", "pkg"] = ["a", "m_1_x86-linux.deb"]) := by
  intro linking plain through taken
  refine ⟨⟨Packager.confined_leaving (by decide), Packager.confined_leaving (by decide)⟩, ?_, ?_, ?_⟩
  all_goals decide +kernel

end PackageBuilder

end ReleaseMatrix
