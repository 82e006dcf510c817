import ReleaseMatrix.Proofs.Manifest
import ReleaseMatrix.Proofs.PackageStage

namespace ReleaseMatrix

open Workspace (Within)
open FileTree (usable)

/-- A packager that does the same whenever it gets the same request, an empty directory, and an archive that holds the
same. -/
def Packager.Faithful (p : Packager) : Prop :=
  ∀ q dir w v l, w.Leads dir l → v.Leads dir l → w.files.Vacant l → v.files.Vacant l →
    w.read q.archive = v.read q.archive →
    ((p.pack q dir).exec w).1 = ((p.pack q dir).exec v).1 ∧
      ∀ k, l <+: k → ((p.pack q dir).exec w).2.files.get? k = ((p.pack q dir).exec v).2.files.get? k

namespace TaskM

variable {ε α β : Type} {alike : Workspace → Workspace → Prop}

/-- Work that comes to the same in two workspaces that are alike, and leaves them alike. -/
def Agrees (alike : Workspace → Workspace → Prop) (x : TaskM ε α) : Prop :=
  ∀ w v, alike w v → (x.exec w).1 = (x.exec v).1 ∧ alike (x.exec w).2 (x.exec v).2

theorem Agrees.pure (a : α) : Agrees alike (pure a : TaskM ε α) := fun _ _ begun => ⟨rfl, begun⟩

theorem Agrees.bind {x : TaskM ε α} {f : α → TaskM ε β} (first : Agrees alike x) (next : ∀ a, Agrees alike (f a)) :
    Agrees alike (x >>= f) := fun w v begun => by
  obtain ⟨same, after⟩ := first w v begun
  rw [exec_bind, exec_bind]
  generalize x.exec w = left at same after
  generalize x.exec v = right at same after
  obtain ⟨outcome, w'⟩ := left
  obtain ⟨_, v'⟩ := right
  obtain rfl := same
  cases outcome with
  | error e => exact ⟨rfl, after⟩
  | ok a => exact next a w' v' after

/-- Tasks that agree one by one agree in a list. -/
theorem Agrees.mapM {f : α → TaskM ε β} {l : List α} (each : ∀ a ∈ l, Agrees alike (f a)) : Agrees alike (l.mapM f) := by
  induction l with
  | nil => exact .pure []
  | cons a l ih =>
    rw [List.mapM_cons]
    exact .bind (each a (by simp)) fun b => .bind (ih fun a member => each a (by simp [member])) fun _ => .pure _

/-- What has an outcome as a value agrees if the work does. -/
theorem Agrees.outcome {x : WorkM ε α} (agrees : Agrees alike x) : Agrees alike x.outcome := fun w v begun => by
  obtain ⟨same, after⟩ := agrees w v begun
  rw [WorkM.exec_outcome, WorkM.exec_outcome]
  generalize x.exec w = left at same after
  generalize x.exec v = right at same after
  obtain ⟨outcome, w'⟩ := left
  obtain ⟨_, v'⟩ := right
  obtain rfl := same
  rcases outcome with (error | crash) | a <;> exact ⟨rfl, after⟩

end TaskM

theorem Text.getLast?_joinChars_ne {sep : Char} {pieces : List (List Char)}
    (loud : ∀ piece ∈ pieces, piece ≠ [] ∧ sep ∉ piece) : (joinChars sep pieces).getLast? ≠ some sep := by
  rcases List.eq_nil_or_concat pieces with rfl | ⟨before, last, rfl⟩
  · simp [joinChars]
  · obtain ⟨nonempty, plain⟩ := loud last (by simp)
    have ends : (joinChars sep (before ++ [last])).getLast? = last.getLast? := by
      by_cases only : before = []
      · simp [only, joinChars]
      · rw [joinChars_concat sep only, List.getLast?_append_of_ne_nil _ (List.cons_ne_nil _ _),
          List.getLast?_cons_of_ne_nil nonempty]
    rw [List.concat_eq_append, ends]
    exact fun same => plain (List.mem_of_getLast? same)

namespace Workspace

variable {base : FileTree} {here l : Location} {p : Path} {name : String} {w v : Workspace}

/-- The path of an entry is that of its directory, joined with its name. -/
theorem pathOf_concat (proper : l.IsProper) (valid : IsName name) : pathOf (l ++ [name]) = (pathOf l).join name := by
  have letters (l : Location) : (pathOf l).text.toList = '/' :: Text.joinChars '/' (l.map String.toList) := by
    simp [pathOf, Text.join]
  have loud : ∀ piece ∈ l.map String.toList, piece ≠ [] ∧ '/' ∉ piece := by
    intro piece member
    obtain ⟨other, among, rfl⟩ := List.mem_map.mp member
    exact ⟨(proper other among).1.toList_ne_nil, (proper other among).1.noSlash⟩
  have same : (pathOf (l ++ [name])).text.toList = ((pathOf l).join name).text.toList := by
    rw [Path.toList_join _ valid, letters, letters, List.map_append, List.map_singleton]
    by_cases root : l.map String.toList = []
    · simp [root, Text.joinChars]
    · have nonempty : Text.joinChars '/' (l.map String.toList) ≠ [] := by
        intro none
        obtain ⟨before, last, shape⟩ := (List.eq_nil_or_concat _).resolve_left root
        rw [shape, List.concat_eq_append] at none
        by_cases only : before = []
        · exact (loud last (by simp [shape])).1 (by simpa [only, Text.joinChars] using none)
        · simp [Text.joinChars_concat _ only] at none
      have ends := Text.getLast?_joinChars_ne loud
      rw [Text.joinChars_concat '/' root, List.getLast?_cons_of_ne_nil nonempty]
      simp [ends]
  exact congrArg Path.mk (String.toList_inj.mp same)

/-- What is found by its name, and is no link, depends on its place alone. -/
theorem find_join_congr (leadsW : w.Leads p l) (leadsV : v.Leads p l) (valid : IsName name)
    (noLink : ∀ target, w.files.get? (l ++ [name]) ≠ some (.link target))
    (same : w.files.get? (l ++ [name]) = v.files.get? (l ++ [name])) : w.find (p.join name) = v.find (p.join name) := by
  rw [FileM.find_join leadsW valid noLink, FileM.find_join leadsV valid fun target => same ▸ noLink target, same]

end Workspace

/-- The path of a place leads to it. -/
theorem FileTree.leads_pathOf {t : FileTree} {here l : Location} (sound : t.Sound) (proper : l.IsProper)
    (directory : t.get? l = some .directory) : t.Leads here (Workspace.pathOf l) l := by
  have start : (Workspace.pathOf l).start here = [] := by simp [Path.start, Path.isAbsolute, Workspace.pathOf]
  obtain ⟨jump, unfolded⟩ := t.walk_eq_walkWith .target linkLimit
  refine ⟨by rw [start, get?_root], ?_, directory⟩
  have walked : t.walkWith .target jump [] (l ++ []) = t.walkWith .target jump ([] ++ l) [] :=
    walkWith_names sound directory proper
  rw [start, Workspace.steps_pathOf proper, unfolded]
  simpa [walkWith] using walked

/-- The first name for the directory of a package is taken if it is free. -/
theorem PackageScratch.freshName_eq {taken : List String} (free : nameOf 0 ∉ taken) : freshName taken = nameOf 0 := by
  simp [freshName, List.range_succ_eq_map, free]

/-- In workspaces that rest on one tree, a path is made absolute alike. -/
theorem PackageScratch.absolute_congr {base : FileTree} {here l : Location} {p : Path} {w v : Workspace}
    (leads : base.Leads here p l) (restsW : w.Rests base here) (restsV : v.Rests base here) :
    absolute w p = absolute v p := by
  unfold absolute
  split
  · rfl
  · next relative =>
    have there := leads.start
    rw [show p.start here = here by simp [Path.start, relative]] at there
    rw [restsW.home there, restsV.home there]

namespace Files

open FileM (relocated)

variable {w : Workspace} {p q : Path} {l k : Location} {name other : String} {e : Entry}

/-- Moving a file that has no other place to where no other than a file stands: just paths decide what comes of it. -/
theorem exec_move_file (leads : w.Leads p l) (valid : IsName name) (leads' : w.Leads q k) (valid' : IsName other)
    (found : w.files.get? (l ++ [name]) = some e) (file : e.isFile) (fits : usable p name = .ok ())
    (alone : w.files.Alone (l ++ [name])) (free : ∀ d, w.files.get? (k ++ [other]) = some d → d.isFile)
    (apart : ¬ l ++ [name] <+: k ++ [other]) (apart' : ¬ k ++ [other] <+: l ++ [name]) :
    (move (p.join name) (q.join other)).exec w =
      match ((makeParent (q.join other)).exec w).1, usable q other with
      | .error error, _ => (.error error, w)
      | .ok _, .error fault => (.error (.move (p.join name) (q.join other) fault.message), w)
      | .ok _, .ok _ => (.ok (), relocated w (l ++ [name]) (k ++ [other])) := by
  have noDirectory : e ≠ .directory := by
    rintro rfl
    cases file
  have notSame : k ++ [other] ≠ l ++ [name] := fun same => apart (same ▸ List.prefix_refl _)
  have renamed := FileM.rename_join leads valid leads' valid' found noDirectory apart apart'
  rw [fits, alone.places_eq] at renamed
  simp only [List.contains_cons, List.contains_nil, Bool.or_false, beq_iff_eq, notSame, if_false] at renamed
  obtain ⟨outcome, parent⟩ := exec_makeParent_join leads' valid'
  rw [parent]
  cases outcome with
  | error error => exact move_of_parent_error parent
  | ok _ =>
    cases fits' : usable q other with
    | ok _ =>
      simp only [fits'] at renamed
      refine move_of_rename parent (renamed.trans ?_)
      split
      · next directory =>
        have := free _ directory
        cases this
      · rfl
    | error fault =>
      rw [fits'] at renamed
      have uncopied : (FileM.copy (p.join name) (q.join other)).exec w = (.error fault, w) := by
        rw [FileM.copy, TaskM.exec_bind, FileM.exec_look, Workspace.find_join_of_file leads valid fits found file]
        simp only [file, Bool.not_true, Bool.false_eq_true, if_false]
        rw [FileM.locateForWriting, TaskM.exec_bind, TaskM.exec_bind, FileM.exec_look, Workspace.locate,
          FileTree.Leads.locate_join_of_fault leads' valid' fits']
      rw [move, TaskM.exec_bind, parent]
      dsimp only
      rw [TaskM.exec_bind, TaskM.exec_attempt, renamed]
      dsimp only
      rw [TaskM.exec_describe, TaskM.exec_bind, uncopied]
      rfl

end Files

namespace PackageBuilder

variable {b : PackageBuilder} {base : FileTree} {here out l : Location} {dir : Path} {a : Archive} {s : PackageSpec}
variable {w v : Workspace}

/-- What a packager wrote is found alike in directories that hold the same. -/
theorem produced?_congr {expected : String} {f : PackageFormat} (leadsW : w.Leads dir l) (leadsV : v.Leads dir l)
    (valid : IsName expected) (names : ∀ name e, w.files.get? (l ++ [name]) = some e → IsName name)
    (noLink : ∀ name target, w.files.get? (l ++ [name]) ≠ some (.link target))
    (same : ∀ name, w.files.get? (l ++ [name]) = v.files.get? (l ++ [name])) :
    produced? w dir expected f = produced? v dir expected f := by
  have file {name : String} (valid : IsName name) : w.isFile (dir.join name) = v.isFile (dir.join name) := by
    rw [Workspace.isFile, Workspace.isFile, Workspace.entry?, Workspace.entry?,
      Workspace.find_join_congr leadsW leadsV valid (noLink name) (same name)]
  have listed : w.files.names l = v.files.names l := by
    simpa using @FileTree.filter_names_congr v.files w.files l (fun _ => true) fun name _ => same name
  have fits : ∀ name ∈ ((FileTree.checkPath dir).map fun _ => v.files.names l).toOption.getD [],
      (w.isFile (dir.join name) && name.endsWith ("." ++ f.extension)) =
        (v.isFile (dir.join name) && name.endsWith ("." ++ f.extension)) := by
    intro name member
    have present : name ∈ w.files.names l := by
      rw [listed]
      cases checked : FileTree.checkPath dir <;> simp_all [Except.map, Except.toOption]
    obtain ⟨e, there⟩ := Option.isSome_iff_exists.mp (FileTree.mem_names.mp present)
    rw [file (names name e there)]
  unfold produced?
  rw [file valid, Workspace.list_of_leads leadsW, Workspace.list_of_leads leadsV, listed]
  dsimp only
  rw [List.filter_congr fits]

namespace Site

variable (site : b.Site base here out)
include site

/-- Making a package comes to the same in two workspaces where the archive holds the same, and nothing but files stands
where the package goes. -/
theorem packIn_agrees (room : Room base here out dir l) (plain : b.packager.Plain) (faithful : b.packager.Faithful)
    {r : PackageRequest} (restsW : w.Rests base here) (restsV : v.Rests base here)
    (directoryW : w.files.get? l = some .directory) (directoryV : v.files.get? l = some .directory)
    (vacantW : w.files.Vacant l) (vacantV : v.files.Vacant l) (valid : IsName r.outputName)
    (valid' : IsName (r.spec.releaseName b.product r.version)) (same : w.read r.archive = v.read r.archive)
    (freeW : ∀ d, w.files.get? (out ++ [r.spec.releaseName b.product r.version]) = some d → d.isFile)
    (freeV : ∀ d, v.files.get? (out ++ [r.spec.releaseName b.product r.version]) = some d → d.isFile) :
    ((b.packIn dir r).exec w).1 = ((b.packIn dir r).exec v).1 := by
  have leadsW : (w.record (.packed r)).Leads dir l := room.leads w restsW directoryW
  have leadsV : (v.record (.packed r)).Leads dir l := room.leads v restsV directoryV
  obtain ⟨outcome, below⟩ := faithful r dir _ _ l leadsW leadsV vacantW vacantV same
  have withinW := plain.within r _ _ _ leadsW vacantW
  have withinV := plain.within r _ _ _ leadsV vacantV
  have names := plain.names r _ _ _ leadsW vacantW
  have noLink := plain.noLink r _ _ _ leadsW vacantW
  have aloneW := plain.alone r _ _ _ leadsW vacantW
  have aloneV := plain.alone r _ _ _ leadsV vacantV
  obtain ⟨n, named⟩ := room.named
  have beside : ¬ (l <+: out ++ [r.spec.releaseName b.product r.version] ∧
      out ++ [r.spec.releaseName b.product r.version] ≠ l) := by
    rintro ⟨inside, other⟩
    exact other (inside.eq_of_length (by simp [named])).symm
  rw [exec_packIn, exec_packIn]
  generalize (b.packager.pack r dir).exec (w.record (.packed r)) = left at *
  generalize (b.packager.pack r dir).exec (v.record (.packed r)) = right at *
  obtain ⟨ending, x⟩ := left
  obtain ⟨_, y⟩ := right
  obtain rfl := outcome
  dsimp only at *
  cases ending with
  | error stop => rfl
  | ok _ =>
    have inside {k : Location} (area : l <+: k ∧ k ≠ l) : ∃ name, isPackagingName name ∧ out ++ [name] <+: k :=
      ⟨_, isPackagingName_nameOf n, named ▸ area.1⟩
    have restsX := site.rests (w := w.record (.packed r)) ⟨restsW.keeps, restsW.home⟩ (withinW.mono fun _ => inside)
    have restsY := site.rests (w := v.record (.packed r)) ⟨restsV.keeps, restsV.home⟩ (withinV.mono fun _ => inside)
    have directoryX : x.files.get? l = some .directory := (withinW.files l (by simp)).trans directoryW
    have directoryY : y.files.get? l = some .directory := (withinV.files l (by simp)).trans directoryV
    have leadsX := room.leads x restsX directoryX
    have leadsY := room.leads y restsY directoryY
    have found := produced?_congr (f := r.spec.format) leadsX leadsY valid names noLink fun name =>
      below _ (List.prefix_append _ _)
    dsimp only
    rw [← found]
    cases produced : produced? x dir r.outputName r.spec.format with
    | none => rfl
    | some path =>
      obtain ⟨name, validName, rfl, file⟩ := exists_of_produced? leadsX valid names produced
      obtain ⟨fits, d, -, there, regular⟩ := Workspace.find_of_isFile_join leadsX validName (noLink name) file
      have apart : ¬ l ++ [name] <+: out ++ [r.spec.releaseName b.product r.version] := fun inside => by
        simpa [named] using inside.length_le
      have apart' : ¬ out ++ [r.spec.releaseName b.product r.version] <+: l ++ [name] := by
        simp [named, PackageSpec.releaseName_ne_nameOf]
      obtain ⟨parent, made⟩ := Files.exists_makeParent_join (p := b.outDir) valid'
      have moved {u : Workspace} (e : Event) (rests : u.Rests base here) (leads : u.Leads dir l)
          (there : u.files.get? (l ++ [name]) = some d) (alone : u.files.Alone (l ++ [name]))
          (free : ∀ d, u.files.get? (out ++ [r.spec.releaseName b.product r.version]) = some d → d.isFile) :
          ((Files.move (dir.join name) (b.outDir.join (r.spec.releaseName b.product r.version))).exec (u.record e)).1 =
            match parent, usable b.outDir (r.spec.releaseName b.product r.version) with
            | .error error, _ => .error error
            | .ok _, .error fault => .error
              (.move (dir.join name) (b.outDir.join (r.spec.releaseName b.product r.version)) fault.message)
            | .ok _, .ok _ => .ok () := by
        have leadsOut := rests.leads site.leads
        rw [Files.exec_move_file (w := u.record e) leads validName leadsOut valid' there regular fits alone free apart
          apart', made (u.record e) out leadsOut]
        cases parent <;> cases usable b.outDir (r.spec.releaseName b.product r.version) <;> rfl
      dsimp only
      rw [moved _ restsX leadsX there (aloneW name) fun d stands => freeW d ((withinW.files _ beside).symm.trans stands),
        moved _ restsY leadsY ((below _ (List.prefix_append _ _)).symm.trans there) (aloneV name) fun d stands =>
          freeV d ((withinV.files _ beside).symm.trans stands)]

end Site

/-- The workspace is ready for packages. There is no directory for one yet, and nothing but files stands where packages
go. -/
structure Blank (base : FileTree) (here out : Location) (w : Workspace) : Prop extends Ready base here out w where
  free : ∀ n, w.files.get? (out ++ [PackageScratch.nameOf n]) = none
  files : ∀ name e, Collection.isPackageName name → w.files.get? (out ++ [name]) = some e → e.isFile

/-- An archive stands in the output directory of both workspaces, and is the same file. -/
def Shares (b : PackageBuilder) (out : Location) (a : Archive) (w v : Workspace) : Prop :=
  ∃ name e, IsName name ∧ isPackagingName name = false ∧ a.path = b.outDir.join name ∧ e.isFile ∧
    w.files.get? (out ++ [name]) = some e ∧ v.files.get? (out ++ [name]) = some e

/-- Two workspaces in which packages of the same archives can be built. -/
structure Alike (b : PackageBuilder) (base : FileTree) (here out : Location) (archives : List Archive)
    (w v : Workspace) : Prop where
  first : Blank base here out w
  second : Blank base here out v
  shares : ∀ a ∈ archives, b.Shares out a w v

namespace Site

variable (site : b.Site base here out)
include site

/-- Building a package of an archive that is there. -/
theorem exec_buildOne_of_file {name : String} {e : Entry} (blank : Blank base here out w) (valid : IsName name)
    (path : a.path = b.outDir.join name) (file : e.isFile) (there : w.files.get? (out ++ [name]) = some e) :
    let p := PackageScratch.absolute w b.outDir
    let dir := p.join (PackageScratch.nameOf 0)
    (b.buildOne a s).exec w =
      match usable b.outDir name, usable p (PackageScratch.nameOf 0) with
      | .error _, _ => (.error (.failed (.archiveMissing a.path)), w)
      | .ok _, .error fault =>
        (.error (.failed (.files b.outDir (fault.message ++ " at path " ++ Text.quote dir.text))), w)
      | .ok _, .ok _ =>
        let packed := (b.packIn dir ⟨b.product, a.version, s, Workspace.pathOf (out ++ [name]),
          s.outputName b.product a.version⟩).exec
            (FileM.changed w (·.put (out ++ [PackageScratch.nameOf 0]) .directory))
        (packed.1, ((FileM.removeTree dir).exec packed.2).2) := by
  have leads := blank.rests.leads site.leads
  have noLink (target : Path) : w.files.get? (out ++ [name]) ≠ some (.link target) := by
    rw [there]
    rintro ⟨⟩
    cases file
  have found := FileM.find_join leads valid noLink
  rw [there] at found
  have fresh : PackageScratch.freshName ((w.list b.outDir).toOption.getD []) = PackageScratch.nameOf 0 := by
    refine PackageScratch.freshName_eq fun taken => ?_
    rw [Workspace.list_of_leads leads] at taken
    have member : PackageScratch.nameOf 0 ∈ w.files.names out := by
      cases checked : FileTree.checkPath b.outDir <;> simp_all [Except.map, Except.toOption]
    have := FileTree.mem_names.mp member
    simp [blank.free 0] at this
  have leads := site.leads.absolute site.sound site.proper blank.rests
  have made := PackageScratch.exec_make_of_leads (blank.rests.leads leads) fresh
  rw [blank.free 0] at made
  dsimp only at made ⊢
  rw [exec_buildOne_eq, path, Workspace.isFile, Workspace.entry?, found]
  cases fits : usable b.outDir name with
  | error fault => rfl
  | ok _ =>
    rw [fits] at found
    have canonical : w.canonical (b.outDir.join name) = .ok (Workspace.pathOf (out ++ [name])) := by
      rw [Workspace.canonical, found]
      rfl
    simp only [Option.any_some, file, if_true, canonical, made]
    cases usable (PackageScratch.absolute w b.outDir) (PackageScratch.nameOf 0) <;> rfl

/-- Building a package leaves none of the directories that packages are made in. -/
theorem free_buildOne (confined : b.packager.Confined) (blank : Blank base here out w)
    (plainVersion : '/' ∉ a.version.toList) {t : Target} (member : s ∈ PackageSpec.list t b.formats) (n : Nat) :
    ((b.buildOne a s).exec w).2.files.get? (out ++ [PackageScratch.nameOf n]) = none := by
  obtain ⟨stop, eq⟩ | ⟨archive, dir, l, outcome, v, room, free, packed, eq⟩ :=
    site.exec_buildOne (a := a) (s := s) blank.rests
  · rw [eq]
    exact blank.free n
  obtain ⟨m, rfl⟩ := room.named
  obtain ⟨opened, rests, directory, vacant⟩ := site.opened_of_free blank.toReady free
  have made := site.packed_packIn
    (r := ⟨b.product, a.version, s, archive, s.outputName b.product a.version⟩) room confined rests directory vacant
    (PackageSpec.isName_outputName member site.product plainVersion)
    (PackageSpec.isName_releaseName member site.product plainVersion)
  rw [packed] at made
  have other {k : Nat} : ¬ out ++ [s.releaseName b.product a.version] <+: out ++ [PackageScratch.nameOf k] := by
    simp [PackageSpec.releaseName_ne_nameOf]
  have area {k : Location} (inside : (out ++ [PackageScratch.nameOf m] <+: k ∧ k ≠ out ++ [PackageScratch.nameOf m]) ∨
      b.place out s a.version <+: k) : Area out (b.place out s a.version) k :=
    inside.imp_left fun inside => ⟨m, inside.1⟩
  have restsV := site.rests rests (made.within.mono fun _ inside => exists_name_of_area (area inside))
  have removed := room.removed v restsV (by rw [made.within.files _ (by simp [other]), directory])
  have root : out ++ [PackageScratch.nameOf m] ≠ [] := by simp
  rw [eq, removed, FileM.get?_felled root]
  split
  · rfl
  · next apart =>
    have untouched := made.within.files _ (not_or.mpr ⟨fun inside => apart inside.1, other⟩)
    exact untouched.trans ((opened.files _ apart).trans (blank.free n))

/-- Once a package is built, the next can be. -/
theorem blank_buildOne (plain : b.packager.Plain) (blank : Blank base here out w)
    (plainVersion : '/' ∉ a.version.toList) {t : Target} (member : s ∈ PackageSpec.list t b.formats) :
    Blank base here out ((b.buildOne a s).exec w).2 := by
  have built := site.built_buildOne plain.toConfined blank.toReady plainVersion member
  have staged := (blank.toReady.staged (b := b)).next
    (PackageSpec.isName_releaseName member site.product plainVersion) built
  refine ⟨built.ready, site.free_buildOne plain.toConfined blank plainVersion member, fun name e package there => ?_⟩
  obtain same | ⟨d, stands, file⟩ := staged.packages plain name package
  · exact blank.files name e package (same.symm.trans there)
  · exact Option.some_inj.mp (there.symm.trans stands) ▸ file

theorem kept_buildOne (confined : b.packager.Confined) (ready : Ready base here out w)
    (plainVersion : '/' ∉ a.version.toList) {t : Target} (member : s ∈ PackageSpec.list t b.formats)
    (foreign : isPackagingName name = false) :
    ((b.buildOne a s).exec w).2.files.get? (out ++ [name]) = w.files.get? (out ++ [name]) := by
  refine (site.built_buildOne confined ready plainVersion member).within.files _ fun area => ?_
  obtain ⟨other, packaging, inside⟩ := exists_name_of_area area
  obtain rfl : other = name := by simpa using inside.eq_of_length (by simp)
  simp [foreign] at packaging

variable (proper : out.IsProper) (plain : b.packager.Plain) (faithful : b.packager.Faithful)
include proper plain faithful

/-- Building a package comes to the same wherever the archive is the same. -/
theorem agrees_buildOne (plainVersion : '/' ∉ a.version.toList) (among : a ∈ archives) {t : Target}
    (member : s ∈ PackageSpec.list t b.formats) :
    TaskM.Agrees (b.Alike base here out archives) (b.buildOne a s) := fun w v alike => by
  have valid := PackageSpec.isName_outputName member site.product plainVersion
  have valid' := PackageSpec.isName_releaseName member site.product plainVersion
  refine ⟨?_, site.blank_buildOne plain alike.first plainVersion member,
    site.blank_buildOne plain alike.second plainVersion member, fun a' among' => ?_⟩
  · obtain ⟨name, e, isName, foreign, path, file, thereW, thereV⟩ := alike.shares a among
    have sameDir := PackageScratch.absolute_congr site.leads alike.first.rests alike.second.rests
    rw [site.exec_buildOne_of_file alike.first isName path file thereW,
      site.exec_buildOne_of_file alike.second isName path file thereV]
    dsimp only
    rw [← sameDir]
    cases fits : usable b.outDir name with
    | error fault => rfl
    | ok _ =>
      cases fits' : usable (PackageScratch.absolute w b.outDir) (PackageScratch.nameOf 0) with
      | error fault => rfl
      | ok _ =>
        obtain ⟨openedW, restsW, directoryW, vacantW⟩ := site.opened_of_free alike.first.toReady (alike.first.free 0)
        obtain ⟨openedV, restsV, directoryV, vacantV⟩ := site.opened_of_free alike.second.toReady (alike.second.free 0)
        have away {other : String} (spare : other ≠ PackageScratch.nameOf 0) :
            ¬ out ++ [PackageScratch.nameOf 0] <+: out ++ [other] := by simpa using Ne.symm spare
        have noWork : name ≠ PackageScratch.nameOf 0 := by
          rintro rfl
          simp [isPackagingName_nameOf] at foreign
        have spot : base.Leads here (Workspace.pathOf out) out :=
          FileTree.leads_pathOf site.sound proper site.leads.directory
        dsimp only
        refine site.packIn_agrees (site.room_nameOf alike.first.rests fits') plain faithful restsW restsV directoryW
          directoryV vacantW vacantV valid valid' ?_ (fun d stands => ?_) (fun d stands => ?_)
        · have stillW := (openedW.files _ (away noWork)).trans thereW
          have stillV := (openedV.files _ (away noWork)).trans thereV
          have noLink (target : Path) : some e ≠ some (.link target) := by
            rintro ⟨⟩
            cases file
          dsimp only
          rw [Workspace.pathOf_concat proper isName, Workspace.read, Workspace.read,
            Workspace.find_join_congr (restsW.leads spot) (restsV.leads spot) isName (fun target => stillW ▸ noLink target)
              (stillW.trans stillV.symm)]
        · exact alike.first.files _ d (s.isPackageName_releaseName _ _)
            ((openedW.files _ (away (s.releaseName_ne_nameOf _ _ _))).symm.trans stands)
        · exact alike.second.files _ d (s.isPackageName_releaseName _ _)
            ((openedV.files _ (away (s.releaseName_ne_nameOf _ _ _))).symm.trans stands)
  · obtain ⟨name, e, isName, foreign, path, file, thereW, thereV⟩ := alike.shares a' among'
    exact ⟨name, e, isName, foreign, path, file,
      (site.kept_buildOne plain.toConfined alike.first.toReady plainVersion member foreign).trans thereW,
      (site.kept_buildOne plain.toConfined alike.second.toReady plainVersion member foreign).trans thereV⟩

theorem agrees_buildAll (plainVersion : '/' ∉ a.version.toList) (among : a ∈ archives) :
    TaskM.Agrees (b.Alike base here out archives) (b.buildAll a) :=
  .mapM fun _ member => .bind
    (.outcome (site.agrees_buildOne proper plain faithful plainVersion among member)) fun _ => .pure _

/-- The packages of archives come to the same wherever the archives are the same. -/
theorem buildEach_agrees (versions : ∀ a ∈ archives, '/' ∉ a.version.toList)
    (alike : b.Alike base here out archives w v) :
    ((b.buildEach archives).run w).1 = ((b.buildEach archives).run v).1 := by
  suffices each : ∀ l ⊆ archives, ∀ w v, b.Alike base here out archives w v →
      ((b.buildEach l).run w).1 = ((b.buildEach l).run v).1 from each archives (fun _ => id) w v alike
  intro l
  induction l with
  | nil => exact fun _ _ _ _ => rfl
  | cons a l ih =>
    intro inside w v alike
    have among : a ∈ archives := inside (by simp)
    obtain ⟨same, after⟩ := site.agrees_buildAll proper plain faithful (versions a among) among w v alike
    rw [buildEach_cons, buildEach_cons]
    dsimp only
    rw [same, ih (fun _ member => inside (by simp [member])) _ _ after]

end Site

/-- No package is made of an archive whose target none of the formats applies to. -/
theorem exec_buildAll_of_inapplicable (other : PackageSpec.isApplicable a.target b.formats = false) :
    (b.buildAll a).exec w = (.ok [], w) := by
  have none : PackageSpec.list a.target b.formats = [] := by
    by_contra some
    simp [(PackageSpec.isApplicable_iff_list_ne_nil _ _).mpr some] at other
  rw [buildAll, none]
  rfl

/-- Archives whose targets none of the formats applies to can be left out. -/
theorem buildEach_filter (b : PackageBuilder) (archives : List Archive) (w : Workspace) :
    (b.buildEach (archives.filter fun a => PackageSpec.isApplicable a.target b.formats)).run w =
      (b.buildEach archives).run w := by
  induction archives generalizing w with
  | nil => rfl
  | cons a archives ih =>
    rw [List.filter_cons]
    cases applies : PackageSpec.isApplicable a.target b.formats with
    | true =>
      rw [if_pos rfl, buildEach_cons, buildEach_cons]
      dsimp only
      rw [ih]
    | false =>
      rw [if_neg (by simp), ih, buildEach_cons, exec_buildAll_of_inapplicable applies]
      rfl

end PackageBuilder

end ReleaseMatrix
