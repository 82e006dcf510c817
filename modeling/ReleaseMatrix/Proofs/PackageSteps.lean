import ReleaseMatrix.Proofs.Moving
import ReleaseMatrix.Proofs.SpareNames

namespace ReleaseMatrix

open FileTree (usable nameLimit)

/-- A place whose names can all be looked up. -/
def Location.IsProper (l : Location) : Prop :=
  ∀ name ∈ l, IsName name ∧ name.utf8ByteSize ≤ nameLimit

instance (l : Location) : Decidable l.IsProper :=
  inferInstanceAs (Decidable (∀ name ∈ l, IsName name ∧ name.utf8ByteSize ≤ nameLimit))

theorem Path.steps_join_relative {p : Path} {q : String} (nonempty : p.text ≠ "") (relative : q.toList.head? ≠ some '/') :
    (p.join q).steps = p.steps ++ (⟨q⟩ : Path).steps := by
  have letters : p.text.toList ≠ [] := fun none => nonempty (String.toList_inj.mp (by simpa using none))
  by_cases slash : p.text.toList.getLast? = some '/'
  · obtain ⟨before, eq⟩ := List.getLast?_eq_some_iff.mp slash
    have text : (p.join q).text.toList = before ++ '/' :: q.toList := by simp [join, relative, eq]
    simp [steps_eq, text, eq, Text.splitChars_append_sep, Text.splitChars]
  · have text : (p.join q).text.toList = p.text.toList ++ '/' :: q.toList := by
      simp [join, relative, slash, Text.isEmpty_eq_false letters]
    simp [steps_eq, text, Text.splitChars_append_sep]

theorem Workspace.steps_pathOf {l : Location} (proper : l.IsProper) : (pathOf l).steps = l := by
  have text : (pathOf l).text.toList = '/' :: Text.joinChars '/' (l.map String.toList) := by
    simp [pathOf, Text.join]
  have plain : ∀ piece ∈ l.map String.toList, '/' ∉ piece := by
    intro piece member
    obtain ⟨name, among, rfl⟩ := List.mem_map.mp member
    exact (proper name among).1.noSlash
  have whole : Path.stepsOf (l.map String.toList) = l := by
    rw [Path.stepsOf, List.filter_eq_self.mpr, List.map_map]
    · simp [Function.comp_def]
    · intro piece member
      obtain ⟨name, among, rfl⟩ := List.mem_map.mp member
      simpa using (proper name among).1.toList_ne_nil
  rw [Path.steps_eq, text]
  change Path.stepsOf (Text.splitChars '/' ('/' :: _)) = l
  rw [Path.stepsOf_slash]
  by_cases root : l = []
  · subst root
    rfl
  · rw [Text.splitChars_joinChars (by simpa using root) plain, whole]

namespace FileTree

variable {t : FileTree} {here l : Location} {p : Path}

/-- A walk along the names of a directory comes to it. -/
theorem walkWith_names (sound : t.Sound) {jump : Location → List String → Except FileFault Location}
    {before names rest : List String} (directory : t.get? (before ++ names) = some .directory)
    (proper : Location.IsProper names) :
    t.walkWith .target jump before (names ++ rest) = t.walkWith .target jump (before ++ names) rest := by
  induction names generalizing before with
  | nil => simp
  | cons name names ih =>
    have above (k : Location) (inside : k <+: before ++ name :: names) : t.get? k = some .directory := by
      by_cases whole : k = before ++ name :: names
      · exact whole ▸ directory
      · exact sound.above directory inside whole
    obtain ⟨valid, short⟩ := proper name (by simp)
    have first := above before (List.prefix_append _ _)
    have next := above (before ++ [name]) ⟨names, by simp⟩
    have long : ¬ name.utf8ByteSize > nameLimit := by omega
    rw [List.cons_append, walkWith, first]
    simp only [valid.notHere, valid.notUp, valid.ne_closingStep, decide_false, Bool.or_false, Bool.false_eq_true,
      reduceCtorEq, Bool.false_and, if_false, long, next]
    rw [ih (by simpa using directory) fun name member => proper name (by simp [member])]
    simp

/-- A path leads to the same directory when it is taken from the root. -/
theorem Leads.absolute (leads : t.Leads here p l) (sound : t.Sound) (proper : p.isAbsolute = false → here.IsProper)
    {w : Workspace} (rests : w.Rests t here) : t.Leads here (PackageScratch.absolute w p) l := by
  unfold PackageScratch.absolute
  split
  · exact leads
  · next relative =>
    have proper := proper (by simpa using relative)
    have first : (Workspace.pathOf here).isAbsolute := by
      simp [Path.isAbsolute, Workspace.pathOf]
    have start : p.start here = here := by simp [Path.start, relative]
    have there := leads.start
    rw [start] at there
    have apart : p.text.toList.head? ≠ some '/' := by simpa [Path.isAbsolute] using relative
    have nonempty : (Workspace.pathOf here).text ≠ "" := by
      intro empty
      simp [Path.isAbsolute, empty] at first
    have from_root : ((Workspace.pathOf here).join p.text).start here = [] := by
      have letters : ((Workspace.pathOf here).join p.text).text.toList.head? = some '/' := by
        have head : (Workspace.pathOf here).text.toList.head? = some '/' := by simp [Workspace.pathOf]
        unfold Path.join
        rw [if_neg apart]
        split <;> simp [head]
      simp [Path.start, Path.isAbsolute, letters]
    have walk := leads.walk
    obtain ⟨jump, unfolded⟩ := t.walk_eq_walkWith .target linkLimit
    rw [start, unfolded] at walk
    rw [rests.home there]
    refine ⟨by rw [from_root, get?_root], ?_, leads.directory⟩
    rw [from_root, Path.steps_join_relative nonempty apart, Workspace.steps_pathOf proper, unfolded,
      walkWith_names sound (by simpa using there) proper]
    exact walk

end FileTree

open Workspace (Within)
open FileTree (usable)

/-- Nothing stands below a place, and no file has another place there. -/
def FileTree.Vacant (t : FileTree) (l : Location) : Prop :=
  ∀ k, l <+: k → k ≠ l → t.get? k = none ∧ t.Alone k

theorem FileTree.Vacant.congr {t s : FileTree} {l : Location} (vacant : t.Vacant l)
    (same : ∀ k, l <+: k → k ≠ l → s.get? k = t.get? k ∧ (t.Alone k → s.Alone k)) : s.Vacant l := fun k inside below =>
  ⟨(same k inside below).1.trans (vacant k inside below).1, (same k inside below).2 (vacant k inside below).2⟩

/-- A packager that writes only into the directory that it is given, and leaves names there that can be looked up. -/
structure Packager.Confined (p : Packager) : Prop where
  within : ∀ q dir w l, w.Leads dir l → w.files.Vacant l → Within (fun k => l <+: k ∧ k ≠ l) w ((p.pack q dir).exec w).2
  names : ∀ q dir w l, w.Leads dir l → w.files.Vacant l → ∀ name e,
    ((p.pack q dir).exec w).2.files.get? (l ++ [name]) = some e → IsName name

/-- A confined packager that leaves no links and no further names of a file, and notes nothing down itself. -/
structure Packager.Plain (p : Packager) : Prop extends p.Confined where
  noLink : ∀ q dir w l, w.Leads dir l → w.files.Vacant l → ∀ name target,
    ((p.pack q dir).exec w).2.files.get? (l ++ [name]) ≠ some (.link target)
  alone : ∀ q dir w l, w.Leads dir l → w.files.Vacant l → ∀ name, ((p.pack q dir).exec w).2.files.Alone (l ++ [name])
  quiet : ∀ q dir w, ((p.pack q dir).exec w).2.journal = w.journal

/-- Something is noted down between two workspaces. -/
def Workspace.Notes (w v : Workspace) (e : Event) : Prop :=
  ∃ more, v.journal = w.journal ++ more ∧ e ∈ more

namespace Workspace

variable {w v u : Workspace} {e : Event} {p : Path} {l : Location} {name : String}

theorem Notes.later (notes : w.Notes v e) (later : v.journal <+: u.journal) : w.Notes u e := by
  obtain ⟨more, journal, member⟩ := notes
  obtain ⟨rest, journal'⟩ := later
  exact ⟨more ++ rest, by rw [← journal', journal, List.append_assoc], by simp [member]⟩

theorem Notes.earlier (notes : v.Notes u e) (earlier : w.journal <+: v.journal) : w.Notes u e := by
  obtain ⟨more, journal, member⟩ := notes
  obtain ⟨before, journal'⟩ := earlier
  exact ⟨before ++ more, by rw [journal, ← journal', List.append_assoc], by simp [member]⟩

theorem notes_record (w : Workspace) (e : Event) : w.Notes (w.record e) e :=
  ⟨[e], rfl, by simp⟩

/-- A name that a file is found by can be looked up. -/
theorem usable_of_isFile (leads : w.Leads p l) (valid : IsName name) (file : w.isFile (p.join name)) :
    usable p name = .ok () := by
  cases fits : usable p name with
  | ok _ => rfl
  | error fault =>
    rw [isFile, FileM.entry?_join_of_fault leads valid fits] at file
    cases file

/-- A file that is found by its name, and is no link, is what stands there. -/
theorem find_of_isFile_join (leads : w.Leads p l) (valid : IsName name)
    (noLink : ∀ target, w.files.get? (l ++ [name]) ≠ some (.link target)) (file : w.isFile (p.join name)) :
    usable p name = .ok () ∧
      ∃ e, w.find (p.join name) = .ok (l ++ [name], e) ∧ w.files.get? (l ++ [name]) = some e ∧ e.isFile := by
  have fits := usable_of_isFile leads valid file
  have look := FileM.find_join leads valid noLink
  rw [fits] at look
  rw [isFile, entry?, look] at file
  rw [look]
  cases found : w.files.get? (l ++ [name]) with
  | none => simp [found] at file
  | some e => exact ⟨fits, e, rfl, rfl, by simpa [found] using file⟩

/-- A file that stands in a directory is found by its name. -/
theorem find_join_of_file (leads : w.Leads p l) (valid : IsName name) (fits : usable p name = .ok ()) {e : Entry}
    (there : w.files.get? (l ++ [name]) = some e) (file : e.isFile) : w.find (p.join name) = .ok (l ++ [name], e) := by
  have noLink (target : Path) : w.files.get? (l ++ [name]) ≠ some (.link target) := by
    rw [there]
    rintro ⟨⟩
    cases file
  rw [FileM.find_join leads valid noLink, fits, there]

/-- What is found to be a file by its name in a directory stands there, and is no directory. -/
theorem exists_of_isFile_join (leads : w.Leads p l) (valid : IsName name) (file : w.isFile (p.join name)) :
    ∃ e, w.files.get? (l ++ [name]) = some e ∧ e ≠ .directory := by
  by_cases link : ∃ target, w.files.get? (l ++ [name]) = some (.link target)
  · obtain ⟨target, found⟩ := link
    exact ⟨_, found, by simp⟩
  · obtain ⟨-, e, -, found, file⟩ := find_of_isFile_join leads valid (not_exists.mp link) file
    refine ⟨e, found, ?_⟩
    rintro rfl
    cases file

theorem list_of_leads (leads : w.Leads p l) : w.list p = (FileTree.checkPath p).map fun _ => w.files.names l := by
  rw [list, find, locate, leads.locate]
  cases FileTree.checkPath p with
  | error fault => rfl
  | ok _ => simp [Except.map, bind, Except.bind, leads.directory, pure, Except.pure]

end Workspace

theorem Entry.exists_content {e : Entry} (file : e.isFile) : ∃ content, e.content? = some content := by
  cases e <;> first | exact ⟨_, rfl⟩ | cases file

/-- Making a directory for a package under a name that is not taken, in the directory that the path leads to. -/
theorem PackageScratch.exec_make_of_leads {w : Workspace} {outDir : Path} {out : Location} {n : Nat}
    (leads : w.Leads (absolute w outDir) out) (fresh : freshName ((w.list outDir).toOption.getD []) = nameOf n) :
    let p := (absolute w outDir).join (nameOf n)
    let describe (fault : FileFault) : PackageError := .files outDir (fault.message ++ " at path " ++ Text.quote p.text)
    (make outDir).exec w = match usable (absolute w outDir) (nameOf n), w.files.get? (out ++ [nameOf n]) with
      | .error fault, _ => (.error (describe fault), w)
      | .ok _, some _ => (.error (describe .alreadyExists), w)
      | .ok _, none => (.ok p, FileM.changed w (·.put (out ++ [nameOf n]) .directory)) := by
  have made := FileM.makeDirectory_join leads (isName_of_isWorkName (isWorkName_nameOf n))
  rw [make, TaskM.exec_bind, TaskM.exec_get]
  dsimp only
  rw [fresh, TaskM.exec_bind, TaskM.exec_describe, made]
  cases usable (absolute w outDir) (nameOf n) with
  | error fault => rfl
  | ok _ => cases w.files.get? (out ++ [nameOf n]) <;> rfl

namespace PackageBuilder

variable {w u : Workspace} {dir : Path} {l : Location}

/-- What a packager wrote is found under a name in the directory that it was given. -/
theorem exists_of_produced? {expected : String} {f : PackageFormat} {path : Path} (leads : w.Leads dir l)
    (valid : IsName expected) (names : ∀ name e, w.files.get? (l ++ [name]) = some e → IsName name)
    (found : produced? w dir expected f = some path) :
    ∃ name, IsName name ∧ path = dir.join name ∧ w.isFile (dir.join name) := by
  unfold produced? at found
  split at found
  · next file =>
    obtain rfl := Option.some_inj.mp found
    exact ⟨expected, valid, rfl, file⟩
  · dsimp only at found
    split at found
    · next name one =>
      obtain rfl := Option.some_inj.mp found
      have member : name ∈ [name] := by simp
      rw [← one, List.mem_filter, Bool.and_eq_true] at member
      obtain ⟨listed, file, -⟩ := member
      refine ⟨name, ?_, rfl, file⟩
      cases listing : w.list dir with
      | error fault => simp [listing, Except.toOption] at listed
      | ok all =>
        have whole : all = w.files.names l := by
          rw [Workspace.list_of_leads leads] at listing
          cases checked : FileTree.checkPath dir with
          | error fault => simp [checked, Except.map] at listing
          | ok _ => simpa [checked, Except.map, eq_comm] using listing
        rw [listing, whole] at listed
        obtain ⟨e, there⟩ := Option.isSome_iff_exists.mp (FileTree.mem_names.mp listed)
        exact names name e there
    · cases found

theorem exec_packIn (b : PackageBuilder) (dir : Path) (r : PackageRequest) (w : Workspace) :
    (b.packIn dir r).exec w = match (b.packager.pack r dir).exec (w.record (.packed r)) with
      | (.error stop, u) => (.error stop, u)
      | (.ok _, u) => match produced? u dir r.outputName r.spec.format with
        | none => (.error (.failed (.outputMissing r.spec.target.id r.spec.format.name)), u)
        | some found =>
          let dest := b.outDir.join (r.spec.releaseName b.product r.version)
          let moved := (Files.move found dest).exec (u.record (.produced r ((u.read found).toOption.getD [])))
          ((moved.1.mapError fun e => .failed (.files dest e.message)).map fun _ => dest, moved.2) := by
  unfold packIn
  rw [TaskM.exec_bind, TaskM.exec_modify]
  dsimp only
  rw [TaskM.exec_bind]
  rcases (b.packager.pack r dir).exec (w.record (.packed r)) with ⟨stop | _, u⟩
  · rfl
  · dsimp only
    rw [TaskM.exec_bind, TaskM.exec_get]
    dsimp only
    cases produced? u dir r.outputName r.spec.format with
    | none => rfl
    | some found =>
      dsimp only
      rw [TaskM.exec_bind, TaskM.exec_modify]
      dsimp only
      rw [TaskM.exec_bind, WorkM.exec_ofTask, TaskM.exec_describe]
      rcases (Files.move found (b.outDir.join (r.spec.releaseName b.product r.version))).exec
        (u.record (.produced r ((u.read found).toOption.getD []))) with ⟨error | _, v⟩ <;> rfl

/-- Where packages are built. The path of the output directory leads there along directories and links of a tree that
has none of them under the names that packages, and the directories they are made in, get there. -/
structure Site (b : PackageBuilder) (base : FileTree) (here out : Location) : Prop where
  product : '/' ∉ b.product.toList
  sound : base.Sound
  proper : b.outDir.isAbsolute = false → here.IsProper
  leads : base.Leads here b.outDir out
  away : ∀ name, isPackagingName name → ∀ k e, out ++ [name] <+: k → base.get? k = some e → e.isWay = false

/-- The workspace has the directories and links of a tree, and nothing is below a directory for a package that is not
there. -/
structure Ready (base : FileTree) (here out : Location) (w : Workspace) : Prop where
  rests : w.Rests base here
  vacant : ∀ n, w.files.get? (out ++ [PackageScratch.nameOf n]) = none →
    w.files.Vacant (out ++ [PackageScratch.nameOf n])

/-- How making a package ends, when it is made in an empty directory. If it comes to its destination then it is what the
packager wrote last. -/
structure Packed (b : PackageBuilder) (l dest : Location) (r : PackageRequest) (w : Workspace)
    (outcome : Except (Stop PackageError) Path) (v : Workspace) : Prop where
  within : Within (fun k => (l <+: k ∧ k ≠ l) ∨ dest <+: k) w v
  kept : (∀ p, outcome ≠ .ok p) → v.files.get? dest = w.files.get? dest
  made : b.packager.Plain → ∀ p, outcome = .ok p →
    usable b.outDir (r.spec.releaseName b.product r.version) = .ok () ∧
    ∃ e content, v.files.get? dest = some e ∧ e.isFile ∧ e.content? = some content ∧ w.Notes v (.produced r content)

variable {b : PackageBuilder} {base : FileTree} {here out dest : Location} {q : Path} {n : Nat} {r : PackageRequest}

/-- A directory that a package is made in: its path leads to it, and can be removed, once it is there. -/
structure Room (base : FileTree) (here out : Location) (dir : Path) (l : Location) : Prop where
  named : ∃ n, l = out ++ [PackageScratch.nameOf n]
  leads : ∀ w : Workspace, w.Rests base here → w.files.get? l = some .directory → w.Leads dir l
  removed : ∀ w : Workspace, w.Rests base here → w.files.get? l = some .directory →
    (FileM.removeTree dir).exec w = (.ok (), FileM.felled w l)

/-- What has not touched the destination has not made a package. -/
theorem Packed.of_error {v : Workspace} {stop : Stop PackageError} (within : Within (fun k => l <+: k ∧ k ≠ l) w v)
    (beside : ¬ (l <+: dest ∧ dest ≠ l)) : b.Packed l dest r w (.error stop) v where
  within := within.mono fun _ => .inl
  kept _ := within.files dest beside
  made _ _ made := nomatch made

theorem Packed.after {v : Workspace} {outcome : Except (Stop PackageError) Path}
    (within : Within (fun k => l <+: k ∧ k ≠ l) w u) (beside : ¬ (l <+: dest ∧ dest ≠ l))
    (packed : b.Packed l dest r u outcome v) : b.Packed l dest r w outcome v where
  within := (within.mono fun _ => .inl).trans packed.within
  kept failed := (packed.kept failed).trans (within.files dest beside)
  made plain p ok := by
    obtain ⟨fits, e, content, there, file, holds, notes⟩ := packed.made plain p ok
    exact ⟨fits, e, content, there, file, holds, notes.earlier within.journal⟩

namespace Site

variable (site : b.Site base here out) (room : Room base here out dir l)
include site

theorem rests (rests : w.Rests base here) {v : Workspace}
    (within : Within (fun k => ∃ name, isPackagingName name ∧ out ++ [name] <+: k) w v) : v.Rests base here :=
  within.rests (fun k e ⟨name, spare, inside⟩ found => site.away name spare k e inside found) rests

include room

/-- The only thing that moving what the packager wrote changes elsewhere is the destination. -/
theorem packed_move (rests : w.Rests base here) (directory : w.files.get? l = some .directory)
    (valid' : IsName (r.spec.releaseName b.product r.version)) {name : String} (valid : IsName name)
    (file : w.isFile (dir.join name)) (plain : b.packager.Plain →
      (∀ target, w.files.get? (l ++ [name]) ≠ some (.link target)) ∧ w.files.Alone (l ++ [name]))
    {x v : Workspace} {outcome : Except FileError Unit} (noted : x = w.record (.produced r ((w.read (dir.join name)).toOption.getD [])))
    (moved : (Files.move (dir.join name) (b.outDir.join (r.spec.releaseName b.product r.version))).exec x = (outcome, v))
    (describe : FileError → Stop PackageError) (p : Path) :
    b.Packed l (out ++ [r.spec.releaseName b.product r.version]) r w ((outcome.mapError describe).map fun _ => p) v := by
  have files : x.files = w.files := noted ▸ rfl
  have leads := room.leads w rests directory
  obtain ⟨n, rfl⟩ := room.named
  obtain ⟨e, there, noDirectory⟩ := Workspace.exists_of_isFile_join leads valid file
  have apart : ¬ out ++ [PackageScratch.nameOf n] ++ [name] <+: out ++ [r.spec.releaseName b.product r.version] :=
    fun inside => by simpa using inside.length_le
  have apart' : ¬ out ++ [r.spec.releaseName b.product r.version] <+: out ++ [PackageScratch.nameOf n] ++ [name] := by
    simp [PackageSpec.releaseName_ne_nameOf]
  have recorded : Within (fun k => out ++ [PackageScratch.nameOf n] <+: k ∧ k ≠ out ++ [PackageScratch.nameOf n]) w x :=
    noted ▸ Workspace.within_record _ w _
  have beside : ¬ (out ++ [PackageScratch.nameOf n] <+: out ++ [r.spec.releaseName b.product r.version] ∧
      out ++ [r.spec.releaseName b.product r.version] ≠ out ++ [PackageScratch.nameOf n]) := by
    rintro ⟨inside, below⟩
    exact below (inside.eq_of_length (by simp)).symm
  have leadsX : x.Leads dir (out ++ [PackageScratch.nameOf n]) := noted ▸ leads
  have leadsOut : x.Leads b.outDir out := noted ▸ rests.leads site.leads
  obtain ⟨result, unmoved, own⟩ | ⟨moves, fits, -⟩ :=
    Files.move_join leadsX valid leadsOut valid' (files ▸ there) noDirectory apart apart'
  · obtain ⟨rfl, rfl⟩ := Prod.mk.inj (unmoved.symm.trans moved)
    cases result with
    | error error => exact .of_error recorded beside
    | ok _ =>
      refine ⟨recorded.mono fun _ => .inl, fun failed => absurd rfl (failed p), fun isPlain p _ => ?_⟩
      have shared := (own rfl).2
      rw [files, (plain isPlain).2.places_eq] at shared
      simpa using congrArg List.length (List.mem_singleton.mp shared)
  · obtain ⟨rfl, rfl⟩ := Prod.mk.inj (moves.symm.trans moved)
    refine ⟨?_, fun failed => absurd rfl (failed p), fun isPlain p _ => ?_⟩
    · refine (recorded.mono fun _ => .inl).trans (FileM.within_relocated.mono fun k => Or.imp_left fun inside => ?_)
      refine ⟨(List.prefix_append _ _).trans inside, ?_⟩
      rintro rfl
      simpa using inside.length_le
    · obtain ⟨-, d, look, stands, regular⟩ := Workspace.find_of_isFile_join leads valid (plain isPlain).1 file
      obtain ⟨content, holds⟩ := Entry.exists_content regular
      have read : w.read (dir.join name) = .ok content := by
        simp [Workspace.read, look, holds, bind, Except.bind, pure, Except.pure]
      have dest : out ++ [r.spec.releaseName b.product r.version] ≠ [] := by simp
      have arrives := FileM.get?_relocated_dest (by simp) dest ((congrArg (FileTree.get? · _) files).trans stands)
      have notes : w.Notes x (.produced r content) := by
        rw [noted, read]
        exact w.notes_record _
      exact ⟨fits, d, content, arrives, regular, holds,
        notes.later FileM.within_relocated.journal⟩

/-- Making a package changes only what is in its directory and at its destination. -/
theorem packed_packIn (confined : b.packager.Confined) (rests : w.Rests base here)
    (directory : w.files.get? l = some .directory) (vacant : w.files.Vacant l) (valid : IsName r.outputName)
    (valid' : IsName (r.spec.releaseName b.product r.version)) :
    b.Packed l (out ++ [r.spec.releaseName b.product r.version]) r w ((b.packIn dir r).exec w).1
      ((b.packIn dir r).exec w).2 := by
  have leads : (w.record (.packed r)).Leads dir l := room.leads w rests directory
  have within := confined.within r _ _ _ leads vacant
  have names := confined.names r _ _ _ leads vacant
  have plain (isPlain : b.packager.Plain) := And.intro (isPlain.noLink r _ _ _ leads vacant)
    (isPlain.alone r _ _ _ leads vacant)
  have beside : ¬ (l <+: out ++ [r.spec.releaseName b.product r.version] ∧
      out ++ [r.spec.releaseName b.product r.version] ≠ l) := by
    obtain ⟨n, rfl⟩ := room.named
    rintro ⟨inside, below⟩
    exact below (inside.eq_of_length (by simp)).symm
  rw [exec_packIn]
  rcases packed : (b.packager.pack r dir).exec (w.record (.packed r)) with ⟨stop | _, u⟩ <;>
    rw [packed] at within names plain
  · exact .of_error ((Workspace.within_record _ w _).trans within) beside
  · dsimp only at within names plain ⊢
    have within := (Workspace.within_record _ w _).trans within
    have rests : u.Rests base here := by
      obtain ⟨n, rfl⟩ := room.named
      exact site.rests rests (within.mono fun k inside => ⟨_, isPackagingName_nameOf n, inside.1⟩)
    have directory : u.files.get? l = some .directory := by rw [within.files l (by simp), directory]
    cases found : produced? u dir r.outputName r.spec.format with
    | none => exact .of_error within beside
    | some path =>
      obtain ⟨name, validName, rfl, file⟩ := exists_of_produced? (room.leads u rests directory) valid names found
      dsimp only
      rcases moved : (Files.move (dir.join name) (b.outDir.join (r.spec.releaseName b.product r.version))).exec
        (u.record (.produced r ((u.read (dir.join name)).toOption.getD []))) with ⟨outcome, v⟩
      exact (site.packed_move room rests directory valid' validName file
        (fun isPlain => ⟨(plain isPlain).1 name, (plain isPlain).2 name⟩) rfl moved _ _).after within beside

omit room in
/-- A name for the directory of a package that can be used there names a room. -/
theorem room_nameOf (rests : w.Rests base here) {n : Nat}
    (fits : usable (PackageScratch.absolute w b.outDir) (PackageScratch.nameOf n) = .ok ()) :
    Room base here out ((PackageScratch.absolute w b.outDir).join (PackageScratch.nameOf n))
      (out ++ [PackageScratch.nameOf n]) where
  named := ⟨n, rfl⟩
  leads v restsV directory := by
    have valid := PackageScratch.isName_of_isWorkName (PackageScratch.isWorkName_nameOf n)
    have leads := site.leads.absolute site.sound site.proper rests
    exact (restsV.leads leads).join valid directory fits
  removed v restsV directory := by
    have valid := PackageScratch.isName_of_isWorkName (PackageScratch.isWorkName_nameOf n)
    have leads := site.leads.absolute site.sound site.proper rests
    have after := (site.rests restsV ((FileM.within_emptied v (out ++ [PackageScratch.nameOf n])).mono fun k inside =>
      ⟨_, isPackagingName_nameOf n, inside⟩)).leads leads
    rw [FileM.removeTree_join (restsV.leads leads) after valid, fits, directory]

omit room in
/-- The directory for a package is a new one. -/
theorem exec_make (rests : w.Rests base here) :
    (∃ error, (PackageScratch.make b.outDir).exec w = (.error error, w)) ∨
      ∃ dir l, Room base here out dir l ∧ w.files.get? l = none ∧
        (PackageScratch.make b.outDir).exec w = (.ok dir, FileM.changed w (·.put l .directory)) := by
  obtain ⟨n, fresh⟩ := PackageScratch.exists_freshName ((w.list b.outDir).toOption.getD [])
  have leads := site.leads.absolute site.sound site.proper rests
  have made := PackageScratch.exec_make_of_leads (rests.leads leads) fresh
  dsimp only at made
  cases fits : usable (PackageScratch.absolute w b.outDir) (PackageScratch.nameOf n) with
  | error fault =>
    rw [fits] at made
    exact .inl ⟨_, made⟩
  | ok _ =>
    rw [fits] at made
    cases free : w.files.get? (out ++ [PackageScratch.nameOf n]) with
    | some e =>
      rw [free] at made
      exact .inl ⟨_, made⟩
    | none =>
      rw [free] at made
      exact .inr ⟨_, _, site.room_nameOf rests fits, free, made⟩

end Site

end PackageBuilder

end ReleaseMatrix
