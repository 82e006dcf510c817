import ReleaseMatrix.Proofs.Conserving
import ReleaseMatrix.Proofs.MadeDirectories
import ReleaseMatrix.Proofs.ManifestReading

namespace ReleaseMatrix

/-- Nothing but directories is above the place that a path names. -/
theorem FileTree.Sound.not_above_ending {t : FileTree} {here l parent : Location} {p : Path} {name : String}
    (sound : t.Sound) (ends : t.ending here p = .ok (.name parent name)) (notDirectory : t.get? l ≠ some .directory)
    (other : l ≠ parent ++ [name]) : ¬ l <+: parent ++ [name] := by
  intro inside
  obtain ⟨-, -, -, directory, -⟩ := exists_walk_of_ending ends
  obtain same | above := List.prefix_concat_iff.mp inside
  · exact other same
  · exact sound.not_above directory notDirectory above

namespace FileM

variable {w : Workspace} {p q : Path} {a b l : Location} {e : Entry}

/-- Copying fails and changes nothing, or finds a file and the place to which that is written. -/
theorem copy_cases (p q : Path) (w : Workspace) : (∃ fault, (copy p q).exec w = (.error fault, w)) ∨
    ∃ x e l, w.find p = .ok (x, e) ∧ e.isFile ∧ w.locate q .newFile = .ok l ∧ w.files.get? l ≠ some .directory := by
  rw [copy, TaskM.exec_bind, exec_look]
  cases found : w.find p with
  | error fault => exact .inl ⟨fault, rfl⟩
  | ok there =>
    obtain ⟨x, e⟩ := there
    dsimp only
    cases file : e.isFile with
    | false => exact .inl ⟨_, rfl⟩
    | true =>
      obtain ⟨left, plain⟩ := exec_locateForWriting q w
      simp only [Bool.not_true, Bool.false_eq_true, if_false, TaskM.exec_bind]
      rcases located : (locateForWriting q).exec w with ⟨fault | l, v⟩
      · rw [located] at left
        exact .inl ⟨fault, by rw [← left]⟩
      · exact .inr ⟨x, e, l, rfl, file, locate_of_locateForWriting (by rw [located]), plain l (by rw [located])⟩

/-- Renaming succeeds where both paths are names of one file, or what the first one names can be moved. -/
theorem rename_ok_iff : (∃ u, (rename p q).exec w = (.ok (), u)) ↔
    ∃ a b e, Renames p q w a b e ∧ (b ∈ w.files.places a ∨ Movable w a b e) := by
  constructor
  · rintro ⟨u, renamed⟩
    obtain ⟨_, failed⟩ | ⟨a, b, e, renames, ending⟩ := rename_exact p q w
    · cases renamed.symm.trans failed
    · exact ⟨a, b, e, renames, ending.imp And.left And.left⟩
  · rintro ⟨a, b, e, renames, shared | movable⟩
    · exact ⟨_, (rename_of_renames renames).1 shared⟩
    · exact ⟨_, (rename_of_renames renames).2 movable⟩

/-- What is no directory can get any name that is not a directory's. -/
theorem exists_rename_of_ending {parent parent' : Location} {name other : String} (sound : w.files.Sound)
    (ends : w.files.ending w.directory p = .ok (.name parent name))
    (ends' : w.files.ending w.directory q = .ok (.name parent' other)) (noSlash : p.endsInSlash = false)
    (noSlash' : q.endsInSlash = false) (found : w.files.get? (parent ++ [name]) = some e) (noDirectory : e ≠ .directory)
    (noDirectory' : w.files.get? (parent' ++ [other]) ≠ some .directory) : ∃ v, (rename p q).exec w = (.ok (), v) := by
  have plain : w.files.get? (parent ++ [name]) ≠ some .directory := fun same =>
    noDirectory (Option.some_inj.mp (found.symm.trans same))
  refine rename_ok_iff.mpr ⟨_, _, e, ⟨Workspace.place?_of_ending ends, Workspace.place?_of_ending ends', found,
    fun _ => ⟨noSlash, noSlash'⟩⟩, or_iff_not_imp_left.mpr fun single => ?_⟩
  have other : parent ++ [name] ≠ parent' ++ [other] := fun same => single (same ▸ w.files.mem_places _)
  exact ⟨single, sound.not_above_ending ends' plain other, sound.not_above_ending ends noDirectory' other.symm,
    fun f there => iff_of_false (fun directory => noDirectory' (directory ▸ there)) noDirectory,
    fun directory => absurd directory noDirectory'⟩

/-- Under the name of a path that leads to a file stands that file, or a link. -/
theorem exists_entry_of_find (sound : w.files.Sound) (home : w.files.get? w.directory = some .directory)
    (found : w.find p = .ok (a, e)) (file : e.isFile) : ∃ parent name d,
      w.files.ending w.directory p = .ok (.name parent name) ∧ p.endsInSlash = false ∧
      w.files.get? (parent ++ [name]) = some d ∧ d ≠ .directory ∧
      (a = parent ++ [name] ∧ d = e ∨ ∃ target, d = .link target) := by
  obtain ⟨located, there⟩ := Workspace.locate_of_find found
  obtain ⟨parent, name, ends, noSlash, plain, same⟩ := FileTree.exists_ending_of_locate sound (w.start_directory home p)
    located (FileTree.ne_directory_of_isFile there file)
  by_cases link : ∃ target, w.files.get? (parent ++ [name]) = some (.link target)
  · obtain ⟨target, link⟩ := link
    exact ⟨parent, name, _, ends, noSlash, link, by simp, .inr ⟨target, rfl⟩⟩
  · obtain rfl := same fun target found => link ⟨target, found⟩
    refine ⟨parent, name, e, ends, noSlash, there, ?_, .inl ⟨rfl, rfl⟩⟩
    rintro rfl
    cases file

/-- A path that leads to a file can be renamed to each name that is not a directory's. -/
theorem rename_file_ok_iff (sound : w.files.Sound) (home : w.files.get? w.directory = some .directory)
    (alike : w.files.Alike) {x : Location} (found : w.find p = .ok (x, e)) (file : e.isFile) :
    (∃ u, (rename p q).exec w = (.ok (), u)) ↔
      q.endsInSlash = false ∧ ∃ d, w.place? q = some d ∧ w.files.get? d ≠ some .directory := by
  obtain ⟨parent, name, c, ends, noSlash, there, noDirectory, -⟩ := exists_entry_of_find sound home found file
  constructor
  · intro renamed
    obtain ⟨s, d, e, renames, ending⟩ := rename_ok_iff.mp renamed
    obtain rfl : parent ++ [name] = s :=
      Option.some_inj.mp ((Workspace.place?_of_ending ends).symm.trans renames.source)
    obtain rfl : c = e := Option.some_inj.mp (there.symm.trans renames.found)
    refine ⟨(renames.slashes noDirectory).2, d, renames.dest, fun directory => ?_⟩
    obtain shared | movable := ending
    · exact noDirectory (Option.some_inj.mp (there.symm.trans ((alike.get?_eq shared).symm.trans directory)))
    · exact noDirectory ((movable.kind _ directory).mp rfl)
  · rintro ⟨noSlash', d, placed, noDirectory'⟩
    obtain ⟨parent', other, ends', rfl⟩ := Workspace.exists_ending_of_place? placed
    exact exists_rename_of_ending sound ends ends' noSlash noSlash' there noDirectory noDirectory'

/-- What cannot be renamed cannot be copied either, so that nothing is emptied to be written anew. -/
theorem copy_of_rename_error (sound : w.files.Sound) (home : w.files.get? w.directory = some .directory)
    {fault : FileFault} {v : Workspace} (failed : (rename p q).exec w = (.error fault, v)) :
    ∃ fault, (copy p q).exec w = (.error fault, w) := by
  obtain refused | ⟨x, e, l, found, file, located, plain⟩ := copy_cases p q w
  · exact refused
  · -- A copy that comes to be written has found all that renaming needs.
    obtain ⟨parent, name, d, ends, noSlash, there, noDirectory, -⟩ := exists_entry_of_find sound home found file
    have start := w.start_directory home q
    obtain ⟨parent', other, ends', noSlash', plain', -⟩ :=
      FileTree.exists_ending_of_locate sound start (FileTree.locate_of_newFile sound start located).1 plain
    obtain ⟨u, renamed⟩ := exists_rename_of_ending sound ends ends' noSlash noSlash' there noDirectory plain'
    cases failed.symm.trans renamed

end FileM

namespace Workspace

variable {w : Workspace} {p : Path} {k : Location}

/-- What stands in the place of a path is found under the path, unless it is a link. -/
theorem find_of_place? (home : w.files.get? w.directory = some .directory) (placed : w.place? p = some k)
    (noSlash : p.endsInSlash = false) (noLink : ∀ target, w.files.get? k ≠ some (.link target)) :
    w.find p = match w.files.get? k with
      | some e => .ok (k, e)
      | none => .error .notFound := by
  obtain ⟨parent, name, ends, rfl⟩ := exists_ending_of_place? placed
  rw [find, locate, FileTree.locate_eq_of_ending (w.start_directory home p) ends noSlash noLink]
  simp only [bind, Except.bind]
  cases w.files.get? (parent ++ [name]) <;> rfl

theorem find_of_place?_of_isFile {e : Entry} (home : w.files.get? w.directory = some .directory)
    (placed : w.place? p = some k) (noSlash : p.endsInSlash = false) (there : w.files.get? k = some e) (file : e.isFile) :
    w.find p = .ok (k, e) := by
  rw [find_of_place? home placed noSlash, there]
  rw [there]
  rintro target ⟨rfl⟩
  cases file

end Workspace

/-- The entry at `s` is at `d` now with all that is below it, and nothing else has changed. There was nothing below `d`
before. -/
structure Workspace.Carried (w u : Workspace) (s d : Location) : Prop where
  room : ∀ k, d <+: k → k ≠ d → w.files.get? k = none
  dest : ∀ rest, u.files.get? (d ++ rest) = w.files.get? (s ++ rest)
  source : ∀ k, s <+: k → u.files.get? k = none
  others : ∀ k, ¬ s <+: k → ¬ d <+: k → u.files.get? k = w.files.get? k
  groups : u.files.groups = w.files.groups.map (·.filterMap (FileTree.moved? s d))
  directory : ¬ s <+: w.directory → ¬ d <+: w.directory → u.directory = w.directory
  journal : u.journal = w.journal

theorem Workspace.Carried.arrived {w u : Workspace} {s d : Location} {e : Entry} (carried : w.Carried u s d)
    (found : w.files.get? s = some e) : u.files.get? d = some e := by
  simpa [found] using carried.dest []

namespace FileM

variable {w : Workspace} {p q : Path} {a b : Location} {e : Entry}

theorem Movable.leaf (movable : Movable w a b e) (sound : w.files.Sound) {k : Location} (inside : b <+: k)
    (below : k ≠ b) : w.files.get? k = none := by
  by_cases directory : w.files.get? b = some .directory
  · obtain ⟨rest, rfl⟩ := inside
    cases rest with
    | nil => simp at below
    | cons name rest =>
      have free : w.files.get? (b ++ [name]) = none := by
        by_contra there
        have member := FileTree.mem_names.mpr (Option.isSome_iff_ne_none.mpr there)
        simp [movable.room directory] at member
      by_cases last : rest = []
      · simpa [last] using free
      · exact sound.leaf (l := b ++ [name]) (by simp [free]) (by simp) (by simpa using last)
  · exact sound.leaf directory inside below

theorem Movable.room_of_isFile (movable : Movable w a b e) (file : e.isFile) : w.files.get? b ≠ some .directory :=
  fun there => by simp [(movable.kind _ there).mp rfl, Entry.isFile] at file

theorem Movable.carried (movable : Movable w a b e) (sound : w.files.Sound) : w.Carried (relocated w a b) a b := by
  have rootA : a ≠ [] := by
    rintro rfl
    exact movable.apart List.nil_prefix
  have rootB : b ≠ [] := by
    rintro rfl
    exact movable.apart' List.nil_prefix
  have within : Workspace.Within (fun k => a <+: k ∨ b <+: k) w (relocated w a b) := within_relocated
  refine ⟨fun k => movable.leaf sound, fun rest => ?_, fun k inside => ?_,
    fun k away away' => within.files k (not_or.mpr ⟨away, away'⟩), by rw [relocated_files]; rfl,
    fun away away' => within.directory (not_or.mpr ⟨away, away'⟩), by rw [relocated_eq]; split <;> rfl⟩
  · rw [relocated_files, FileTree.get?_move_dest rootA rootB]
  · rw [relocated_files]
    refine FileTree.get?_move_source rootA inside fun within => ?_
    exact (List.prefix_or_prefix_of_prefix inside within).elim movable.apart movable.apart'

end FileM

namespace Files

open FileM (Renames Movable relocated)

/-- How a move from `p` to `q` succeeds, in the workspace in which the directories above `q` are made. The entry `e` is
at the place `s` of `p`. Nothing changes where `s` and the place `d` of `q` are of one file. -/
structure Moves (p q : Path) (v u : Workspace) (s d : Location) (e : Entry) : Prop extends Renames p q v s d e where
  shared : d ∈ v.files.places s → u = v
  carried : d ∉ v.files.places s → v.Carried u s d
  /-- Where a file takes the place of no link, both paths stay names of their places. -/
  paths : e.isFile → (∀ target, v.files.get? d ≠ some (.link target)) → u.place? p = some s ∧ u.place? q = some d
  /-- Under those names the file is found at its new place, and no more at the old one. -/
  reads : e.isFile → (u.place? q = some d → u.find q = .ok (d, e)) ∧
    (d ∉ v.files.places s → u.place? p = some s → u.find p = .error .notFound)
  /-- A link is moved itself. The file that it leads to stays, unless the link takes its place. -/
  followed : ∀ x f, v.find p = .ok (x, f) → f.isFile → x = s ∧ f = e ∨
    ∃ target, e = .link target ∧ u.files.get? x = some (if x = d then e else f)

variable {w v u : Workspace} {p q : Path} {s d : Location} {e : Entry}

section Renamed

variable (sound : v.files.Sound) (home : v.files.get? v.directory = some .directory) (renames : Renames p q v s d e)
include sound home renames

/-- What a path leads to stands at the place of the path, unless a link stands there. -/
theorem eq_or_link_of_find {x : Location} {f : Entry} (found : v.find p = .ok (x, f)) (file : f.isFile) :
    x = s ∧ f = e ∨ ∃ target, e = .link target := by
  obtain ⟨parent, name, d, ends, -, there, -, either⟩ := FileM.exists_entry_of_find sound home found file
  obtain rfl : parent ++ [name] = s :=
    Option.some_inj.mp ((Workspace.place?_of_ending ends).symm.trans renames.source)
  obtain rfl : d = e := Option.some_inj.mp (there.symm.trans renames.found)
  exact either.imp_left fun ⟨same, same'⟩ => ⟨same, same'.symm⟩

theorem moves_self (alike : v.files.Alike) (shared : d ∈ v.files.places s) : Moves p q v v s d e where
  toRenames := renames
  shared _ := rfl
  carried single := absurd shared single
  paths _ _ := ⟨renames.source, renames.dest⟩
  reads file := by
    refine ⟨fun placed => ?_, fun single => absurd shared single⟩
    have there : v.files.get? d = some e := (alike.get?_eq shared).trans renames.found
    have noSlash := (renames.slashes (by rintro rfl; cases file)).2
    exact Workspace.find_of_place?_of_isFile home placed noSlash there file
  followed x f found file := by
    refine (eq_or_link_of_find sound home renames found file).imp_right fun ⟨target, link⟩ => ⟨target, link, ?_⟩
    obtain ⟨-, there⟩ := Workspace.locate_of_find found
    have other : x ≠ d := by
      rintro rfl
      have same := there.symm.trans ((alike.get?_eq shared).trans renames.found)
      simp [Option.some_inj.mp same, link, Entry.isFile] at file
    rw [if_neg other, there]

section Carried

variable (carried : v.Carried u s d) (room : v.files.get? d ≠ some .directory)
include carried room

theorem directory_of_carried (file : e.isFile) : u.directory = v.directory :=
  carried.directory (sound.not_above home (FileTree.ne_directory_of_isFile renames.found file)) (sound.not_above home room)

theorem home_of_carried (file : e.isFile) : u.files.get? u.directory = some .directory := by
  have noDirectory := FileTree.ne_directory_of_isFile renames.found file
  rw [directory_of_carried sound home renames carried room file,
    carried.others _ (sound.not_above home noDirectory) (sound.not_above home room), home]

/-- A file is no way, so that paths lead where they did if it takes the place of no way either. -/
theorem place?_of_carried (file : e.isFile) (noLink : ∀ target, v.files.get? d ≠ some (.link target)) {r : Path}
    {k : Location} (placed : v.place? r = some k) : u.place? r = some k := by
  have noDirectory := FileTree.ne_directory_of_isFile renames.found file
  have keeps : v.files.Keeps u.files := fun k c way there => by
    have notS : s ≠ k := by
      rintro rfl
      obtain rfl := Option.some_inj.mp (renames.found.symm.trans there)
      simp [Entry.not_isWay_of_isFile file] at way
    have notD : d ≠ k := by
      rintro rfl
      cases c with
      | directory => exact room there
      | link target => exact noLink target there
      | _ => cases way
    rw [carried.others k (sound.not_above_of_ne there noDirectory notS) (sound.not_above_of_ne there room notD), there]
  exact Workspace.place?_of_keeps keeps (directory_of_carried sound home renames carried room file)
    (v.start_directory home r) placed

/-- A file that is carried is found under its new path, and no more under the old one, while these name their places. -/
theorem find_of_carried (file : e.isFile) : (u.place? q = some d → u.find q = .ok (d, e)) ∧
    (u.place? p = some s → u.find p = .error .notFound) := by
  have noDirectory := FileTree.ne_directory_of_isFile renames.found file
  obtain ⟨noSlash, noSlash'⟩ := renames.slashes fun directory => noDirectory (directory ▸ renames.found)
  have home := home_of_carried sound home renames carried room file
  have gone := carried.source s (List.prefix_refl s)
  refine ⟨fun placed => ?_, fun placed => ?_⟩
  · exact Workspace.find_of_place?_of_isFile home placed noSlash' (carried.arrived renames.found) file
  · rw [Workspace.find_of_place? home placed noSlash (by simp [gone]), gone]

omit home in
/-- What stood elsewhere than in the place of a carried link stands there yet, unless the link has come there. -/
theorem get?_of_carried_link {target : Path} (link : e = .link target) {x : Location} {f : Entry}
    (found : v.files.get? x = some f) (file : f.isFile) : u.files.get? x = some (if x = d then e else f) := by
  have entry := renames.found
  rw [link] at entry
  have notS : s ≠ x := by
    rintro rfl
    obtain rfl := Option.some_inj.mp (entry.symm.trans found)
    cases file
  by_cases same : x = d
  · rw [if_pos same, same, carried.arrived renames.found]
  · rw [if_neg same, carried.others x (sound.not_above_of_ne found (by simp [entry]) notS)
      (sound.not_above_of_ne found room (Ne.symm same)), found]

end Carried

theorem moves_relocated (movable : Movable v s d e) : Moves p q v (relocated v s d) s d e where
  toRenames := renames
  shared shared := absurd shared movable.single
  carried _ := movable.carried sound
  paths file noLink := by
    have room := movable.room_of_isFile file
    exact ⟨place?_of_carried sound home renames (movable.carried sound) room file noLink renames.source,
      place?_of_carried sound home renames (movable.carried sound) room file noLink renames.dest⟩
  reads file := by
    have reads := find_of_carried sound home renames (movable.carried sound) (movable.room_of_isFile file) file
    exact ⟨reads.1, fun _ => reads.2⟩
  followed x f found file := by
    refine (eq_or_link_of_find sound home renames found file).imp_right fun ⟨target, link⟩ => ⟨target, link, ?_⟩
    have room : v.files.get? d ≠ some .directory := fun there => by
      cases link.symm.trans ((movable.kind _ there).mp rfl)
    exact get?_of_carried_link sound renames (movable.carried sound) room link (Workspace.locate_of_find found).2 file

end Renamed

/-- A move fails without a change but for the directories that were made, or it is done by renaming. -/
theorem exec_move_cases (p q : Path) (home : w.files.get? w.directory = some .directory) (sound : w.files.Sound) :
    let made := (makeParent q).exec w
    (∃ error, (move p q).exec w = (.error error, made.2) ∧
      (made.1 = .ok () → ∀ u, (FileM.rename p q).exec made.2 ≠ (.ok (), u))) ∨
      ∃ u, made.1 = .ok () ∧ (FileM.rename p q).exec made.2 = (.ok (), u) ∧ (move p q).exec w = (.ok (), u) := by
  have widened := widened_makeParent q home
  rw [move, TaskM.exec_bind]
  rcases made : (makeParent q).exec w with ⟨error | _, v⟩ <;> rw [made] at widened
  · exact .inl ⟨error, rfl, fun made => by cases made⟩
  · rcases renamed : (FileM.rename p q).exec v with ⟨fault | _, u⟩
    · obtain ⟨fault', refused⟩ := FileM.copy_of_rename_error (widened.sound sound) (widened.home home) renamed
      have unmoved : u = v := by
        obtain ⟨_, failed⟩ | ⟨_, _, _, -, ⟨-, same⟩ | ⟨-, moved⟩⟩ := FileM.rename_exact p q v
        · exact (congrArg Prod.snd (renamed.symm.trans failed) :)
        · cases renamed.symm.trans same
        · cases renamed.symm.trans moved
      subst unmoved
      refine .inl ⟨.move p q fault'.message, ?_, fun _ u ok => by cases renamed.symm.trans ok⟩
      simp [TaskM.exec_bind, TaskM.exec_attempt, renamed, TaskM.exec_describe, refused, Except.mapError]
    · refine .inr ⟨u, rfl, renamed, ?_⟩
      simp [TaskM.exec_bind, TaskM.exec_attempt, renamed]

/-- A file, and another one in a directory that a link leads to. -/
def behindLink : Workspace where
  files := ⟨[(["a"], .file [1] true), (["x"], .directory), (["x", "b"], .file [9] false), (["l"], .link ⟨"x"⟩)], []⟩
  directory := []
  journal := []

end Files

end ReleaseMatrix
