import ReleaseMatrix.Proofs.DraftName
import ReleaseMatrix.Proofs.Reaching

namespace ReleaseMatrix

open FileTree (usable)

/-- The points at which a disk lets an archiver down, besides those that the tree itself calls for. -/
structure Trouble where
  opening? : Option FileFault
  creating? : Option FileFault
  /-- What gets into the draft before writing it fails. -/
  writing? : Option (Bytes × FileFault)
  naming? : Option FileFault

/-- Work that a fault comes before. -/
def FileM.unless {α : Type} (fault? : Option FileFault) (x : FileM α) : FileM α :=
  match fault? with
  | some fault => throw fault
  | none => x

namespace Archiver

open Archive (draft entryName entryMode)

/-- Fills an open draft with a binary's archive. On a disk with trouble something else gets there. -/
def fill (trouble : Trouble) (binary : Path) (entry : String) (path : Path) : FileM Unit :=
  match trouble.writing? with
  | some (bytes, fault) => do
    FileM.write (draft path) bytes
    throw fault
  | none => do
    let content ← FileM.look (·.read binary)
    FileM.write (draft path) (Zip.write ⟨entry, entryMode, content⟩)

/-- Writes a binary's archive to its draft on a disk with trouble. -/
def writeDraftIn (trouble : Trouble) (binary : Path) (entry : String) (path : Path) : TaskM ArchiveError Unit := do
  let _ ← (FileM.unless trouble.opening? (FileM.look (·.find binary))).describe (.binaryUnreadable binary ·.message)
  TaskM.describe (.unwritable path ·.message) do
    FileM.unless trouble.creating? (FileM.write (draft path) [])
    fill trouble binary entry path

/-- Archives the binary of a build on a disk with trouble. -/
def packageIn (a : Archiver) (trouble : Trouble) (version : String) (t : Target) (binary? : Option Path) :
    TaskM ArchiveError Archive := do
  let some binary := binary? | throw (.noBinary t.id)
  let path := a.path version t
  match ← (writeDraftIn trouble binary (entryName binary t) path).attempt with
  | .error e =>
    let _ ← (FileM.removeFile (draft path)).attempt
    throw e
  | .ok () =>
    (FileM.unless trouble.naming? (FileM.rename (draft path) path)).describe (.unwritable path ·.message)
    let _ ← (FileM.removeFile binary).attempt
    pure ⟨t, version, path⟩

/-- A disk without trouble is the one that archives are made on. -/
theorem packageIn_none (a : Archiver) (version : String) (t : Target) (binary? : Option Path) :
    a.packageIn ⟨none, none, none, none⟩ version t binary? = a.package version t binary? := rfl

end Archiver

namespace Archiver

open Archive (draft entryName entryMode)
open FileM (changed)

section Placed

variable {w : Workspace} {home binary path : Path} {dir : Location} {other : String}
variable (leads : w.Leads home dir) (valid : IsName other) (fresh : w.files.Fresh (dir ++ [other]))
variable (placed : draft path = home.join other)
variable (start : w.files.get? (binary.start w.directory) = some .directory)
variable (apart : ∀ l e, w.find binary = .ok (l, e) → l ≠ dir ++ [other])
include leads valid fresh placed start apart

/-- What is written to a draft once it is open: all of the archive, or something else and then a failure. -/
theorem exec_fill (trouble : Trouble) (entry : String) {there : Location × Entry} (found : w.find binary = .ok there)
    (noDirectory : w.files.get? (dir ++ [other]) ≠ some .directory) (executable : Bool) :
    let v := changed w (·.put (dir ++ [other]) (.file [] executable))
    let run := (fill trouble binary entry path).exec v
    ∃ content executable, run.2 = changed w (·.put (dir ++ [other]) (.file content executable)) ∧
      (run.1 = .ok () → ∃ data, w.read binary = .ok data ∧ content = Zip.write ⟨entry, entryMode, data⟩) := by
  intro v run
  have root : dir ++ [other] ≠ [] := by simp
  have ways : w.files.SameWays v.files := FileTree.sameWays_put root (fresh.noWay noDirectory) [] executable
  have leads' : v.Leads home dir := FileTree.Leads.keeps leads ways.1
  have fresh' : v.files.Fresh (dir ++ [other]) := fresh.put_file root [] executable
  have again (bytes : Bytes) : (∃ fault, (FileM.write (draft path) bytes).exec v = (.error fault, v)) ∨
      ∃ x, (FileM.write (draft path) bytes).exec v =
        (.ok (), changed w (·.put (dir ++ [other]) (.file bytes x))) := by
    rw [placed]
    obtain failed | ⟨-, -, x, wrote⟩ := FileM.write_fresh leads' valid fresh' bytes
    · exact .inl failed
    · exact .inr ⟨x, by rw [wrote]; simp [v, changed]⟩
  cases writing : trouble.writing? with
  | some trouble =>
    obtain ⟨bytes, fault⟩ := trouble
    simp only [run, fill, writing, TaskM.exec_bind]
    obtain ⟨fault', failed⟩ | ⟨x, wrote⟩ := again bytes
    · exact ⟨[], executable, by simp [failed, v], by simp [failed]⟩
    · exact ⟨bytes, x, by simp [wrote], by simp [wrote]⟩
  | none =>
    have kept : v.files.get? there.1 = w.files.get? there.1 := by
      simp only [v, changed, FileTree.get?_put root, if_neg (apart _ _ found)]
    have same : v.read binary = w.read binary := by
      rw [Workspace.read, Workspace.read, found,
        Workspace.find_of_sameWays (l := there.1) (e := there.2) ways rfl start found kept]
    simp only [run, fill, writing, TaskM.exec_bind, FileM.exec_look, same]
    cases reading : w.read binary with
    | error fault => exact ⟨[], executable, rfl, by simp⟩
    | ok data =>
      obtain ⟨fault, failed⟩ | ⟨x, wrote⟩ := again (Zip.write ⟨entry, entryMode, data⟩)
      · exact ⟨[], executable, by simp [failed, v], by simp [failed]⟩
      · exact ⟨_, x, by simp [wrote], fun _ => ⟨data, rfl, rfl⟩⟩

/-- Writing a draft changes nothing but the draft, and if it succeeds the draft holds the archive of the binary. -/
theorem exec_writeDraftIn (trouble : Trouble) (entry : String) :
    let run := (writeDraftIn trouble binary entry path).exec w
    (run.2 = w ∧ run.1 ≠ .ok ()) ∨
      w.files.get? (dir ++ [other]) ≠ some .directory ∧ usable home other = .ok () ∧
      ∃ content executable, run.2 = changed w (·.put (dir ++ [other]) (.file content executable)) ∧
        (run.1 = .ok () → ∃ data, w.read binary = .ok data ∧ content = Zip.write ⟨entry, entryMode, data⟩) := by
  intro run
  have failed {fault : ArchiveError} (eq : run = (.error fault, w)) : run.2 = w ∧ run.1 ≠ .ok () := by
    simp [eq]
  cases opening : trouble.opening? with
  | some fault => exact .inl (failed (by simp only [run, writeDraftIn, opening]; rfl))
  | none =>
    cases found : w.find binary with
    | error fault =>
      refine .inl (@failed (.binaryUnreadable binary fault.message) ?_)
      simp [run, writeDraftIn, opening, TaskM.exec_bind, TaskM.exec_describe, FileM.unless, FileM.exec_look, found,
        Except.mapError]
    | ok there =>
      have rest : run = (((do
          FileM.unless trouble.creating? (FileM.write (draft path) [])
          fill trouble binary entry path : FileM Unit)).describe (.unwritable path ·.message)).exec w := by
        simp only [run, writeDraftIn, TaskM.exec_bind, opening, TaskM.exec_describe, FileM.unless, FileM.exec_look,
          found, Except.mapError]
      rw [TaskM.exec_describe, TaskM.exec_bind] at rest
      cases creating : trouble.creating? with
      | some fault => exact .inl (failed (rest.trans (by rw [creating]; rfl)))
      | none =>
        simp only [creating, FileM.unless] at rest
        obtain ⟨fault, unwritten⟩ | ⟨noDirectory, fits, x, wrote⟩ := FileM.write_fresh leads valid fresh []
        · rw [← placed] at unwritten
          exact .inl (failed (rest.trans (by rw [unwritten]; rfl)))
        · rw [← placed] at wrote
          rw [wrote] at rest
          obtain ⟨content, executable, filled, whole⟩ :=
            exec_fill leads valid fresh placed start apart trouble entry found noDirectory x
          refine .inr ⟨noDirectory, fits, content, executable, by rw [rest]; exact filled, fun ok => whole ?_⟩
          rw [rest] at ok
          dsimp only at ok
          revert ok
          cases ((fill trouble binary entry path).exec
            (changed w (·.put (dir ++ [other]) (.file [] x)))).1 <;> simp [Except.mapError]

end Placed

/-- What a packaging that succeeds leaves: the archive at its place, no draft, and no other change than that the
binary is gone. -/
structure Packaged (a : Archiver) (version : String) (t : Target) (binary : Path) (w v : Workspace)
    (archive : Archive) : Prop where
  result : archive = ⟨t, version, a.path version t⟩
  made : ∃ place data executable, w.place? (a.path version t) = some place ∧ w.read binary = .ok data ∧
    v.files.get? place = some (.file (Zip.write ⟨entryName binary t, entryMode, data⟩) executable)
  noDraft : ∀ k, w.place? (draft (a.path version t)) = some k → v.files.get? k = none
  others : ∀ k, w.place? (a.path version t) ≠ some k → w.place? (draft (a.path version t)) ≠ some k →
    w.place? binary ≠ some k → v.files.get? k = w.files.get? k

/-- What a packaging that fails leaves: the binary and all else but the draft, which is not left either if it was
not written to its end. -/
structure Kept (a : Archiver) (version : String) (t : Target) (binary : Path) (w v : Workspace)
    (written : Prop) : Prop where
  archive : ∀ k, w.place? (a.path version t) = some k → v.files.get? k = w.files.get? k
  binary : ∀ l e, w.find binary = .ok (l, e) → v.find binary = .ok (l, e)
  others : ∀ k, w.place? (draft (a.path version t)) ≠ some k → v.files.get? k = w.files.get? k
  noDraft : ¬ written → ∀ k, w.place? (draft (a.path version t)) = some k →
    v.files.get? k = none ∨ v.files.get? k = some .directory ∧ w.files.get? k = some .directory

variable {a : Archiver} {version : String} {t : Target} {binary : Path} {w v : Workspace} {written : Prop}

/-- Where nothing can be written under a draft's name, packaging changes nothing. -/
theorem exec_packageIn_nowhere (trouble : Trouble)
    (unwritable : ∀ content, ∃ fault, (FileM.write (draft (a.path version t)) content).exec w = (.error fault, w))
    (missing : ∃ fault, (FileM.removeFile (draft (a.path version t))).exec w = (.error fault, w)) :
    ∃ e, (a.packageIn trouble version t (some binary)).exec w = (.error e, w) := by
  obtain ⟨fault, failed⟩ := unwritable []
  obtain ⟨fault', unremoved⟩ := missing
  have draftless : ∃ e, (writeDraftIn trouble binary (entryName binary t) (a.path version t)).exec w = (.error e, w) := by
    obtain ⟨outcome, opened⟩ : ∃ outcome,
        (FileM.unless trouble.opening? (FileM.look (·.find binary))).exec w = (outcome, w) := by
      cases trouble.opening? with
      | some fault => exact ⟨_, rfl⟩
      | none => exact ⟨_, FileM.exec_look _⟩
    rw [writeDraftIn, TaskM.exec_bind, TaskM.exec_describe, opened]
    cases outcome with
    | error error => exact ⟨_, rfl⟩
    | ok there =>
      simp only [Except.mapError, TaskM.exec_describe, TaskM.exec_bind]
      cases trouble.creating? with
      | some fault => exact ⟨_, rfl⟩
      | none => exact ⟨.unwritable (a.path version t) fault.message, by simp [FileM.unless, failed]⟩
  obtain ⟨e, draftless⟩ := draftless
  refine ⟨e, ?_⟩
  simp [packageIn, TaskM.exec_bind, TaskM.exec_attempt, draftless, unremoved]

theorem kept_self (draftless : w.place? (draft (a.path version t)) = none) : Kept a version t binary w w written where
  archive _ _ := rfl
  binary _ _ found := found
  others _ _ := rfl
  noDraft _ k placed := by simp [draftless] at placed

theorem Kept.mono {more : Prop} (kept : Kept a version t binary w v written) (weaker : written → more) :
    Kept a version t binary w v more :=
  ⟨kept.archive, kept.binary, kept.others, fun unwritten => kept.noDraft fun before => unwritten (weaker before)⟩

/-- A change of nothing but the draft keeps what is to be kept. -/
theorem kept_of_draft {l : Location} (start : w.files.get? (binary.start w.directory) = some .directory)
    (placed : ∀ k, w.place? (draft (a.path version t)) = some k ↔ k = l)
    (beside : w.place? (a.path version t) ≠ some l) (apart : ∀ k e, w.find binary = .ok (k, e) → k ≠ l)
    (away : ∀ k, k ≠ l → v.files.get? k = w.files.get? k) (stays : v.directory = w.directory)
    (noWay : ∀ e, w.files.get? l = some e → e.isWay = false)
    (noWay' : ∀ e, v.files.get? l = some e → e.isWay = false)
    (gone : ¬ written → v.files.get? l = none) : Kept a version t binary w v written where
  archive k archived := away k fun same => beside (same ▸ archived)
  binary k e found := Workspace.find_of_sameWays (FileTree.sameWays_of_away away noWay noWay') stays start found
    (away k (apart k e found))
  others k other := away k fun same => other ((placed k).mpr same)
  noDraft unwritten k there := by
    rw [(placed k).mp there]
    exact .inl (gone unwritten)

/-- Once the draft is written it gets the archive's name, and the binary goes; or it gets no name. -/
theorem exec_packageIn_of_written (trouble : Trouble)
    (written : (writeDraftIn trouble binary (entryName binary t) (a.path version t)).exec w = (.ok (), v)) :
    (∃ fault u,
      (FileM.unless trouble.naming? (FileM.rename (draft (a.path version t)) (a.path version t))).exec v =
        (.error fault, u) ∧ (a.packageIn trouble version t (some binary)).exec w =
        (.error (.unwritable (a.path version t) fault.message), u)) ∨
    ∃ u, trouble.naming? = none ∧ (FileM.rename (draft (a.path version t)) (a.path version t)).exec v = (.ok (), u) ∧
      (a.packageIn trouble version t (some binary)).exec w =
        (.ok ⟨t, version, a.path version t⟩, ((FileM.removeFile binary).exec u).2) := by
  simp only [packageIn, TaskM.exec_bind, TaskM.exec_attempt, written, TaskM.exec_describe]
  cases naming : trouble.naming? with
  | some fault => exact .inl ⟨fault, v, rfl, rfl⟩
  | none =>
    simp only [FileM.unless]
    rcases (FileM.rename (draft (a.path version t)) (a.path version t)).exec v with ⟨fault | _, u⟩
    · exact .inl ⟨fault, u, rfl, rfl⟩
    · exact .inr ⟨u, trivial, rfl, rfl⟩

theorem exec_packageIn_of_unwritten (trouble : Trouble) {e : ArchiveError}
    (failed : (writeDraftIn trouble binary (entryName binary t) (a.path version t)).exec w = (.error e, v)) :
    (a.packageIn trouble version t (some binary)).exec w =
      (.error e, ((FileM.removeFile (draft (a.path version t))).exec v).2) := by
  simp [packageIn, TaskM.exec_bind, TaskM.exec_attempt, failed]

section Leading

variable {home : Path} {dir : Location} {name other : String}
variable (sound : w.files.Sound) (here : w.files.get? w.directory = some .directory) (leads : w.Leads home dir)
variable (validName : IsName name) (path : a.path version t = home.join name)
variable (valid : IsName other) (differ : other ≠ name) (placed : draft (a.path version t) = home.join other)
variable (fresh : w.files.Fresh (dir ++ [other]))
variable (apart : ∀ l e, w.find binary = .ok (l, e) → l ≠ dir ++ [other])
include here leads validName path valid differ placed fresh apart

/-- Leaving a draft, or removing it, changes nothing else. -/
theorem kept_of_fits (fits : usable home other = .ok ()) (noDirectory : w.files.get? (dir ++ [other]) ≠ some .directory)
    (away : ∀ k, k ≠ dir ++ [other] → v.files.get? k = w.files.get? k) (stays : v.directory = w.directory)
    (noWay : ∀ e, v.files.get? (dir ++ [other]) = some e → e.isWay = false)
    (gone : ¬ written → v.files.get? (dir ++ [other]) = none) : Kept a version t binary w v written := by
  refine kept_of_draft (Workspace.start_directory here binary) (fun k => ?_) ?_ apart away stays
    (fresh.noWay noDirectory) noWay gone
  · rw [placed, Workspace.place?_join leads valid, if_pos fits, Option.some_inj, eq_comm]
  · rw [path, Workspace.place?_join leads validName]
    split
    · simpa using differ.symm
    · simp

/-- A draft that was not written to its end is removed, and nothing else. -/
theorem kept_unwritten (trouble : Trouble) {e : ArchiveError}
    (failed : (writeDraftIn trouble binary (entryName binary t) (a.path version t)).exec w = (.error e, v)) :
    Kept a version t binary w ((FileM.removeFile (draft (a.path version t))).exec v).2 False := by
  have root : dir ++ [other] ≠ [] := by simp
  have erased {u : Workspace} (fits : usable home other = .ok ())
      (noDirectory : w.files.get? (dir ++ [other]) ≠ some .directory)
      (away : ∀ k, k ≠ dir ++ [other] → u.files.get? k = w.files.get? k) (stays : u.directory = w.directory) :
      Kept a version t binary w (changed u (·.erase (dir ++ [other]))) False :=
    kept_of_fits here leads validName path valid differ placed fresh apart fits noDirectory (fun k other => by
      rw [changed, FileTree.get?_erase root, if_neg other, away k other]) stays
      (by simp [changed, FileTree.get?_erase root]) (by simp [changed, FileTree.get?_erase root])
  have start := Workspace.start_directory here binary
  obtain ⟨same, -⟩ | ⟨noDirectory, fits, content, x, changes, -⟩ :=
    exec_writeDraftIn leads valid fresh placed start apart trouble (entryName binary t)
  · obtain rfl : v = w := by rw [← same, failed]
    have removed := FileM.removeFile_join leads valid
    rw [placed, removed]
    have spot := Workspace.place?_join leads valid
    rw [← placed] at spot
    cases fits : usable home other with
    | error fault => exact kept_self (by rw [spot, if_neg (by simp [fits])])
    | ok _ =>
      cases found : v.files.get? (dir ++ [other]) with
      | none =>
        exact kept_of_fits here leads validName path valid differ placed fresh apart fits (by simp [found])
          (fun _ _ => rfl) rfl (by simp [found]) fun _ => found
      | some e =>
        by_cases directory : e = .directory
        · subst directory
          refine ⟨fun _ _ => rfl, fun _ _ found => found, fun _ _ => rfl, fun _ k there => .inr ?_⟩
          rw [spot, if_pos fits, Option.some_inj] at there
          exact there ▸ ⟨found, found⟩
        · have gone := erased (u := v) fits (by simpa [found] using directory) (fun _ _ => rfl) rfl
          cases e <;> first | exact absurd rfl directory | exact gone
  · rw [failed] at changes
    dsimp only at changes
    have keeps := FileTree.sameWays_put root (fresh.noWay noDirectory) content x
    have leads' : v.Leads home dir := by rw [changes]; exact FileTree.Leads.keeps leads keeps.1
    have found : v.files.get? (dir ++ [other]) = some (.file content x) := by
      simp [changes, changed, FileTree.get?_put root]
    rw [placed, FileM.removeFile_join leads' valid, fits, found]
    refine erased fits noDirectory (fun k other => ?_) ?_
    · rw [changes, changed, FileTree.get?_put root, if_neg other]
    · rw [changes, changed]

/-- A draft that is written and has no name yet is the only change. -/
theorem kept_written {content : Bytes} {executable : Bool} (fits : usable home other = .ok ())
    (noDirectory : w.files.get? (dir ++ [other]) ≠ some .directory) :
    Kept a version t binary w (changed w (·.put (dir ++ [other]) (.file content executable))) True := by
  have root : dir ++ [other] ≠ [] := by simp
  refine kept_of_fits here leads validName path valid differ placed fresh apart fits noDirectory (fun k other => ?_)
    rfl (fun e found => ?_) fun unwritten => absurd trivial unwritten
  · rw [changed, FileTree.get?_put root, if_neg other]
  · rw [changed, FileTree.get?_put root, if_pos rfl] at found
    exact Option.some_inj.mp found ▸ rfl

include sound
omit fresh apart

/-- Naming a draft and removing the binary changes the three places. -/
theorem packaged_of_named {data : Bytes} {executable : Bool} (fits : usable home other = .ok ())
    (noDirectory : w.files.get? (dir ++ [other]) ≠ some .directory) (named : usable home name = .ok ())
    (free : w.files.get? (dir ++ [name]) ≠ some .directory) (read : w.read binary = .ok data)
    (own : ∀ k, w.place? binary = some k → w.place? (a.path version t) ≠ some k) :
    let v := changed w (·.put (dir ++ [other]) (.file (Zip.write ⟨entryName binary t, entryMode, data⟩) executable))
    Packaged a version t binary w ((FileM.removeFile binary).exec
      (FileM.relocated v (dir ++ [other]) (dir ++ [name]))).2 ⟨t, version, a.path version t⟩ := by
  intro v
  have rootDraft : dir ++ [other] ≠ [] := by simp
  have rootName : dir ++ [name] ≠ [] := by simp
  have spotName : w.place? (a.path version t) = some (dir ++ [name]) := by
    rw [path, Workspace.place?_join leads validName, if_pos named]
  have spotDraft : w.place? (draft (a.path version t)) = some (dir ++ [other]) := by
    rw [placed, Workspace.place?_join leads valid, if_pos fits]
  have moved (k : Location) : (FileM.relocated v (dir ++ [other]) (dir ++ [name])).files.get? k =
      if k = dir ++ [name] then some (.file (Zip.write ⟨entryName binary t, entryMode, data⟩) executable)
      else if k = dir ++ [other] then none else w.files.get? k := by
    have leaf {l : Location} (noDirectory : w.files.get? l ≠ some .directory) (k : Location) (inside : l <+: k)
        (ne : k ≠ l) (beside : k ≠ dir ++ [other]) : v.files.get? k = none := by
      simp only [v, changed, FileTree.get?_put rootDraft, if_neg beside]
      exact sound.leaf noDirectory inside ne
    have leafName (k : Location) (inside : dir ++ [name] <+: k) (ne : k ≠ dir ++ [name]) : v.files.get? k = none := by
      refine leaf free k inside ne ?_
      rintro rfl
      have same : name = other := by simpa using inside
      exact differ same.symm
    rw [FileM.relocated_files, FileTree.get?_move_leaf rootDraft rootName (by simpa using differ.symm)
      (fun k inside ne => leaf noDirectory k inside ne ne) leafName]
    simp only [v, changed, FileTree.get?_put rootDraft, if_pos]
    split
    · rfl
    · split <;> rfl
  have stays : (FileM.relocated v (dir ++ [other]) (dir ++ [name])).directory = w.directory := by
    have off {l : Location} (noDirectory : w.files.get? l ≠ some .directory) : ¬ l <+: w.directory := by
      intro inside
      by_cases same : l = w.directory
      · exact noDirectory (same ▸ here)
      · exact noDirectory (sound.above here inside same)
    exact FileM.within_relocated.directory (not_or.mpr ⟨off noDirectory, off free⟩)
  generalize FileM.relocated v (dir ++ [other]) (dir ++ [name]) = u at moved stays ⊢
  have keeps : u.files.Keeps w.files := by
    intro k e way found
    rw [moved] at found
    split at found
    · obtain rfl := Option.some.inj found
      cases way
    · split at found
      · cases found
      · exact found
  have start : u.files.get? (binary.start u.directory) = some .directory := by
    rw [stays, moved, if_neg, if_neg]
    · exact Workspace.start_directory here binary
    · rintro same
      exact noDirectory (same ▸ Workspace.start_directory here binary)
    · rintro same
      exact free (same ▸ Workspace.start_directory here binary)
  have made : u.files.get? (dir ++ [name]) =
      some (.file (Zip.write ⟨entryName binary t, entryMode, data⟩) executable) := by rw [moved, if_pos rfl]
  have gone : u.files.get? (dir ++ [other]) = none := by
    rw [moved, if_neg (by simpa using differ), if_pos rfl]
  have others {k : Location} (notName : w.place? (a.path version t) ≠ some k)
      (notDraft : w.place? (draft (a.path version t)) ≠ some k) : u.files.get? k = w.files.get? k := by
    have besideName : k ≠ dir ++ [name] := fun same => notName (same ▸ spotName)
    have besideDraft : k ≠ dir ++ [other] := fun same => notDraft (same ▸ spotDraft)
    rw [moved, if_neg besideName, if_neg besideDraft]
  have noDraft {k : Location} (there : w.place? (draft (a.path version t)) = some k) : k = dir ++ [other] := by
    rw [spotDraft, Option.some_inj] at there
    exact there.symm
  obtain ⟨fault, unremoved⟩ | ⟨l, there, -, removed⟩ := FileM.removeFile_cases binary u
  · rw [unremoved]
    exact ⟨rfl, ⟨_, data, executable, spotName, read, made⟩, fun k draft => noDraft draft ▸ gone,
      fun k notName notDraft _ => others notName notDraft⟩
  · have spot := Workspace.place?_of_keeps keeps stays.symm start there
    have root : l ≠ [] := by
      rintro rfl
      rw [Workspace.place?] at spot
      split at spot <;> simp at spot
    have beside : dir ++ [name] ≠ l := fun same => own l spot (same ▸ spotName)
    rw [removed]
    refine ⟨rfl, ⟨_, data, executable, spotName, read, ?_⟩, fun k draft => ?_, fun k notName notDraft notBinary => ?_⟩
    · rw [changed, FileTree.get?_erase root, if_neg beside, made]
    · rw [changed, FileTree.get?_erase root, noDraft draft, gone, ite_self]
    · have stays : k ≠ l := fun same => notBinary (same ▸ spot)
      rw [changed, FileTree.get?_erase root, if_neg stays, others notName notDraft]

include fresh apart

/-- In a directory that is there, packaging is all or nothing. -/
theorem packageIn_leading (trouble : Trouble) (own : ∀ k, w.place? binary = some k → w.place? (a.path version t) ≠ some k) :
    match (a.packageIn trouble version t (some binary)).exec w with
    | (.ok archive, v) => Packaged a version t binary w v archive
    | (.error _, v) => Kept a version t binary w v
        (((writeDraftIn trouble binary (entryName binary t) (a.path version t)).exec w).1 = .ok ()) := by
  have start := Workspace.start_directory here binary
  rcases draft : (writeDraftIn trouble binary (entryName binary t) (a.path version t)).exec w with ⟨e | _, v⟩
  · rw [exec_packageIn_of_unwritten trouble draft]
    exact (kept_unwritten here leads validName path valid differ placed fresh apart trouble draft).mono False.elim
  · obtain ⟨-, unwritten⟩ | ⟨noDirectory, fits, content, x, changes, whole⟩ :=
      exec_writeDraftIn leads valid fresh placed start apart trouble (entryName binary t)
    · simp [draft] at unwritten
    rw [draft] at changes whole
    obtain ⟨data, read, rfl⟩ := whole rfl
    obtain rfl : v = changed w (·.put (dir ++ [other]) (.file (Zip.write ⟨entryName binary t, entryMode, data⟩) x)) :=
      changes
    have root : dir ++ [other] ≠ [] := by simp
    have kept : Kept a version t binary w (changed w (·.put (dir ++ [other])
        (.file (Zip.write ⟨entryName binary t, entryMode, data⟩) x))) True :=
      kept_written here leads validName path valid differ placed fresh apart fits noDirectory
    have leads' : (changed w (·.put (dir ++ [other])
        (.file (Zip.write ⟨entryName binary t, entryMode, data⟩) x))).Leads home dir :=
      FileTree.Leads.keeps leads (FileTree.sameWays_put root (fresh.noWay noDirectory) _ x).1
    have there : (changed w (·.put (dir ++ [other]) (.file (Zip.write ⟨entryName binary t, entryMode, data⟩) x))).files.get?
        (dir ++ [other]) = some (.file (Zip.write ⟨entryName binary t, entryMode, data⟩) x) := by
      rw [changed, FileTree.get?_put root, if_pos rfl]
    have taken := FileM.rename_fresh leads' valid validName differ there fresh.alone
    rw [← placed, ← path] at taken
    obtain ⟨fault, u, unnamed, packed⟩ | ⟨u, -, renamed, packed⟩ := exec_packageIn_of_written trouble draft
    · rw [packed]
      cases naming : trouble.naming? with
      | some other =>
        rw [naming] at unnamed
        obtain rfl := (Prod.mk.inj unnamed).2
        exact kept.mono fun _ => rfl
      | none =>
        rw [naming] at unnamed
        obtain ⟨other, failed⟩ | ⟨-, -, renamed⟩ := taken
        · obtain rfl := (Prod.mk.inj (failed.symm.trans unnamed)).2
          exact kept.mono fun _ => rfl
        · cases (Prod.mk.inj (renamed.symm.trans unnamed)).1
    · rw [packed]
      obtain ⟨other, failed⟩ | ⟨named, free, moved⟩ := taken
      · cases (Prod.mk.inj (failed.symm.trans renamed)).1
      · obtain rfl := (Prod.mk.inj (moved.symm.trans renamed)).2
        rw [changed, FileTree.get?_put root, if_neg (by simpa using differ.symm)] at free
        exact packaged_of_named sound here leads validName path valid differ placed fits noDirectory named free
          read own

end Leading

/-- A build's binary that is archived, with the files around it. -/
structure Scene where
  binary : String
  nodes : List (Location × Entry)
  groups : List (List Location)

namespace Scene

def archivePlace : Location := ["pkg", "mufiz_1_a.zip"]

def draftPlace : Location := ["pkg", "mufiz_1_a.zip.partial"]

def start (s : Scene) : Workspace :=
  ⟨⟨(["pkg"], .directory) :: s.nodes, s.groups⟩, [], []⟩

/-- The archive is made and nothing else but the binary changes, or nothing changes at all. No draft is left. -/
def IsAllOrNothing (s : Scene) : Prop :=
  let w := s.start
  let run := ((⟨"mufiz", ⟨"pkg"⟩⟩ : Archiver).package "1" ⟨"a"⟩ (some ⟨s.binary⟩)).exec w
  let made := run.2.files.get? archivePlace = some (.file (Zip.write
    ⟨entryName ⟨s.binary⟩ ⟨"a"⟩, entryMode, (w.read ⟨s.binary⟩).toOption.getD []⟩) false)
  let kept := run.2.files.get? archivePlace = w.files.get? archivePlace ∧
    (run.2.read ⟨s.binary⟩).toOption = (w.read ⟨s.binary⟩).toOption
  (if run.1.toBool then made else kept) ∧ run.2.files.get? draftPlace = none ∧
    ∀ n ∈ s.nodes, n.1 ≠ archivePlace → n.1 ≠ draftPlace → w.place? ⟨s.binary⟩ ≠ some n.1 →
      run.2.files.get? n.1 = w.files.get? n.1

instance (s : Scene) : Decidable s.IsAllOrNothing :=
  inferInstanceAs (Decidable (_ ∧ _ ∧ _))

def all : List Scene := [
  -- The draft is a link to another file.
  { binary := "mufiz", nodes := [(["mufiz"], .file [7] true), (draftPlace, .link ⟨"notes"⟩),
      (["pkg", "notes"], .file [1] false)], groups := [] },
  -- The draft is another name of a file.
  { binary := "mufiz", nodes := [(["mufiz"], .file [7] true), (draftPlace, .file [1] false),
      (["pkg", "notes"], .file [1] false)], groups := [[draftPlace, ["pkg", "notes"]]] },
  -- The draft is a device.
  { binary := "mufiz", nodes := [(["mufiz"], .file [7] true), (draftPlace, .void)], groups := [] },
  -- The binary has the draft's name.
  { binary := "pkg/mufiz_1_a.zip.partial", nodes := [(draftPlace, .file [7] true)], groups := [] },
  -- The binary has the archive's name.
  { binary := "pkg/mufiz_1_a.zip", nodes := [(archivePlace, .file [7] true)], groups := [] },
  -- A directory has the archive's name.
  { binary := "mufiz", nodes := [(["mufiz"], .file [7] true), (archivePlace, .directory)], groups := [] }]

end Scene

end Archiver

end ReleaseMatrix
