import ReleaseMatrix.Proofs.AllOrNothing
import ReleaseMatrix.Proofs.ManifestReading

namespace ReleaseMatrix.Archiver

open Archive (draft entryName entryMode)

/-- What a turn of the copy into a draft comes to. It reads a piece of the binary and writes a piece of the archive. -/
inductive Turn
  | done
  | unread (fault : FileFault)
  | unwritten (fault : FileFault)

/-- The fault of a turn, which does not say where it comes from. -/
def Turn.fault? : Turn → Option FileFault
  | done => none
  | unread fault | unwritten fault => some fault

/-- A disk, by the faults that an archiver meets on it besides those that the tree itself calls for. -/
structure Disk where
  opening? : Option FileFault
  creating? : Option FileFault
  turns : List Turn
  /-- What is in the draft when a turn fails. -/
  copied : Bytes
  naming? : Option FileFault

namespace Disk

def healthy : Disk :=
  ⟨none, none, [], [], none⟩

/-- The turn that ends the copy before its time. -/
def stop? (d : Disk) : Option Turn :=
  d.turns.find? (·.fault?.isSome)

def trouble (d : Disk) : Trouble :=
  ⟨d.opening?, d.creating?, (d.stop?.bind Turn.fault?).map (d.copied, ·), d.naming?⟩

def openBinary (d : Disk) (binary : Path) : FileM (Location × Entry) :=
  FileM.unless d.opening? (FileM.look (·.find binary))

def createDraft (d : Disk) (path : Path) : FileM Unit :=
  FileM.unless d.creating? (FileM.write (draft path) [])

def nameDraft (d : Disk) (path : Path) : FileM Unit :=
  FileM.unless d.naming? (FileM.rename (draft path) path)

end Disk

/-- What an archiver is at when it fails. -/
inductive Step
  | opening
  | creating
  | reading
  | writing
  | naming
deriving DecidableEq

/-- Filling a draft that is open fails: a turn of the copy ends it, or the tree has no bytes for it or takes none. -/
inductive Stalls (d : Disk) (binary : Path) (entry : String) (path : Path) (w : Workspace) : Step → FileFault → Prop
  | unread {fault : FileFault} (stop : d.stop? = some (.unread fault))
      (kept : ((FileM.write (draft path) d.copied).exec w).1 = .ok ()) : Stalls d binary entry path w .reading fault
  | unwritten {fault : FileFault} (stop : d.stop? = some (.unwritten fault))
      (kept : ((FileM.write (draft path) d.copied).exec w).1 = .ok ()) : Stalls d binary entry path w .writing fault
  | lost {turn : Turn} {fault : FileFault} (stop : d.stop? = some turn)
      (failed : ((FileM.write (draft path) d.copied).exec w).1 = .error fault) :
      Stalls d binary entry path w .writing fault
  | unreadable {fault : FileFault} (steady : d.stop? = none) (failed : w.read binary = .error fault) :
      Stalls d binary entry path w .reading fault
  | unwritable {content : Bytes} {fault : FileFault} (steady : d.stop? = none) (read : w.read binary = .ok content)
      (failed : ((FileM.write (draft path) (Zip.write ⟨entry, entryMode, content⟩)).exec w).1 = .error fault) :
      Stalls d binary entry path w .writing fault

section Failing

variable (a : Archiver) (d : Disk) (version : String) (t : Target) (binary : Path) (w : Workspace)

/-- The first step of an archiver that fails, and its fault. All steps before it succeed. -/
inductive Fails : Step → FileFault → Prop
  | opening {fault : FileFault} (failed : ((d.openBinary binary).exec w).1 = .error fault) : Fails .opening fault
  | creating {there : Location × Entry} {fault : FileFault} (opened : (d.openBinary binary).exec w = (.ok there, w))
      (failed : ((d.createDraft (a.path version t)).exec w).1 = .error fault) : Fails .creating fault
  | copying {there : Location × Entry} {v : Workspace} {step : Step} {fault : FileFault}
      (opened : (d.openBinary binary).exec w = (.ok there, w))
      (created : (d.createDraft (a.path version t)).exec w = (.ok (), v))
      (stalled : Stalls d binary (entryName binary t) (a.path version t) v step fault) : Fails step fault
  | naming {there : Location × Entry} {v u : Workspace} {fault : FileFault}
      (opened : (d.openBinary binary).exec w = (.ok there, w))
      (created : (d.createDraft (a.path version t)).exec w = (.ok (), v))
      (filled : (fill d.trouble binary (entryName binary t) (a.path version t)).exec v = (.ok (), u))
      (failed : ((d.nameDraft (a.path version t)).exec u).1 = .error fault) : Fails .naming fault

/-- The error that names what a step works on: the binary, or the archive. -/
def blame (fault : FileFault) : Step → ArchiveError
  | .opening | .reading => .binaryUnreadable binary fault.message
  | .creating | .writing | .naming => .unwritable (a.path version t) fault.message

end Failing

variable {a : Archiver} {d : Disk} {version entry : String} {t : Target} {binary path : Path} {w v u : Workspace}
variable {step step' : Step} {fault fault' : FileFault}

theorem packageIn_healthy (a : Archiver) (version : String) (t : Target) (binary? : Option Path) :
    a.packageIn Disk.healthy.trouble version t binary? = a.package version t binary? := rfl

theorem Disk.writing?_of_steady (steady : d.stop? = none) : d.trouble.writing? = none := by
  simp [Disk.trouble, steady]

theorem Disk.writing?_of_stop {turn : Turn} (stop : d.stop? = some turn) :
    ∃ fault, turn.fault? = some fault ∧ d.trouble.writing? = some (d.copied, fault) := by
  have broken : turn.fault?.isSome := by
    simpa using List.find?_some stop
  obtain ⟨fault, same⟩ := Option.isSome_iff_exists.mp broken
  exact ⟨fault, same, by simp [Disk.trouble, stop, same]⟩

theorem exec_fill_of_steady (steady : d.stop? = none) : (fill d.trouble binary entry path).exec w =
    match w.read binary with
    | .error fault => (.error fault, w)
    | .ok content => (FileM.write (draft path) (Zip.write ⟨entry, entryMode, content⟩)).exec w := by
  rw [fill, Disk.writing?_of_steady steady]
  dsimp only
  rw [TaskM.exec_bind, FileM.exec_look]
  cases w.read binary <;> rfl

theorem exec_fill_of_stop (binary : Path) (entry : String) (path : Path) (w : Workspace) {turn : Turn}
    (stop : d.stop? = some turn) : ∃ last, turn.fault? = some last ∧
    ((fill d.trouble binary entry path).exec w).1 =
      match ((FileM.write (draft path) d.copied).exec w).1 with
      | .error fault => .error fault
      | .ok _ => .error last := by
  obtain ⟨last, broken, writing⟩ := Disk.writing?_of_stop stop
  refine ⟨last, broken, ?_⟩
  rw [fill, writing]
  dsimp only
  rw [TaskM.exec_bind]
  rcases (FileM.write (draft path) d.copied).exec w with ⟨fault | _, v⟩ <;> rfl

theorem exec_fill_eq_error_iff : ((fill d.trouble binary entry path).exec w).1 = .error fault ↔
    ∃ step, Stalls d binary entry path w step fault := by
  constructor
  · intro failed
    cases stop : d.stop? with
    | none =>
      rw [exec_fill_of_steady stop] at failed
      cases read : w.read binary with
      | error other =>
        obtain rfl : other = fault := by simpa [read] using failed
        exact ⟨.reading, .unreadable stop read⟩
      | ok content => exact ⟨.writing, .unwritable stop read (by simpa [read] using failed)⟩
    | some turn =>
      obtain ⟨last, broken, ends⟩ := exec_fill_of_stop binary entry path w stop
      rw [ends] at failed
      cases kept : ((FileM.write (draft path) d.copied).exec w).1 with
      | error other =>
        obtain rfl : other = fault := by simpa [kept] using failed
        exact ⟨.writing, .lost stop kept⟩
      | ok _ =>
        obtain rfl : last = fault := by simpa [kept] using failed
        cases turn with
        | done => cases broken
        | unread other =>
          obtain rfl := Option.some_inj.mp broken
          exact ⟨.reading, .unread stop kept⟩
        | unwritten other =>
          obtain rfl := Option.some_inj.mp broken
          exact ⟨.writing, .unwritten stop kept⟩
  · rintro ⟨step, stalled⟩
    cases stalled with
    | unread stop kept | unwritten stop kept =>
      obtain ⟨last, broken, ends⟩ := exec_fill_of_stop binary entry path w stop
      obtain rfl := Option.some_inj.mp broken
      rw [ends, kept]
    | lost stop failed =>
      obtain ⟨last, -, ends⟩ := exec_fill_of_stop binary entry path w stop
      rw [ends, failed]
    | unreadable steady failed => rw [exec_fill_of_steady steady, failed]
    | unwritable steady read failed =>
      rw [exec_fill_of_steady steady, read]
      exact failed

theorem Stalls.unique (one : Stalls d binary entry path w step fault) (other : Stalls d binary entry path w step' fault') :
    step = step' ∧ fault = fault' := by
  have same : fault = fault' := by
    have ends := exec_fill_eq_error_iff.mpr ⟨_, one⟩
    rw [exec_fill_eq_error_iff.mpr ⟨_, other⟩] at ends
    simpa using ends.symm
  -- Two stalls that differ in their step differ in how the copy ends or in what the same operation gives.
  refine ⟨?_, same⟩
  cases one <;> cases other <;> simp_all

theorem Disk.exec_openBinary (d : Disk) (binary : Path) (w : Workspace) : ((d.openBinary binary).exec w).2 = w := by
  rw [Disk.openBinary]
  cases d.opening? with
  | some fault => rfl
  | none => exact congrArg Prod.snd (FileM.exec_look _)

theorem Disk.exec_openBinary_of_healthy (binary : Path) (w : Workspace) :
    (Disk.healthy.openBinary binary).exec w = (w.find binary, w) :=
  FileM.exec_look _

theorem Fails.unique (one : a.Fails d version t binary w step fault)
    (other : a.Fails d version t binary w step' fault') : step = step' ∧ fault = fault' := by
  cases one with
  | opening failed =>
    cases other with
    | opening failed' => exact ⟨rfl, by simpa [failed] using failed'⟩
    | creating opened | copying opened | naming opened => simp [opened] at failed
  | creating opened failed =>
    cases other with
    | opening failed' => simp [opened] at failed'
    | creating _ failed' => exact ⟨rfl, by simpa [failed] using failed'⟩
    | copying _ created | naming _ created => simp [created] at failed
  | copying opened created stalled =>
    cases other with
    | opening failed' => simp [opened] at failed'
    | creating _ failed' => simp [created] at failed'
    | copying _ created' stalled' =>
      obtain ⟨-, rfl⟩ := Prod.mk.inj (created.symm.trans created')
      exact stalled.unique stalled'
    | naming _ created' filled =>
      obtain ⟨-, rfl⟩ := Prod.mk.inj (created.symm.trans created')
      have ends := exec_fill_eq_error_iff.mpr ⟨_, stalled⟩
      simp [filled] at ends
  | naming opened created filled failed =>
    cases other with
    | opening failed' => simp [opened] at failed'
    | creating _ failed' => simp [created] at failed'
    | copying _ created' stalled =>
      obtain ⟨-, rfl⟩ := Prod.mk.inj (created.symm.trans created')
      have ends := exec_fill_eq_error_iff.mpr ⟨_, stalled⟩
      simp [filled] at ends
    | naming _ created' filled' failed' =>
      obtain ⟨-, rfl⟩ := Prod.mk.inj (created.symm.trans created')
      obtain ⟨-, rfl⟩ := Prod.mk.inj (filled.symm.trans filled')
      exact ⟨rfl, by simpa [failed] using failed'⟩

theorem writeDraftIn_trouble (d : Disk) (binary : Path) (entry : String) (path : Path) :
    writeDraftIn d.trouble binary entry path = (do
      let _ ← (d.openBinary binary).describe (.binaryUnreadable binary ·.message)
      TaskM.describe (.unwritable path ·.message) do
        d.createDraft path
        fill d.trouble binary entry path) := rfl

theorem exec_writeDraftIn_of_unopened (failed : (d.openBinary binary).exec w = (.error fault, w)) :
    (writeDraftIn d.trouble binary entry path).exec w = (.error (.binaryUnreadable binary fault.message), w) := by
  simp [writeDraftIn_trouble, TaskM.exec_bind, TaskM.exec_describe, failed, Except.mapError]

section Opened

variable {there : Location × Entry} (opened : (d.openBinary binary).exec w = (.ok there, w))
include opened

theorem exec_writeDraftIn_of_uncreated (failed : (d.createDraft path).exec w = (.error fault, v)) :
    (writeDraftIn d.trouble binary entry path).exec w = (.error (.unwritable path fault.message), v) := by
  simp [writeDraftIn_trouble, TaskM.exec_bind, TaskM.exec_describe, opened, failed, Except.mapError]

theorem exec_writeDraftIn_of_created (entry : String) (created : (d.createDraft path).exec w = (.ok (), v)) :
    (writeDraftIn d.trouble binary entry path).exec w =
      (((fill d.trouble binary entry path).exec v).1.mapError (.unwritable path ·.message),
        ((fill d.trouble binary entry path).exec v).2) := by
  simp [writeDraftIn_trouble, TaskM.exec_bind, TaskM.exec_describe, opened, created, Except.mapError]

end Opened

theorem Fails.exec_packageIn (fails : a.Fails d version t binary w step fault) :
    ((a.packageIn d.trouble version t (some binary)).exec w).1 =
      .error (if step = .reading then .unwritable (a.path version t) fault.message
        else a.blame version t binary fault step) := by
  cases fails with
  | opening failed =>
    have unopened : (d.openBinary binary).exec w = (.error fault, w) := Prod.ext failed (d.exec_openBinary binary w)
    rw [exec_packageIn_of_unwritten d.trouble (exec_writeDraftIn_of_unopened unopened)]
    rfl
  | creating opened failed =>
    have uncreated : (d.createDraft (a.path version t)).exec w =
        (.error fault, ((d.createDraft (a.path version t)).exec w).2) := Prod.ext failed rfl
    rw [exec_packageIn_of_unwritten d.trouble (exec_writeDraftIn_of_uncreated opened uncreated)]
    rfl
  | copying opened created stalled =>
    have draft := exec_writeDraftIn_of_created opened (entryName binary t) created
    rw [exec_fill_eq_error_iff.mpr ⟨_, stalled⟩] at draft
    rw [exec_packageIn_of_unwritten d.trouble draft]
    cases stalled <;> rfl
  | naming opened created filled failed =>
    have draft := exec_writeDraftIn_of_created opened (entryName binary t) created
    rw [filled] at draft
    obtain ⟨last, _, unnamed, packed⟩ | ⟨_, calm, named, -⟩ := exec_packageIn_of_written d.trouble draft
    · rw [packed]
      obtain rfl := Except.error.inj ((congrArg Prod.fst unnamed).symm.trans failed)
      rfl
    · rw [Disk.nameDraft, show d.naming? = none from calm] at failed
      cases (congrArg Prod.fst named).symm.trans failed

theorem exists_fails_of_error {e : ArchiveError}
    (failed : ((a.packageIn d.trouble version t (some binary)).exec w).1 = .error e) :
    ∃ step fault, a.Fails d version t binary w step fault := by
  have left := d.exec_openBinary binary w
  rcases opened : (d.openBinary binary).exec w with ⟨fault | there, w'⟩ <;> rw [opened] at left <;>
    obtain rfl : w = w' := left.symm
  · exact ⟨.opening, fault, .opening (by rw [opened])⟩
  rcases created : (d.createDraft (a.path version t)).exec w with ⟨fault | _, v⟩
  · exact ⟨.creating, fault, .creating opened (by rw [created])⟩
  rcases filled : (fill d.trouble binary (entryName binary t) (a.path version t)).exec v with ⟨fault | _, u⟩
  · obtain ⟨step, stalled⟩ := exec_fill_eq_error_iff.mp (congrArg Prod.fst filled)
    exact ⟨step, fault, .copying opened created stalled⟩
  have draft := exec_writeDraftIn_of_created opened (entryName binary t) created
  rw [filled] at draft
  obtain ⟨fault, _, unnamed, -⟩ | ⟨_, -, -, packed⟩ := exec_packageIn_of_written d.trouble draft
  · exact ⟨.naming, fault, .naming opened created filled (congrArg Prod.fst unnamed)⟩
  · cases (congrArg Prod.fst packed).symm.trans failed

theorem fails_of_missing (a : Archiver) (version : String) (t : Target) (missing : w.find binary = .error fault) :
    a.Fails .healthy version t binary w .opening fault :=
  .opening (by rw [Disk.exec_openBinary_of_healthy, missing])

section Healthy

variable (sound : w.files.Sound) (alike : w.files.Alike) (home : w.files.get? w.directory = some .directory)
include sound alike home

theorem fails_of_directory (a : Archiver) (version : String) (t : Target) {l : Location}
    (found : w.find binary = .ok (l, .directory)) :
    (∃ fault, a.Fails .healthy version t binary w .creating fault) ∨
      a.Fails .healthy version t binary w .reading .isADirectory := by
  have opened : (Disk.healthy.openBinary binary).exec w = (.ok (l, .directory), w) := by
    rw [Disk.exec_openBinary_of_healthy, found]
  rcases created : (Disk.healthy.createDraft (a.path version t)).exec w with ⟨fault | _, v⟩
  · exact .inl ⟨fault, .creating opened (by rw [created])⟩
  · -- A directory can be opened, and it stays one when the draft is made, but it has no bytes to read.
    obtain still | ⟨noDirectory, -⟩ := FileM.find_of_write sound alike home created found
    · have failed : v.read binary = .error .isADirectory := by
        rw [Workspace.read, still]
        rfl
      exact .inr (.copying opened created (.unreadable rfl failed))
    · exact absurd rfl noDirectory

theorem ne_reading_of_content {l : Location} {e : Entry} (found : w.find binary = .ok (l, e))
    (readable : e.content?.isSome) (fails : a.Fails .healthy version t binary w step fault) :
    step ≠ .opening ∧ step ≠ .reading := by
  cases fails with
  | opening failed => simp [Disk.exec_openBinary_of_healthy, found] at failed
  | creating | naming => simp
  | @copying _ v _ _ _ created stalled =>
    cases stalled with
    | unread stop | unwritten stop | lost stop => cases stop
    | unwritable => simp
    | unreadable _ failed =>
      -- The binary may be the draft itself. Then it is emptied, but it can still be read.
      have held : ∃ d, v.find binary = .ok (l, d) ∧ d.content?.isSome := by
        obtain still | ⟨-, other⟩ := FileM.find_of_write sound alike home created found
        · exact ⟨e, still, readable⟩
        · refine ⟨_, other, ?_⟩
          cases e <;> first | rfl | cases readable
      obtain ⟨d, still, content⟩ := held
      obtain ⟨bytes, same⟩ := Option.isSome_iff_exists.mp content
      simp [Workspace.read, still, same, bind, Except.bind, pure, Except.pure] at failed

end Healthy

/-- An archiver that fails does so at one step and names what that step works on, unless it is reading the binary: then
it names the archive. On a disk that does not fail, a binary that is not found is not opened, a directory is not read,
and what has bytes is opened and read. -/
theorem packageIn_blame (a : Archiver) (d : Disk) (version : String) (t : Target) (binary : Path) (w : Workspace) :
    let run := (a.packageIn d.trouble version t (some binary)).exec w
    ((∃ archive, run.1 = .ok archive) ∧ (∀ step fault, ¬ a.Fails d version t binary w step fault) ∨
      ∃ step fault, a.Fails d version t binary w step fault ∧
        (∀ step' fault', a.Fails d version t binary w step' fault' → step' = step ∧ fault' = fault) ∧
        run.1 = .error (if step = .reading then .unwritable (a.path version t) fault.message
          else a.blame version t binary fault step)) ∧
    (w.files.Sound → w.files.Alike → w.files.get? w.directory = some .directory →
      match w.find binary with
      | .error fault => a.Fails .healthy version t binary w .opening fault
      | .ok (_, .directory) => (∃ fault, a.Fails .healthy version t binary w .creating fault) ∨
          a.Fails .healthy version t binary w .reading .isADirectory
      | .ok (_, e) => e.content?.isSome → ∀ step fault, a.Fails .healthy version t binary w step fault →
          step ≠ .opening ∧ step ≠ .reading) := by
  intro run
  constructor
  · rcases outcome : run.1 with e | archive
    · obtain ⟨step, fault, fails⟩ := exists_fails_of_error outcome
      exact .inr ⟨step, fault, fails, fun _ _ other => other.unique fails, outcome ▸ fails.exec_packageIn⟩
    · exact .inl ⟨⟨archive, rfl⟩, fun _ _ fails => nomatch outcome.symm.trans fails.exec_packageIn⟩
  · intro sound alike home
    split
    · next missing => exact fails_of_missing a version t missing
    · next found => exact fails_of_directory sound alike home a version t found
    · next found => exact fun readable _ _ => ne_reading_of_content sound alike home found readable

/-- A binary that is not there is named. -/
theorem package_blames_missing_binary :
    let a : Archiver := ⟨"mufiz", ⟨"pkg"⟩⟩
    let w : Workspace := ⟨⟨[(["pkg"], .directory)], []⟩, [], []⟩
    ((a.package "1.0.0" ⟨"x86_64-linux"⟩ (some ⟨"bin"⟩)).exec w).1 =
      .error (.binaryUnreadable ⟨"bin"⟩ "No such file or directory (os error 2)") := by
  intro a w
  have missing : w.find ⟨"bin"⟩ = .error .notFound := by decide +kernel
  obtain ⟨outcome, kinds⟩ := packageIn_blame a .healthy "1.0.0" ⟨"x86_64-linux"⟩ ⟨"bin"⟩ w
  have kind := kinds (FileTree.sound_of_nodes (by decide)) (fun _ member => nomatch member) (FileTree.get?_root _)
  rw [missing] at kind
  obtain ⟨-, never⟩ | ⟨step, fault, -, only, told⟩ := outcome
  · exact absurd kind (never _ _)
  · obtain ⟨rfl, rfl⟩ := only _ _ kind
    exact told

/-- The archive is named where the binary is a directory, which cannot be read. -/
theorem package_blames_archive :
    let a : Archiver := ⟨"mufiz", ⟨"pkg"⟩⟩
    let w : Workspace := ⟨⟨[(["bin"], .directory), (["pkg"], .directory)], []⟩, [], []⟩
    a.Fails .healthy "1.0.0" ⟨"x86_64-linux"⟩ ⟨"bin"⟩ w .reading .isADirectory ∧
      ((a.package "1.0.0" ⟨"x86_64-linux"⟩ (some ⟨"bin"⟩)).exec w).1 =
        .error (.unwritable ⟨"pkg/mufiz_1.0.0_x86_64-linux.zip"⟩ "Is a directory (os error 21)") := by
  intro a w
  have found : w.find ⟨"bin"⟩ = .ok (["bin"], .directory) := by decide +kernel
  have made : ((Disk.healthy.createDraft (a.path "1.0.0" ⟨"x86_64-linux"⟩)).exec w).1 = .ok () := by decide +kernel
  refine ⟨?_, by decide +kernel⟩
  have sound : w.files.Sound := FileTree.sound_of_nodes (by decide)
  have alike : w.files.Alike := fun _ member => nomatch member
  obtain ⟨fault, creating⟩ | reading :=
    fails_of_directory sound alike (FileTree.get?_root _) a "1.0.0" ⟨"x86_64-linux"⟩ found
  · cases creating with
    | creating _ failed => simp [made] at failed
    | copying _ _ stalled => cases stalled
  · exact reading

end ReleaseMatrix.Archiver
