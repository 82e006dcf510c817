import ReleaseMatrix.Proofs.Execution
import ReleaseMatrix.Release

namespace ReleaseMatrix.Release

/-- How far the worker of a target is with its build: what it does to the files next, or how it ended. -/
inductive Stage
  | reset
  | compile (request : BuildRequest)
  | locate (request : BuildRequest)
  | draft (binary : Path)
  | undo (error : ArchiveError)
  | rename (binary : Path)
  | unlink (binary : Path)
  | sweep (archived : Except TargetFailure Archive)
  | done (ending : Except (Stop TargetFailure) Archive)

namespace Stage

/-- The stage after a part of the build: the next one, or what follows a failure or a breakdown. -/
def after {α : Type} (next : α → Stage) : Except (Stop BuildError) α → Stage
  | .ok a => next a
  | .error (.failed error) => .sweep (.error (.build error))
  | .error (.crashed crash) => .done (.error (.crashed crash))

/-- The stage after a draft was written, or was not. -/
def afterDraft (binary : Path) : Except ArchiveError Unit → Stage
  | .ok _ => .rename binary
  | .error error => .undo error

/-- The stage after a draft got its name, or did not. -/
def afterRename (binary path : Path) : Except FileFault Unit → Stage
  | .ok _ => .unlink binary
  | .error fault => .sweep (.error (.archive (.unwritable path fault.message)))

/-- The name that the archive of a target is to get. -/
def archivePath (r : Release) (t : Target) : Path :=
  r.packaging.archiver.path r.config.version t

/-- Makes the directory of a target anew, if it has one. -/
def resetting (r : Release) (t : Target) (w : Workspace) : Except BuildError Path → Stage × Workspace
  | .error error => (.sweep (.error (.build error)), w)
  | .ok scratch =>
    let run := (WorkM.ofTask (Scratch.reset scratch)).exec w
    (after (fun _ => .compile ⟨t, r.builder.profile t, scratch⟩) run.1, run.2)

/-- What a worker does next to the workspace, one step of its work at a time. -/
def next (r : Release) (t : Target) : Stage → Workspace → Stage × Workspace
  | .reset, w => resetting r t w (Scratch.directory r.config.scratchDir t)
  | .compile request, w =>
    let run := (r.compiler.compile request).exec (w.record (.compiled request))
    (after (fun _ => .locate request) run.1, run.2)
  | .locate request, w =>
    let run := (r.builder.waitForBinary request).exec w
    (after .draft run.1, run.2)
  | .draft binary, w =>
    let run := (Archiver.writeDraft binary (Archive.entryName binary t) (archivePath r t)).exec w
    (afterDraft binary run.1, run.2)
  | .undo error, w =>
    (.sweep (.error (.archive error)), ((FileM.removeFile (Archive.draft (archivePath r t))).exec w).2)
  | .rename binary, w =>
    let run := (FileM.rename (Archive.draft (archivePath r t)) (archivePath r t)).exec w
    (afterRename binary (archivePath r t) run.1, run.2)
  | .unlink binary, w =>
    (.sweep (.ok ⟨t, r.config.version, archivePath r t⟩), ((FileM.removeFile binary).exec w).2)
  | .sweep archived, w => (.done (archived.mapError .failed), ((removeScratch r.config.scratchDir t).exec w).2)
  | .done ending, w => (.done ending, w)

/-- The work that is left once a build has ended. -/
def finishing (r : Release) (t : Target) (built : Except BuildError Path) : WorkM TargetFailure Archive :=
  WorkM.ofTask do
    let archived ← (r.archiveBuilt t built).attempt
    removeScratch r.config.scratchDir t
    MonadExcept.ofExcept archived

/-- The work that is left once an archive is made, or is not. -/
def sweeping (r : Release) (t : Target) (archived : Except TargetFailure Archive) :
    WorkM TargetFailure Archive :=
  WorkM.ofTask do
    removeScratch r.config.scratchDir t
    MonadExcept.ofExcept archived

/-- The work that is left at a stage. -/
def remaining (r : Release) (t : Target) : Stage → WorkM TargetFailure Archive
  | .reset => r.buildTarget t
  | .compile request => do
    finishing r t (← (r.builder.compileAndWait request).outcome.describe .crashed)
  | .locate request => do
    finishing r t (← (r.builder.waitForBinary request).outcome.describe .crashed)
  | .draft binary => finishing r t (.ok binary)
  | .undo error => do
    let _ ← (FileM.removeFile (Archive.draft (archivePath r t))).attempt
    sweeping r t (.error (.archive error))
  | .rename binary => do
    match ← (FileM.rename (Archive.draft (archivePath r t)) (archivePath r t)).attempt with
    | .ok _ =>
      let _ ← (FileM.removeFile binary).attempt
      sweeping r t (.ok ⟨t, r.config.version, archivePath r t⟩)
    | .error fault => sweeping r t (.error (.archive (.unwritable (archivePath r t) fault.message)))
  | .unlink binary => do
    let _ ← (FileM.removeFile binary).attempt
    sweeping r t (.ok ⟨t, r.config.version, archivePath r t⟩)
  | .sweep archived => sweeping r t archived
  | .done ending => MonadExcept.ofExcept ending

variable {r : Release} {t : Target} {w : Workspace}

theorem exec_outcome {ε α : Type} (x : WorkM ε α) :
    x.outcome.exec w = match x.exec w with
      | (.ok a, v) => (.ok (.ok a), v)
      | (.error (.failed error), v) => (.ok (.error error), v)
      | (.error (.crashed crash), v) => (.error crash, v) := by
  rw [WorkM.outcome, TaskM.exec_bind, TaskM.exec_attempt]
  rcases x.exec w with ⟨(error | crash) | a, v⟩ <;> rfl

theorem exec_removeScratch (root : Path) (t : Target) :
    ((removeScratch root t).exec w).1 = .ok () := by
  unfold removeScratch
  cases Scratch.directory root t with
  | error error => rfl
  | ok scratch =>
    rw [TaskM.exec_bind, TaskM.exec_attempt]
    rfl

theorem exec_removeScratch_of_directory {root p : Path} (named : Scratch.directory root t = .ok p) :
    ((removeScratch root t).exec w).2 = ((Files.removeDirectory p).exec w).2 := by
  unfold removeScratch
  simp only [named]
  rfl

theorem exec_removeScratch_of_no_directory {root : Path} {error : BuildError}
    (unnamed : Scratch.directory root t = .error error) : ((removeScratch root t).exec w).2 = w := by
  unfold removeScratch
  simp only [unnamed]
  rfl

theorem exec_sweeping (archived : Except TargetFailure Archive) :
    (sweeping r t archived).exec w =
      (archived.mapError .failed, ((removeScratch r.config.scratchDir t).exec w).2) := by
  have swept := exec_removeScratch (w := w) r.config.scratchDir t
  rw [sweeping, WorkM.exec_ofTask, TaskM.exec_bind]
  rcases ran : (removeScratch r.config.scratchDir t).exec w with ⟨x, v⟩
  rw [ran] at swept
  subst swept
  simp

theorem exec_finishing (built : Except BuildError Path) :
    (finishing r t built).exec w =
      (sweeping r t ((r.archiveBuilt t built).exec w).1).exec ((r.archiveBuilt t built).exec w).2 := by
  rw [finishing, sweeping, WorkM.exec_ofTask, WorkM.exec_ofTask, TaskM.exec_bind, TaskM.exec_attempt]

/-- What follows a part of the build is decided by how it ended. -/
theorem exec_after {α : Type} (x : WorkM BuildError α) (next : α → Stage) (more : α → WorkM BuildError Path)
    (going : ∀ a v, ((next a).remaining r t).exec v =
      (((more a).outcome.describe .crashed : WorkM TargetFailure (Except BuildError Path)) >>=
        finishing r t).exec v) :
    ((after next (x.exec w).1).remaining r t).exec (x.exec w).2 =
      (((x >>= more).outcome.describe .crashed : WorkM TargetFailure (Except BuildError Path)) >>=
        finishing r t).exec w := by
  rw [TaskM.exec_bind, TaskM.exec_describe, exec_outcome, TaskM.exec_bind]
  rcases x.exec w with ⟨(error | crash) | a, v⟩
  · simp only [after, remaining, Except.mapError, exec_finishing, archiveBuilt, TaskM.exec_throw]
  · rfl
  · rw [after, going, TaskM.exec_bind, TaskM.exec_describe, exec_outcome]

theorem build_of_directory {b : Builder} {root scratch : Path} (named : Scratch.directory root t = .ok scratch) :
    b.build t root =
      WorkM.ofTask (Scratch.reset scratch) >>= fun _ => b.compileAndWait ⟨t, b.profile t, scratch⟩ := by
  rw [Builder.build, Builder.buildWith, named]
  rfl

theorem build_of_no_directory {b : Builder} {root : Path} {error : BuildError}
    (unnamed : Scratch.directory root t = .error error) : b.build t root = WorkM.fail error := by
  rw [Builder.build, Builder.buildWith, unnamed]
  rfl

theorem exec_compileAndWait {b : Builder} (request : BuildRequest) :
    (b.compileAndWait request).exec w =
      (b.compiler.compile request >>= fun _ => b.waitForBinary request).exec (w.record (.compiled request)) := by
  rw [Builder.compileAndWait, TaskM.exec_bind, TaskM.exec_modify]

/-- Archiving a binary: a draft that cannot be written is removed again, and a binary that is archived is
removed. -/
theorem exec_package (a : Archiver) (version : String) (binary : Path) :
    (a.package version t (some binary)).exec w =
      match (Archiver.writeDraft binary (Archive.entryName binary t) (a.path version t)).exec w with
      | (.error error, v) => (.error error, ((FileM.removeFile (Archive.draft (a.path version t))).exec v).2)
      | (.ok _, v) =>
        match (FileM.rename (Archive.draft (a.path version t)) (a.path version t)).exec v with
        | (.error fault, u) => (.error (.unwritable (a.path version t) fault.message), u)
        | (.ok _, u) => (.ok ⟨t, version, a.path version t⟩, ((FileM.removeFile binary).exec u).2) := by
  rw [Archiver.package, TaskM.exec_bind, TaskM.exec_attempt]
  rcases (Archiver.writeDraft binary (Archive.entryName binary t) (a.path version t)).exec w with ⟨error | _, v⟩
  · dsimp only
    rw [TaskM.exec_bind, TaskM.exec_attempt]
    dsimp only
    rw [TaskM.exec_throw]
  · dsimp only
    rw [TaskM.exec_bind, TaskM.exec_describe]
    rcases (FileM.rename (Archive.draft (a.path version t)) (a.path version t)).exec v with ⟨fault | _, u⟩
    · dsimp only [Except.mapError]
    · dsimp only [Except.mapError]
      rw [TaskM.exec_bind, TaskM.exec_attempt]
      dsimp only
      rw [TaskM.exec_pure]

theorem buildTarget_eq : r.buildTarget t =
    ((r.builder.build t r.config.scratchDir).outcome.describe .crashed : WorkM TargetFailure _) >>=
      finishing r t := rfl

/-- A step does the first part of the work that is left. -/
theorem exec_remaining_next (s : Stage) (w : Workspace) :
    ((s.next r t w).1.remaining r t).exec (s.next r t w).2 = (s.remaining r t).exec w := by
  cases s with
  | reset =>
    change _ = (r.buildTarget t).exec w
    rw [buildTarget_eq]
    simp only [next, resetting]
    cases named : Scratch.directory r.config.scratchDir t with
    | error error =>
      rw [build_of_no_directory named, TaskM.exec_bind, TaskM.exec_describe, exec_outcome, WorkM.exec_fail]
      simp only [Except.mapError, exec_finishing, archiveBuilt, TaskM.exec_throw]
      rfl
    | ok scratch =>
      rw [build_of_directory named]
      exact exec_after (WorkM.ofTask (Scratch.reset scratch)) _
        (fun _ => r.builder.compileAndWait ⟨t, r.builder.profile t, scratch⟩) fun _ _ => rfl
  | compile request =>
    have going := exec_after (r := r) (t := t) (w := w.record (.compiled request)) (r.compiler.compile request)
      (fun _ => .locate request) (fun _ => r.builder.waitForBinary request) fun _ _ => rfl
    rw [TaskM.exec_bind, TaskM.exec_describe, exec_outcome] at going
    simp only [next, remaining]
    rw [TaskM.exec_bind, TaskM.exec_describe, exec_outcome, exec_compileAndWait]
    exact going
  | locate request =>
    have found (binary : Path) (v : Workspace) : ((draft binary).remaining r t).exec v =
        (((pure binary : WorkM BuildError Path).outcome.describe .crashed :
          WorkM TargetFailure (Except BuildError Path)) >>= finishing r t).exec v := by
      rw [TaskM.exec_bind, TaskM.exec_describe, exec_outcome, TaskM.exec_pure]
      simp only [remaining, Except.mapError]
    have going := exec_after (w := w) (r.builder.waitForBinary request) .draft pure found
    have whole : r.builder.waitForBinary request >>= pure = r.builder.waitForBinary request := bind_pure _
    rw [whole] at going
    simp only [next, remaining]
    exact going
  | draft binary =>
    have packaged := exec_package (t := t) (w := w) r.packaging.archiver r.config.version binary
    simp only [next, remaining, archivePath]
    rw [exec_finishing, archiveBuilt, TaskM.exec_describe, packaged]
    generalize (Archiver.writeDraft binary (Archive.entryName binary t)
      (r.packaging.archiver.path r.config.version t)).exec w = drafted
    rcases drafted with ⟨error | _, v⟩
    · dsimp only [afterDraft, remaining, Except.mapError]
      rw [TaskM.exec_bind, TaskM.exec_attempt]
    · dsimp only [afterDraft, remaining, archivePath]
      rw [TaskM.exec_bind, TaskM.exec_attempt]
      generalize (FileM.rename (Archive.draft (r.packaging.archiver.path r.config.version t))
        (r.packaging.archiver.path r.config.version t)).exec v = renamed
      rcases renamed with ⟨fault | _, u⟩
      · dsimp only [Except.mapError]
      · dsimp only [Except.mapError]
        rw [TaskM.exec_bind, TaskM.exec_attempt]
  | undo error =>
    simp only [next, remaining]
    rw [TaskM.exec_bind, TaskM.exec_attempt]
  | rename binary =>
    simp only [next, remaining]
    rw [TaskM.exec_bind, TaskM.exec_attempt]
    generalize (FileM.rename (Archive.draft (archivePath r t)) (archivePath r t)).exec w = renamed
    rcases renamed with ⟨fault | _, v⟩
    · dsimp only [afterRename, remaining]
    · dsimp only [afterRename, remaining]
  | unlink binary =>
    simp only [next, remaining]
    rw [TaskM.exec_bind, TaskM.exec_attempt]
  | sweep archived => simp only [next, remaining, exec_sweeping, TaskM.exec_ofExcept]
  | done ending => rfl

/-- The stages and workspaces that a worker comes to by steps of its own. -/
inductive Works (r : Release) (t : Target) (s : Stage) (w : Workspace) : Stage → Workspace → Prop
  | start : Works r t s w s w
  | next {u : Stage} {v : Workspace} : Works r t s w u v → Works r t s w (u.next r t v).1 (u.next r t v).2

theorem Works.exec_remaining {s u : Stage} {v : Workspace} (works : Works r t s w u v) :
    (u.remaining r t).exec v = (s.remaining r t).exec w := by
  induction works with
  | start => rfl
  | next _ ih => rw [exec_remaining_next, ih]

/-- A worker that is done has done what building the target does. -/
theorem Works.exec_buildTarget {ending : Except (Stop TargetFailure) Archive} {v : Workspace}
    (works : Works r t .reset w (.done ending) v) : (r.buildTarget t).exec w = (ending, v) := by
  have same := works.exec_remaining
  simp only [remaining, TaskM.exec_ofExcept] at same
  exact same.symm

end Stage

end ReleaseMatrix.Release
