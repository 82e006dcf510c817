import ReleaseMatrix.Proofs.SoloRun

namespace ReleaseMatrix.Release

open Workspace (Within)
open FileTree (usable)

variable {r : Release} {targets : List Target} {base : FileTree} {here scratch out : Location} {t : Target}
variable {w : Workspace} {made : Bytes → Prop}

/-- A file is there, or a directory that no file replaces, or nothing. -/
def Draftable (r : Release) (out : Location) (t : Target) (w : Workspace) : Prop :=
  ∀ e, w.files.get? (r.draftPlace out t) = some e → e = .directory ∨ e.isFile

/-- The archive of a target stands at its place, and its path can be used. -/
def Stands (r : Release) (out : Location) (t : Target) (made : Bytes → Prop) (w : Workspace) : Prop :=
  usable r.config.outDir (Archive.fileName r.config.product r.config.version t) = .ok () ∧
    ∃ content executable, made content ∧ w.files.get? (r.archivePlace out t) = some (.file content executable)

namespace Stage

/-- Whether the archive has its name. -/
def isNamed : Stage → Bool
  | .unlink _ | .sweep (.ok _) | .done (.ok _) => true
  | _ => false

/-- The archive has no name yet before a step that leaves it without one. -/
theorem isNamed_of_next {stage : Stage} (unnamed : (stage.next r t w).1.isNamed = false) : stage.isNamed = false := by
  cases stage with
  | unlink _ => simp [next, isNamed] at unnamed
  | sweep archived | done archived => cases archived <;> first | rfl | simp [next, isNamed, Except.mapError] at unnamed
  | reset | compile _ | locate _ | draft _ | undo _ | rename _ => rfl

/-- What a worker at this stage archives: the binary that it has found. -/
def Archives (t : Target) (w : Workspace) (stage : Stage) (content : Bytes) : Prop :=
  ∃ binary data, stage = .draft binary ∧ w.read binary = .ok data ∧
    content = Zip.write ⟨Archive.entryName binary t, Archive.entryMode, data⟩

/-- Where the archive of a target is at a stage: first nowhere, then in the draft, then at its own place. -/
def Filed (r : Release) (out : Location) (t : Target) (made : Bytes → Prop) : Stage → Workspace → Prop
  | .reset, w | .compile _, w | .locate _, w | .draft _, w => r.Draftable out t w
  | .rename _, w => ∃ content executable, made content ∧
      w.files.get? (r.draftPlace out t) = some (.file content executable)
  | .unlink _, w => r.Stands out t made w
  | .sweep (.ok a), w | .done (.ok a), w => a = ⟨t, r.config.version, archivePath r t⟩ ∧ r.Stands out t made w
  | _, _ => True

/-- An archive stays filed while its draft and its place are left alone. -/
theorem Filed.congr {more : Bytes → Prop} {v : Workspace} {stage : Stage} (filed : stage.Filed r out t made w)
    (larger : ∀ content, made content → more content)
    (draft : v.files.get? (r.draftPlace out t) = w.files.get? (r.draftPlace out t))
    (archive : v.files.get? (r.archivePlace out t) = w.files.get? (r.archivePlace out t)) :
    stage.Filed r out t more v := by
  have draftable (before : r.Draftable out t w) : r.Draftable out t v := fun e found =>
    before e (draft.symm.trans found)
  have stands (before : r.Stands out t made w) : r.Stands out t more v := by
    obtain ⟨fits, content, executable, known, found⟩ := before
    exact ⟨fits, content, executable, larger _ known, archive.trans found⟩
  cases stage with
  | reset | compile _ | locate _ | draft _ => exact draftable filed
  | rename _ =>
    obtain ⟨content, executable, known, found⟩ := filed
    exact ⟨content, executable, larger _ known, draft.trans found⟩
  | unlink _ => exact stands filed
  | sweep archived =>
    cases archived with
    | error _ => trivial
    | ok a => exact ⟨filed.1, stands filed.2⟩
  | done ending =>
    cases ending with
    | error _ => trivial
    | ok a => exact ⟨filed.1, stands filed.2⟩
  | undo _ => trivial

theorem IsFailure.filed {stage : Stage} (failure : stage.IsFailure) (w : Workspace) :
    stage.Filed r out t made w := by
  cases stage with
  | undo _ => trivial
  | sweep archived =>
    cases archived with
    | error _ => trivial
    | ok _ => exact failure.elim
  | done ending =>
    cases ending with
    | error _ => trivial
    | ok _ => exact failure.elim
  | reset | compile _ | locate _ | draft _ | rename _ | unlink _ => exact failure.elim

end Stage

namespace Site

variable (site : r.Site targets base here scratch out)
include site

/-- What is below the directory of a target does not touch its draft and its archive. -/
theorem filed_of_below (member : t ∈ targets) {v : Workspace} {stage next : Stage}
    (within : Within (scratch ++ [t.id] <+: ·) w v) (filed : stage.Filed r out t made w)
    (onward : ∀ u, stage.Filed r out t made u → next.Filed r out t made u) : next.Filed r out t made v := by
  refine onward v (filed.congr (fun _ known => known) (within.files _ fun inside => ?_) (within.files _ fun inside => ?_))
  · exact site.scratch_apart_out member member inside (List.prefix_refl _) (.inl rfl)
  · exact site.scratch_apart_out member member inside (List.prefix_refl _) (.inr rfl)

/-- Writing to a draft leaves a file with what was written, or fails and changes nothing. -/
theorem exec_write_file (member : t ∈ targets) (rests : w.Rests base here) (tidy : r.Tidy out t w)
    (draftable : r.Draftable out t w) (content : Bytes) :
    (∃ fault, (FileM.write (Archive.draft (Stage.archivePath r t)) content).exec w = (.error fault, w)) ∨
      ∃ executable, (FileM.write (Archive.draft (Stage.archivePath r t)) content).exec w =
        (.ok (), FileM.changed w (·.put (r.draftPlace out t) (.file content executable))) := by
  rw [site.draft_path member,
    FileM.write_join (rests.leads site.leadsOut) (site.isName_draft member) tidy.noLink tidy.alone]
  cases usable r.config.outDir (Archive.draftName r.config.product r.config.version t) with
  | error fault => exact .inl ⟨fault, rfl⟩
  | ok _ =>
    cases found : w.files.get? (out ++ [Archive.draftName r.config.product r.config.version t]) with
    | none => exact .inr ⟨false, rfl⟩
    | some e =>
      rcases draftable e found with rfl | regular
      · exact .inl ⟨_, rfl⟩
      · cases e with
        | file | program => exact .inr ⟨_, rfl⟩
        | directory | void | queue | link => simp [Entry.isFile] at regular

/-- A draft that is written without a failure holds the archive of the binary. -/
theorem exec_writeDraft_ok (member : t ∈ targets) (rests : w.Rests base here) (tidy : r.Tidy out t w)
    (draftable : r.Draftable out t w) (opened : r.Opened scratch t w)
    (unlinked : w.files.Unlinked (scratch ++ [t.id]) r.config.product t) {binary : Path} (isBinary : r.IsBinary t binary) (entry : String)
    (ok : ((Archiver.writeDraft binary entry (Stage.archivePath r t)).exec w).1 = .ok ()) :
    ∃ data executable, w.read binary = .ok data ∧
      ((Archiver.writeDraft binary entry (Stage.archivePath r t)).exec w).2.files.get? (r.draftPlace out t) =
        some (.file (Zip.write ⟨entry, Archive.entryMode, data⟩) executable) := by
  have root : r.draftPlace out t ≠ [] := by simp [draftPlace]
  rw [Archiver.writeDraft, TaskM.exec_bind, TaskM.exec_describe, FileM.exec_look] at ok ⊢
  cases found : w.find binary with
  | error fault => simp [found, Except.mapError] at ok
  | ok there =>
    simp only [found, Except.mapError, TaskM.exec_describe] at ok ⊢
    rw [TaskM.exec_bind] at ok ⊢
    obtain ⟨fault, failed⟩ | ⟨executable, wrote⟩ := site.exec_write_file member rests tidy draftable []
    · simp [failed] at ok
    · rw [wrote] at ok ⊢
      dsimp only at ok ⊢
      have within : Within (r.draftPlace out t <+: ·) w
          (FileM.changed w (·.put (r.draftPlace out t) (.file [] executable))) := FileM.within_put root
      have rests' := site.rests member (within.mono fun _ inside => .inr (.inl inside)) rests
      have there' : (FileM.changed w (·.put (r.draftPlace out t) (.file [] executable))).files.get?
          (r.draftPlace out t) = some (.file [] executable) := by simp [FileM.changed, FileTree.get?_put root]
      have tidy' : r.Tidy out t (FileM.changed w (·.put (r.draftPlace out t) (.file [] executable))) :=
        ⟨fun target => by simp [there'], tidy.alone⟩
      have draftable' : r.Draftable out t (FileM.changed w (·.put (r.draftPlace out t) (.file [] executable))) := by
        intro e present
        rw [there'] at present
        exact .inr (Option.some_inj.mp present ▸ rfl)
      have same : w.find binary = _ := site.find_opened member rests rests' opened unlinked isBinary fun k inside =>
        (within.files k fun beside => site.scratch_apart_out member member inside beside (.inl rfl)).symm
      have read : (FileM.changed w (·.put (r.draftPlace out t) (.file [] executable))).read binary =
          w.read binary := by rw [Workspace.read, Workspace.read, same]
      rw [TaskM.exec_bind, FileM.exec_look, read] at ok ⊢
      cases reading : w.read binary with
      | error fault => simp [reading] at ok
      | ok data =>
        simp only [reading] at ok ⊢
        obtain ⟨fault, failed⟩ | ⟨executable', wrote'⟩ := site.exec_write_file member rests' tidy' draftable'
          (Zip.write ⟨entry, Archive.entryMode, data⟩)
        · simp [failed] at ok
        · refine ⟨data, executable', rfl, ?_⟩
          rw [wrote']
          simp [FileM.changed, FileTree.get?_put root]

/-- Giving a draft its name brings its archive to its place. -/
theorem filed_rename (member : t ∈ targets) {binary : Path} (rests : w.Rests base here) (tidy : r.Tidy out t w)
    (ready : Stage.Ready r scratch out t (.rename binary) w) (filed : Stage.Filed r out t made (.rename binary) w)
    (ok : ((FileM.rename (Archive.draft (Stage.archivePath r t)) (Stage.archivePath r t)).exec w).1 = .ok ()) :
    r.Stands out t made ((FileM.rename (Archive.draft (Stage.archivePath r t)) (Stage.archivePath r t)).exec w).2 := by
  obtain ⟨isBinary, opened, unlinked, e, found, noDirectory⟩ := ready
  obtain ⟨content, executable, known, draft⟩ := filed
  have dest : r.archivePlace out t ≠ [] := by simp [archivePlace]
  have moved := FileM.get?_relocated_dest (by simp [draftPlace]) dest draft
  rw [site.exec_rename member rests tidy found noDirectory] at ok ⊢
  split at ok
  · simp at ok
  · simp at ok
  · next fits =>
    split at ok
    · simp at ok
    · exact ⟨fits, content, executable, known, moved⟩

/-- A step of a worker brings its archive where the next stage needs it. -/
theorem next_filed (confined : r.compiler.Confined) (member : t ∈ targets) {stage : Stage}
    (kept : r.Kept base here scratch out t stage w) (filed : stage.Filed r out t made w)
    (making : ∀ content, stage.Archives t w content → made content) :
    (stage.next r t w).1.Filed r out t made (stage.next r t w).2 := by
  have rests := kept.rests
  have tidy := kept.tidy
  have ready := kept.ready
  cases stage with
  | reset =>
    simp only [Stage.next]
    cases named : Scratch.directory r.config.scratchDir t with
    | error error => trivial
    | ok p =>
      rw [Scratch.eq_of_directory named]
      simp only [Stage.resetting, WorkM.exec_ofTask]
      refine site.filed_of_below member (site.renewed_reset member rests ready).within filed fun u before => ?_
      cases ((Scratch.reset (r.config.scratchDir.join t.id)).exec w).1 with
      | error error => trivial
      | ok _ => exact before
  | compile q =>
    have within := (confined.within q _ _ (site.leads_compile member rests ready)).mono fun _ => And.left
    have recorded : Stage.Filed r out t made (.compile q) (w.record (.compiled q)) := filed
    have onward (ending : Except (Stop BuildError) Unit) (u : Workspace) (before : Stage.Filed r out t made (.compile q) u) :
        Stage.Filed r out t made (Stage.after (fun _ => .locate q) ending) u := by
      rcases ending with (error | crash) | _
      · trivial
      · trivial
      · exact before
    simp only [Stage.next]
    exact site.filed_of_below member within recorded (onward _)
  | locate q =>
    have waited := Builder.exec_waitForBinary (b := r.builder) (w := w) (confined.prompt q)
    simp only [Stage.next, waited]
    split
    · exact filed
    · trivial
  | draft binary =>
    have written (ok : ((Archiver.writeDraft binary (Archive.entryName binary t)
        (Stage.archivePath r t)).exec w).1 = .ok ()) : Stage.Filed r out t made (.rename binary)
        ((Archiver.writeDraft binary (Archive.entryName binary t) (Stage.archivePath r t)).exec w).2 := by
      obtain ⟨isBinary, opened, unlinked⟩ := ready
      obtain ⟨data, executable, read, written⟩ := site.exec_writeDraft_ok member rests tidy filed opened unlinked
        isBinary (Archive.entryName binary t) ok
      exact ⟨_, executable, making _ ⟨binary, data, rfl, read, rfl⟩, written⟩
    simp only [Stage.next]
    cases outcome : ((Archiver.writeDraft binary (Archive.entryName binary t) (Stage.archivePath r t)).exec w).1 with
    | error error => trivial
    | ok _ => exact written outcome
  | undo error => trivial
  | rename binary =>
    have renamed := site.filed_rename member rests tidy ready filed
    simp only [Stage.next]
    cases outcome : ((FileM.rename (Archive.draft (Stage.archivePath r t)) (Stage.archivePath r t)).exec w).1 with
    | error fault => trivial
    | ok _ => exact renamed outcome
  | unlink binary =>
    have within := site.within_removeBinary member rests ready.1 ready.2.1 ready.2.2
    have onward (u : Workspace) (before : Stage.Filed r out t made (.unlink binary) u) :
        Stage.Filed r out t made (.sweep (.ok ⟨t, r.config.version, Stage.archivePath r t⟩)) u := ⟨rfl, before⟩
    simp only [Stage.next]
    exact site.filed_of_below member within filed onward
  | sweep archived =>
    have within := site.within_removeScratch member rests
    have onward (u : Workspace) (before : Stage.Filed r out t made (.sweep archived) u) :
        Stage.Filed r out t made (.done (archived.mapError .failed)) u := by
      cases archived with
      | error _ => trivial
      | ok a => exact before
    simp only [Stage.next]
    exact site.filed_of_below member within filed onward
  | done ending => exact filed

/-- A step of a worker leaves the place of its archive as it is, or gives its name to a file. -/
theorem next_placed (confined : r.compiler.Confined) (member : t ∈ targets) {stage : Stage}
    (kept : r.Kept base here scratch out t stage w) (filed : stage.Filed r out t made w) :
    (stage.next r t w).2.files.get? (r.archivePlace out t) = w.files.get? (r.archivePlace out t) ∨
      (stage.next r t w).1.isNamed ∧ ∃ e, (stage.next r t w).2.files.get? (r.archivePlace out t) = some e ∧ e.isFile := by
  have rests := kept.rests
  have tidy := kept.tidy
  have ready := kept.ready
  have below {v : Workspace} (within : Within (scratch ++ [t.id] <+: ·) w v) :
      v.files.get? (r.archivePlace out t) = w.files.get? (r.archivePlace out t) :=
    within.files _ fun inside => site.scratch_apart_out member member inside (List.prefix_refl _) (.inr rfl)
  have apart := (r.draft_apart_archive out t).1
  cases stage with
  | reset =>
    simp only [Stage.next]
    cases named : Scratch.directory r.config.scratchDir t with
    | error error => exact .inl rfl
    | ok p =>
      rw [Scratch.eq_of_directory named]
      simp only [Stage.resetting, WorkM.exec_ofTask]
      exact .inl (below (site.renewed_reset member rests ready).within)
  | compile q =>
    have within := (confined.within q _ _ (site.leads_compile member rests ready)).mono fun _ => And.left
    exact .inl (below ((Workspace.within_record _ w _).trans within))
  | locate q =>
    have waited := Builder.exec_waitForBinary (b := r.builder) (w := w) (confined.prompt q)
    simp only [Stage.next]
    rw [waited]
    exact .inl rfl
  | draft binary =>
    have drafted := site.exec_writeDraft member rests tidy binary (Archive.entryName binary t)
    exact .inl (drafted.within.files _ apart)
  | undo error =>
    simp only [Stage.next]
    rw [site.draft_path member, FileM.removeFile_join (rests.leads site.leadsOut) (site.isName_draft member)]
    refine .inl ?_
    split
    · rfl
    · rfl
    · rfl
    · have root : r.draftPlace out t ≠ [] := by simp [draftPlace]
      exact (FileM.within_erase root).files _ apart
  | rename binary =>
    obtain ⟨content, executable, -, draft⟩ := filed
    simp only [Stage.next]
    rw [site.exec_rename member rests tidy draft (by simp)]
    split
    · exact .inl rfl
    · exact .inl rfl
    · split
      · exact .inl rfl
      · exact .inr ⟨rfl, _, FileM.get?_relocated_dest (by simp [draftPlace]) (by simp [archivePlace]) draft, rfl⟩
  | unlink binary => exact .inl (below (site.within_removeBinary member rests ready.1 ready.2.1 ready.2.2))
  | sweep archived => exact .inl (below (site.within_removeScratch member rests))
  | done ending => exact .inl rfl

theorem next_refilled (confined : r.compiler.Confined) (member : t ∈ targets) {stage : Stage}
    (kept : r.Kept base here scratch out t stage w) (filed : stage.Filed r out t made w) :
    Workspace.Refilled (r.archivePlace out t) w (stage.next r t w).2 :=
  (site.next_placed confined member kept filed).imp_right And.right

end Site

/-- What holds while a crew works: every worker finds what it needs, and nothing has changed outside the areas of
the workers. -/
structure Crew.Tended (r : Release) (targets : List Target) (base : FileTree) (here scratch out : Location)
    (w : Workspace) (crew : Crew) : Prop where
  length : crew.stages.length = targets.length
  kept : ∀ (j : Nat) (t : Target) (stage : Stage), targets[j]? = some t → crew.stages[j]? = some stage →
    r.Kept base here scratch out t stage crew.workspace
  frame : Within (fun k => ∃ t ∈ targets, r.Area scratch out t k) w crew.workspace
  ended : ∀ (j : Nat) (ending : Schedule.End Archive), crew.pool.phases[j]? = some (.ended ending) ∨
    crew.pool.phases[j]? = some (.joined ending) → crew.stages[j]? = some (.done ending)

/-- Somewhere on the way from one crew to another, the worker of a target had found the binary whose archive
this is. -/
def Crew.Archived (r : Release) (targets : List Target) (scratch out : Location) (breaks : Target → Prop)
    (start crew : Crew) (t : Target) (content : Bytes) : Prop :=
  ∃ (before : Crew) (stage : Stage) (j : Nat), Reach r targets scratch out breaks start before ∧
    Reach r targets scratch out breaks before crew ∧ targets[j]? = some t ∧ before.stages[j]? = some stage ∧
    stage.Archives t before.workspace content

/-- Every worker's archive is where its stage has it. -/
def Crew.Filed (r : Release) (targets : List Target) (scratch out : Location) (breaks : Target → Prop)
    (start crew : Crew) : Prop :=
  ∀ (j : Nat) (t : Target) (stage : Stage), targets[j]? = some t → crew.stages[j]? = some stage →
    stage.Filed r out t (Archived r targets scratch out breaks start crew t) crew.workspace

/-- Where an archive has no name yet, its place is as it was in the files that the crew started from, unless its worker
breaks down. -/
def Crew.Unnamed (r : Release) (targets : List Target) (out : Location) (breaks : Target → Prop) (w : Workspace)
    (crew : Crew) : Prop :=
  ∀ (j : Nat) (t : Target) (stage : Stage), targets[j]? = some t → ¬ breaks t → crew.stages[j]? = some stage →
    stage.isNamed = false → crew.workspace.files.get? (r.archivePlace out t) = w.files.get? (r.archivePlace out t)

variable {breaks : Target → Prop} {start crew crew' : Crew} {jobs : Nat}

theorem Crew.Archived.next {content : Bytes} (archived : Archived r targets scratch out breaks start crew t content)
    (step : Crew.Step r targets scratch out breaks crew crew') :
    Archived r targets scratch out breaks start crew' t content := by
  obtain ⟨before, stage, j, reach, further, at_j, found, archives⟩ := archived
  exact ⟨before, stage, j, reach, further.next step, at_j, found, archives⟩

namespace Site

variable (site : r.Site targets base here scratch out)
include site

theorem tended_step (confined : r.compiler.Confined) (nodup : targets.Nodup)
    (tended : crew.Tended r targets base here scratch out w)
    (step : Crew.Step r targets scratch out breaks crew crew') : crew'.Tended r targets base here scratch out w := by
  obtain ⟨length, kept, frame, ended⟩ := tended
  have later {s : Target} {u v : Workspace} (memberS : s ∈ targets) (within : Within (r.Area scratch out s) u v)
      (frame : Within (fun k => ∃ s ∈ targets, r.Area scratch out s k) w u) :
      Within (fun k => ∃ s ∈ targets, r.Area scratch out s k) w v :=
    frame.trans (within.mono fun _ inside => ⟨s, memberS, inside⟩)
  have others {i j : Nat} {phases : List (Schedule.Phase Archive)} {ending : Schedule.End Archive}
      (running : phases[i]? = some .running)
      (phase : phases[j]? = some (.ended ending) ∨ phases[j]? = some (.joined ending)) : i ≠ j := by
    rintro rfl
    simp [running] at phase
  cases step with
  | start step | join step =>
    exact ⟨length, kept, frame, fun j ending phase => ended j ending (step.ended_before (by simp) phase)⟩
  | @finish i t e _ _ _ u at_i done step =>
    have recorded := Workspace.within_record (fun k => ∃ s ∈ targets, r.Area scratch out s k) u (.finished t)
    refine ⟨length, fun j s stage at_j found => ?_, frame.trans recorded, fun j ending phase => ?_⟩
    · obtain ⟨rests, tidy, ready⟩ := kept j s stage at_j found
      exact ⟨⟨rests.keeps, rests.home⟩, ⟨tidy.noLink, tidy.alone⟩, ready.congr fun _ _ => rfl⟩
    · by_cases own : Schedule.Move.finish i e = .finish j ending
      · obtain ⟨rfl, rfl⟩ : i = j ∧ e = ending := by simpa using own
        exact done
      · exact ended j ending (step.ended_before own phase)
  | @advance i t stage _ _ u running at_i atStage =>
    have memberT := List.mem_of_getElem? at_i
    obtain ⟨within, now⟩ := site.next_kept (confined.installs _) memberT (kept i t stage at_i atStage)
    refine ⟨by simp [length], site.kept_set nodup at_i within kept now, later memberT within frame,
      fun j ending phase => ?_⟩
    rw [List.getElem?_set_ne (others running phase)]
    exact ended j ending phase
  | @fail i t failure _ stages u v running at_i breaking failed within tidy =>
    have memberT := List.mem_of_getElem? at_i
    obtain ⟨bound, -⟩ := List.getElem?_eq_some_iff.mp at_i
    obtain ⟨stage, atStage⟩ : ∃ stage, stages[i]? = some stage :=
      ⟨_, List.getElem?_eq_getElem (by simpa [length] using bound)⟩
    have now : r.Kept base here scratch out t failure v :=
      ⟨site.rests memberT within (kept i t stage at_i atStage).rests, tidy, failed.ready v⟩
    refine ⟨by simp [length], site.kept_set nodup at_i within kept now, later memberT within frame,
      fun j ending phase => ?_⟩
    rw [List.getElem?_set_ne (others running phase)]
    exact ended j ending phase

/-- A worker that changes its own area leaves the archives of the others where they are. -/
theorem filed_set (nodup : targets.Nodup) {stages : List Stage} {v : Workspace} {i : Nat} {now : Stage}
    {known known' : Target → Bytes → Prop} (larger : ∀ s content, known s content → known' s content)
    (at_i : targets[i]? = some t) (within : Within (r.Area scratch out t) w v)
    (filed : ∀ (j : Nat) (s : Target) (stage : Stage), targets[j]? = some s → stages[j]? = some stage →
      stage.Filed r out s (known s) w)
    (own : now.Filed r out t (known' t) v) (j : Nat) (s : Target) (stage : Stage)
    (at_j : targets[j]? = some s) (found : (stages.set i now)[j]? = some stage) :
    stage.Filed r out s (known' s) v := by
  have memberT := List.mem_of_getElem? at_i
  have memberS := List.mem_of_getElem? at_j
  obtain ⟨rfl, rfl, rfl⟩ | ⟨apart, found⟩ := Crew.stage_cases at_i at_j found
  · exact own
  · have other := (Crew.target_ne nodup at_i at_j apart).symm
    refine (filed j s stage at_j found).congr (larger s) (within.files _ ?_) (within.files _ ?_)
    · exact site.areas_disjoint memberS memberT other (.inr (.inl (List.prefix_refl _)))
    · exact site.areas_disjoint memberS memberT other (.inr (.inr (List.prefix_refl _)))

/-- Every move of a crew keeps its archives filed. -/
theorem filed_step (confined : r.compiler.Confined) (nodup : targets.Nodup)
    (reach : Crew.Reach r targets scratch out breaks start crew)
    (tended : crew.Tended r targets base here scratch out w)
    (filed : Crew.Filed r targets scratch out breaks start crew)
    (step : Crew.Step r targets scratch out breaks crew crew') :
    Crew.Filed r targets scratch out breaks start crew' := by
  have larger (s : Target) (content : Bytes) :
      Crew.Archived r targets scratch out breaks start crew s content →
        Crew.Archived r targets scratch out breaks start crew' s content := fun archived => archived.next step
  have moved := step
  cases step with
  | start | join | finish => exact fun j s stage at_j found => (filed j s stage at_j found).congr (larger s) rfl rfl
  | @advance i t stage _ _ u running at_i atStage =>
    have memberT := List.mem_of_getElem? at_i
    obtain ⟨within, -⟩ := site.next_kept (confined.installs _) memberT (tended.kept i t stage at_i atStage)
    have own := site.next_filed confined memberT (tended.kept i t stage at_i atStage)
      ((filed i t stage at_i atStage).congr (larger t) rfl rfl)
      fun content archives => ⟨_, stage, i, reach, .next .start moved, at_i, atStage, archives⟩
    exact site.filed_set nodup larger at_i within filed own
  | @fail i t failure _ _ _ v running at_i breaking failed within tidy =>
    exact site.filed_set nodup larger at_i within filed (failed.filed v)

/-- A move of a crew leaves the place of an archive as it is that has no name afterwards, unless its worker breaks
down. -/
theorem unnamed_step (confined : r.compiler.Confined) (nodup : targets.Nodup)
    (tended : crew.Tended r targets base here scratch out w)
    (filed : Crew.Filed r targets scratch out breaks start crew)
    (unnamed : crew.Unnamed r targets out breaks w)
    (step : Crew.Step r targets scratch out breaks crew crew') : crew'.Unnamed r targets out breaks w := by
  have others {i j : Nat} {s t : Target} {u v : Workspace}
      (at_i : targets[i]? = some t) (at_j : targets[j]? = some s) (apart : i ≠ j)
      (within : Within (r.Area scratch out t) u v) (before : u.files.get? (r.archivePlace out s) =
        w.files.get? (r.archivePlace out s)) :
      v.files.get? (r.archivePlace out s) = w.files.get? (r.archivePlace out s) := by
    rw [within.files _ ?_, before]
    exact site.areas_disjoint (List.mem_of_getElem? at_j) (List.mem_of_getElem? at_i)
      (Crew.target_ne nodup at_i at_j apart).symm (.inr (.inr (List.prefix_refl _)))
  cases step with
  | start | join | finish => exact unnamed
  | @advance i t stage _ stages u running at_i atStage =>
    have memberT := List.mem_of_getElem? at_i
    have kept := tended.kept i t stage at_i atStage
    intro j s later at_j sound found nameless
    obtain ⟨rfl, rfl, rfl⟩ | ⟨apart, found⟩ := Crew.stage_cases at_i at_j found
    · obtain same | ⟨named, -⟩ := site.next_placed confined memberT kept (filed i t stage at_i atStage)
      · exact same.trans (unnamed i t stage at_i sound atStage (Stage.isNamed_of_next nameless))
      · simp [nameless] at named
    · exact others at_i at_j apart (site.next_kept (confined.installs _) memberT kept).1 (unnamed j s later at_j sound found nameless)
  | @fail i t failure _ stages u v running at_i breaking failed within tidy =>
    intro j s later at_j sound found nameless
    obtain ⟨rfl, rfl, rfl⟩ | ⟨apart, found⟩ := Crew.stage_cases at_i at_j found
    · exact absurd breaking sound
    · exact others at_i at_j apart within (unnamed j s later at_j sound found nameless)

/-- A move of a crew leaves the place of an archive as it is, or puts a file there, unless its worker breaks down. -/
theorem refilled_step (confined : r.compiler.Confined) (tended : crew.Tended r targets base here scratch out w)
    (filed : Crew.Filed r targets scratch out breaks start crew) (member : t ∈ targets) (sound : ¬ breaks t)
    (step : Crew.Step r targets scratch out breaks crew crew') :
    Workspace.Refilled (r.archivePlace out t) crew.workspace crew'.workspace := by
  have beside {s : Target} {u v : Workspace} (memberS : s ∈ targets) (other : t ≠ s)
      (within : Within (r.Area scratch out s) u v) : Workspace.Refilled (r.archivePlace out t) u v :=
    .inl (within.files _ (site.areas_disjoint member memberS other (.inr (.inr (List.prefix_refl _)))))
  cases step with
  | start | join | finish => exact .inl rfl
  | @fail i s _ _ _ u v running at_i breaking failed within tidy =>
    refine beside (List.mem_of_getElem? at_i) ?_ within
    rintro rfl
    exact sound breaking
  | @advance i s stage _ _ u running at_i atStage =>
    have memberS := List.mem_of_getElem? at_i
    by_cases own : t = s
    · subst own
      exact site.next_refilled confined memberS (tended.kept i t stage at_i atStage) (filed i t stage at_i atStage)
    · exact beside memberS own (site.next_kept (confined.installs _) memberS (tended.kept i s stage at_i atStage)).1

end Site

namespace Ground

theorem tended_initial (ground : r.Ground targets scratch out w) :
    (Crew.initial jobs targets w).Tended r targets (w.files.without (r.isUsed targets scratch out)) w.directory
      scratch out w where
  length := by simp [Crew.initial]
  kept j s stage at_j found := by
    obtain rfl : stage = .reset := by
      rw [Crew.initial, List.getElem?_map, at_j] at found
      exact (Option.some_inj.mp found).symm
    exact ground.kept (List.mem_of_getElem? at_j)
  frame := .refl _ w
  ended j ending phase := by
    have waiting : (Crew.initial jobs targets w).pool.phases = List.replicate targets.length .waiting := rfl
    rw [waiting, List.getElem?_replicate] at phase
    split at phase <;> simp at phase

end Ground

/-- Whatever becomes of a crew, its workers keep to their areas. -/
theorem Crew.Reach.tended (confined : r.compiler.Confined) (nodup : targets.Nodup)
    (names : ∀ t ∈ targets, IsName t.id) (ground : r.Ground targets scratch out w)
    (reach : Crew.Reach r targets scratch out breaks (.initial jobs targets w) crew) :
    crew.Tended r targets (w.files.without (r.isUsed targets scratch out)) w.directory scratch out w := by
  induction reach with
  | start => exact ground.tended_initial
  | next _ step ih => exact (ground.site names).tended_step confined nodup ih step

/-- Whatever becomes of a crew, the archives of its workers are where their stages have them. -/
theorem Crew.Reach.filed (confined : r.compiler.Confined) (nodup : targets.Nodup)
    (names : ∀ t ∈ targets, IsName t.id) (ground : r.Ground targets scratch out w)
    (draftable : ∀ t ∈ targets, r.Draftable out t w)
    (reach : Crew.Reach r targets scratch out breaks (.initial jobs targets w) crew) :
    Crew.Filed r targets scratch out breaks (.initial jobs targets w) crew := by
  induction reach with
  | start =>
    intro j t stage at_j found
    obtain rfl : stage = .reset := by
      rw [Crew.initial, List.getElem?_map, at_j] at found
      exact (Option.some_inj.mp found).symm
    exact draftable t (List.mem_of_getElem? at_j)
  | next reach step ih =>
    exact (ground.site names).filed_step confined nodup reach (reach.tended confined nodup names ground) ih step

/-- The place of an archive ends as it was, or with a file, unless its worker breaks down. -/
theorem Crew.Reach.refilled (confined : r.compiler.Confined) (nodup : targets.Nodup)
    (names : ∀ t ∈ targets, IsName t.id) (ground : r.Ground targets scratch out w)
    (draftable : ∀ t ∈ targets, r.Draftable out t w) (member : t ∈ targets) (sound : ¬ breaks t)
    (reach : Crew.Reach r targets scratch out breaks (.initial jobs targets w) crew) :
    Workspace.Refilled (r.archivePlace out t) w crew.workspace := by
  induction reach with
  | start => exact .inl rfl
  | next reach step ih =>
    exact ih.trans ((ground.site names).refilled_step confined (reach.tended confined nodup names ground)
      (reach.filed confined nodup names ground draftable) member sound step)

/-- Whatever becomes of a crew, its archives get their names last. -/
theorem Crew.Reach.unnamed (confined : r.compiler.Confined) (nodup : targets.Nodup)
    (names : ∀ t ∈ targets, IsName t.id) (ground : r.Ground targets scratch out w)
    (draftable : ∀ t ∈ targets, r.Draftable out t w)
    (reach : Crew.Reach r targets scratch out breaks (.initial jobs targets w) crew) :
    crew.Unnamed r targets out breaks w := by
  induction reach with
  | start => exact fun _ _ _ _ _ _ _ => rfl
  | next reach step ih =>
    exact (ground.site names).unnamed_step confined nodup (reach.tended confined nodup names ground)
      (reach.filed confined nodup names ground draftable) ih step

end ReleaseMatrix.Release
