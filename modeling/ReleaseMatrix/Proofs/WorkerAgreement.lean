import ReleaseMatrix.Proofs.WorkerArea

namespace ReleaseMatrix

open Workspace (Within)
open FileTree (usable)

/-- A compiler that reads nothing but some sources, when the directory it installs to is empty. -/
def Compiler.Reads (c : Compiler) (sources : Location → Prop) : Prop :=
  ∀ q w v l, w.Leads q.installDir l → v.Leads q.installDir l →
    (∀ k, l <+: k → k ≠ l → w.files.get? k = none ∧ v.files.get? k = none) →
    (∀ k, sources k → w.files.get? k = v.files.get? k) →
    ((c.compile q).exec w).1 = ((c.compile q).exec v).1 ∧
      ∀ k, l <+: k → ((c.compile q).exec w).2.files.get? k = ((c.compile q).exec v).2.files.get? k

/-- A compiler whose run reads nothing but some sources, when the directory it installs to is empty, and that reads
nothing after it but these and what is in that directory. -/
structure Compiler.Depends (c : Compiler) (sources : Location → Prop) : Prop where
  reads : c.Reads sources
  later : ∀ (q : BuildRequest) n (w v : Workspace) l, w.Leads q.installDir l → v.Leads q.installDir l →
    (∀ k, l <+: k → w.files.get? k = v.files.get? k) → (∀ k, sources k → w.files.get? k = v.files.get? k) →
    ∀ k, l <+: k → (c.filesAt q n w.files).get? k = (c.filesAt q n v.files).get? k

theorem Compiler.Depends.mono {c : Compiler} {sources more : Location → Prop} (depends : c.Depends sources)
    (known : ∀ k, sources k → more k) : c.Depends more where
  reads q w v l leads leads' empty same := depends.reads q w v l leads leads' empty fun k source => same k (known k source)
  later q n w v l leads leads' below same :=
    depends.later q n w v l leads leads' below fun k source => same k (known k source)

/-- A compiler that has written everything when its run ends reads nothing after it. -/
theorem Compiler.Reads.depends {c : Compiler} {sources : Location → Prop} (reads : c.Reads sources)
    (enclosed : c.Enclosed) : c.Depends sources where
  reads := reads
  later q n w v l _ _ below _ := by simpa only [enclosed.prompt] using below

/-- Waiting for a binary ends alike where the directories of two builds hold the same at every moment, and no link is on
the way to the binary. -/
theorem Builder.waitForBinary_alike {b : Builder} {q : BuildRequest} {w v : Workspace} {l : Location}
    (product : IsName b.product) (leads : ∀ n, (b.seen q w n).Leads q.installDir l)
    (leads' : ∀ n, (b.seen q v n).Leads q.installDir l)
    (same : ∀ n k, l <+: k → (b.seen q w n).files.get? k = (b.seen q v n).files.get? k)
    (unlinked : ∀ n, (b.seen q w n).files.Unlinked l b.product q.target) :
    ∃ result last, (b.waitForBinary q).exec w = (result, b.seen q w last) ∧
      (b.waitForBinary q).exec v = (result, b.seen q v last) := by
  have seen (n : Nat) {file : String} (spells : q.target.Spells b.product file) :
      Workspace.entry? (b.seen q w n) ((q.installDir.join "bin").join file) =
        Workspace.entry? (b.seen q v n) ((q.installDir.join "bin").join file) := by
    rw [Workspace.entry?, Workspace.entry?, (Workspace.find_below (leads n) (leads' n) (same n) (unlinked n file spells)
      Release.isName_bin (spells.isName product)).1]
  have chosen : b.chosen q w = b.chosen q v := by
    have full := congrArg Option.isSome (seen 0 (.inr rfl))
    have bare := congrArg Option.isSome (seen 1 (.inl rfl))
    rw [← Workspace.exists?, ← Workspace.exists?] at full bare
    rw [Builder.chosen, Builder.chosen, Scratch.binaryBetween, Scratch.binaryBetween, full, bare]
  have view : b.view q w (b.chosen q v) = b.view q v (b.chosen q v) := by
    obtain ⟨file, spells, named⟩ := Scratch.exists_spells q.installDir b.product q.target (b.seen q v 0) (b.seen q v 1)
    funext k
    rw [Builder.chosen, named]
    simp only [Builder.view, Workspace.look, seen _ spells]
  simp only [exec_waitForBinary_eq, chosen, view]
  exact ⟨_, _, rfl, rfl⟩

namespace Release

/-- Two workspaces hold the same outside the areas of the other targets. -/
def Agree (r : Release) (targets : List Target) (scratch out : Location) (t : Target) (w v : Workspace) : Prop :=
  ∀ k, (∀ s ∈ targets, s ≠ t → ¬ r.Area scratch out s k) → w.files.get? k = v.files.get? k

/-- The directory of a target is no link. -/
def Rooted (scratch : Location) (t : Target) (w : Workspace) : Prop :=
  ∀ target, w.files.get? (scratch ++ [t.id]) ≠ some (.link target)

variable {r : Release} {targets : List Target} {base : FileTree} {here scratch out : Location} {s t : Target}
variable {w v u : Workspace}

/-- Doing the same to one place keeps the agreement. -/
theorem Agree.put (agree : r.Agree targets scratch out t w v) {k : Location} (root : k ≠ []) (e : Entry) :
    r.Agree targets scratch out t (FileM.changed w (·.put k e)) (FileM.changed v (·.put k e)) := by
  intro m away
  simp only [FileM.changed, FileTree.get?_put root]
  split
  · rfl
  · exact agree m away

theorem Agree.erase (agree : r.Agree targets scratch out t w v) {k : Location} (root : k ≠ []) :
    r.Agree targets scratch out t (FileM.changed w (·.erase k)) (FileM.changed v (·.erase k)) := by
  intro m away
  simp only [FileM.changed, FileTree.get?_erase root]
  split
  · rfl
  · exact agree m away

theorem Agree.felled (agree : r.Agree targets scratch out t w v) {k : Location} (root : k ≠ []) :
    r.Agree targets scratch out t (FileM.felled w k) (FileM.felled v k) := by
  intro m away
  simp only [FileM.get?_felled root]
  split
  · rfl
  · exact agree m away

/-- Two workspaces that agree hold the same sources. -/
theorem Agree.sources (agree : r.Agree targets scratch out t w v) (k : Location)
    (away : ¬ scratch <+: k ∧ ¬ out <+: k) : w.files.get? k = v.files.get? k := by
  refine agree k fun s _ _ area => ?_
  rcases area with inside | draft | archive
  · exact away.1 ((List.prefix_append _ _).trans inside)
  · exact away.2 ((List.prefix_append _ _).trans draft)
  · exact away.2 ((List.prefix_append _ _).trans archive)

/-- Writing the same into the directory of the target keeps the agreement. -/
theorem Agree.of_room {w' v' : Workspace} (agree : r.Agree targets scratch out t w v)
    (withinW : Within (fun k => scratch ++ [t.id] <+: k ∧ k ≠ scratch ++ [t.id]) w w')
    (withinV : Within (fun k => scratch ++ [t.id] <+: k ∧ k ≠ scratch ++ [t.id]) v v')
    (below : ∀ k, scratch ++ [t.id] <+: k → w'.files.get? k = v'.files.get? k) :
    r.Agree targets scratch out t w' v' := by
  intro k away
  by_cases inside : scratch ++ [t.id] <+: k
  · exact below k inside
  · rw [withinW.files k fun own => inside own.1, withinV.files k fun own => inside own.1]
    exact agree k away

theorem Rooted.of_room (rooted : Rooted scratch t w)
    (within : Within (fun k => scratch ++ [t.id] <+: k ∧ k ≠ scratch ++ [t.id]) w v) : Rooted scratch t v := by
  intro target
  rw [within.files _ fun own => own.2 rfl]
  exact rooted target

/-- Making the directory of the target anew makes workspaces agree that agree elsewhere. -/
theorem Agree.of_renewed {ε : Type} {x y : Except ε Unit × Workspace}
    (renewedW : Scratch.Renewed r.config.scratchDir scratch t.id w x)
    (renewedV : Scratch.Renewed r.config.scratchDir scratch t.id v y) (okW : x.1 = .ok ()) (okV : y.1 = .ok ())
    (agree : ∀ k, ¬ scratch ++ [t.id] <+: k → (∀ s ∈ targets, s ≠ t → ¬ r.Area scratch out s k) →
      w.files.get? k = v.files.get? k) :
    r.Agree targets scratch out t x.2 y.2 ∧ Rooted scratch t x.2 := by
  obtain ⟨-, directoryW, emptyW⟩ := renewedW.made okW
  obtain ⟨-, directoryV, emptyV⟩ := renewedV.made okV
  refine ⟨fun k away => ?_, fun target => by simp [directoryW]⟩
  by_cases inside : scratch ++ [t.id] <+: k
  · by_cases root : k = scratch ++ [t.id]
    · rw [root, directoryW, directoryV]
    · rw [emptyW k inside root, emptyV k inside root]
  · rw [renewedW.within.files k inside, renewedV.within.files k inside]
    exact agree k inside away

theorem Agree.symm (agree : r.Agree targets scratch out t w v) : r.Agree targets scratch out t v w :=
  fun k away => (agree k away).symm

/-- What another worker does to its own area does not matter. -/
theorem Agree.of_other (agree : r.Agree targets scratch out t w v) (member : s ∈ targets) (other : s ≠ t)
    (within : Within (r.Area scratch out s) w u) : r.Agree targets scratch out t u v :=
  fun k away => (within.files k (away s member other)).trans (agree k away)

namespace Site

variable (site : r.Site targets base here scratch out)
include site

/-- Workspaces that agree hold the same in the area of the target itself. -/
theorem agree_own (member : t ∈ targets) (agree : r.Agree targets scratch out t w v) {k : Location}
    (own : r.Area scratch out t k) : w.files.get? k = v.files.get? k :=
  agree k fun _ memberS other => site.areas_disjoint member memberS (Ne.symm other) own

theorem agree_relocated (member : t ∈ targets) (agree : r.Agree targets scratch out t w v) :
    r.Agree targets scratch out t (FileM.relocated w (r.draftPlace out t) (r.archivePlace out t))
      (FileM.relocated v (r.draftPlace out t) (r.archivePlace out t)) := by
  have rootDraft : r.draftPlace out t ≠ [] := by simp [draftPlace]
  have rootArchive : r.archivePlace out t ≠ [] := by simp [archivePlace]
  intro k away
  simp only [FileM.relocated_files]
  by_cases archive : r.archivePlace out t <+: k
  · obtain ⟨rest, rfl⟩ := archive
    rw [FileTree.get?_move_dest rootDraft rootArchive, FileTree.get?_move_dest rootDraft rootArchive]
    exact site.agree_own member agree (.inr (.inl (List.prefix_append _ _)))
  · by_cases draft : r.draftPlace out t <+: k
    · rw [FileTree.get?_move_source rootDraft draft archive, FileTree.get?_move_source rootDraft draft archive]
    · rw [FileTree.get?_move draft archive, FileTree.get?_move draft archive]
      exact agree k away

theorem find_binary (member : t ∈ targets) (agree : r.Agree targets scratch out t w v)
    (restsW : w.Rests base here) (restsV : v.Rests base here) (opened : r.Opened scratch t w)
    (unlinked : w.files.Unlinked (scratch ++ [t.id]) r.config.product t) {binary : Path}
    (isBinary : r.IsBinary t binary) : w.find binary = v.find binary :=
  site.find_opened member restsW restsV opened unlinked isBinary fun _ inside => site.agree_own member agree (.inl inside)

theorem write_agree (member : t ∈ targets) (agree : r.Agree targets scratch out t w v)
    (restsW : w.Rests base here) (restsV : v.Rests base here) (tidyW : r.Tidy out t w) (tidyV : r.Tidy out t v)
    (content : Bytes) {draft : Path}
    (named : draft = r.config.outDir.join (Archive.draftName r.config.product r.config.version t)) :
    ((FileM.write draft content).exec w).1 = ((FileM.write draft content).exec v).1 ∧
      r.Agree targets scratch out t ((FileM.write draft content).exec w).2
        ((FileM.write draft content).exec v).2 := by
  subst named
  have root : r.draftPlace out t ≠ [] := by simp [draftPlace]
  have same : w.files.get? (r.draftPlace out t) = v.files.get? (r.draftPlace out t) :=
    site.agree_own member agree (.inr (.inl (List.prefix_refl _)))
  have valid := site.isName_draft member
  rw [FileM.write_join (restsW.leads site.leadsOut) valid tidyW.noLink tidyW.alone,
    FileM.write_join (restsV.leads site.leadsOut) valid tidyV.noLink tidyV.alone]
  simp only [draftPlace] at same root
  rw [← same]
  cases usable r.config.outDir (Archive.draftName r.config.product r.config.version t) with
  | error fault => exact ⟨rfl, agree⟩
  | ok _ =>
    cases w.files.get? (out ++ [Archive.draftName r.config.product r.config.version t]) with
    | none => exact ⟨rfl, agree.put root _⟩
    | some e =>
      cases e with
      | directory => exact ⟨rfl, agree⟩
      | _ => exact ⟨rfl, agree.put root _⟩

theorem reset_agree (member : t ∈ targets) (agree : r.Agree targets scratch out t w v)
    (keptW : r.Kept base here scratch out t .reset w) (keptV : r.Kept base here scratch out t .reset v)
    (rooted : Rooted scratch t w) :
    ((Scratch.reset (r.config.scratchDir.join t.id)).exec w).1 =
        ((Scratch.reset (r.config.scratchDir.join t.id)).exec v).1 ∧
      r.Agree targets scratch out t ((Scratch.reset (r.config.scratchDir.join t.id)).exec w).2
        ((Scratch.reset (r.config.scratchDir.join t.id)).exec v).2 ∧
      Rooted scratch t ((Scratch.reset (r.config.scratchDir.join t.id)).exec w).2 := by
  have same : w.files.get? (scratch ++ [t.id]) = v.files.get? (scratch ++ [t.id]) :=
    site.agree_own member agree (.inl (List.prefix_refl _))
  obtain ⟨error, ranW, ranV⟩ | ⟨okW, okV⟩ := Scratch.reset_alike (fun _ => site.leads_scratch member keptW.rests)
    (fun _ => site.leads_scratch member keptV.rests) (site.names t member) rooted fun e _ => by rw [same]
  · rw [ranW, ranV]
    exact ⟨rfl, agree, rooted⟩
  · exact ⟨okW.trans okV.symm, Agree.of_renewed (site.renewed_reset member keptW.rests keptW.ready)
      (site.renewed_reset member keptV.rests keptV.ready) okW okV fun k _ => agree k⟩

theorem writeDraft_agree (member : t ∈ targets) (agree : r.Agree targets scratch out t w v)
    {binary : Path} (keptW : r.Kept base here scratch out t (.draft binary) w)
    (keptV : r.Kept base here scratch out t (.draft binary) v) (entry : String) :
    ((Archiver.writeDraft binary entry (Stage.archivePath r t)).exec w).1 =
        ((Archiver.writeDraft binary entry (Stage.archivePath r t)).exec v).1 ∧
      r.Agree targets scratch out t ((Archiver.writeDraft binary entry (Stage.archivePath r t)).exec w).2
        ((Archiver.writeDraft binary entry (Stage.archivePath r t)).exec v).2 := by
  obtain ⟨restsW, tidyW, isBinary, openedW, unlinkedW⟩ := keptW
  obtain ⟨restsV, tidyV, -⟩ := keptV
  have named := site.draft_path member
  have found := site.find_binary member agree restsW restsV openedW unlinkedW isBinary
  rw [Archiver.writeDraft, TaskM.exec_bind, TaskM.exec_bind, TaskM.exec_describe, TaskM.exec_describe,
    FileM.exec_look, FileM.exec_look, ← found]
  cases w.find binary with
  | error fault => exact ⟨rfl, agree⟩
  | ok there =>
    simp only [Except.mapError, TaskM.exec_describe]
    have first := site.write_agree member agree restsW restsV tidyW tidyV [] named
    have draftedW := site.exec_write member restsW tidyW []
    have draftedV := site.exec_write member restsV tidyV []
    rw [← named] at draftedW draftedV
    rw [TaskM.exec_bind, TaskM.exec_bind]
    rcases ranW : (FileM.write (Archive.draft (Stage.archivePath r t)) []).exec w with ⟨x, w'⟩
    rcases ranV : (FileM.write (Archive.draft (Stage.archivePath r t)) []).exec v with ⟨y, v'⟩
    rw [ranW, ranV] at first
    rw [ranW] at draftedW
    rw [ranV] at draftedV
    obtain ⟨sameEnd, agree'⟩ := first
    dsimp only at sameEnd agree'
    subst sameEnd
    cases x with
    | error fault => exact ⟨rfl, agree'⟩
    | ok _ =>
      have inArea {u u' : Workspace} (within : Within (r.draftPlace out t <+: ·) u u') :
          Within (r.Area scratch out t) u u' := within.mono fun _ inside => .inr (.inl inside)
      have restsW' := site.rests member (inArea draftedW.within) restsW
      have restsV' := site.rests member (inArea draftedV.within) restsV
      have unmoved {k : Location} (inside : scratch ++ [t.id] <+: k) : w'.files.get? k = w.files.get? k :=
        draftedW.within.files k fun beside => site.scratch_apart_out member member inside beside (.inl rfl)
      have opened' : r.Opened scratch t w' := ⟨openedW.fits, (unmoved (List.prefix_refl _)).trans openedW.directory⟩
      have found' := site.find_binary member agree' restsW' restsV' opened' (unlinkedW.congr fun _ => unmoved) isBinary
      dsimp only
      have read : v'.read binary = w'.read binary := by rw [Workspace.read, Workspace.read, found']
      rw [TaskM.exec_bind, TaskM.exec_bind, FileM.exec_look, FileM.exec_look, read]
      cases w'.read binary with
      | error fault => exact ⟨rfl, agree'⟩
      | ok content =>
        have second := site.write_agree member agree' restsW' restsV' draftedW.tidy draftedV.tidy
          (Zip.write ⟨entry, Archive.entryMode, content⟩) named
        dsimp only
        generalize (FileM.write _ _).exec w' = endW at second ⊢
        generalize (FileM.write _ _).exec v' = endV at second ⊢
        exact ⟨congrArg (Except.mapError _) second.1, second.2⟩

/-- Removing the binary of a build ends alike where the workspaces agree, and leaves the directory itself. -/
theorem removeBinary_agree (member : t ∈ targets) (agree : r.Agree targets scratch out t w v) {binary : Path}
    (keptW : r.Kept base here scratch out t (.unlink binary) w)
    (keptV : r.Kept base here scratch out t (.unlink binary) v) :
    r.Agree targets scratch out t ((FileM.removeFile binary).exec w).2 ((FileM.removeFile binary).exec v).2 ∧
      ((FileM.removeFile binary).exec w).2.files.get? (scratch ++ [t.id]) =
        w.files.get? (scratch ++ [t.id]) := by
  obtain ⟨restsW, tidyW, ⟨file, spells, rfl⟩, openedW, unlinkedW⟩ := keptW
  obtain ⟨restsV, tidyV, -, openedV, -⟩ := keptV
  have valid := spells.isName site.product
  have same {k : Location} (inside : scratch ++ [t.id] <+: k) : w.files.get? k = v.files.get? k :=
    site.agree_own member agree (.inl inside)
  obtain ⟨equal, ⟨fault, ends⟩ | ends⟩ := FileTree.Leads.ending_below
    (site.leads_opened member restsW openedW) (site.leads_opened member restsV openedV)
    (fun k inside => same inside) ⟨(unlinkedW file spells).1, trivial⟩ isName_bin valid
  · rw [FileM.removeFile_of_fault ends, FileM.removeFile_of_fault (equal ▸ ends)]
    exact ⟨agree, rfl⟩
  · have noSlash := Path.endsInSlash_join ((r.config.scratchDir.join t.id).join "bin") valid
    have root : scratch ++ [t.id] ++ ["bin"] ++ [file] ≠ [] := by simp
    have inside : scratch ++ [t.id] <+: scratch ++ [t.id] ++ ["bin"] ++ [file] := ⟨["bin", file], by simp⟩
    rw [FileM.removeFile_of_ending ends noSlash, FileM.removeFile_of_ending (equal ▸ ends) noSlash, ← same inside]
    cases w.files.get? (scratch ++ [t.id] ++ ["bin"] ++ [file]) with
    | none => exact ⟨agree, rfl⟩
    | some e =>
      have erased : (FileM.changed w (·.erase (scratch ++ [t.id] ++ ["bin"] ++ [file]))).files.get?
          (scratch ++ [t.id]) = w.files.get? (scratch ++ [t.id]) := by
        rw [FileM.changed, FileTree.get?_erase root, if_neg (by simp)]
      cases e with
      | directory => exact ⟨agree, rfl⟩
      | _ => exact ⟨agree.erase root, erased⟩

theorem removeScratch_agree (member : t ∈ targets) (agree : r.Agree targets scratch out t w v)
    (restsW : w.Rests base here) (restsV : v.Rests base here) (rooted : Rooted scratch t w) :
    r.Agree targets scratch out t ((removeScratch r.config.scratchDir t).exec w).2
        ((removeScratch r.config.scratchDir t).exec v).2 ∧
      Rooted scratch t ((removeScratch r.config.scratchDir t).exec w).2 := by
  have root : scratch ++ [t.id] ≠ [] := by simp
  have valid := site.names t member
  have same : w.files.get? (scratch ++ [t.id]) = v.files.get? (scratch ++ [t.id]) :=
    site.agree_own member agree (.inl (List.prefix_refl _))
  have rootedV : Rooted scratch t v := fun target => same ▸ rooted target
  have leadsW {u : Workspace} := site.leads_scratch (v := u) member restsW
  have leadsV {u : Workspace} := site.leads_scratch (v := u) member restsV
  unfold removeScratch
  split
  · next p named =>
    rw [Scratch.eq_of_directory named, TaskM.exec_bind, TaskM.exec_bind, TaskM.exec_attempt, TaskM.exec_attempt]
    change r.Agree targets scratch out t
        ((Files.removeDirectory (r.config.scratchDir.join t.id)).exec w).2
        ((Files.removeDirectory (r.config.scratchDir.join t.id)).exec v).2 ∧
      Rooted scratch t ((Files.removeDirectory (r.config.scratchDir.join t.id)).exec w).2
    rw [Files.removeDirectory, TaskM.exec_bind, TaskM.exec_bind, TaskM.exec_get, TaskM.exec_get]
    dsimp only
    rw [FileM.exists_join (leadsW (.refl _ w)) valid rooted, FileM.exists_join (leadsV (.refl _ v)) valid rootedV,
      ← same]
    split
    · rw [TaskM.exec_describe, TaskM.exec_describe,
        FileM.removeTree_join (leadsW (.refl _ w)) (leadsW (FileM.within_emptied w _)) valid,
        FileM.removeTree_join (leadsV (.refl _ v)) (leadsV (FileM.within_emptied v _)) valid, ← same]
      cases usable r.config.scratchDir t.id with
      | error fault => exact ⟨agree, rooted⟩
      | ok _ =>
        cases found : w.files.get? (scratch ++ [t.id]) with
        | none => exact ⟨agree, rooted⟩
        | some e =>
          cases e with
          | link target => exact absurd found (rooted target)
          | directory =>
            refine ⟨agree.felled root, fun target => ?_⟩
            simp [FileM.get?_felled root]
          | _ => exact ⟨agree, rooted⟩
    · exact ⟨agree, rooted⟩
  · exact ⟨agree, rooted⟩

/-- Workspaces that agree still do after a step of the target's own worker, which goes on alike in both. -/
theorem next_agree (installs : r.compiler.Installs r.config.product)
    (depends : r.compiler.Depends fun k => ¬ scratch <+: k ∧ ¬ out <+: k) (member : t ∈ targets) {stage : Stage}
    (keptW : r.Kept base here scratch out t stage w) (keptV : r.Kept base here scratch out t stage v)
    (rooted : Rooted scratch t w) (agree : r.Agree targets scratch out t w v) :
    (stage.next r t w).1 = (stage.next r t v).1 ∧
      r.Agree targets scratch out t (stage.next r t w).2 (stage.next r t v).2 ∧
      Rooted scratch t (stage.next r t w).2 := by
  have unmoved {u : Workspace} (within : Within (fun k => r.draftPlace out t <+: k ∨ r.archivePlace out t <+: k) w u) :
      Rooted scratch t u := fun target => by
    rw [within.files _ fun beside => beside.elim
      (fun draft => site.scratch_apart_out member member (List.prefix_refl _) draft (.inl rfl))
      (fun archive => site.scratch_apart_out member member (List.prefix_refl _) archive (.inr rfl))]
    exact rooted target
  cases stage with
  | reset =>
    simp only [Stage.next]
    cases named : Scratch.directory r.config.scratchDir t with
    | error error => exact ⟨rfl, agree, rooted⟩
    | ok p =>
      rw [Scratch.eq_of_directory named]
      obtain ⟨sameEnd, agree', rooted'⟩ := site.reset_agree member agree keptW keptV rooted
      simp only [Stage.resetting, WorkM.exec_ofTask, sameEnd]
      exact ⟨trivial, agree', rooted'⟩
  | compile q =>
    have leadsW := site.leads_compile member keptW.rests keptW.ready
    have leadsV := site.leads_compile member keptV.rests keptV.ready
    obtain ⟨-, -, -, emptyW⟩ := keptW.ready
    obtain ⟨-, -, -, emptyV⟩ := keptV.ready
    obtain ⟨sameEnd, below⟩ := depends.reads q _ _ _ leadsW leadsV
      (fun k inside other => ⟨emptyW k inside other, emptyV k inside other⟩) agree.sources
    have withinW := (Workspace.within_record _ w _).trans (installs.within q _ _ leadsW)
    have withinV := (Workspace.within_record _ v _).trans (installs.within q _ _ leadsV)
    simp only [Stage.next]
    exact ⟨by rw [sameEnd], agree.of_room withinW withinV below, rooted.of_room withinW⟩
  | locate q =>
    have leadsW := site.leads_locate member keptW.rests keptW.ready
    have leadsV := site.leads_locate member keptV.rests keptV.ready
    obtain ⟨rfl, -, -, unlinkedW⟩ := keptW.ready
    have withinW (n : Nat) := installs.withinLater q n w _ leadsW
    have withinV (n : Nat) := installs.withinLater q n v _ leadsV
    -- What the compiler still writes is the same in both, and only in the directory of the target.
    have agreeAt (n : Nat) : r.Agree targets scratch out q.target (r.builder.seen q w n) (r.builder.seen q v n) :=
      agree.of_room (withinW n) (withinV n) fun k inside => depends.later q n w v _ leadsW leadsV
        (fun m below => site.agree_own member agree (.inl below)) agree.sources k inside
    obtain ⟨result, last, ranW, ranV⟩ := Builder.waitForBinary_alike (b := r.builder) site.product
      (fun n => site.leads_within member keptW (withinW n)) (fun n => site.leads_within member keptV (withinV n))
      (fun n k inside => site.agree_own member (agreeAt n) (.inl inside))
      fun n => installs.unlinkedLater q n w _ leadsW unlinkedW
    simp only [Stage.next, ranW, ranV]
    exact ⟨trivial, agreeAt last, rooted.of_room (withinW last)⟩
  | draft binary =>
    obtain ⟨sameEnd, agree'⟩ := site.writeDraft_agree member agree keptW keptV (Archive.entryName binary t)
    have drafted := site.exec_writeDraft member keptW.rests keptW.tidy binary (Archive.entryName binary t)
    simp only [Stage.next, sameEnd]
    exact ⟨trivial, agree', unmoved (drafted.within.mono fun _ => .inl)⟩
  | undo error =>
    have root : r.draftPlace out t ≠ [] := by simp [draftPlace]
    have same : w.files.get? (r.draftPlace out t) = v.files.get? (r.draftPlace out t) :=
      site.agree_own member agree (.inr (.inl (List.prefix_refl _)))
    have erased : Rooted scratch t (FileM.changed w (·.erase (r.draftPlace out t))) :=
      unmoved ((FileM.within_erase root).mono fun _ => .inl)
    simp only [Stage.next]
    rw [site.draft_path member, FileM.removeFile_join (keptW.rests.leads site.leadsOut) (site.isName_draft member),
      FileM.removeFile_join (keptV.rests.leads site.leadsOut) (site.isName_draft member)]
    simp only [draftPlace] at same
    rw [← same]
    cases usable r.config.outDir (Archive.draftName r.config.product r.config.version t) with
    | error fault => exact ⟨trivial, agree, rooted⟩
    | ok _ =>
      cases w.files.get? (out ++ [Archive.draftName r.config.product r.config.version t]) with
      | none => exact ⟨trivial, agree, rooted⟩
      | some e =>
        cases e with
        | directory => exact ⟨trivial, agree, rooted⟩
        | _ => exact ⟨trivial, agree.erase root, erased⟩
  | rename binary =>
    obtain ⟨restsW, tidyW, -, -, -, e, foundW, noDirectory⟩ := keptW
    obtain ⟨restsV, tidyV, -, -, -, e', foundV, noDirectory'⟩ := keptV
    have same : w.files.get? (r.archivePlace out t) = v.files.get? (r.archivePlace out t) :=
      site.agree_own member agree (.inr (.inr (List.prefix_refl _)))
    simp only [Stage.next]
    rw [site.exec_rename member restsW tidyW foundW noDirectory,
      site.exec_rename member restsV tidyV foundV noDirectory', ← same]
    split
    · exact ⟨rfl, agree, rooted⟩
    · exact ⟨rfl, agree, rooted⟩
    · split
      · exact ⟨rfl, agree, rooted⟩
      · exact ⟨rfl, site.agree_relocated member agree, unmoved FileM.within_relocated⟩
  | unlink binary =>
    obtain ⟨agree', same⟩ := site.removeBinary_agree member agree keptW keptV
    refine ⟨rfl, agree', fun target => ?_⟩
    simp only [Stage.next]
    rw [same]
    exact rooted target
  | sweep archived =>
    obtain ⟨agree', rooted'⟩ := site.removeScratch_agree member agree keptW.rests keptV.rests rooted
    exact ⟨rfl, agree', rooted'⟩
  | done ending => exact ⟨rfl, agree, rooted⟩

end Site

end Release

end ReleaseMatrix
