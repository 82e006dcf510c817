import ReleaseMatrix.Proofs.Footing

namespace ReleaseMatrix.Release

open Workspace (Within SameOutside)
open FileTree (usable)
open Stage (archivePath)
open FileM (changed)

variable {r : Release} {targets : List Target} {scratch : Location} {t : Target} {w v u : Workspace}
variable {stage : Stage} {k : Location}

theorem Changes.trans {x : Workspace} (first : r.Changes targets scratch w t v u)
    (second : r.Changes targets scratch w t u x) : r.Changes targets scratch w t v x where
  files k away := (second.files k away).trans (first.files k away)
  directory away stays := second.directory away (first.directory away stays)
  room := by
    obtain linkless | same := second.room
    · exact .inl linkless
    · exact first.room.imp (·.congr same) fun before k inside => (same k inside).trans (before k inside)
  named k named := (first.named k named).trans (second.named k named)
  alone s memberS admitsS k placed alone :=
    second.alone s memberS admitsS k placed (first.alone s memberS admitsS k placed alone)

namespace Footing

section

variable (footing : r.Footing targets scratch w) (member : t ∈ targets) (admits : r.Admits t)
include footing member admits

/-- Changes in the directory of a target. -/
theorem changes_of_within (within : Within (scratch ++ [t.id] <+: ·) v u)
    (linkless : u.files.Linkless (scratch ++ [t.id])) : r.Changes targets scratch w t v u where
  files k away := within.files k fun inside => away (.inl inside)
  directory away stays := by
    rw [within.directory, stays]
    exact fun inside => away ⟨t, member, admits, .inl (stays ▸ inside)⟩
  room := .inl linkless
  named k named := .inl (within.files k (footing.apart t member admits t member admits k named))
  alone s memberS admitsS k placed alone :=
    within.alone k (footing.apart t member admits s memberS admitsS k (.inr placed)) alone

variable (framed : r.Framed targets scratch w v)
include framed

theorem leads_of_within (within : Within (scratch ++ [t.id] <+: ·) v u) :
    u.Leads r.config.scratchDir scratch :=
  footing.leads u (framed.outside.trans (within.sameOutside.mono fun _ inside => ⟨t, member, admits, .inl inside⟩))

/-- What a target's directory is replaced by has no links in it. -/
theorem absent_below (noDirectory : v.files.get? (scratch ++ [t.id]) ≠ some .directory) (target : Path)
    (inside : scratch ++ [t.id] <+: k) (below : k ≠ scratch ++ [t.id]) : v.files.get? k ≠ some (.link target) := by
  obtain linkless | same := framed.rooms t member admits
  · exact linkless k target inside
  · rw [same _ (List.prefix_refl _)] at noDirectory
    rw [same k inside, footing.sound.leaf noDirectory inside below]
    simp

/-- Removing the directory of a target, or a link in its place, leaves no links there. -/
theorem removeTree_cases :
    ((FileM.removeTree (r.config.scratchDir.join t.id)).exec v).2 = v ∨
      Within (scratch ++ [t.id] <+: ·) v ((FileM.removeTree (r.config.scratchDir.join t.id)).exec v).2 ∧
        ((FileM.removeTree (r.config.scratchDir.join t.id)).exec v).2.files.Linkless (scratch ++ [t.id]) := by
  have root : scratch ++ [t.id] ≠ [] := by simp
  rw [FileM.removeTree_join (footing.leads_of_within member admits framed (.refl _ v))
    (footing.leads_of_within member admits framed (FileM.within_emptied v _)) admits.isName_id]
  split
  · exact .inl rfl
  · exact .inl rfl
  · next target _ found =>
    refine .inr ⟨FileM.within_erase root, fun k other inside => ?_⟩
    rw [changed, FileTree.get?_erase root]
    split
    · simp
    · next below => exact footing.absent_below member admits framed (by simp [found]) other inside below
  · refine .inr ⟨FileM.within_felled root, fun k other inside => ?_⟩
    simp [FileM.get?_felled root, inside]
  · exact .inl rfl

/-- Making the directory of a target anew changes only what is in it, and leaves no links there if it succeeds. -/
theorem reset_cases :
    ((Scratch.reset (r.config.scratchDir.join t.id)).exec v).2 = v ∧
        ((Scratch.reset (r.config.scratchDir.join t.id)).exec v).1 ≠ .ok () ∨
      Within (scratch ++ [t.id] <+: ·) v ((Scratch.reset (r.config.scratchDir.join t.id)).exec v).2 ∧
        ((Scratch.reset (r.config.scratchDir.join t.id)).exec v).2.files.Linkless (scratch ++ [t.id]) ∧
        usable r.config.scratchDir t.id = .ok () := by
  have root : scratch ++ [t.id] ≠ [] := by simp
  have made {u : Workspace} (within : Within (scratch ++ [t.id] <+: ·) v u)
      (empty : ∀ k target, scratch ++ [t.id] <+: k → k ≠ scratch ++ [t.id] → u.files.get? k ≠ some (.link target)) :
      Within (scratch ++ [t.id] <+: ·) v (changed u (·.put (scratch ++ [t.id]) .directory)) ∧
        (changed u (·.put (scratch ++ [t.id]) .directory)).files.Linkless (scratch ++ [t.id]) := by
    refine ⟨within.trans (FileM.within_put root), fun k target inside => ?_⟩
    rw [changed, FileTree.get?_put root]
    split
    · simp
    · next below => exact empty k target inside below
  rw [Scratch.reset, TaskM.exec_describe,
    FileM.renew_join (fun _ => footing.leads_of_within member admits framed) admits.isName_id]
  split
  · exact .inl ⟨rfl, by simp [Except.mapError]⟩
  · next fits found =>
    obtain ⟨within, linkless⟩ := made (.refl _ v) fun k target inside below =>
      footing.absent_below member admits framed (by simp [found]) target inside below
    exact .inr ⟨within, linkless, fits⟩
  · next fits found =>
    obtain ⟨within, linkless⟩ := made (FileM.within_felled root) fun k target inside _ => by
      simp [FileM.get?_felled root, inside]
    exact .inr ⟨within, linkless, fits⟩
  · next target fits found =>
    split
    · obtain ⟨within, linkless⟩ := made (FileM.within_erase root) fun k other inside below => by
        rw [changed, FileTree.get?_erase root, if_neg below]
        exact footing.absent_below member admits framed (by simp [found]) other inside below
      exact .inr ⟨within, linkless, fits⟩
    · exact .inl ⟨rfl, by simp [Except.mapError]⟩
  · exact .inl ⟨rfl, by simp [Except.mapError]⟩

/-- Writing to the draft of a target changes nothing else. It fails if a directory is there. -/
theorem changes_of_write (content : Bytes) :
    let run := (FileM.write (Archive.draft (archivePath r t)) content).exec v
    r.Changes targets scratch w t v run.2 ∧
      (run.1 = .ok () → ∀ k, w.place? (Archive.draft (archivePath r t)) = some k → w.files.get? k ≠ some .directory) := by
  obtain ⟨home, stem, -, valid, -, placed⟩ := admits.exists_names
  have known (k : Location) (there : v.place? (Archive.draft (archivePath r t)) = some k) :=
    footing.draft t member admits v framed.outside k there
  have tidy (k : Location) (there : v.place? (Archive.draft (archivePath r t)) = some k) :
      (∀ target, v.files.get? k ≠ some (.link target)) ∧ v.files.Alone k := by
    have named := known k there
    exact ⟨(framed.named t member admits k (.inr named)).noLink (footing.tidy t member admits k named).1,
      framed.alone t member admits k named⟩
  rw [placed] at tidy known ⊢
  obtain ⟨fault, failed⟩ | ⟨k, e, there, noDirectory, noWay, wrote⟩ := FileM.write_cases valid tidy content
  · rw [failed]
    exact ⟨.refl, fun ok => (nomatch ok)⟩
  have named : r.Names w t k := .inr (placed ▸ known k there)
  have leafed := framed.named t member admits k named
  have root : k ≠ [] := by
    rintro rfl
    simp at noDirectory
  rw [wrote]
  refine ⟨⟨fun m away => ?_, fun _ stays => stays, .inr fun m inside => ?_, fun m _ => ?_,
    fun _ _ _ _ _ alone => alone⟩, fun _ m there' => ?_⟩
  · have other : m ≠ k := fun same => away (.inr (same ▸ named))
    rw [changed, FileTree.get?_put root, if_neg other]
  · have other : m ≠ k := fun same => footing.apart t member admits t member admits k named (same ▸ inside)
    rw [changed, FileTree.get?_put root, if_neg other]
  · by_cases same : m = k
    · subst same
      refine .inr ⟨noDirectory, fun d found => ?_⟩
      rw [changed, FileTree.get?_put root, if_pos rfl, Option.some_inj] at found
      exact found ▸ noWay
    · exact .inl (by rw [changed, FileTree.get?_put root, if_neg same])
  · obtain rfl : k = m := Option.some_inj.mp ((known k there).symm.trans there')
    exact fun directory => noDirectory (leafed.directory_iff.mpr directory)

/-- Filling an open draft changes nothing else. -/
theorem changes_of_fill (binary : Path) (entry : String) :
    r.Changes targets scratch w t v ((do
      let content ← FileM.look (·.read binary)
      FileM.write (Archive.draft (archivePath r t)) (Zip.write ⟨entry, Archive.entryMode, content⟩) : FileM Unit).exec v).2 := by
  rw [TaskM.exec_bind, FileM.exec_look]
  cases v.read binary with
  | error fault => exact .refl
  | ok content => exact (footing.changes_of_write member admits framed _).1

/-- Writing a draft changes nothing else. It fails if a directory is there. -/
theorem changes_of_writeDraft (binary : Path) (entry : String) :
    r.Changes targets scratch w t v ((Archiver.writeDraft binary entry (archivePath r t)).exec v).2 ∧
      (((Archiver.writeDraft binary entry (archivePath r t)).exec v).1 = .ok () →
        ∀ k, w.place? (Archive.draft (archivePath r t)) = some k → w.files.get? k ≠ some .directory) := by
  rw [Archiver.writeDraft, TaskM.exec_bind, TaskM.exec_describe, FileM.exec_look]
  cases v.find binary with
  | error fault => exact ⟨.refl, fun ok => by cases ok⟩
  | ok there =>
    simp only [Except.mapError, TaskM.exec_describe]
    rw [TaskM.exec_bind]
    obtain ⟨changes, free⟩ := footing.changes_of_write member admits framed []
    rcases opened : (FileM.write (Archive.draft (archivePath r t)) []).exec v with ⟨fault | _, u⟩
    · rw [opened] at changes
      exact ⟨changes, fun ok => by cases ok⟩
    · rw [opened] at changes free
      have filled := footing.changes_of_fill member admits (footing.framed_changes member admits framed changes) binary entry
      exact ⟨changes.trans filled, fun _ => free rfl⟩

theorem changes_of_removeDraft :
    r.Changes targets scratch w t v ((FileM.removeFile (Archive.draft (archivePath r t))).exec v).2 := by
  obtain ⟨fault, unremoved⟩ | ⟨k, there, noDirectory, removed⟩ :=
    FileM.removeFile_cases (Archive.draft (archivePath r t)) v
  · rw [unremoved]
    exact .refl
  have named : r.Names w t k := .inr (footing.draft t member admits v framed.outside k there)
  have root : k ≠ [] := by
    rintro rfl
    simp at noDirectory
  have away {m : Location} (other : m ≠ k) : (changed v (·.erase k)).files.get? m = v.files.get? m := by
    rw [changed, FileTree.get?_erase root, if_neg other]
  rw [removed]
  refine ⟨fun m free => away fun same => free (.inr (same ▸ named)), fun _ stays => stays,
    .inr fun m inside => away fun same => ?_, fun m _ => ?_, fun _ _ _ _ _ alone => alone.erase k⟩
  · exact footing.apart t member admits t member admits k named (same ▸ inside)
  · by_cases same : m = k
    · subst same
      refine .inr ⟨noDirectory, fun e found => ?_⟩
      simp [changed, FileTree.get?_erase root] at found
    · exact .inl (away same)

/-- Giving a draft its name changes only the places of the draft and of the archive. -/
theorem changes_of_rename
    (noDirectory : ∀ k, w.place? (Archive.draft (archivePath r t)) = some k → w.files.get? k ≠ some .directory) :
    r.Changes targets scratch w t v
      ((FileM.rename (Archive.draft (archivePath r t)) (archivePath r t)).exec v).2 := by
  obtain ⟨outcome, unchanged⟩ | ⟨a, b, e, atA, atB, found, free, apart, renamed⟩ :=
    FileM.rename_cases (Archive.draft (archivePath r t)) (archivePath r t) v
  · rw [unchanged]
    exact .refl
  have draft := footing.draft t member admits v framed.outside a atA
  have archive := footing.archive t member admits v framed.outside b atB
  have namedA : r.Names w t a := .inr draft
  have namedB : r.Names w t b := .inl archive
  have leafedA := framed.named t member admits a namedA
  have noDirectoryA : w.files.get? a ≠ some .directory := noDirectory a draft
  have file : e ≠ .directory := fun directory => noDirectoryA (leafedA.directory_iff.mp (directory ▸ found))
  have noDirectoryB : w.files.get? b ≠ some .directory := fun directory =>
    free file ((framed.named t member admits b namedB).directory_iff.mpr directory)
  have noWay : e.isWay = false := by
    have noLink := leafedA.noLink (footing.tidy t member admits a draft).1
    cases e <;> first | rfl | exact absurd rfl file | exact absurd found (noLink _)
  have leaf {l m : Location} (named : r.Names w t l) (leaf : w.files.get? l ≠ some .directory) (inside : l <+: m)
      (below : m ≠ l) : v.files.get? m = none := by
    rw [framed.outside.files m (footing.not_owned_below member admits named leaf inside below)]
    exact footing.sound.leaf leaf inside below
  have nonroot {l : Location} (noDirectory : w.files.get? l ≠ some .directory) : l ≠ [] := by
    rintro rfl
    simp at noDirectory
  have moved (m : Location) : (FileM.relocated v a b).files.get? m =
      if m = b then v.files.get? a else if m = a then none else v.files.get? m := by
    rw [FileM.relocated_files]
    exact FileTree.get?_move_leaf (nonroot noDirectoryA) (nonroot noDirectoryB) apart
      (fun k inside below => leaf namedA noDirectoryA inside below)
      (fun k inside below => leaf namedB noDirectoryB inside below) m
  have away {m : Location} (otherA : m ≠ a) (otherB : m ≠ b) :
      (FileM.relocated v a b).files.get? m = v.files.get? m := by
    rw [moved, if_neg otherB, if_neg otherA]
  rw [renamed]
  refine ⟨fun m free => ?_, fun _ stays => ?_, .inr fun m inside => ?_, fun m _ => ?_,
    fun s memberS admitsS m placed alone => ?_⟩
  · exact away (fun same => free (.inr (same ▸ namedA))) fun same => free (.inr (same ▸ namedB))
  · have off {l : Location} (noDirectory : w.files.get? l ≠ some .directory) : ¬ l <+: v.directory := by
      rw [stays]
      intro above
      exact noDirectory (if same : l = w.directory then same ▸ footing.here else footing.sound.above footing.here above same)
    rw [FileM.within_relocated.directory (not_or.mpr ⟨off noDirectoryA, off noDirectoryB⟩), stays]
  · have other {l : Location} (named : r.Names w t l) : m ≠ l := fun same =>
      footing.apart t member admits t member admits l named (same ▸ inside)
    exact away (other namedA) (other namedB)
  · by_cases same : m = b
    · subst same
      refine .inr ⟨free file, fun d there => ?_⟩
      rw [moved, if_pos rfl, found, Option.some_inj] at there
      exact there ▸ noWay
    · by_cases same' : m = a
      · subst same'
        refine .inr ⟨fun directory => file (Option.some_inj.mp (found.symm.trans directory)), fun d there => ?_⟩
        rw [moved, if_neg same, if_pos rfl] at there
        cases there
      · exact .inl (away same' same)
  · rw [FileM.relocated_files]
    refine alone.move fun above => ?_
    by_cases same : m = b
    · exact admits.ne_draft admitsS (same ▸ archive) placed rfl
    · exact footing.not_owned_below member admits namedB noDirectoryB above same
        ⟨s, memberS, admitsS, .inr (.inr placed)⟩

/-- Removing a file that a build left changes only what is in the directory of the target. -/
theorem changes_of_removeBinary {binary : Path} (isBinary : r.IsBinary t binary)
    (linkless : v.files.Linkless (scratch ++ [t.id])) :
    r.Changes targets scratch w t v ((FileM.removeFile binary).exec v).2 := by
  obtain ⟨file, spells, rfl⟩ := isBinary
  obtain ⟨fault, unremoved⟩ | ⟨k, there, -, removed⟩ := FileM.removeFile_cases
    (((r.config.scratchDir.join t.id).join "bin").join file) v
  · rw [unremoved]
    exact .refl
  · have inside := Workspace.place?_inside (footing.leads_of_within member admits framed (.refl _ v)) admits.isName_id
      isName_bin (spells.isName footing.product) linkless there
    have root : k ≠ [] := by
      rintro rfl
      simp at inside
    rw [removed]
    exact footing.changes_of_within member admits ((FileM.within_erase root).mono fun _ => inside.trans)
      (linkless.erase root)

theorem changes_of_removeScratch :
    r.Changes targets scratch w t v ((removeScratch r.config.scratchDir t).exec v).2 := by
  have removed := footing.removeTree_cases member admits framed
  obtain ⟨p, named⟩ := id admits
  rw [Stage.exec_removeScratch_of_directory named, Scratch.eq_of_directory named, Files.exec_removeDirectory]
  split
  · obtain unchanged | ⟨within, linkless⟩ := removed
    · rw [unchanged]
      exact .refl
    · exact footing.changes_of_within member admits within linkless
  · exact .refl

end

end Footing

end ReleaseMatrix.Release
