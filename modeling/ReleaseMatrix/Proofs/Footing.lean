import ReleaseMatrix.Proofs.DraftName
import ReleaseMatrix.Proofs.Placing
import ReleaseMatrix.Proofs.WorkerArea

namespace ReleaseMatrix

open Workspace (Within SameOutside)
open FileTree (usable)

/-- A compiler that writes only below the directory it installs to, after its run too, and makes no links there. -/
structure Compiler.Bounded (c : Compiler) : Prop where
  compile : ∀ q w l, w.place? q.installDir = some l → w.files.Linkless l →
    Within (l <+: ·) w ((c.compile q).exec w).2 ∧ ((c.compile q).exec w).2.files.Linkless l
  later : ∀ q k w l, w.place? q.installDir = some l → w.files.Linkless l →
    Within (l <+: ·) w { w with files := c.filesAt q k w.files } ∧ (c.filesAt q k w.files).Linkless l

/-- Waiting for the binary of a build leaves what the compiler has written by then, and finds a path below the
directory it was told. -/
theorem Builder.exec_waitForBinary_cases (b : Builder) (q : BuildRequest) (w : Workspace) :
    ∃ outcome k, (b.waitForBinary q).exec w = (outcome, b.seen q w k) ∧
      ∀ binary, outcome = .ok binary → binary = b.chosen q w := by
  refine ⟨_, _, b.exec_waitForBinary_eq q w, fun binary found => ?_⟩
  split at found
  · exact (Except.ok.inj found).symm
  · cases found

/-- A target that has a directory to be built in can be the name of an entry. -/
theorem Scratch.isName_of_directory {root p : Path} {t : Target} (named : Scratch.directory root t = .ok p) :
    IsName t.id := by
  unfold Scratch.directory at named
  simp only at named
  split at named
  · next child =>
    rw [isChild, Bool.and_eq_true] at child
    exact Path.isName_of_fileName? (by simpa using child.2)
  · cases named

theorem Scratch.eq_scratch_of_directory {root : Path} {t : Target} {error : BuildError}
    (unnamed : Scratch.directory root t = .error error) : ∃ p cause, error = .scratch p cause := by
  unfold Scratch.directory at unnamed
  simp only at unnamed
  split at unnamed
  · cases unnamed
  · exact ⟨_, _, (Except.error.inj unnamed).symm⟩

namespace Release

open Stage (archivePath)

/-- A target has a directory of its own to be built in. -/
def Admits (r : Release) (t : Target) : Prop :=
  ∃ p, Scratch.directory r.config.scratchDir t = .ok p

/-- The place of a target's archive or of its draft, in a workspace. -/
def Names (r : Release) (w : Workspace) (t : Target) (k : Location) : Prop :=
  w.place? (archivePath r t) = some k ∨ w.place? (Archive.draft (archivePath r t)) = some k

/-- The places of a target: its directory with all that is in it, its archive and its draft. -/
def Owns (r : Release) (scratch : Location) (w : Workspace) (t : Target) (k : Location) : Prop :=
  scratch ++ [t.id] <+: k ∨ r.Names w t k

/-- The places of the targets that are built. -/
def Owned (r : Release) (targets : List Target) (scratch : Location) (w : Workspace) (k : Location) : Prop :=
  ∃ t ∈ targets, r.Admits t ∧ r.Owns scratch w t k

/-- Where workers can work on the files they find in `w`. However their own places change, the scratch directory
stays where it is and the paths of archives and drafts name no other places. No draft is a link or another name of
a file, and no archive is made in the directory of a target. -/
structure Footing (r : Release) (targets : List Target) (scratch : Location) (w : Workspace) : Prop where
  product : IsName r.config.product
  sound : w.files.Sound
  here : w.files.get? w.directory = some .directory
  leads : ∀ v, SameOutside (r.Owned targets scratch w) w v → v.Leads r.config.scratchDir scratch
  archive : ∀ t ∈ targets, r.Admits t → ∀ v, SameOutside (r.Owned targets scratch w) w v →
    ∀ k, v.place? (archivePath r t) = some k → w.place? (archivePath r t) = some k
  draft : ∀ t ∈ targets, r.Admits t → ∀ v, SameOutside (r.Owned targets scratch w) w v →
    ∀ k, v.place? (Archive.draft (archivePath r t)) = some k → w.place? (Archive.draft (archivePath r t)) = some k
  apart : ∀ s ∈ targets, r.Admits s → ∀ t ∈ targets, r.Admits t → ∀ k, r.Names w t k → ¬ scratch ++ [s.id] <+: k
  tidy : ∀ t ∈ targets, r.Admits t → ∀ k, w.place? (Archive.draft (archivePath r t)) = some k →
    (∀ target, w.files.get? k ≠ some (.link target)) ∧ w.files.Alone k

/-- What holds while workers work on the files they found in `w`. -/
structure Framed (r : Release) (targets : List Target) (scratch : Location) (w v : Workspace) : Prop where
  outside : SameOutside (r.Owned targets scratch w) w v
  rooms : ∀ t ∈ targets, r.Admits t → v.files.Linkless (scratch ++ [t.id]) ∨
    ∀ k, scratch ++ [t.id] <+: k → v.files.get? k = w.files.get? k
  named : ∀ t ∈ targets, r.Admits t → ∀ k, r.Names w t k → w.files.Leafed v.files k
  alone : ∀ t ∈ targets, r.Admits t → ∀ k, w.place? (Archive.draft (archivePath r t)) = some k → v.files.Alone k

/-- What the worker of a target changes in a step, of the files that workers found in `w`. -/
structure Changes (r : Release) (targets : List Target) (scratch : Location) (w : Workspace) (t : Target)
    (v u : Workspace) : Prop where
  files : ∀ k, ¬ r.Owns scratch w t k → u.files.get? k = v.files.get? k
  directory : ¬ r.Owned targets scratch w w.directory → v.directory = w.directory → u.directory = w.directory
  room : u.files.Linkless (scratch ++ [t.id]) ∨ ∀ k, scratch ++ [t.id] <+: k → u.files.get? k = v.files.get? k
  named : ∀ k, r.Names w t k → v.files.Leafed u.files k
  alone : ∀ s ∈ targets, r.Admits s → ∀ k, w.place? (Archive.draft (archivePath r s)) = some k →
    v.files.Alone k → u.files.Alone k

/-- What holds when a worker comes to a stage: nothing in the directory that it works in is a link. A draft that gets
its name was no directory, and only a target that has no directory of its own ends before it has one. -/
def Stage.Safe (r : Release) (scratch : Location) (w : Workspace) (t : Target) : Stage → Workspace → Prop
  | .reset, _ => True
  | .compile q, v | .locate q, v => r.Admits t ∧ q.target = t ∧ q.installDir = r.config.scratchDir.join t.id ∧
      usable r.config.scratchDir t.id = .ok () ∧ v.files.Linkless (scratch ++ [t.id])
  | .draft binary, v | .unlink binary, v => r.Admits t ∧ r.IsBinary t binary ∧
      v.files.Linkless (scratch ++ [t.id])
  | .rename binary, v => r.Admits t ∧ r.IsBinary t binary ∧ v.files.Linkless (scratch ++ [t.id]) ∧
      ∀ k, w.place? (Archive.draft (archivePath r t)) = some k → w.files.get? k ≠ some .directory
  | .undo _, _ => r.Admits t
  | .sweep archived, _ => r.Admits t ∨ ∃ p cause, archived = .error (.build (.scratch p cause))
  | .done ending, _ => r.Admits t ∨ ∃ p cause, ending = .error (.failed (.build (.scratch p cause)))

variable {r : Release} {targets : List Target} {scratch : Location} {s t : Target} {w v u : Workspace}
variable {stage : Stage} {k : Location}

theorem Changes.refl : r.Changes targets scratch w t v v where
  files _ _ := rfl
  directory _ stays := stays
  room := .inr fun _ _ => rfl
  named _ _ := .inl rfl
  alone _ _ _ _ _ alone := alone

theorem Admits.isName_id (admits : r.Admits t) : IsName t.id := by
  obtain ⟨p, named⟩ := admits
  exact Scratch.isName_of_directory named

theorem Admits.exists_names (admits : r.Admits t) : ∃ (home : Path) (stem : String),
    IsName (stem ++ "." ++ Archive.extension) ∧ IsName (stem ++ "." ++ (Archive.extension ++ ".partial")) ∧
      archivePath r t = home.join (stem ++ "." ++ Archive.extension) ∧
      Archive.draft (archivePath r t) = home.join (stem ++ "." ++ (Archive.extension ++ ".partial")) := by
  obtain ⟨home, stem, -, names⟩ := r.packaging.archiver.exists_names r.config.version admits.isName_id
  exact ⟨home, stem, names⟩

/-- Archives and drafts are in directories. -/
theorem Admits.exists_directory (admits : r.Admits t) (named : r.Names w t k) :
    ∃ dir name, k = dir ++ [name] ∧ w.files.get? dir = some .directory := by
  obtain ⟨home, stem, valid, validDraft, path, placed⟩ := admits.exists_names
  rcases named with named | named
  · rw [path] at named
    obtain ⟨dir, eq, directory⟩ := Workspace.exists_directory_of_place? valid named
    exact ⟨dir, _, eq, directory⟩
  · rw [placed] at named
    obtain ⟨dir, eq, directory⟩ := Workspace.exists_directory_of_place? validDraft named
    exact ⟨dir, _, eq, directory⟩

/-- An archive has not the name of a draft. -/
theorem Admits.ne_draft (admitsS : r.Admits s) (admitsT : r.Admits t) {l : Location}
    (archive : w.place? (archivePath r s) = some k) (draft : w.place? (Archive.draft (archivePath r t)) = some l) :
    k ≠ l := by
  obtain ⟨home, stem, valid, -, path, -⟩ := admitsS.exists_names
  obtain ⟨home', stem', -, valid', -, placed⟩ := admitsT.exists_names
  rw [path] at archive
  rw [placed] at draft
  obtain ⟨dir, rfl, -⟩ := Workspace.exists_directory_of_place? valid archive
  obtain ⟨dir', rfl, -⟩ := Workspace.exists_directory_of_place? valid' draft
  intro same
  have names : stem ++ "." ++ Archive.extension = stem' ++ "." ++ (Archive.extension ++ ".partial") := by
    simpa using (List.append_inj' same rfl).2
  rw [← String.toList_inj] at names
  exact ne_of_endings (a := ".zip".toList) (b := ".partial".toList)
    ⟨stem.toList, by simp [Archive.extension]⟩ ⟨(stem' ++ ".zip").toList, by simp [Archive.extension]⟩
    (by decide) (by decide) names

theorem Framed.record (framed : r.Framed targets scratch w v) (e : Event) :
    r.Framed targets scratch w (v.record e) :=
  ⟨⟨framed.outside.files, framed.outside.directory⟩, framed.rooms, framed.named, framed.alone⟩

/-- What holds at a stage still holds when the directory of the target has not changed, or has no links now. -/
theorem Stage.Safe.congr (safe : stage.Safe r scratch w t v)
    (same : r.Admits t → u.files.Linkless (scratch ++ [t.id]) ∨
      ∀ k, scratch ++ [t.id] <+: k → u.files.get? k = v.files.get? k) : stage.Safe r scratch w t u := by
  have linkless (admits : r.Admits t) (before : v.files.Linkless (scratch ++ [t.id])) :
      u.files.Linkless (scratch ++ [t.id]) :=
    (same admits).elim id fun same => before.congr same
  cases stage with
  | compile q | locate q =>
    obtain ⟨admits, named, installs, fits, before⟩ := safe
    exact ⟨admits, named, installs, fits, linkless admits before⟩
  | draft binary | unlink binary => exact ⟨safe.1, safe.2.1, linkless safe.1 safe.2.2⟩
  | rename binary => exact ⟨safe.1, safe.2.1, linkless safe.1 safe.2.2.1, safe.2.2.2⟩
  | reset | undo _ | sweep _ | done _ => exact safe

namespace Footing

variable (footing : r.Footing targets scratch w)
include footing

theorem framed_start : r.Framed targets scratch w w where
  outside := .refl _ w
  rooms _ _ _ := .inr fun _ _ => rfl
  named _ _ _ _ _ := .inl rfl
  alone t member admits k placed := (footing.tidy t member admits k placed).2

theorem scratch_directory : w.files.get? scratch = some .directory :=
  (footing.leads w (.refl _ w)).directory

/-- A worker changes nothing in the directory of another target. -/
theorem same_of_other (memberS : s ∈ targets) (admitsS : r.Admits s) (memberT : t ∈ targets) (admitsT : r.Admits t)
    (other : s.id ≠ t.id) (changes : r.Changes targets scratch w t v u) (inside : scratch ++ [s.id] <+: k) :
    u.files.get? k = v.files.get? k := by
  refine changes.files k ?_
  rintro (below | named)
  · have shape := List.prefix_of_prefix_length_le inside below (by simp)
    exact other (by simpa using shape.eq_of_length (by simp))
  · exact footing.apart s memberS admitsS t memberT admitsT k named inside

/-- The directory of a target has no links once it has changed, whoever changed it. -/
theorem linkless_or_same (memberS : s ∈ targets) (admitsS : r.Admits s) (memberT : t ∈ targets) (admitsT : r.Admits t)
    (changes : r.Changes targets scratch w t v u) : u.files.Linkless (scratch ++ [s.id]) ∨
      ∀ k, scratch ++ [s.id] <+: k → u.files.get? k = v.files.get? k := by
  by_cases own : s.id = t.id
  · exact own ▸ changes.room
  · exact .inr fun k inside => footing.same_of_other memberS admitsS memberT admitsT own changes inside

theorem framed_changes (member : t ∈ targets) (admits : r.Admits t) (framed : r.Framed targets scratch w v)
    (changes : r.Changes targets scratch w t v u) : r.Framed targets scratch w u where
  outside := by
    refine ⟨fun k away => ?_, fun away => changes.directory away (framed.outside.directory away)⟩
    rw [changes.files k fun own => away ⟨t, member, admits, own⟩, framed.outside.files k away]
  rooms s memberS admitsS := by
    obtain linkless | same := footing.linkless_or_same memberS admitsS member admits changes
    · exact .inl linkless
    · exact (framed.rooms s memberS admitsS).imp (·.congr same) fun before k inside =>
        (same k inside).trans (before k inside)
  named s memberS admitsS k named := by
    have before := framed.named s memberS admitsS k named
    by_cases own : r.Owns scratch w t k
    · refine before.trans (changes.named k (own.resolve_left fun inside => ?_))
      exact footing.apart t member admits s memberS admitsS k named inside
    · exact before.trans (.inl (changes.files k own))
  alone s memberS admitsS k placed := changes.alone s memberS admitsS k placed (framed.alone s memberS admitsS k placed)

/-- What is below a place of an archive or a draft that is no directory is nobody's place. -/
theorem not_owned_below (member : t ∈ targets) (admits : r.Admits t) {place : Location} (named : r.Names w t place)
    (noDirectory : w.files.get? place ≠ some .directory) (inside : place <+: k) (below : k ≠ place) :
    ¬ r.Owned targets scratch w k := by
  -- The directory that holds a place of a worker is not below the archive or draft.
  have leaf {dir : Location} (directory : w.files.get? dir = some .directory) : ¬ place <+: dir := fun above =>
    noDirectory (if same : place = dir then same ▸ directory else footing.sound.above directory above same)
  rintro ⟨s, memberS, admitsS, within | within⟩
  · rcases Nat.lt_or_ge place.length (scratch ++ [s.id]).length with shorter | longer
    · have above := List.prefix_of_prefix_length_le inside within (Nat.le_of_lt shorter)
      refine leaf footing.scratch_directory (List.prefix_of_prefix_length_le above (List.prefix_append _ _) ?_)
      simpa [Nat.lt_succ_iff] using shorter
    · exact footing.apart s memberS admitsS t member admits place named
        (List.prefix_of_prefix_length_le within inside longer)
  · obtain ⟨dir, name, rfl, directory⟩ := admitsS.exists_directory within
    refine leaf directory (List.prefix_of_prefix_length_le inside (List.prefix_append _ _) ?_)
    have shorter : place.length < (dir ++ [name]).length :=
      Nat.lt_of_le_of_ne inside.length_le fun same => below (inside.eq_of_length same).symm
    simpa [Nat.lt_succ_iff] using shorter

end Footing

end Release

end ReleaseMatrix
