import ReleaseMatrix.Proofs.FileWork
import ReleaseMatrix.Proofs.ReleaseNames
import ReleaseMatrix.Proofs.WorkerStages

namespace ReleaseMatrix

open Workspace (Within)
open FileTree (usable)

/-- The names that the binary of a product may have. -/
def Target.Spells (t : Target) (product name : String) : Prop :=
  name = product ∨ name = product ++ t.exeSuffix

theorem Target.Spells.isName {t : Target} {product name : String} (spells : t.Spells product name)
    (valid : IsName product) : IsName name := by
  rcases spells with rfl | rfl
  · exact valid
  · exact Target.isName_append_exeSuffix valid

/-- No link is on the way from the directory of a build to a binary in it. -/
def FileTree.Unlinked (files : FileTree) (l : Location) (product : String) (t : Target) : Prop :=
  ∀ name, t.Spells product name → files.Straight l ["bin", name]

theorem FileTree.Unlinked.congr {files files' : FileTree} {l : Location} {product : String} {t : Target}
    (unlinked : files.Unlinked l product t) (same : ∀ k, l <+: k → files'.get? k = files.get? k) :
    files'.Unlinked l product t :=
  fun name spells => (unlinked name spells).congr same (List.prefix_refl l)

theorem FileTree.Plain.unlinked {files : FileTree} {l : Location} (plain : files.Plain l) (product : String)
    (t : Target) : files.Unlinked l product t :=
  fun _ _ => plain.straight (List.prefix_refl l) _

/-- A compiler that writes only below the directory it installs to, in its run and after it, and that leaves no
link on the way to the binary if it starts in an empty directory and succeeds. -/
structure Compiler.Installs (c : Compiler) (product : String) : Prop where
  within : ∀ (q : BuildRequest) (w : Workspace) l, w.Leads q.installDir l →
    Within (fun k => l <+: k ∧ k ≠ l) w ((c.compile q).exec w).2
  withinLater : ∀ (q : BuildRequest) n (w : Workspace) l, w.Leads q.installDir l →
    Within (fun k => l <+: k ∧ k ≠ l) w { w with files := c.filesAt q n w.files }
  unlinked : ∀ (q : BuildRequest) (w : Workspace) l, w.Leads q.installDir l →
    (∀ k, l <+: k → k ≠ l → w.files.get? k = none) → ((c.compile q).exec w).1 = .ok () →
    ((c.compile q).exec w).2.files.Unlinked l product q.target
  unlinkedLater : ∀ (q : BuildRequest) n (w : Workspace) l, w.Leads q.installDir l → w.files.Unlinked l product q.target →
    (c.filesAt q n w.files).Unlinked l product q.target

/-- A compiler that has written everything when its run ends, and that writes only below the directory it
installs to. -/
structure Compiler.Enclosed (c : Compiler) : Prop where
  prompt : ∀ q k files, c.filesAt q k files = files
  within : ∀ q w l, w.Leads q.installDir l →
    Within (fun k => l <+: k ∧ k ≠ l) w ((c.compile q).exec w).2

/-- An enclosed compiler that makes no links. -/
structure Compiler.Confined (c : Compiler) : Prop extends c.Enclosed where
  plain : ∀ q w l, w.Leads q.installDir l → w.files.Plain l → ((c.compile q).exec w).2.files.Plain l

theorem Compiler.Confined.installs {c : Compiler} (confined : c.Confined) (product : String) :
    c.Installs product where
  within := confined.within
  withinLater q n w l _ := by
    rw [confined.prompt]
    exact .refl _ w
  unlinked q w l leads empty _ := by
    refine (confined.plain q w l leads fun k target inside below => ?_).unlinked product q.target
    rw [empty k inside below]
    simp
  unlinkedLater q n w l _ unlinked := by
    rw [confined.prompt]
    exact unlinked

theorem Builder.exec_waitForBinary_eq (b : Builder) (q : BuildRequest) (w : Workspace) :
    (b.waitForBinary q).exec w =
      let verdict := b.barrier.verdict b.clock (b.view q w (b.chosen q w))
      (if verdict.1 then .ok (b.chosen q w) else .error (.failed (.binaryMissing q.target.id (b.chosen q w))),
        b.seen q w (2 * verdict.2 + 3)) := by
  rw [waitForBinary, TaskM.exec_bind, TaskM.exec_get]
  dsimp only
  rw [TaskM.exec_bind, TaskM.exec_set]
  dsimp only
  split <;> rfl

/-- Waiting for the binary of a compiler that has written everything changes nothing. -/
theorem Builder.exec_waitForBinary {b : Builder} {q : BuildRequest} {w : Workspace}
    (prompt : ∀ k files, b.compiler.filesAt q k files = files) :
    (b.waitForBinary q).exec w =
      let binary := Scratch.binary w q.installDir b.product q.target
      (if (b.barrier.verdict b.clock fun _ => w.look binary).1 then .ok binary
        else .error (.failed (.binaryMissing q.target.id binary)), w) := by
  have seen (k : Nat) : b.seen q w k = w := by
    rw [Builder.seen, prompt]
  have chosen : b.chosen q w = Scratch.binary w q.installDir b.product q.target := by
    rw [Builder.chosen, seen, seen, Scratch.binary]
  have view (p : Path) : b.view q w p = fun _ => w.look p := by
    funext k
    rw [Builder.view, seen, seen]
  simp only [Builder.exec_waitForBinary_eq, chosen, view, seen]

theorem Scratch.eq_of_directory {root p : Path} {t : Target} (named : Scratch.directory root t = .ok p) :
    p = root.join t.id := by
  unfold Scratch.directory at named
  simp only at named
  split at named
  · exact (Except.ok.inj named).symm
  · exact absurd named (by simp)

namespace Scratch

/-- A binary is waited for under one of its names. -/
theorem exists_spells (installDir : Path) (product : String) (t : Target) (w v : Workspace) :
    ∃ file, t.Spells product file ∧ binaryBetween w v installDir product t = (installDir.join "bin").join file := by
  simp only [binaryBetween]
  split
  · exact ⟨product, .inl rfl, rfl⟩
  · exact ⟨product ++ t.exeSuffix, .inr rfl, rfl⟩

variable {p : Path} {l : Location} {name : String} {w v : Workspace}

/-- How making a directory anew ends: nothing else has changed, and if it succeeds then the directory is there with
nothing in it. -/
structure Renewed {ε : Type} (p : Path) (l : Location) (name : String) (w : Workspace)
    (result : Except ε Unit × Workspace) : Prop where
  within : Within (l ++ [name] <+: ·) w result.2
  made : result.1 = .ok () → usable p name = .ok () ∧ result.2.files.get? (l ++ [name]) = some .directory ∧
    ∀ k, l ++ [name] <+: k → k ≠ l ++ [name] → result.2.files.get? k = none

theorem Renewed.describe {ε δ : Type} {u : Workspace} {x : TaskM ε Unit} {words : ε → δ}
    (renewed : Renewed p l name w (x.exec u)) : Renewed p l name w ((x.describe words).exec u) where
  within := renewed.within
  made ok := by
    rw [TaskM.exec_describe] at ok
    refine renewed.made ?_
    cases outcome : (x.exec u).1 with
    | error e => simp [outcome, Except.mapError] at ok
    | ok _ => rfl

/-- Making a directory anew changes only what is in it. If it succeeds, the directory is there and empty. -/
theorem renewed_reset (leads : ∀ u, Within (l ++ [name] <+: ·) w u → u.Leads p l) (valid : IsName name)
    (ready : ∀ k e, l ++ [name] <+: k → k ≠ l ++ [name] → w.files.get? k = some e →
      w.files.get? (l ++ [name]) = some .directory) :
    Renewed p l name w ((reset (p.join name)).exec w) := by
  have root : l ++ [name] ≠ [] := by simp
  have failed {x : Except FileFault Unit × Workspace} {fault : FileFault} (result : x = (.error fault, w)) :
      Renewed p l name w x := by
    subst result
    exact ⟨.refl _ w, fun ok => absurd ok (by simp)⟩
  have made {u : Workspace} (within : Within (l ++ [name] <+: ·) w u) (fits : usable p name = .ok ())
      (empty : ∀ k, l ++ [name] <+: k → k ≠ l ++ [name] → u.files.get? k = none) :
      Renewed p l name w ((.ok (), FileM.changed u (·.put (l ++ [name]) .directory)) :
        Except FileFault Unit × Workspace) := by
    refine ⟨within.trans (FileM.within_put root), fun _ => ⟨fits, ?_, fun k inside below => ?_⟩⟩
    · simp [FileM.changed, FileTree.get?_put root]
    · simp [FileM.changed, FileTree.get?_put root, below, empty k inside below]
  have absent {k : Location} (inside : l ++ [name] <+: k) (below : k ≠ l ++ [name])
      (noDirectory : w.files.get? (l ++ [name]) ≠ some .directory) : w.files.get? k = none := by
    by_contra present
    obtain ⟨e, present⟩ := Option.ne_none_iff_exists'.mp present
    exact noDirectory (ready k e inside below present)
  refine Renewed.describe ?_
  rw [FileM.renew_join leads valid]
  cases fits : usable p name with
  | error fault => exact failed rfl
  | ok _ =>
    cases found : w.files.get? (l ++ [name]) with
    | none => exact made (.refl _ w) fits fun k inside below => absent inside below (by simp [found])
    | some e =>
      cases e with
      | directory =>
        exact made (FileM.within_felled root) fits fun k inside below => by simp [FileM.get?_felled root, inside]
      | link target =>
        dsimp only
        split
        · refine made (FileM.within_erase root) fits fun k inside below => ?_
          rw [FileM.changed, FileTree.get?_erase root, if_neg below]
          exact absent inside below (by simp [found])
        · exact failed rfl
      | _ => exact failed rfl

/-- A directory is made anew alike whether it is there or not. What stands in its place can be in the way, and then
nothing changes. -/
theorem reset_alike (leads : ∀ u, Within (l ++ [name] <+: ·) w u → u.Leads p l)
    (leads' : ∀ u, Within (l ++ [name] <+: ·) v u → u.Leads p l) (valid : IsName name)
    (noLink : ∀ target, w.files.get? (l ++ [name]) ≠ some (.link target))
    (others : ∀ e, e ≠ .directory → (w.files.get? (l ++ [name]) = some e ↔ v.files.get? (l ++ [name]) = some e)) :
    (∃ error, (reset (p.join name)).exec w = (.error error, w) ∧ (reset (p.join name)).exec v = (.error error, v)) ∨
      ((reset (p.join name)).exec w).1 = .ok () ∧ ((reset (p.join name)).exec v).1 = .ok () := by
  have vacant (free : w.files.get? (l ++ [name]) = none ∨ w.files.get? (l ++ [name]) = some .directory) :
      v.files.get? (l ++ [name]) = none ∨ v.files.get? (l ++ [name]) = some .directory := by
    cases found : v.files.get? (l ++ [name]) with
    | none => exact .inl rfl
    | some e =>
      by_cases directory : e = .directory
      · exact .inr (directory ▸ rfl)
      · rw [(others e directory).mpr found] at free
        simp [directory] at free
  rw [reset, TaskM.exec_describe, TaskM.exec_describe, FileM.renew_join leads valid, FileM.renew_join leads' valid]
  cases usable p name with
  | error fault => exact .inl ⟨_, rfl, rfl⟩
  | ok _ =>
    cases found : w.files.get? (l ++ [name]) with
    | none => rcases vacant (.inl found) with found' | found' <;> rw [found'] <;> exact .inr ⟨rfl, rfl⟩
    | some e =>
      cases e with
      | directory => rcases vacant (.inr found) with found' | found' <;> rw [found'] <;> exact .inr ⟨rfl, rfl⟩
      | link target => exact absurd found (noLink target)
      | _ =>
        rw [(others _ (by simp)).mp found]
        exact .inl ⟨_, rfl, rfl⟩

end Scratch

namespace Release

theorem isName_bin : IsName "bin" := ⟨by decide, by decide, by decide, by decide⟩

/-- The place of the draft of a target. -/
def draftPlace (r : Release) (out : Location) (t : Target) : Location :=
  out ++ [Archive.draftName r.config.product r.config.version t]

/-- The place of the archive of a target. -/
def archivePlace (r : Release) (out : Location) (t : Target) : Location :=
  out ++ [Archive.fileName r.config.product r.config.version t]

/-- The places that belong to the worker of a target: its own scratch directory with all that is in it, and
its draft and its archive in the output directory. -/
def Area (r : Release) (scratch out : Location) (t : Target) (k : Location) : Prop :=
  scratch ++ [t.id] <+: k ∨
    r.draftPlace out t <+: k ∨ r.archivePlace out t <+: k

/-- Where the workers of some targets do their work. The paths of the scratch directory and of the output
directory lead there along directories and links of a tree that has none of them in an area. -/
structure Site (r : Release) (targets : List Target) (base : FileTree) (here scratch out : Location) :
    Prop where
  product : IsName r.config.product
  version : '/' ∉ r.config.version.toList
  names : ∀ t ∈ targets, IsName t.id
  leadsScratch : base.Leads here r.config.scratchDir scratch
  leadsOut : base.Leads here r.config.outDir out
  apart : scratch ≠ out
  away : ∀ t ∈ targets, ∀ k e, r.Area scratch out t k → base.get? k = some e → e.isWay = false

/-- The draft of a target is no link, and no other name of a file. -/
structure Tidy (r : Release) (out : Location) (t : Target) (w : Workspace) : Prop where
  noLink : ∀ target, w.files.get? (r.draftPlace out t) ≠ some (.link target)
  alone : w.files.Alone (r.draftPlace out t)

/-- The directory that a target is built in is there. -/
structure Opened (r : Release) (scratch : Location) (t : Target) (w : Workspace) : Prop where
  fits : usable r.config.scratchDir t.id = .ok ()
  directory : w.files.get? (scratch ++ [t.id]) = some .directory

/-- How writing to the draft of a target ends: nothing else has changed, and if it succeeds then a file is
there. -/
structure Drafted {ε : Type} (r : Release) (out : Location) (t : Target) (w : Workspace)
    (result : Except ε Unit × Workspace) : Prop where
  within : Within (r.draftPlace out t <+: ·) w result.2
  tidy : r.Tidy out t result.2
  written : result.1 = .ok () → ∃ e, result.2.files.get? (r.draftPlace out t) = some e ∧ e ≠ .directory

/-- The path of the binary that a build left in its `bin` directory. -/
def IsBinary (r : Release) (t : Target) (binary : Path) : Prop :=
  ∃ file, t.Spells r.config.product file ∧ binary = ((r.config.scratchDir.join t.id).join "bin").join file

theorem isBinary_binaryBetween (r : Release) (t : Target) (w v : Workspace) :
    r.IsBinary t (Scratch.binaryBetween w v (r.config.scratchDir.join t.id) r.config.product t) :=
  Scratch.exists_spells _ _ t w v

/-- What holds of a workspace when a worker comes to a stage. -/
def Stage.Ready (r : Release) (scratch out : Location) (t : Target) : Stage → Workspace → Prop
  | .reset, w => ∀ k e, scratch ++ [t.id] <+: k → k ≠ scratch ++ [t.id] → w.files.get? k = some e →
      w.files.get? (scratch ++ [t.id]) = some .directory
  | .compile q, w => q.target = t ∧ q.installDir = r.config.scratchDir.join t.id ∧ r.Opened scratch t w ∧
      ∀ k, scratch ++ [t.id] <+: k → k ≠ scratch ++ [t.id] → w.files.get? k = none
  | .locate q, w => q.target = t ∧ q.installDir = r.config.scratchDir.join t.id ∧ r.Opened scratch t w ∧
      w.files.Unlinked (scratch ++ [t.id]) r.config.product t
  | .draft binary, w | .unlink binary, w => r.IsBinary t binary ∧ r.Opened scratch t w ∧
      w.files.Unlinked (scratch ++ [t.id]) r.config.product t
  | .rename binary, w => r.IsBinary t binary ∧ r.Opened scratch t w ∧
      w.files.Unlinked (scratch ++ [t.id]) r.config.product t ∧ ∃ e, w.files.get? (r.draftPlace out t) = some e ∧ e ≠ .directory
  | _, _ => True

/-- Places directly in two directories, with something common below them: one is above the other directory, or
they are the same. -/
theorem prefix_concat {a b k : Location} {x y : String} (first : a ++ [x] <+: k) (second : b ++ [y] <+: k) :
    a ++ [x] <+: b ∨ b ++ [y] <+: a ∨ (a = b ∧ x = y) := by
  rcases Nat.lt_trichotomy a.length b.length with shorter | same | longer
  · refine .inl (List.prefix_of_prefix_length_le first ((List.prefix_append b [y]).trans second) ?_)
    simp
    omega
  · have equal : a ++ [x] = b ++ [y] := by
      have := List.prefix_of_prefix_length_le first second (by simp [same])
      exact this.eq_of_length (by simp [same])
    obtain ⟨rfl, last⟩ := List.append_inj' equal rfl
    exact .inr (.inr ⟨rfl, by simpa using last⟩)
  · refine .inr (.inl (List.prefix_of_prefix_length_le second ((List.prefix_append a [x]).trans first) ?_))
    simp
    omega

theorem draft_apart_archive (r : Release) (out : Location) (t : Target) :
    ¬ r.draftPlace out t <+: r.archivePlace out t ∧ ¬ r.archivePlace out t <+: r.draftPlace out t := by
  have other : r.draftPlace out t ≠ r.archivePlace out t := by
    intro same
    exact Archive.fileName_ne_draftName (by simpa [draftPlace, archivePlace] using same.symm)
  have width : (r.draftPlace out t).length = (r.archivePlace out t).length := by simp [draftPlace, archivePlace]
  exact ⟨fun inside => other (inside.eq_of_length width), fun inside => other (inside.eq_of_length width.symm).symm⟩

theorem Tidy.relocated {r : Release} {out : Location} {t : Target} {w : Workspace} (tidy : r.Tidy out t w) :
    r.Tidy out t (FileM.relocated w (r.draftPlace out t) (r.archivePlace out t)) := by
  have root : r.draftPlace out t ≠ [] := by simp [draftPlace]
  refine ⟨fun target link => ?_, ?_⟩
  · rw [FileM.relocated_files, FileTree.get?_move_source root (List.prefix_refl _)
      (r.draft_apart_archive out t).2] at link
    exact absurd link (by simp)
  · rw [FileM.relocated_files]
    exact tidy.alone.move (r.draft_apart_archive out t).2

/-- What holds at a stage is about the target's own area. -/
theorem Stage.Ready.congr {r : Release} {scratch out : Location} {t : Target} {w v : Workspace} {stage : Stage}
    (ready : stage.Ready r scratch out t w)
    (same : ∀ k, r.Area scratch out t k → v.files.get? k = w.files.get? k) : stage.Ready r scratch out t v := by
  have root : v.files.get? (scratch ++ [t.id]) = w.files.get? (scratch ++ [t.id]) :=
    same _ (.inl (List.prefix_refl _))
  have opened (before : r.Opened scratch t w) : r.Opened scratch t v := ⟨before.fits, root.trans before.directory⟩
  have unlinked (before : w.files.Unlinked (scratch ++ [t.id]) r.config.product t) :
      v.files.Unlinked (scratch ++ [t.id]) r.config.product t :=
    before.congr fun k inside => same k (.inl inside)
  cases stage with
  | reset =>
    intro k e inside below found
    rw [root]
    exact ready k e inside below ((same k (.inl inside)).symm.trans found)
  | compile q =>
    obtain ⟨named, installs, open_, empty⟩ := ready
    exact ⟨named, installs, opened open_, fun k inside below => (same k (.inl inside)).trans (empty k inside below)⟩
  | locate q =>
    obtain ⟨named, installs, open_, noLinks⟩ := ready
    exact ⟨named, installs, opened open_, unlinked noLinks⟩
  | draft binary => exact ⟨ready.1, opened ready.2.1, unlinked ready.2.2⟩
  | unlink binary => exact ⟨ready.1, opened ready.2.1, unlinked ready.2.2⟩
  | rename binary =>
    obtain ⟨isBinary, open_, noLinks, e, found, noDirectory⟩ := ready
    exact ⟨isBinary, opened open_, unlinked noLinks, e,
      (same _ (.inr (.inl (List.prefix_refl _)))).trans found, noDirectory⟩
  | undo error => trivial
  | sweep archived => trivial
  | done ending => trivial

/-- What is kept between the steps of a worker. -/
structure Kept (r : Release) (base : FileTree) (here scratch out : Location) (t : Target) (stage : Stage)
    (w : Workspace) : Prop where
  rests : w.Rests base here
  tidy : r.Tidy out t w
  ready : stage.Ready r scratch out t w

namespace Site

variable {r : Release} {targets : List Target} {base : FileTree} {here scratch out : Location} {s t : Target}
variable {w v : Workspace} (site : r.Site targets base here scratch out)
include site

theorem scratch_not_area (member : t ∈ targets) : ¬ r.Area scratch out t scratch := fun inside => by
  have := site.away t member scratch _ inside site.leadsScratch.directory
  simp [Entry.isWay] at this

theorem out_not_area (member : t ∈ targets) : ¬ r.Area scratch out t out := fun inside => by
  have := site.away t member out _ inside site.leadsOut.directory
  simp [Entry.isWay] at this

theorem scratch_apart_out {name : String} {k : Location} (memberS : s ∈ targets) (memberT : t ∈ targets)
    (inside : scratch ++ [s.id] <+: k) (beside : out ++ [name] <+: k)
    (own : name = Archive.draftName r.config.product r.config.version t ∨
      name = Archive.fileName r.config.product r.config.version t) : False := by
  rcases prefix_concat inside beside with above | above | ⟨same, -⟩
  · exact site.out_not_area memberS (.inl above)
  · refine site.scratch_not_area memberT ?_
    rcases own with rfl | rfl
    · exact .inr (.inl above)
    · exact .inr (.inr above)
  · exact site.apart same

/-- The areas of two targets have no place in common. -/
theorem areas_disjoint (memberS : s ∈ targets) (memberT : t ∈ targets) (other : s ≠ t) {k : Location}
    (areaS : r.Area scratch out s k) : ¬ r.Area scratch out t k := by
  have beside {x y : String} (first : out ++ [x] <+: k) (second : out ++ [y] <+: k) : x = y := by
    have shape := List.prefix_of_prefix_length_le first second (by simp)
    have equal := shape.eq_of_length (by simp)
    simpa using equal
  intro areaT
  rcases areaS with inside | draft | archive
  · rcases areaT with inside' | draft' | archive'
    · have shape := List.prefix_of_prefix_length_le inside inside' (by simp)
      have ids : s.id = t.id := by simpa using shape.eq_of_length (by simp)
      exact other (by cases s; cases t; simpa using ids)
    · exact site.scratch_apart_out memberS memberT inside draft' (.inl rfl)
    · exact site.scratch_apart_out memberS memberT inside archive' (.inr rfl)
  · rcases areaT with inside' | draft' | archive'
    · exact site.scratch_apart_out memberT memberS inside' draft (.inl rfl)
    · exact other (Archive.draftName_inj (beside draft draft'))
    · exact Archive.fileName_ne_draftName (beside archive' draft)
  · rcases areaT with inside' | draft' | archive'
    · exact site.scratch_apart_out memberT memberS inside' archive (.inr rfl)
    · exact Archive.fileName_ne_draftName (beside archive draft')
    · exact other (Archive.fileName_inj (beside archive archive'))

theorem isName_draft (member : t ∈ targets) :
    IsName (Archive.draftName r.config.product r.config.version t) :=
  Archive.isName_draftName site.product.noSlash site.version (site.names t member)

theorem isName_archive (member : t ∈ targets) :
    IsName (Archive.fileName r.config.product r.config.version t) :=
  Archive.isName_fileName site.product.noSlash site.version (site.names t member)

theorem draft_path (member : t ∈ targets) :
    Archive.draft (Stage.archivePath r t) =
      r.config.outDir.join (Archive.draftName r.config.product r.config.version t) :=
  Archive.draft_fileName r.config.outDir site.product.noSlash site.version (site.names t member)

/-- Changes in the area of a target leave the base in place. -/
theorem rests (member : t ∈ targets) (within : Within (r.Area scratch out t) w v) (rests : w.Rests base here) :
    v.Rests base here :=
  within.rests (site.away t member) rests

/-- What holds at a stage still holds after another worker has changed its own area. -/
theorem ready_of_other (memberS : s ∈ targets) (memberT : t ∈ targets) (other : s ≠ t)
    (within : Within (r.Area scratch out s) w v) {stage : Stage} (ready : stage.Ready r scratch out t w) :
    stage.Ready r scratch out t v :=
  ready.congr fun k own => within.files k (site.areas_disjoint memberT memberS (Ne.symm other) own)

theorem tidy_of_other (memberS : s ∈ targets) (memberT : t ∈ targets) (other : s ≠ t)
    (within : Within (r.Area scratch out s) w v) (tidy : r.Tidy out t w) : r.Tidy out t v := by
  have away := site.areas_disjoint memberT memberS (Ne.symm other) (.inr (.inl (List.prefix_refl _)))
  refine ⟨fun target => ?_, within.alone _ away tidy.alone⟩
  rw [within.files _ away]
  exact tidy.noLink target

/-- Changes in the directory of a target leave the way to the scratch directory. -/
theorem leads_scratch (member : t ∈ targets) (rests : w.Rests base here)
    (within : Within (scratch ++ [t.id] <+: ·) w v) : v.Leads r.config.scratchDir scratch :=
  (site.rests member (within.mono fun _ => .inl) rests).leads site.leadsScratch

/-- Making the directory of a target anew changes only what is in it. -/
theorem renewed_reset (member : t ∈ targets) (rests : w.Rests base here)
    (ready : Stage.Ready r scratch out t .reset w) :
    Scratch.Renewed r.config.scratchDir scratch t.id w
      ((Scratch.reset (r.config.scratchDir.join t.id)).exec w) :=
  Scratch.renewed_reset (fun _ => site.leads_scratch member rests) (site.names t member) ready

theorem leads_opened (member : t ∈ targets) (rests : w.Rests base here) (opened : r.Opened scratch t w) :
    w.Leads (r.config.scratchDir.join t.id) (scratch ++ [t.id]) :=
  (rests.leads site.leadsScratch).join (site.names t member) opened.directory opened.fits
/-- The directory that a compiler is to install to is the directory of the target. -/
theorem leads_compile (member : t ∈ targets) (rests : w.Rests base here) {q : BuildRequest}
    (ready : Stage.Ready r scratch out t (.compile q) w) :
    (w.record (.compiled q)).Leads q.installDir (scratch ++ [t.id]) := by
  obtain ⟨-, located, opened, -⟩ := ready
  rw [located]
  exact site.leads_opened (w := w.record (.compiled q)) member ⟨rests.keeps, rests.home⟩ ⟨opened.fits, opened.directory⟩

theorem leads_locate (member : t ∈ targets) (rests : w.Rests base here) {q : BuildRequest}
    (ready : Stage.Ready r scratch out t (.locate q) w) : w.Leads q.installDir (scratch ++ [t.id]) := by
  obtain ⟨-, located, opened, -⟩ := ready
  rw [located]
  exact site.leads_opened member rests opened

/-- The directory that a compiler installs to is still found where something changed in it. -/
theorem leads_within (member : t ∈ targets) {q : BuildRequest} (kept : r.Kept base here scratch out t (.locate q) w)
    (within : Within (fun k => scratch ++ [t.id] <+: k ∧ k ≠ scratch ++ [t.id]) w v) :
    v.Leads q.installDir (scratch ++ [t.id]) := by
  obtain ⟨rests, -, -, located, opened, -⟩ := kept
  rw [located]
  exact site.leads_opened member (site.rests member (within.mono fun _ inside => .inl inside.1) rests)
    ⟨opened.fits, (within.files _ fun inside => inside.2 rfl).trans opened.directory⟩

/-- The binary of a build is found alike where the directory of the build holds the same. -/
theorem find_opened (member : t ∈ targets) (restsW : w.Rests base here) (restsV : v.Rests base here)
    (opened : r.Opened scratch t w) (unlinked : w.files.Unlinked (scratch ++ [t.id]) r.config.product t)
    {binary : Path} (isBinary : r.IsBinary t binary)
    (same : ∀ k, scratch ++ [t.id] <+: k → w.files.get? k = v.files.get? k) : w.find binary = v.find binary := by
  obtain ⟨file, spells, rfl⟩ := isBinary
  have opened' : r.Opened scratch t v := ⟨opened.fits, (same _ (List.prefix_refl _)).symm.trans opened.directory⟩
  exact (Workspace.find_below (site.leads_opened member restsW opened) (site.leads_opened member restsV opened') same
    (unlinked file spells) isName_bin (spells.isName site.product)).1

theorem exec_write (member : t ∈ targets) (rests : w.Rests base here) (tidy : r.Tidy out t w)
    (content : Bytes) :
    r.Drafted out t w
      ((FileM.write (r.config.outDir.join (Archive.draftName r.config.product r.config.version t)) content).exec w) := by
  have root : r.draftPlace out t ≠ [] := by simp [draftPlace]
  have failed {x : Except FileFault Unit × Workspace} {fault : FileFault} (result : x = (.error fault, w)) :
      r.Drafted out t w x := by
    subst result
    exact ⟨.refl _ w, tidy, fun ok => absurd ok (by simp)⟩
  have written (e : Entry) (noDirectory : e ≠ .directory) (noLink : ∀ target, e ≠ .link target) :
      r.Drafted out t w ((.ok (), FileM.changed w (·.put (r.draftPlace out t) e)) :
        Except FileFault Unit × Workspace) := by
    have found : (FileM.changed w (·.put (r.draftPlace out t) e)).files.get? (r.draftPlace out t) = some e := by
      simp [FileM.changed, FileTree.get?_put root]
    refine ⟨FileM.within_put root, ⟨fun target link => ?_, tidy.alone⟩, fun _ => ⟨e, found, noDirectory⟩⟩
    rw [found] at link
    exact noLink target (Option.some_inj.mp link)
  rw [FileM.write_join (rests.leads site.leadsOut) (site.isName_draft member) tidy.noLink tidy.alone]
  cases usable r.config.outDir (Archive.draftName r.config.product r.config.version t) with
  | error fault => exact failed rfl
  | ok _ =>
    cases found : w.files.get? (out ++ [Archive.draftName r.config.product r.config.version t]) with
    | none => exact written _ (by simp [Entry.withContent]) (by simp [Entry.withContent])
    | some e =>
      cases e with
      | directory => exact failed rfl
      | link target => exact absurd found (tidy.noLink target)
      | _ => exact written _ (by simp [Entry.withContent]) (by simp [Entry.withContent])

theorem exec_writeDraft (member : t ∈ targets) (rests : w.Rests base here) (tidy : r.Tidy out t w)
    (binary : Path) (entry : String) :
    r.Drafted out t w ((Archiver.writeDraft binary entry (Stage.archivePath r t)).exec w) := by
  have inArea {v : Workspace} (within : Within (r.draftPlace out t <+: ·) w v) : v.Rests base here :=
    site.rests member (within.mono fun _ inside => .inr (.inl inside)) rests
  have failed {v : Workspace} (within : Within (r.draftPlace out t <+: ·) w v) (tidy' : r.Tidy out t v)
      (error : ArchiveError) : r.Drafted out t w ((.error error, v) : Except ArchiveError Unit × Workspace) :=
    ⟨within, tidy', fun ok => absurd ok (by simp)⟩
  rw [Archiver.writeDraft, site.draft_path member, TaskM.exec_bind, TaskM.exec_describe, FileM.exec_look]
  cases w.find binary with
  | error fault => exact failed (.refl _ w) tidy _
  | ok found =>
    simp only [Except.mapError, TaskM.exec_describe]
    have first := site.exec_write member rests tidy []
    rw [TaskM.exec_bind]
    rcases ran : (FileM.write (r.config.outDir.join
      (Archive.draftName r.config.product r.config.version t)) []).exec w with ⟨fault | _, v⟩
    · rw [ran] at first
      exact failed first.within first.tidy _
    · rw [ran] at first
      dsimp only
      rw [TaskM.exec_bind, FileM.exec_look]
      cases v.read binary with
      | error fault => exact failed first.within first.tidy _
      | ok content =>
        have second := site.exec_write member (inArea first.within) first.tidy
          (Zip.write ⟨entry, Archive.entryMode, content⟩)
        dsimp only
        rcases ran : (FileM.write (r.config.outDir.join
          (Archive.draftName r.config.product r.config.version t)) (Zip.write
            ⟨entry, Archive.entryMode, content⟩)).exec v with ⟨fault | _, u⟩
        · rw [ran] at second
          exact failed (first.within.trans second.within) second.tidy _
        · rw [ran] at second
          exact ⟨first.within.trans second.within, second.tidy, fun _ => second.written rfl⟩

/-- Giving a draft its name: the draft is gone and stands where the archive is to be, or nothing has changed. -/
theorem exec_rename (member : t ∈ targets) (rests : w.Rests base here) (tidy : r.Tidy out t w) {e : Entry}
    (found : w.files.get? (r.draftPlace out t) = some e) (noDirectory : e ≠ .directory) :
    (FileM.rename (Archive.draft (Stage.archivePath r t)) (Stage.archivePath r t)).exec w =
      match usable r.config.outDir (Archive.draftName r.config.product r.config.version t),
        usable r.config.outDir (Archive.fileName r.config.product r.config.version t) with
      | .error fault, _ => (.error fault, w)
      | .ok _, .error fault => (.error fault, w)
      | .ok _, .ok _ =>
        match w.files.get? (r.archivePlace out t) with
        | some .directory => (.error .isADirectory, w)
        | _ => (.ok (), FileM.relocated w (r.draftPlace out t) (r.archivePlace out t)) := by
  have leads := rests.leads site.leadsOut
  obtain ⟨apart, apart'⟩ := r.draft_apart_archive out t
  have unshared : (w.files.places (out ++ [Archive.draftName r.config.product r.config.version t])).contains
      (out ++ [Archive.fileName r.config.product r.config.version t]) = false := by
    have alone : w.files.Alone (out ++ [Archive.draftName r.config.product r.config.version t]) := tidy.alone
    have other : Archive.fileName r.config.product r.config.version t ≠
        Archive.draftName r.config.product r.config.version t := Archive.fileName_ne_draftName
    rw [alone.places_eq]
    simpa using other
  have renamed := FileM.rename_join leads (site.isName_draft member) leads (site.isName_archive member) found
    noDirectory apart apart'
  rw [site.draft_path member]
  change (FileM.rename _ (r.config.outDir.join (Archive.fileName r.config.product r.config.version t))).exec w = _
  rw [renamed]
  simp only [unshared, Bool.false_eq_true, if_false]
  rfl

/-- Removing the binary that a build left changes nothing outside the directory of the build. -/
theorem within_removeBinary (member : t ∈ targets) (rests : w.Rests base here) {binary : Path}
    (isBinary : r.IsBinary t binary) (opened : r.Opened scratch t w)
    (unlinked : w.files.Unlinked (scratch ++ [t.id]) r.config.product t) :
    Within (scratch ++ [t.id] <+: ·) w ((FileM.removeFile binary).exec w).2 := by
  obtain ⟨file, spells, rfl⟩ := isBinary
  have valid := spells.isName site.product
  have leads := site.leads_opened member rests opened
  obtain ⟨-, ⟨fault, ends⟩ | ends⟩ :=
    FileTree.Leads.ending_below leads leads (fun _ _ => rfl) ⟨(unlinked file spells).1, trivial⟩ isName_bin valid
  · rw [FileM.removeFile_of_fault ends]
    exact .refl _ w
  · rw [FileM.removeFile_of_ending ends (Path.endsInSlash_join _ valid)]
    have inside : scratch ++ [t.id] <+: scratch ++ [t.id] ++ ["bin"] ++ [file] := ⟨["bin", file], by simp⟩
    have erased : Within (scratch ++ [t.id] <+: ·) w
        (FileM.changed w (·.erase (scratch ++ [t.id] ++ ["bin"] ++ [file]))) :=
      (FileM.within_erase (by simp)).mono fun _ below => inside.trans below
    split
    · exact .refl _ w
    · exact .refl _ w
    · exact erased

/-- Removing what the build of a target left changes nothing outside its directory. -/
theorem within_removeScratch (member : t ∈ targets) (rests : w.Rests base here) :
    Within (scratch ++ [t.id] <+: ·) w ((removeScratch r.config.scratchDir t).exec w).2 := by
  have valid := site.names t member
  have root : scratch ++ [t.id] ≠ [] := by simp
  have inArea {v : Workspace} (within : Within (scratch ++ [t.id] <+: ·) w v) : v.Leads r.config.scratchDir scratch :=
    (site.rests member (within.mono fun _ => .inl) rests).leads site.leadsScratch
  cases named : Scratch.directory r.config.scratchDir t with
  | error error =>
    rw [Stage.exec_removeScratch_of_no_directory named]
    exact .refl _ w
  | ok p =>
    rw [Stage.exec_removeScratch_of_directory named, Scratch.eq_of_directory named, Files.exec_removeDirectory]
    split
    · rw [FileM.removeTree_join (inArea (.refl _ w)) (inArea (FileM.within_emptied w _)) valid]
      split
      · exact .refl _ w
      · exact .refl _ w
      · exact FileM.within_erase root
      · exact FileM.within_felled root
      · exact .refl _ w
    · exact .refl _ w

/-- A worker steps within its own area, and keeps what the next step needs. -/
theorem next_kept (installs : r.compiler.Installs r.config.product) (member : t ∈ targets) {stage : Stage}
    (kept : r.Kept base here scratch out t stage w) :
    Within (r.Area scratch out t) w (stage.next r t w).2 ∧
      r.Kept base here scratch out t (stage.next r t w).1 (stage.next r t w).2 := by
  obtain ⟨rests, tidy, ready⟩ := kept
  -- It is enough that a step stays in the area, and leaves the draft tidy and the next stage ready.
  suffices done : Within (r.Area scratch out t) w (stage.next r t w).2 ∧ r.Tidy out t (stage.next r t w).2 ∧
      (stage.next r t w).1.Ready r scratch out t (stage.next r t w).2 from
    ⟨done.1, site.rests member done.1 rests, done.2.1, done.2.2⟩
  have below {v : Workspace} (within : Within (scratch ++ [t.id] <+: ·) w v) :
      Within (r.Area scratch out t) w v ∧ r.Tidy out t v := by
    have away : ¬ scratch ++ [t.id] <+: r.draftPlace out t := fun inside =>
      site.scratch_apart_out member member inside (List.prefix_refl _) (.inl rfl)
    refine ⟨within.mono fun _ => .inl, fun target => ?_, within.alone _ away tidy.alone⟩
    rw [within.files _ away]
    exact tidy.noLink target
  have unmoved {v : Workspace} (within : Within (fun k => r.draftPlace out t <+: k ∨ r.archivePlace out t <+: k) w v)
      (opened : r.Opened scratch t w) (unlinked : w.files.Unlinked (scratch ++ [t.id]) r.config.product t) :
      r.Opened scratch t v ∧ v.files.Unlinked (scratch ++ [t.id]) r.config.product t := by
    have same {k : Location} (inside : scratch ++ [t.id] <+: k) : v.files.get? k = w.files.get? k :=
      within.files k fun beside => beside.elim
        (fun draft => site.scratch_apart_out member member inside draft (.inl rfl))
        (fun archive => site.scratch_apart_out member member inside archive (.inr rfl))
    exact ⟨⟨opened.fits, (same (List.prefix_refl _)).trans opened.directory⟩, unlinked.congr fun _ => same⟩
  cases stage with
  | reset =>
    simp only [Stage.next]
    cases named : Scratch.directory r.config.scratchDir t with
    | error error => exact ⟨.refl _ w, tidy, trivial⟩
    | ok p =>
      rw [Scratch.eq_of_directory named]
      have renewed := site.renewed_reset member rests ready
      obtain ⟨within, tidy'⟩ := below renewed.within
      refine ⟨within, tidy', ?_⟩
      simp only [Stage.resetting, WorkM.exec_ofTask]
      cases outcome : ((Scratch.reset (r.config.scratchDir.join t.id)).exec w).1 with
      | error error => trivial
      | ok _ =>
        obtain ⟨fits, directory, empty⟩ := renewed.made outcome
        exact ⟨rfl, rfl, ⟨fits, directory⟩, empty⟩
  | compile q =>
    have leads := site.leads_compile member rests ready
    obtain ⟨rfl, located, opened, empty⟩ := ready
    have within := (Workspace.within_record _ w _).trans (installs.within q _ _ leads)
    obtain ⟨inArea, tidy'⟩ := below (within.mono fun _ => And.left)
    refine ⟨inArea, tidy', ?_⟩
    simp only [Stage.next]
    rcases ended : ((r.compiler.compile q).exec (w.record (.compiled q))).1 with (error | crash) | _
    · trivial
    · trivial
    · refine ⟨rfl, located, ⟨opened.fits, ?_⟩, installs.unlinked q _ _ leads empty ended⟩
      rw [within.files _ (fun inside => inside.2 rfl)]
      exact opened.directory
  | locate q =>
    have leads := site.leads_locate member rests ready
    obtain ⟨rfl, located, opened, unlinked⟩ := ready
    -- The binary is waited for in files that the compiler may still write.
    have within (n : Nat) := installs.withinLater q n w _ leads
    have later (n : Nat) := installs.unlinkedLater q n w _ leads unlinked
    simp only [Stage.next, Builder.exec_waitForBinary_eq]
    obtain ⟨inArea, tidy'⟩ := below ((within _).mono fun _ => And.left)
    refine ⟨inArea, tidy', ?_⟩
    split
    · refine ⟨?_, ⟨opened.fits, ((within _).files _ fun inside => inside.2 rfl).trans opened.directory⟩, later _⟩
      rw [Builder.chosen, located]
      exact isBinary_binaryBetween r q.target _ _
    · trivial
  | draft binary =>
    obtain ⟨isBinary, opened, unlinked⟩ := ready
    have drafted := site.exec_writeDraft member rests tidy binary (Archive.entryName binary t)
    obtain ⟨opened', unlinked'⟩ := unmoved (drafted.within.mono fun _ => .inl) opened unlinked
    refine ⟨drafted.within.mono fun _ inside => .inr (.inl inside), drafted.tidy, ?_⟩
    have written := drafted.written
    simp only [Stage.next]
    cases outcome : ((Archiver.writeDraft binary (Archive.entryName binary t) (Stage.archivePath r t)).exec w).1 with
    | error error => trivial
    | ok _ => exact ⟨isBinary, opened', unlinked', written outcome⟩
  | undo error =>
    simp only [Stage.next]
    rw [site.draft_path member, FileM.removeFile_join (rests.leads site.leadsOut) (site.isName_draft member)]
    have root : r.draftPlace out t ≠ [] := by simp [draftPlace]
    have erased : Within (r.Area scratch out t) w (FileM.changed w (·.erase (r.draftPlace out t))) ∧
        r.Tidy out t (FileM.changed w (·.erase (r.draftPlace out t))) := by
      refine ⟨(FileM.within_erase root).mono fun _ inside => .inr (.inl inside), fun target link => ?_,
        tidy.alone.erase _⟩
      simp [FileM.changed, FileTree.get?_erase root] at link
    split
    · exact ⟨.refl _ w, tidy, trivial⟩
    · exact ⟨.refl _ w, tidy, trivial⟩
    · exact ⟨.refl _ w, tidy, trivial⟩
    · exact ⟨erased.1, erased.2, trivial⟩
  | rename binary =>
    obtain ⟨isBinary, opened, unlinked, e, found, noDirectory⟩ := ready
    obtain ⟨opened', unlinked'⟩ := unmoved FileM.within_relocated opened unlinked
    have renamed := site.exec_rename member rests tidy found noDirectory
    have moved : Within (r.Area scratch out t) w
        (FileM.relocated w (r.draftPlace out t) (r.archivePlace out t)) :=
      FileM.within_relocated.mono fun _ => .inr
    simp only [Stage.next]
    rw [renamed]
    split
    · exact ⟨.refl _ w, tidy, trivial⟩
    · exact ⟨.refl _ w, tidy, trivial⟩
    · split
      · exact ⟨.refl _ w, tidy, trivial⟩
      · exact ⟨moved, tidy.relocated, isBinary, opened', unlinked'⟩
  | unlink binary =>
    obtain ⟨isBinary, opened, unlinked⟩ := ready
    obtain ⟨inArea, tidy'⟩ := below (site.within_removeBinary member rests isBinary opened unlinked)
    exact ⟨inArea, tidy', trivial⟩
  | sweep archived =>
    obtain ⟨inArea, tidy'⟩ := below (site.within_removeScratch member rests)
    exact ⟨inArea, tidy', trivial⟩
  | done ending => exact ⟨.refl _ w, tidy, trivial⟩

end Site

end Release

end ReleaseMatrix
