import ReleaseMatrix.Proofs.BuildChanges
import ReleaseMatrix.Proofs.SoloRun

namespace ReleaseMatrix

open Workspace (Within)

theorem FileTree.Linkless.fill {t : FileTree} {l : Location} {entries : List (Location × Entry)}
    (linkless : t.Linkless l) (below : ∀ n ∈ entries, n.1 ≠ [])
    (noLinks : ∀ n ∈ entries, ∀ target, n.2 ≠ .link target) : (t.fill l entries).Linkless l := by
  induction entries generalizing t with
  | nil => exact linkless
  | cons n entries ih =>
    have inside : l ++ n.1 ≠ [] := by simp [below n (by simp)]
    exact ih (linkless.put inside (noLinks n (by simp))) (fun m member => below m (by simp [member]))
      fun m member => noLinks m (by simp [member])

theorem Compiler.bounded_fixed {source : Location} {outputs : Target → Option (List (Location × Entry))}
    (below : ∀ t entries, outputs t = some entries → ∀ n ∈ entries, n.1 ≠ [])
    (noLinks : ∀ t entries, outputs t = some entries → ∀ n ∈ entries, ∀ target, n.2 ≠ .link target) :
    (Compiler.fixed source outputs).Bounded where
  compile q w l placed linkless := by
    rw [exec_fixed]
    split
    · next entries _ found =>
      split
      · next k located =>
        obtain rfl := Workspace.eq_of_place? placed (linkless l · (List.prefix_refl _)) located
        refine ⟨⟨fun _ away => FileTree.get?_fill_of_away (below _ _ found) fun inside => away inside.1,
          fun k _ alone => by rwa [FileM.changed, FileTree.Alone, FileTree.groups_fill], fun _ => rfl,
          List.prefix_refl _⟩, linkless.fill (below _ _ found) (noLinks _ _ found)⟩
      · exact ⟨.refl _ w, linkless⟩
    · exact ⟨.refl _ w, linkless⟩
  later _ _ w _ _ linkless := ⟨.refl _ w, linkless⟩

namespace Release

open Workspace (SameOutside)
open FileTree (usable)
open Stage (archivePath)

section

variable {r : Release} {targets : List Target} {scratch : Location} {t : Target} {w v u : Workspace}
variable {stage : Stage} {k : Location}

instance (r : Release) (t : Target) : Decidable (r.Admits t) :=
  decidable_of_iff (Scratch.directory r.config.scratchDir t).toBool <| by
    rw [Admits]
    cases Scratch.directory r.config.scratchDir t with
    | error error => simp [Except.toBool]
    | ok p => simp [Except.toBool]

namespace Site

variable {base : FileTree} {here : Location} (site : r.Site targets base here scratch out)
include site

theorem place?_archive (member : t ∈ targets) (rests : w.Rests base here) : w.place? (archivePath r t) =
    if usable r.config.outDir (Archive.fileName r.config.product r.config.version t) = .ok ()
      then some (r.archivePlace out t) else none :=
  Workspace.place?_join (rests.leads site.leadsOut) (site.isName_archive member)

theorem place?_draft (member : t ∈ targets) (rests : w.Rests base here) :
    w.place? (Archive.draft (archivePath r t)) =
      if usable r.config.outDir (Archive.draftName r.config.product r.config.version t) = .ok ()
        then some (r.draftPlace out t) else none := by
  rw [site.draft_path member]
  exact Workspace.place?_join (rests.leads site.leadsOut) (site.isName_draft member)

theorem eq_of_names (member : t ∈ targets) (rests : w.Rests base here) (named : r.Names w t k) :
    k = r.archivePlace out t ∨ k = r.draftPlace out t := by
  rw [Names, site.place?_archive member rests, site.place?_draft member rests] at named
  refine named.imp (fun archive => ?_) fun draft => ?_
  · split at archive
    · exact (Option.some_inj.mp archive).symm
    · cases archive
  · split at draft
    · exact (Option.some_inj.mp draft).symm
    · cases draft

theorem area_of_owns (member : t ∈ targets) (rests : w.Rests base here) (owns : r.Owns scratch w t k) :
    r.Area scratch out t k := by
  obtain inside | named := owns
  · exact .inl inside
  · obtain rfl | rfl := site.eq_of_names member rests named
    · exact .inr (.inr (List.prefix_refl _))
    · exact .inr (.inl (List.prefix_refl _))

end Site

/-- Files on which the targets that have directories can be built without getting in each other's way are files
that a build can be framed on. -/
theorem Ground.footing (ground : r.Ground (targets.filter (r.Admits ·)) scratch out w)
    (here : w.files.get? w.directory = some .directory) : r.Footing targets scratch w := by
  have listed {t : Target} (member : t ∈ targets) (admits : r.Admits t) : t ∈ targets.filter (r.Admits ·) :=
    List.mem_filter.mpr ⟨member, by simpa using admits⟩
  have site := ground.site fun t member => Admits.isName_id (by simpa using (List.mem_filter.mp member).2)
  have start : w.Rests _ w.directory := w.rests_without (r.isUsed (targets.filter (r.Admits ·)) scratch out)
  have rests {v : Workspace} (same : SameOutside (r.Owned targets scratch w) w v) :
      v.Rests (w.files.without (r.isUsed (targets.filter (r.Admits ·)) scratch out)) w.directory :=
    same.rests (fun k e ⟨t, member, admits, owns⟩ =>
      site.away t (listed member admits) k e (site.area_of_owns (listed member admits) start owns)) start
  exact {
    product := ground.product
    sound := ground.sound
    here := here
    leads := fun v same => (rests same).leads ground.leadsScratch
    archive := fun t member admits v same k placed => by
      rwa [site.place?_archive (listed member admits) start, ← site.place?_archive (listed member admits) (rests same)]
    draft := fun t member admits v same k placed => by
      rwa [site.place?_draft (listed member admits) start, ← site.place?_draft (listed member admits) (rests same)]
    apart := fun s memberS admitsS t memberT admitsT k named inside => by
      obtain rfl | rfl := site.eq_of_names (listed memberT admitsT) start named
      · exact site.scratch_apart_out (listed memberS admitsS) (listed memberT admitsT) inside (List.prefix_refl _)
          (.inr rfl)
      · exact site.scratch_apart_out (listed memberS admitsS) (listed memberT admitsT) inside (List.prefix_refl _)
          (.inl rfl)
    tidy := fun t member admits k placed => by
      rw [site.place?_draft (listed member admits) start] at placed
      split at placed
      · obtain rfl := Option.some_inj.mp placed
        obtain ⟨noLink, alone⟩ := ground.tidy t (listed member admits)
        exact ⟨noLink, alone⟩
      · cases placed }

namespace Footing

variable (footing : r.Footing targets scratch w)
include footing

/-- The place of the directory that a compiler is told to install to. -/
theorem place?_installDir (member : t ∈ targets) (admits : r.Admits t) (framed : r.Framed targets scratch w v)
    (fits : usable r.config.scratchDir t.id = .ok ()) :
    v.place? (r.config.scratchDir.join t.id) = some (scratch ++ [t.id]) := by
  rw [Workspace.place?_join (footing.leads_of_within member admits framed (.refl _ v)) admits.isName_id, if_pos fits]

/-- A worker changes nothing but its own places, and nothing at all if its target has no directory. -/
theorem next_changes (bounded : r.compiler.Bounded) (member : t ∈ targets) (framed : r.Framed targets scratch w v)
    (safe : stage.Safe r scratch w t v) :
    ((stage.next r t v).2 = v ∨ r.Admits t ∧ r.Changes targets scratch w t v (stage.next r t v).2) ∧
      (stage.next r t v).1.Safe r scratch w t (stage.next r t v).2 := by
  cases stage with
  | reset =>
    simp only [Stage.next]
    cases named : Scratch.directory r.config.scratchDir t with
    | error error =>
      obtain ⟨p, cause, rfl⟩ := Scratch.eq_scratch_of_directory named
      exact ⟨.inl rfl, .inr ⟨p, cause, rfl⟩⟩
    | ok p =>
      have admits : r.Admits t := ⟨p, named⟩
      obtain rfl := Scratch.eq_of_directory named
      simp only [Stage.resetting, WorkM.exec_ofTask]
      obtain ⟨unchanged, failed⟩ | ⟨within, linkless, fits⟩ := footing.reset_cases member admits framed
      · refine ⟨.inl unchanged, ?_⟩
        cases outcome : ((Scratch.reset (r.config.scratchDir.join t.id)).exec v).1 with
        | error error => exact .inl admits
        | ok _ => exact absurd outcome failed
      · refine ⟨.inr ⟨admits, footing.changes_of_within member admits within linkless⟩, ?_⟩
        cases ((Scratch.reset (r.config.scratchDir.join t.id)).exec v).1 with
        | error error => exact .inl admits
        | ok _ => exact ⟨admits, rfl, rfl, fits, linkless⟩
  | compile q =>
    obtain ⟨admits, named, installs, fits, linkless⟩ := safe
    have placed : (v.record (.compiled q)).place? q.installDir = some (scratch ++ [t.id]) :=
      installs ▸ footing.place?_installDir member admits (framed.record _) fits
    obtain ⟨ran, linkless'⟩ := bounded.compile q (v.record (.compiled q)) _ placed linkless
    have recorded := Workspace.within_record (scratch ++ [t.id] <+: ·) v (.compiled q)
    simp only [Stage.next]
    refine ⟨.inr ⟨admits, footing.changes_of_within member admits (recorded.trans ran) linkless'⟩, ?_⟩
    rcases ((r.compiler.compile q).exec (v.record (.compiled q))).1 with (error | crash) | _
    · exact .inl admits
    · exact .inl admits
    · exact ⟨admits, named, installs, fits, linkless'⟩
  | locate q =>
    obtain ⟨admits, named, installs, fits, linkless⟩ := safe
    have placed : v.place? q.installDir = some (scratch ++ [t.id]) :=
      installs ▸ footing.place?_installDir member admits framed fits
    obtain ⟨outcome, k, waited, found⟩ := r.builder.exec_waitForBinary_cases q v
    obtain ⟨ran, linkless'⟩ := bounded.later q k v _ placed linkless
    simp only [Stage.next, waited]
    refine ⟨.inr ⟨admits, footing.changes_of_within member admits ran linkless'⟩, ?_⟩
    rcases outcome with (error | crash) | binary
    · exact .inl admits
    · exact .inl admits
    · obtain rfl := found binary rfl
      rw [Builder.chosen, named, installs]
      exact ⟨admits, isBinary_binaryBetween r t _ _, linkless'⟩
  | draft binary =>
    obtain ⟨admits, isBinary, linkless⟩ := safe
    obtain ⟨changes, free⟩ := footing.changes_of_writeDraft member admits framed binary (Archive.entryName binary t)
    simp only [Stage.next]
    refine ⟨.inr ⟨admits, changes⟩, ?_⟩
    cases outcome : ((Archiver.writeDraft binary (Archive.entryName binary t) (archivePath r t)).exec v).1 with
    | error error => exact admits
    | ok _ => exact ⟨admits, isBinary, changes.room.elim id linkless.congr, free outcome⟩
  | undo error =>
    simp only [Stage.next]
    exact ⟨.inr ⟨safe, footing.changes_of_removeDraft member safe framed⟩, .inl safe⟩
  | rename binary =>
    obtain ⟨admits, isBinary, linkless, noDirectory⟩ := safe
    have changes := footing.changes_of_rename member admits framed noDirectory
    simp only [Stage.next]
    refine ⟨.inr ⟨admits, changes⟩, ?_⟩
    cases ((FileM.rename (Archive.draft (archivePath r t)) (archivePath r t)).exec v).1 with
    | error fault => exact .inl admits
    | ok _ => exact ⟨admits, isBinary, changes.room.elim id linkless.congr⟩
  | unlink binary =>
    obtain ⟨admits, isBinary, linkless⟩ := safe
    simp only [Stage.next]
    exact ⟨.inr ⟨admits, footing.changes_of_removeBinary member admits framed isBinary linkless⟩, .inl admits⟩
  | sweep archived =>
    have later : (Stage.done (archived.mapError .failed)).Safe r scratch w t
        ((removeScratch r.config.scratchDir t).exec v).2 := by
      refine safe.imp_right ?_
      rintro ⟨p, cause, failed⟩
      exact ⟨p, cause, by rw [failed]; rfl⟩
    simp only [Stage.next]
    refine ⟨?_, later⟩
    cases named : Scratch.directory r.config.scratchDir t with
    | error error => exact .inl (Stage.exec_removeScratch_of_no_directory named)
    | ok p => exact .inr ⟨⟨p, named⟩, footing.changes_of_removeScratch member ⟨p, named⟩ framed⟩
  | done ending => exact ⟨.inl rfl, safe⟩

end Footing

/-- What holds while a crew works: nothing has changed but the places of its targets, and every worker finds what
it needs. -/
structure Crew.Framed (r : Release) (targets : List Target) (scratch : Location) (w : Workspace) (crew : Crew) :
    Prop where
  length : crew.stages.length = targets.length
  files : r.Framed targets scratch w crew.workspace
  safe : ∀ (i : Nat) (t : Target) (stage : Stage), targets[i]? = some t → crew.stages[i]? = some stage →
    stage.Safe r scratch w t crew.workspace
  ended : ∀ (i : Nat) (ending : Schedule.End Archive), crew.pool.phases[i]? = some (.ended ending) ∨
    crew.pool.phases[i]? = some (.joined ending) → crew.stages[i]? = some (.done ending)

variable {out : Location} {jobs : Nat} {crew crew' : Crew}

namespace Footing

variable (footing : r.Footing targets scratch w)
include footing

theorem framed_initial : (Crew.initial jobs targets w).Framed r targets scratch w where
  length := by simp [Crew.initial]
  files := footing.framed_start
  safe i t stage at_i found := by
    obtain rfl : stage = .reset := by
      rw [Crew.initial, List.getElem?_map, at_i] at found
      exact (Option.some_inj.mp found).symm
    trivial
  ended i ending phase := by
    have waiting : (Crew.initial jobs targets w).pool.phases = List.replicate targets.length .waiting := rfl
    rw [waiting, List.getElem?_replicate] at phase
    split at phase <;> simp at phase

theorem framed_step (bounded : r.compiler.Bounded) (framed : crew.Framed r targets scratch w)
    (step : Crew.Step r targets scratch out (fun _ => False) crew crew') : crew'.Framed r targets scratch w := by
  obtain ⟨length, files, safe, ended⟩ := framed
  cases step with
  | start step => exact ⟨length, files, safe, fun i ending phase => ended i ending (step.ended_before (by simp) phase)⟩
  | join step => exact ⟨length, files, safe, fun i ending phase => ended i ending (step.ended_before (by simp) phase)⟩
  | fail _ _ breaking => exact breaking.elim
  | @finish j t e _ _ _ v at_j done step =>
    refine ⟨length, files.record _,
      fun i s stage at_i found => (safe i s stage at_i found).congr fun _ => .inr fun _ _ => rfl, fun i ending phase => ?_⟩
    by_cases own : Schedule.Move.finish j e = .finish i ending
    · obtain ⟨rfl, rfl⟩ : j = i ∧ e = ending := by simpa using own
      exact done
    · exact ended i ending (step.ended_before own phase)
  | @advance j t stage pool stages v running at_j atStage =>
    have member := List.mem_of_getElem? at_j
    obtain ⟨changes, now⟩ := footing.next_changes bounded member files (safe j t stage at_j atStage)
    refine ⟨by simp [length], ?_, fun i s stage' at_i found => ?_, fun i ending phase => ?_⟩
    · obtain unchanged | ⟨admits, changes⟩ := changes
      · exact unchanged.symm ▸ files
      · exact footing.framed_changes member admits files changes
    · by_cases same : j = i
      · subst same
        obtain rfl : t = s := by simpa using at_j.symm.trans at_i
        obtain ⟨bound, -⟩ := List.getElem?_eq_some_iff.mp atStage
        obtain rfl : (stage.next r t v).1 = stage' := by simpa [bound] using found
        exact now
      · rw [List.getElem?_set_ne same] at found
        refine (safe i s stage' at_i found).congr fun admitsS => ?_
        obtain unchanged | ⟨admits, changes⟩ := changes
        · exact .inr fun _ _ => by rw [unchanged]
        · exact footing.linkless_or_same (List.mem_of_getElem? at_i) admitsS member admits changes
    · have other : j ≠ i := by
        rintro rfl
        simp [running] at phase
      rw [List.getElem?_set_ne other]
      exact ended i ending phase

end Footing

theorem Crew.Reach.framed (footing : r.Footing targets scratch w) (bounded : r.compiler.Bounded)
    (reach : Crew.Reach r targets scratch out (fun _ => False) (.initial jobs targets w) crew) :
    crew.Framed r targets scratch w := by
  induction reach with
  | start => exact footing.framed_initial
  | next _ step ih => exact footing.framed_step bounded ih step

/-- In whatever order workers take their steps, a build changes nothing but the directories, the archives and the
drafts of targets that have directories. For a target without one the compiler is not called, and the target ends
in the error that says so. -/
theorem Crew.Reach.build_frame (footing : r.Footing targets scratch w) (bounded : r.compiler.Bounded)
    (reach : Crew.Reach r targets scratch out (fun _ => False) (.initial jobs targets w) crew) :
    (∀ k, crew.workspace.files.get? k ≠ w.files.get? k → ∃ t ∈ targets, r.Admits t ∧
      (scratch ++ [t.id] <+: k ∨ w.place? (archivePath r t) = some k ∨
        w.place? (Archive.draft (archivePath r t)) = some k)) ∧
    (∀ (i : Nat) (q : BuildRequest), crew.stages[i]? = some (.compile q) →
      targets[i]? = some q.target ∧ r.Admits q.target) ∧
    ∀ o, crew.pool.outcomes? targets = some o → ∀ t outcome, (t, outcome) ∈ o.entries → ¬ r.Admits t →
      ∃ p cause, outcome = .error (.build (.scratch p cause)) := by
  obtain ⟨length, files, safe, ended⟩ := reach.framed footing bounded
  refine ⟨fun k changed => ?_, fun i q compiling => ?_, fun o returned t outcome listed unnamed => ?_⟩
  · by_contra free
    exact changed (files.outside.files k free)
  · obtain ⟨bound, -⟩ := List.getElem?_eq_some_iff.mp compiling
    have at_i : targets[i]? = some targets[i] := List.getElem?_eq_getElem (length ▸ bound)
    obtain ⟨admits, named, -⟩ := safe i _ _ at_i compiling
    exact ⟨named ▸ at_i, named ▸ admits⟩
  · obtain ⟨moves, pool⟩ := reach.pool
    obtain ⟨order, joined⟩ := Schedule.Pool.outcomes?_eq_some returned pool.length_phases
    obtain ⟨i, at_i⟩ := List.mem_iff_getElem?.mp listed
    have own : targets[i]? = some t := by
      rw [← order, List.getElem?_map, at_i]
      rfl
    obtain ⟨ending, phase, settled⟩ := joined i t own
    obtain rfl : outcome = Schedule.settle ending := by simpa [at_i] using settled
    obtain admits | ⟨p, cause, rfl⟩ := safe i _ _ own (ended i ending (.inr phase))
    · exact absurd admits unnamed
    · exact ⟨p, cause, rfl⟩

end

theorem build_frame_beside_escape :
    let r := fixed "." "1.0.0" [("x86_64-linux", binary)]
    let w := project [(["p", "pkg"], .directory)] []
    let targets := [⟨".."⟩, ⟨"x86_64-linux"⟩, ⟨"a/b"⟩, ⟨"x86_64-linux"⟩]
    ∃ crew o, Crew.Reach r targets ["p", ".release-scratch"] ["p", "pkg"] (fun _ => False)
      (.initial 2 targets w) crew ∧
      crew.pool.outcomes? targets = some o ∧
      (crew.workspace.files.get? ["p", "pkg", "mufiz_1.0.0_x86_64-linux.zip"]).isSome ∧
      (∀ k, crew.workspace.files.get? k ≠ w.files.get? k → ∃ t ∈ targets, r.Admits t ∧
        (["p", ".release-scratch"] ++ [t.id] <+: k ∨ r.Names w t k)) ∧
      ∀ outcome, (⟨".."⟩, outcome) ∈ o.entries → ∃ p cause, outcome = .error (.build (.scratch p cause)) := by
  intro r w targets
  obtain ⟨crew, reach, leaves, returned⟩ :=
    Crew.exists_reach_buildArchives r targets ["p", ".release-scratch"] ["p", "pkg"] (fun _ => False) 2 w
  have free : ∀ t ∈ targets, w.files.get? (r.draftPlace ["p", "pkg"] t) = none := by decide +kernel
  have ground : r.Ground (targets.filter (r.Admits ·)) ["p", ".release-scratch"] ["p", "pkg"] w := {
    product := ⟨by decide, by decide, by decide, by decide⟩
    version := by decide
    leadsScratch := ⟨by decide +kernel, by decide +kernel, by decide +kernel⟩
    leadsOut := ⟨by decide +kernel, by decide +kernel, by decide +kernel⟩
    apart := by decide
    sound := FileTree.sound_of_nodes (by decide)
    tidy := fun t member =>
      ⟨fun target => by simp [free t (List.mem_filter.mp member).1], by simp [FileTree.Alone, w, project]⟩ }
  have escapes : ¬ r.Admits ⟨".."⟩ := by decide +kernel
  obtain ⟨changes, -, ends⟩ := reach.build_frame (ground.footing (by decide))
    (Compiler.bounded_fixed (exists_output below_binary) (exists_output noLink_binary))
  exact ⟨crew, _, reach, returned, leaves ▸ by decide +kernel, changes, fun outcome listed =>
    ends _ returned _ outcome listed escapes⟩

/-- Whether a place is in the directory of a target that has one, or is such a target's archive or draft. -/
def Covers (r : Release) (targets : List Target) (w : Workspace) (k : Location) : Prop :=
  ∃ t ∈ targets, r.Admits t ∧
    ((w.place? (r.config.scratchDir.join t.id)).any (·.isPrefixOf k) ∨ r.Names w t k)

instance (r : Release) (targets : List Target) (w : Workspace) (k : Location) : Decidable (r.Covers targets w k) :=
  have (t : Target) : Decidable (r.Names w t k) := inferInstanceAs (Decidable (_ ∨ _))
  inferInstanceAs (Decidable (∃ t ∈ targets, _))

/-- A build that changes a place outside the directories, archives and drafts of its targets. -/
structure Stray where
  ids : List String
  project : String
  outputs : List (String × List (Location × Entry))
  nodes : List (Location × Entry)
  groups : List (List Location)
  /-- The workers by their positions, in the order in which they make their moves. -/
  order : List Nat
  place : Location

namespace Stray

def release (s : Stray) : Release :=
  fixed s.project "1" s.outputs

def targets (s : Stray) : List Target :=
  s.ids.map Target.mk

def start (s : Stray) : Workspace :=
  ⟨⟨(["p"], .directory) :: (["p", "build.zig"], .file [] false) :: s.nodes, s.groups⟩, ["p"], []⟩

def finish (s : Stray) : Crew :=
  s.order.foldl (Crew.turn s.release s.targets) (.initial s.ids.length s.targets s.start)

def all : List Stray := [
  -- The draft is a link to another file.
  { ids := ["a"], project := ".", outputs := [("a", binary)],
    nodes := [(["p", "notes"], .file [] false), (["p", ".release-scratch"], .directory), (["p", "pkg"], .directory),
      (["p", "pkg", "mufiz_1_a.zip.partial"], .link ⟨"../notes"⟩)],
    groups := [], order := List.replicate 11 0, place := ["p", "notes"] },
  -- It is the same file as another one.
  { ids := ["a"], project := ".", outputs := [("a", binary)],
    nodes := [(["p", "notes"], .file [] false), (["p", ".release-scratch"], .directory), (["p", "pkg"], .directory),
      (["p", "pkg", "mufiz_1_a.zip.partial"], .file [] false)],
    groups := [[["p", "notes"], ["p", "pkg", "mufiz_1_a.zip.partial"]]], order := List.replicate 11 0,
    place := ["p", "notes"] },
  -- There is no scratch directory yet.
  { ids := ["a"], project := ".", outputs := [("a", binary)], nodes := [(["p", "pkg"], .directory)], groups := [],
    order := List.replicate 11 0, place := ["p", ".release-scratch"] },
  -- The path of the output directory goes through what the build makes.
  { ids := ["a"], project := ".", outputs := [("a", binary)],
    nodes := [(["p", ".release-scratch"], .directory), (["p", "q"], .directory),
      (["p", "pkg"], .link ⟨".release-scratch/a/bin/../../../q"⟩)],
    groups := [], order := List.replicate 11 0, place := ["p", "q", "mufiz_1_a.zip"] },
  -- The path of the scratch directory goes through what the build removes.
  { ids := ["a"], project := "./.release-scratch/a/l/../..", outputs := [],
    nodes := [(["p", ".release-scratch"], .directory), (["p", ".release-scratch", "a"], .directory),
      (["p", ".release-scratch", "a", "l"], .link ⟨"../../q/r"⟩), (["p", "q"], .directory),
      (["p", "q", "r"], .directory), (["p", "pkg"], .directory)],
    groups := [], order := List.replicate 11 0, place := ["p", ".release-scratch", ".release-scratch"] },
  -- Archives and directories of targets are in the same place, and a directory gets the name of an archive.
  { ids := ["a", "a", "a", "mufiz_1_a.zip.partial"], project := ".",
    outputs := [("a", binary), ("mufiz_1_a.zip.partial", binary)],
    nodes := [(["p", ".release-scratch"], .directory), (["p", "pkg"], .link ⟨".release-scratch"⟩)], groups := [],
    order := List.replicate 5 0 ++ List.replicate 4 1 ++ List.replicate 2 2 ++ List.replicate 2 1 ++
      List.replicate 3 3 ++ List.replicate 7 0 ++ List.replicate 7 3 ++ List.replicate 7 2 ++ List.replicate 7 1,
    place := ["p", ".release-scratch", "mufiz_1_a.zip", "bin"] }]

/-- The tree is well-formed and the toolchain is as it should be, but the build changes the place. -/
structure Strays (s : Stray) : Prop where
  sound : s.start.files.Sound
  here : s.start.files.get? s.start.directory = some .directory
  bounded : s.release.compiler.Bounded
  reach : Crew.Reach s.release s.targets ["p", ".release-scratch"] ["p", "pkg"] (fun _ => False)
    (.initial s.ids.length s.targets s.start) s.finish
  returned : (s.finish.pool.outcomes? s.targets).isSome
  changed : s.finish.workspace.files.get? s.place ≠ s.start.files.get? s.place
  outside : ¬ s.release.Covers s.targets s.start s.place

/-- Where a draft is a link or another name of a file, or the scratch directory is missing, or the paths of archives
and directories go through what a build makes or removes, or archives are made among the directories of targets, a
build can change other places. -/
theorem all_strays : all.Forall Strays := by
  rw [List.forall_iff_forall_mem]
  -- The builds are run one by one, so that the check holds only one run at a time in memory.
  have ran : ∀ s ∈ all, (s.finish.pool.outcomes? s.targets).isSome ∧
      s.finish.workspace.files.get? s.place ≠ s.start.files.get? s.place ∧
      ¬ s.release.Covers s.targets s.start s.place := by
    simp only [all, List.forall_mem_cons]
    refine ⟨?_, ?_, ?_, ?_, ?_, ?_, List.forall_mem_nil _⟩ <;> decide +kernel
  intro s member
  obtain ⟨nodes, here⟩ : (∀ n ∈ s.start.files.nodes, s.start.files.get? n.1.dropLast = some .directory) ∧
      s.start.files.get? s.start.directory = some .directory := by
    revert s
    decide +kernel
  have below : ∀ o ∈ s.outputs, ∀ n ∈ o.2, n.1 ≠ [] := by
    revert s
    decide
  have noLinks : ∀ o ∈ s.outputs, ∀ n ∈ o.2, n.2.isWay → n.2 = .directory := by
    revert s
    decide
  obtain ⟨returned, changed, outside⟩ := ran s member
  have plain : ∀ o ∈ s.outputs, ∀ n ∈ o.2, ∀ target, n.2 ≠ .link target := by
    intro o listed n among target link
    have way := noLinks o listed n among (by rw [link]; rfl)
    simp [link] at way
  exact ⟨FileTree.sound_of_nodes nodes, here, Compiler.bounded_fixed (exists_output below) (exists_output plain),
    Crew.Reach.start.turns _, returned, changed, outside⟩

end Stray

end Release

end ReleaseMatrix
