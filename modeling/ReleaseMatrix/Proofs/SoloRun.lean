import ReleaseMatrix.Proofs.CrewOrder
import ReleaseMatrix.Proofs.FixedCompiler

namespace ReleaseMatrix

open Workspace (Within)

theorem Outcomes.get?_of_getElem? {α : Type} {o : Outcomes α} {i : Nat} {t : Target}
    {outcome : Except TargetFailure α} (nodup : (o.entries.map Prod.fst).Nodup)
    (entry : o.entries[i]? = some (t, outcome)) : o.get? t = some outcome := by
  obtain ⟨entries⟩ := o
  simp only [get?]
  induction entries generalizing i with
  | nil => simp at entry
  | cons first entries ih =>
    rw [List.map_cons, List.nodup_cons] at nodup
    cases i with
    | zero =>
      obtain rfl : first = (t, outcome) := by simpa using entry
      simp
    | succ i =>
      have later : entries[i]? = some (t, outcome) := by simpa using entry
      have listed : t ∈ entries.map Prod.fst := List.mem_map_of_mem (List.mem_of_getElem? later)
      have other : first.1 ≠ t := fun same => nodup.1 (same ▸ listed)
      rw [List.find?_cons_of_neg (by simpa using other)]
      exact ih nodup.2 later

/-- Outcomes of the same targets are the same if each target has the same. -/
theorem Outcomes.eq_of_get? {α : Type} {o o' : Outcomes α} (order : o.entries.map Prod.fst = o'.entries.map Prod.fst)
    (nodup : (o.entries.map Prod.fst).Nodup) (same : ∀ t ∈ o.entries.map Prod.fst, o.get? t = o'.get? t) : o = o' := by
  suffices entries : o.entries = o'.entries by
    cases o
    cases o'
    exact congrArg Outcomes.mk entries
  refine List.ext_getElem? fun i => ?_
  have firsts := congrArg (·[i]?) order
  simp only [List.getElem?_map] at firsts
  cases found : o.entries[i]? with
  | none =>
    cases found' : o'.entries[i]? with
    | none => rfl
    | some entry' => simp [found, found'] at firsts
  | some entry =>
    cases found' : o'.entries[i]? with
    | none => simp [found, found'] at firsts
    | some entry' =>
      obtain ⟨t, outcome⟩ := entry
      obtain ⟨t', outcome'⟩ := entry'
      obtain rfl : t = t' := by simpa [found, found'] using firsts
      have both := same t (List.mem_map_of_mem (List.mem_of_getElem? found))
      rw [get?_of_getElem? nodup found, get?_of_getElem? (order ▸ nodup) found', Option.some_inj] at both
      rw [both]

namespace Release

section

variable {r : Release} {targets : List Target} {scratch out : Location} {t : Target} {w : Workspace}
variable {jobs : Nat} {crew : Crew}

/-- What becomes of a target that is built alone. -/
theorem buildArchives_singleton : r.buildArchives [t] w =
    (⟨[(t, Schedule.settle ((r.buildTarget t).exec w).1)]⟩, ((r.buildTarget t).exec w).2.record (.finished t)) := by
  simp only [buildArchives_cons, buildArchives_nil]

/-- Whether a place is in the area of a worker. -/
def isUsed (r : Release) (targets : List Target) (scratch out k : Location) : Bool :=
  targets.any fun t => (scratch ++ [t.id]).isPrefixOf k ||
    ((r.draftPlace out t).isPrefixOf k || (r.archivePlace out t).isPrefixOf k)

/-- The files that the workers of some targets can work on without getting in each other's way. The scratch
directory and the output directory are there, and are found without passing through an area. No draft is a link
or another name of a file. -/
structure Ground (r : Release) (targets : List Target) (scratch out : Location) (w : Workspace) : Prop where
  product : IsName r.config.product
  version : '/' ∉ r.config.version.toList
  leadsScratch : (w.files.without (r.isUsed targets scratch out)).Leads w.directory r.config.scratchDir scratch
  leadsOut : (w.files.without (r.isUsed targets scratch out)).Leads w.directory r.config.outDir out
  apart : scratch ≠ out
  sound : w.files.Sound
  tidy : ∀ t ∈ targets, r.Tidy out t w

theorem isUsed_eq_true {k : Location} :
    r.isUsed targets scratch out k = true ↔ ∃ t ∈ targets, r.Area scratch out t k := by
  simp [isUsed, Area, draftPlace, archivePlace]

theorem Area.ne_root {k : Location} (inside : r.Area scratch out t k) : k ≠ [] := by
  rintro rfl
  simp [Area, draftPlace, archivePlace] at inside

namespace Ground

theorem site (ground : r.Ground targets scratch out w) (names : ∀ t ∈ targets, IsName t.id) :
    r.Site targets (w.files.without (r.isUsed targets scratch out)) w.directory scratch out where
  product := ground.product
  version := ground.version
  names := names
  leadsScratch := ground.leadsScratch
  leadsOut := ground.leadsOut
  apart := ground.apart
  away t member k e inside found := by
    rw [FileTree.get?_without inside.ne_root, if_pos (isUsed_eq_true.mpr ⟨t, member, inside⟩)] at found
    exact absurd found (by simp)

theorem kept (ground : r.Ground targets scratch out w) (member : t ∈ targets) :
    r.Kept (w.files.without (r.isUsed targets scratch out)) w.directory scratch out t .reset w where
  rests := Workspace.rests_without _ _
  tidy := ground.tidy t member
  ready _ _ inside below found := ground.sound.above found inside (Ne.symm below)

theorem isolated_start {i : Nat} (ground : r.Ground targets scratch out w) (rooted : Rooted scratch t w)
    (at_i : targets[i]? = some t) :
    (Crew.initial jobs targets w).Isolated r targets (w.files.without (r.isUsed targets scratch out)) w.directory
      scratch out t i w where
  length := by simp [Crew.initial]
  kept j s stage at_j found := by
    obtain rfl : stage = .reset := by
      rw [Crew.initial, List.getElem?_map, at_j] at found
      exact (Option.some_inj.mp found).symm
    exact ground.kept (List.mem_of_getElem? at_j)
  alone := by
    have begun : (Crew.initial jobs targets w).stages[i]? = some .reset := by
      rw [Crew.initial, List.getElem?_map, at_i]
      rfl
    exact ⟨.reset, w, begun, .start, ground.kept (List.mem_of_getElem? at_i), fun _ _ => rfl, rooted⟩
  ended ending phase := by
    obtain ⟨bound, -⟩ := List.getElem?_eq_some_iff.mp at_i
    simp [Crew.initial, Schedule.Pool.initial, bound] at phase

end Ground

/-- Workers never get in each other's way, whatever order they take their steps in and whatever breaks. -/
theorem Crew.Reach.isolated {i : Nat} (installs : r.compiler.Installs r.config.product)
    (depends : r.compiler.Depends fun k => ¬ scratch <+: k ∧ ¬ out <+: k) (nodup : targets.Nodup)
    (names : ∀ t ∈ targets, IsName t.id) (ground : r.Ground targets scratch out w) (rooted : Rooted scratch t w)
    (at_i : targets[i]? = some t) (reach : Crew.Reach r targets scratch out (· ≠ t) (.initial jobs targets w) crew) :
    crew.Isolated r targets (w.files.without (r.isUsed targets scratch out)) w.directory scratch out t i w := by
  induction reach with
  | start => exact ground.isolated_start rooted at_i
  | next _ step ih => exact (ground.site names).isolated_step installs depends nodup at_i ih step

/-- In whatever order a crew works and whatever breaks in it, a target comes to what its worker does alone, and so does
its archive. -/
theorem Crew.Reach.works_alone {ids : List String} {c : Catalog} {o : Outcomes Archive}
    (accepted : Catalog.ofIds ids = .ok c) (installs : r.compiler.Installs r.config.product)
    (depends : r.compiler.Depends fun k => ¬ scratch <+: k ∧ ¬ out <+: k)
    (ground : r.Ground c.targets scratch out w) (rooted : Rooted scratch t w) (member : t ∈ c.targets)
    (reach : Crew.Reach r c.targets scratch out (· ≠ t) (.initial jobs c.targets w) crew)
    (returned : crew.pool.outcomes? c.targets = some o) :
    o.get? t = some (Schedule.settle ((r.buildTarget t).exec w).1) ∧
      ∀ k, r.archivePlace out t <+: k →
        crew.workspace.files.get? k = ((r.buildTarget t).exec w).2.files.get? k := by
  obtain ⟨nodup, triples⟩ := Catalog.targets_of_ofIds accepted
  have names (t : Target) (listed : t ∈ c.targets) : IsName t.id := Target.isName_id (triples t listed)
  obtain ⟨i, at_i⟩ := List.mem_iff_getElem?.mp member
  obtain ⟨moves, pool⟩ := reach.pool
  obtain ⟨order, joined⟩ := Schedule.Pool.outcomes?_eq_some returned pool.length_phases
  obtain ⟨ending, phase, entry⟩ := joined i t at_i
  obtain ⟨-, -, ⟨stage, v, atStage, works, -, agree, -⟩, ended⟩ :=
    reach.isolated installs depends nodup names ground rooted at_i
  obtain rfl : stage = .done ending := by simpa [atStage] using ended ending (.inr phase)
  rw [works.exec_buildTarget]
  exact ⟨Outcomes.get?_of_getElem? (order ▸ nodup) entry,
    fun k inside => (ground.site names).agree_own member agree (.inr (.inr inside))⟩

/-- In whatever order a crew works and whatever breaks in it, a target comes to the same outcome and the same
archive as when it is built alone. -/
theorem Crew.Reach.solo_run {ids : List String} {c : Catalog} {o : Outcomes Archive}
    (accepted : Catalog.ofIds ids = .ok c) (confined : r.compiler.Confined)
    (reads : r.compiler.Reads fun k => ¬ scratch <+: k ∧ ¬ out <+: k)
    (ground : r.Ground c.targets scratch out w) (rooted : Rooted scratch t w) (member : t ∈ c.targets)
    (reach : Crew.Reach r c.targets scratch out (· ≠ t) (.initial jobs c.targets w) crew)
    (returned : crew.pool.outcomes? c.targets = some o) :
    o.get? t = (r.buildArchives [t] w).1.get? t ∧
      ∀ k, r.archivePlace out t <+: k →
        crew.workspace.files.get? k = (r.buildArchives [t] w).2.files.get? k := by
  obtain ⟨outcome, archive⟩ := reach.works_alone accepted (confined.installs _) (reads.depends confined.toEnclosed) ground rooted member returned
  rw [buildArchives_singleton]
  generalize (r.buildTarget t).exec w = alone at outcome archive ⊢
  refine ⟨?_, archive⟩
  rw [outcome]
  simp [Outcomes.get?]

end

/-- A release of a project with a toolchain that puts the same outputs into the directory of a target every time,
and fails for the targets that have none. -/
def fixed (project version : String) (outputs : List (String × List (Location × Entry))) : Release where
  config := .standard 1 ⟨project⟩ version
  compiler := .fixed ["p", "build.zig"] fun t => (outputs.find? (·.1 = t.id)).map (·.2)
  packager := ⟨fun _ _ => pure ()⟩

/-- The files of a project in the directory `p` before its release. -/
def project (nodes : List (Location × Entry)) (groups : List (List Location)) : Workspace :=
  ⟨⟨(["p"], .directory) :: (["p", ".release-scratch"], .directory) :: (["p", "build.zig"], .file [] false) :: nodes,
    groups⟩, ["p"], []⟩

/-- What a toolchain leaves that builds a target. -/
def binary : List (Location × Entry) :=
  [(["bin"], .directory), (["bin", "mufiz"], .file [7] true)]

theorem exists_output {outputs : List (String × List (Location × Entry))} {holds : Location × Entry → Prop}
    (all : ∀ o ∈ outputs, ∀ n ∈ o.2, holds n) (t : Target) (entries : List (Location × Entry))
    (known : (outputs.find? (·.1 = t.id)).map (·.2) = some entries) : ∀ n ∈ entries, holds n := by
  obtain ⟨o, found, rfl⟩ := Option.map_eq_some_iff.mp known
  exact all o (List.mem_of_find?_eq_some found)

theorem below_binary {id : String} : ∀ o ∈ [(id, binary)], ∀ n ∈ o.2, n.1 ≠ [] := by
  intro o member n inside
  obtain rfl : o = (id, binary) := by simpa using member
  obtain rfl | rfl : n = (["bin"], .directory) ∨ n = (["bin", "mufiz"], .file [7] true) := by simpa [binary] using inside
  all_goals simp

theorem noLink_binary {id : String} : ∀ o ∈ [(id, binary)], ∀ n ∈ o.2, ∀ target, n.2 ≠ .link target := by
  intro o member n inside target
  obtain rfl : o = (id, binary) := by simpa using member
  obtain rfl | rfl : n = (["bin"], .directory) ∨ n = (["bin", "mufiz"], .file [7] true) := by simpa [binary] using inside
  all_goals simp

theorem solo_run_beside_failure :
    let r := fixed "." "1.0.0" [("riscv64-linux", binary)]
    let w := project [(["p", "pkg"], .directory)] []
    let targets := [⟨"x86_64-linux"⟩, ⟨"riscv64-linux"⟩]
    ∃ crew o, Crew.Reach r targets ["p", ".release-scratch"] ["p", "pkg"] (· ≠ ⟨"riscv64-linux"⟩)
      (.initial 2 targets w) crew ∧
      crew.pool.outcomes? targets = some o ∧
      (o.get? ⟨"x86_64-linux"⟩).map Except.toBool = some false ∧
      o.get? ⟨"riscv64-linux"⟩ = (r.buildArchives [⟨"riscv64-linux"⟩] w).1.get? ⟨"riscv64-linux"⟩ := by
  intro r w targets
  obtain ⟨crew, reach, -, returned⟩ :=
    Crew.exists_reach_buildArchives r targets ["p", ".release-scratch"] ["p", "pkg"] (· ≠ ⟨"riscv64-linux"⟩) 2 w
  have accepted : Catalog.ofIds ["x86_64-linux", "riscv64-linux"] = .ok ⟨targets, none⟩ := by decide
  have free : ∀ t ∈ targets, w.files.get? (["p", ".release-scratch"] ++ [t.id]) = none ∧
      w.files.get? (r.draftPlace ["p", "pkg"] t) = none := by decide +kernel
  have ground : r.Ground targets ["p", ".release-scratch"] ["p", "pkg"] w := {
    product := ⟨by decide, by decide, by decide, by decide⟩
    version := by decide
    leadsScratch := ⟨by decide +kernel, by decide +kernel, by decide +kernel⟩
    leadsOut := ⟨by decide +kernel, by decide +kernel, by decide +kernel⟩
    apart := by decide
    sound := FileTree.sound_of_nodes (by decide)
    tidy := fun t member => ⟨fun target => by simp [(free t member).2], by simp [FileTree.Alone, w, project]⟩ }
  have rooted : Rooted ["p", ".release-scratch"] ⟨"riscv64-linux"⟩ w := fun target => by
    rw [(free _ (by simp [targets])).1]
    simp
  have alike := reach.solo_run accepted (Compiler.confined_fixed (exists_output below_binary) (exists_output noLink_binary))
    (Compiler.reads_fixed (exists_output below_binary) ⟨by decide, by decide⟩) ground rooted (by simp [targets]) returned
  exact ⟨crew, _, reach, returned, by decide +kernel, alike.1⟩

/-- A release whose workers are not kept apart by its files, its version or its toolchain. -/
structure Scene where
  ids : List String
  own : String
  project : String
  version : String
  outputs : List (String × List (Location × Entry))
  nodes : List (Location × Entry)
  groups : List (List Location)

namespace Scene

def release (s : Scene) : Release :=
  fixed s.project s.version s.outputs

def start (s : Scene) : Workspace :=
  Release.project s.nodes s.groups

def targets (s : Scene) : List Target :=
  s.ids.map Target.mk

/-- The target's own outcome or archive is another one when it is built alone. -/
def Differs (s : Scene) : Prop :=
  let together := s.release.buildArchives s.targets s.start
  let alone := s.release.buildArchives [⟨s.own⟩] s.start
  (together.1.get? ⟨s.own⟩).map Except.toBool ≠ (alone.1.get? ⟨s.own⟩).map Except.toBool ∨
    together.2.files.get? (s.release.archivePlace ["p", "pkg"] ⟨s.own⟩) ≠
      alone.2.files.get? (s.release.archivePlace ["p", "pkg"] ⟨s.own⟩)

instance (s : Scene) : Decidable s.Differs :=
  inferInstanceAs (Decidable (_ ∨ _))

def all : List Scene := [
  -- The draft of one target is a link to the archive of another.
  { ids := ["a", "c"], own := "c", project := ".", version := "1", outputs := [("a", binary)],
    nodes := [(["p", "pkg"], .directory), (["p", "pkg", "mufiz_1_a.zip.partial"], .link ⟨"mufiz_1_c.zip"⟩)],
    groups := [] },
  -- It is the same file as that archive.
  { ids := ["a", "c"], own := "c", project := ".", version := "1", outputs := [("a", binary)],
    nodes := [(["p", "pkg"], .directory), (["p", "pkg", "mufiz_1_a.zip.partial"], .file [] false),
      (["p", "pkg", "mufiz_1_c.zip"], .file [] false)],
    groups := [[["p", "pkg", "mufiz_1_a.zip.partial"], ["p", "pkg", "mufiz_1_c.zip"]]] },
  -- The directory of one target is a link to that of another.
  { ids := ["c", "a"], own := "a", project := ".", version := "1", outputs := [("a", binary)],
    nodes := [(["p", "pkg"], .directory), (["p", ".release-scratch", "a"], .link ⟨"c"⟩),
      (["p", ".release-scratch", "c"], .directory)],
    groups := [] },
  -- The toolchain makes a link to what another target's directory holds.
  { ids := ["c", "a"], own := "a", project := ".", version := "1",
    outputs := [("a", [(["bin"], .link ⟨"../c/bin"⟩)])],
    nodes := [(["p", "pkg"], .directory), (["p", ".release-scratch", "c"], .directory),
      (["p", ".release-scratch", "c", "bin"], .directory),
      (["p", ".release-scratch", "c", "bin", "mufiz"], .file [] true)],
    groups := [] },
  -- The version has slashes, and archives end up in the directory of a target.
  { ids := ["a", "c"], own := "c", project := ".", version := "/../../.release-scratch/a/x",
    outputs := [("c", binary)],
    nodes := [(["p", "pkg"], .directory), (["p", "pkg", "mufiz_"], .directory),
      (["p", ".release-scratch", "a"], .directory)],
    groups := [] },
  -- Archives and directories of targets are in the same place.
  { ids := ["a", "mufiz_1_a.zip"], own := "mufiz_1_a.zip", project := ".", version := "1",
    outputs := [("a", binary), ("mufiz_1_a.zip", binary)],
    nodes := [(["p", "pkg"], .link ⟨".release-scratch"⟩)],
    groups := [] },
  -- The path of the project goes through the directory of a target.
  { ids := ["c", "a"], own := "a", project := "./.release-scratch/c/l", version := "1", outputs := [("a", binary)],
    nodes := [(["p", "pkg"], .directory), (["p", ".release-scratch", "c"], .directory),
      (["p", ".release-scratch", "c", "l"], .link ⟨"../.."⟩)],
    groups := [] }]

/-- Catalog, directories and toolchain are as they should be. -/
structure Admitted (s : Scene) : Prop where
  accepted : Catalog.ofIds s.ids = .ok ⟨s.targets, none⟩
  listed : ⟨s.own⟩ ∈ s.targets
  outDir : s.start.isDirectory s.release.config.outDir
  scratchDir : s.start.isDirectory s.release.config.scratchDir
  enclosed : s.release.compiler.Enclosed
  reads : s.release.compiler.Reads fun k => ¬ ["p", ".release-scratch"] <+: k ∧ ¬ ["p", "pkg"] <+: k

/-- Where a draft is a link or another name of a file, or a target's directory is a link, or the toolchain makes
links, or the version has slashes, or both directories are the same, or their paths go through a target's
directory, a target can come to another end among others than alone. -/
theorem all_differ : all.Forall fun s => s.Admitted ∧ s.Differs := by
  rw [List.forall_iff_forall_mem]
  -- The scenes are run one by one, so that the check holds only one run at a time in memory.
  have differs : ∀ s ∈ all, s.Differs := by
    simp only [all, List.forall_mem_cons]
    refine ⟨?_, ?_, ?_, ?_, ?_, ?_, ?_, List.forall_mem_nil _⟩ <;> decide +kernel
  intro s member
  have below : ∀ o ∈ s.outputs, ∀ n ∈ o.2, n.1 ≠ [] := by revert s; decide
  have sited : Catalog.ofIds s.ids = .ok ⟨s.targets, none⟩ ∧ ⟨s.own⟩ ∈ s.targets ∧
      s.start.isDirectory s.release.config.outDir ∧ s.start.isDirectory s.release.config.scratchDir := by
    revert s
    decide +kernel
  obtain ⟨accepted, listed, outDir, scratchDir⟩ := sited
  exact ⟨⟨accepted, listed, outDir, scratchDir, Compiler.enclosed_fixed (exists_output below),
    Compiler.reads_fixed (exists_output below) ⟨by decide, by decide⟩⟩, differs s member⟩

end Scene

end Release

end ReleaseMatrix
