import ReleaseMatrix.Proofs.CrewOrder
import ReleaseMatrix.Proofs.PackageSets

namespace ReleaseMatrix

/-- An archive among the outcomes is one of the target that it is listed for. -/
def Outcomes.Own (o : Outcomes Archive) : Prop :=
  ∀ entry ∈ o.entries, ∀ a, entry.2 = .ok a → a.target = entry.1

/-- The results come archive after archive, each under its archive's target. -/
def PackageResult.InOrder (archives : List Archive) (results : List PackageResult) : Prop :=
  ∃ groups : List (List PackageResult), results = groups.flatten ∧
    List.Forall₂ (fun a group => ∀ r ∈ group, r.target = a.target) archives groups

def PackageResult.isFailed (r : PackageResult) : Bool :=
  !r.outcome.toBool

/-- What is told of an outcome: where the archive is, or why there is none. -/
def Outcomes.told (outcome : Except TargetFailure Archive) : Except String Path :=
  (outcome.mapError TargetFailure.message).map Archive.path

/-- A report tells every outcome and every package once, each under its own target and in its order, and its counts
are those of what it tells. -/
structure Report.Accounts (report : Report) (outcomes : Outcomes Archive) (results : List PackageResult) :
    Prop where
  targets : report.targets.map (fun t => (t.target, t.outcome)) =
    outcomes.entries.map fun entry => (entry.1, Outcomes.told entry.2)
  once : (report.targets.map TargetReport.target).Nodup
  packages : report.targets.flatMap (fun t => t.packages.map (t.target, ·)) =
    results.map fun r => (r.target, PackageReport.ofResult r)
  failed : ∀ t ∈ report.targets, t.isFailed → (∃ message, t.outcome = .error message) ∧ t.packages = []
  archiveCount : report.archiveCount + report.targets.countP TargetReport.isFailed = report.targets.length
  packageCount : report.packageCount + results.countP PackageResult.isFailed = results.length

theorem Outcomes.mem_entries_of_mem_successes {α : Type} {o : Outcomes α} {a : α} (member : a ∈ o.successes) :
    ∃ t, (t, .ok a) ∈ o.entries := by
  obtain ⟨⟨t, outcome⟩, listed, ok⟩ := List.mem_filterMap.mp member
  cases outcome with
  | error e => cases ok
  | ok b =>
    obtain rfl : b = a := Option.some_inj.mp ok
    exact ⟨t, listed⟩

namespace PackageResult

variable {archives : List Archive} {results : List PackageResult}

theorem InOrder.nil (archives : List Archive) : InOrder archives [] := by
  refine ⟨archives.map fun _ => [], by simp, ?_⟩
  rw [List.forall₂_map_right_iff, List.forall₂_same]
  exact fun a _ r member => nomatch member

theorem target_of_mem_ends {b : PackageBuilder} {a : Archive} {group : List PackageResult} (ends : b.Ends a group)
    {r : PackageResult} (member : r ∈ group) : r.target = a.target := by
  have ended : b.Ended [a] group := ⟨[group], .cons ends .nil, by simp⟩
  have listed : r.pair ∈ PackageBuilder.expected b.formats [a] := ended.pairs ▸ List.mem_map_of_mem member
  rw [PackageBuilder.expected, List.flatMap_singleton] at listed
  split at listed
  · obtain ⟨f, -, same⟩ := List.mem_map.mp listed
    exact (congrArg Prod.fst same).symm
  · cases listed

/-- However the workers end, the results of packaging come in the order of the archives. -/
theorem inOrder_of_ended {b : PackageBuilder} (ended : b.Ended archives results) : InOrder archives results := by
  obtain ⟨ends, each, rfl⟩ := ended
  exact ⟨ends, rfl, each.imp fun _ _ ends _ member => target_of_mem_ends ends member⟩

/-- Each outcome has a group of results of its own, which is empty for a failure. -/
theorem InOrder.exists_groups {entries : List (Target × Except TargetFailure Archive)}
    (own : Outcomes.Own ⟨entries⟩) (inOrder : InOrder (Outcomes.successes ⟨entries⟩) results) :
    ∃ groups : List (List PackageResult), results = groups.flatten ∧
      List.Forall₂ (fun entry group => (∀ r ∈ group, r.target = entry.1) ∧ (∀ e, entry.2 = .error e → group = []))
        entries groups := by
  induction entries generalizing results with
  | nil =>
    obtain ⟨groups, rfl, each⟩ := inOrder
    cases each
    exact ⟨[], rfl, .nil⟩
  | cons entry entries ih =>
    have rest : Outcomes.Own ⟨entries⟩ := fun other member => own other (List.mem_cons_of_mem _ member)
    obtain ⟨t, outcome⟩ := entry
    cases outcome with
    | error e =>
      obtain ⟨groups, rfl, each⟩ := ih rest inOrder
      exact ⟨[] :: groups, by simp, .cons ⟨by simp, by simp⟩ each⟩
    | ok a =>
      obtain ⟨groups, rfl, each⟩ := inOrder
      cases each with
      | @cons _ group _ groups first each =>
        obtain ⟨groups', same, each'⟩ := ih rest ⟨groups, rfl, each⟩
        have target : a.target = t := own (t, .ok a) List.mem_cons_self a rfl
        have here : ∀ r ∈ group, r.target = t := fun r member => (first r member).trans target
        exact ⟨group :: groups', by simp [same], .cons ⟨here, by simp⟩ each'⟩

end PackageResult

section Groups

variable {entries : List (Target × Except TargetFailure Archive)} {groups : List (List PackageResult)}

theorem target_of_mem_groups
    (each : List.Forall₂ (fun entry group => ∀ r ∈ group, r.target = entry.1) entries groups) :
    ∀ r ∈ groups.flatten, r.target ∈ entries.map Prod.fst := by
  induction each with
  | nil => exact fun r member => nomatch member
  | @cons entry group _ _ first _ ih =>
    intro r member
    rw [List.flatten_cons] at member
    rcases List.mem_append.mp member with here | later
    · simp [first r here]
    · exact List.mem_cons_of_mem _ (ih r later)

/-- Taken target by target, the results of groups that belong to different targets are the groups. What precedes
them is of no such target. -/
theorem filter_flatten_of_groups (nodup : (entries.map Prod.fst).Nodup)
    (each : List.Forall₂ (fun entry group => ∀ r ∈ group, r.target = entry.1) entries groups)
    (before : List PackageResult) (other : ∀ r ∈ before, r.target ∉ entries.map Prod.fst) :
    List.Forall₂ (fun entry group => (before ++ groups.flatten).filter (·.target = entry.1) = group) entries groups := by
  induction each generalizing before with
  | nil => exact .nil
  | @cons entry group entries groups first each ih =>
    rw [List.map_cons, List.nodup_cons] at nodup
    have none : before.filter (·.target = entry.1) = [] :=
      List.filter_eq_nil_iff.mpr fun r member same => other r member (by simp_all)
    have all : group.filter (·.target = entry.1) = group :=
      List.filter_eq_self.mpr fun r member => by simp [first r member]
    have later : groups.flatten.filter (·.target = entry.1) = [] :=
      List.filter_eq_nil_iff.mpr fun r member same => nodup.1 (by
        have listed := target_of_mem_groups each r member
        simp_all)
    refine .cons ?_ ?_
    · rw [List.flatten_cons, List.filter_append, List.filter_append, none, all, later, List.nil_append,
        List.append_nil]
    · rw [List.flatten_cons, ← List.append_assoc]
      refine ih nodup.2 (before ++ group) fun r member => ?_
      rcases List.mem_append.mp member with old | own
      · exact fun listed => other r old (List.mem_cons_of_mem _ listed)
      · rw [first r own]
        exact nodup.1

end Groups

namespace Report

variable {report : Report} {o : Outcomes Archive} {results : List PackageResult}

theorem isFailed_ofResult (r : PackageResult) : (PackageReport.ofResult r).isFailed = r.isFailed := by
  rw [PackageReport.isFailed, PackageResult.isFailed, PackageReport.ofResult]
  cases r.outcome <;> rfl

/-- Target by target, the packages that are told are the results. -/
theorem flatMap_told {entries : List (Target × Except TargetFailure Archive)} {groups : List (List PackageResult)}
    (each : List.Forall₂ (fun entry group => results.filter (·.target = entry.1) = group ∧
      ∀ r ∈ group, r.target = entry.1) entries groups) :
    entries.flatMap (fun entry =>
        (results.filter (·.target = entry.1)).map fun r => (entry.1, PackageReport.ofResult r)) =
      groups.flatten.map fun r => (r.target, PackageReport.ofResult r) := by
  induction each with
  | nil => rfl
  | @cons entry group _ _ first _ ih =>
    obtain ⟨filtered, own⟩ := first
    have told : (group.map fun r => (entry.1, PackageReport.ofResult r)) =
        group.map fun r => (r.target, PackageReport.ofResult r) :=
      List.map_congr_left fun r member => by rw [own r member]
    rw [List.flatMap_cons, List.flatten_cons, List.map_append, filtered, told, ih]

/-- The reports of outcomes with different targets tell every result once. -/
theorem accounts_of_targets (nodup : (o.entries.map Prod.fst).Nodup) (own : o.Own)
    (inOrder : PackageResult.InOrder o.successes results)
    (targets : report.targets = o.entries.map fun entry => .ofOutcome entry.1 entry.2 results) :
    report.Accounts o results := by
  obtain ⟨groups, flat, each⟩ := PackageResult.InOrder.exists_groups own inOrder
  have filtered := filter_flatten_of_groups nodup (each.imp fun _ _ group => group.1) [] (by simp)
  rw [List.nil_append, ← flat] at filtered
  have both := List.Forall₂.mp (fun _ _ filtered group => And.intro filtered group) filtered each
  have packages : report.targets.flatMap (fun t => t.packages.map (t.target, ·)) =
      results.map fun r => (r.target, PackageReport.ofResult r) := by
    have told := flatMap_told (both.imp fun _ _ h => ⟨h.1, h.2.1⟩)
    rw [← flat] at told
    rw [targets, List.flatMap_map, ← told]
    simp [TargetReport.ofOutcome, Function.comp_def]
  have count : report.targets.flatMap TargetReport.packages = results.map PackageReport.ofResult := by
    have second := congrArg (List.map Prod.snd) packages
    simpa [List.map_flatMap, Function.comp_def] using second
  have failures : ∀ entry ∈ o.entries, ∀ e, entry.2 = .error e → results.filter (·.target = entry.1) = [] :=
    ((List.forall₂_and_left _ _).mp (both.imp fun _ _ both =>
      And.intro (fun e failed => both.1.trans (both.2.2 e failed)) trivial)).1
  refine ⟨?_, ?_, packages, fun t member failed => ?_, ?_, ?_⟩
  · simp [targets, TargetReport.ofOutcome, Outcomes.told]
  · simpa [targets, TargetReport.ofOutcome, Function.comp_def] using nodup
  · rw [targets, List.mem_map] at member
    obtain ⟨⟨t, outcome⟩, listed, rfl⟩ := member
    cases outcome with
    | error e => exact ⟨⟨_, rfl⟩, by rw [TargetReport.ofOutcome, failures _ listed e rfl, List.map_nil]⟩
    | ok a => cases failed
  · rw [archiveCount, List.length_eq_countP_add_countP TargetReport.isFailed, Nat.add_comm]
    simp
  · rw [packageCount, count, List.length_eq_countP_add_countP PackageResult.isFailed, Nat.add_comm, List.countP_map]
    simp [Function.comp_def, isFailed_ofResult]

end Report

namespace Release

namespace Stage

/-- The archive that a worker is done with. -/
def archived? : Stage → Option Archive
  | .sweep (.ok a) | .done (.ok a) => some a
  | _ => none

/-- An archive that a worker is done with is that of its own target. -/
def Own (r : Release) (t : Target) (stage : Stage) : Prop :=
  ∀ a, stage.archived? = some a → a = ⟨t, r.config.version, archivePath r t⟩

variable {r : Release} {t : Target} {stage : Stage} {w : Workspace}

theorem own_of_not_archived (none : stage.archived? = none) : stage.Own r t := fun a archived => by
  simp [none] at archived

theorem own_after {α : Type} {next : α → Stage} (going : ∀ a, (next a).archived? = none)
    (ending : Except (Stop BuildError) α) : (after next ending).Own r t := by
  refine own_of_not_archived ?_
  rcases ending with (_ | _) | a
  · rfl
  · rfl
  · exact going a

theorem afterDraft_own (binary : Path) (drafted : Except ArchiveError Unit) : (afterDraft binary drafted).Own r t :=
  own_of_not_archived (by cases drafted <;> rfl)

theorem afterRename_own (binary path : Path) (renamed : Except FileFault Unit) :
    (afterRename binary path renamed).Own r t :=
  own_of_not_archived (by cases renamed <;> rfl)

theorem resetting_own (directory : Except BuildError Path) : (resetting r t w directory).1.Own r t := by
  cases directory with
  | error _ => exact own_of_not_archived rfl
  | ok scratch => exact own_after (fun _ => rfl) _

theorem next_own (own : stage.Own r t) : (stage.next r t w).1.Own r t := by
  cases stage <;> simp only [next]
  case reset => exact resetting_own _
  case compile => exact own_after (fun _ => rfl) _
  case locate => exact own_after (fun _ => rfl) _
  case draft => exact afterDraft_own _ _
  case undo => exact own_of_not_archived rfl
  case rename => exact afterRename_own _ _ _
  case unlink => exact fun a archived => (Option.some_inj.mp archived).symm
  case sweep archived =>
    cases archived with
    | error _ => exact own_of_not_archived rfl
    | ok _ => exact own
  case done => exact own

theorem IsFailure.own (failure : stage.IsFailure) : stage.Own r t := by
  refine own_of_not_archived ?_
  cases stage with
  | sweep archived | done archived =>
    cases archived with
    | error _ => rfl
    | ok _ => exact failure.elim
  | _ => rfl

end Stage

namespace Crew

variable {r : Release} {targets : List Target} {scratch out : Location} {breaks : Target → Prop} {jobs : Nat}
variable {w : Workspace} {crew crew' : Crew}

/-- What holds while a crew works: each worker is on its own target, and one that has ended is done. -/
structure Own (r : Release) (targets : List Target) (crew : Crew) : Prop where
  length : crew.stages.length = targets.length
  stages : ∀ (j : Nat) (t : Target) (stage : Stage), targets[j]? = some t → crew.stages[j]? = some stage →
    stage.Own r t
  ended : ∀ (j : Nat) (ending : Schedule.End Archive), crew.pool.phases[j]? = some (.ended ending) ∨
    crew.pool.phases[j]? = some (.joined ending) → crew.stages[j]? = some (.done ending)

theorem Own.set {pool : Schedule.Pool Archive} {stages : List Stage} {v : Workspace} {i : Nat} {t : Target}
    {now : Stage} (own : Own r targets ⟨pool, stages, w⟩) (running : pool.phases[i]? = some .running)
    (at_i : targets[i]? = some t) (mine : now.Own r t) : Own r targets ⟨pool, stages.set i now, v⟩ := by
  refine ⟨by simp [own.length], fun j s stage at_j found => ?_, fun j ending phase => ?_⟩
  · obtain ⟨rfl, rfl, rfl⟩ | ⟨-, found⟩ := stage_cases at_i at_j found
    · exact mine
    · exact own.stages j s stage at_j found
  · have other : i ≠ j := by
      rintro rfl
      simp [running] at phase
    rw [List.getElem?_set_ne other]
    exact own.ended j ending phase

theorem Own.step (own : Own r targets crew) (step : Crew.Step r targets scratch out breaks crew crew') :
    Own r targets crew' := by
  cases step with
  | start step | join step =>
    exact ⟨own.length, own.stages, fun j ending phase => own.ended j ending (step.ended_before (by simp) phase)⟩
  | @finish i t e _ _ _ w at_i done step =>
    refine ⟨own.length, own.stages, fun j ending phase => ?_⟩
    by_cases mine : Schedule.Move.finish i e = .finish j ending
    · obtain ⟨rfl, rfl⟩ : i = j ∧ e = ending := by simpa using mine
      exact done
    · exact own.ended j ending (step.ended_before mine phase)
  | @advance i t stage _ _ w running at_i atStage =>
    exact own.set running at_i (Stage.next_own (own.stages i t stage at_i atStage))
  | fail running at_i _ failed => exact own.set running at_i failed.own

theorem Reach.own (reach : Reach r targets scratch out breaks (.initial jobs targets w) crew) :
    Own r targets crew := by
  induction reach with
  | start =>
    refine ⟨by simp [initial], fun j t stage _ found => ?_, fun j ending phase => ?_⟩
    · obtain ⟨-, rfl⟩ : j < targets.length ∧ Stage.reset = stage := by
        simpa [initial, List.getElem?_replicate] using found
      exact Stage.own_of_not_archived rfl
    · simp [initial, Schedule.Pool.initial, List.getElem?_replicate] at phase
  | next _ step ih => exact ih.step step

/-- An outcome is what a worker was done with. -/
theorem Reach.exists_ending (reach : Reach r targets scratch out breaks (.initial jobs targets w) crew)
    {o : Outcomes Archive} (returned : crew.pool.outcomes? targets = some o) {t : Target}
    {outcome : Except TargetFailure Archive} (member : (t, outcome) ∈ o.entries) :
    ∃ (i : Nat) (ending : Schedule.End Archive), targets[i]? = some t ∧ crew.stages[i]? = some (.done ending) ∧
      outcome = Schedule.settle ending := by
  obtain ⟨moves, pool⟩ := reach.pool
  obtain ⟨order, joined⟩ := Schedule.Pool.outcomes?_eq_some returned pool.length_phases
  obtain ⟨i, at_i⟩ := List.mem_iff_getElem?.mp member
  have listed : targets[i]? = some t := by rw [← order, List.getElem?_map, at_i, Option.map_some]
  obtain ⟨ending, phase, found⟩ := joined i t listed
  exact ⟨i, ending, listed, reach.own.ended i ending (.inr phase), by simpa [at_i] using found⟩

/-- An archive among the outcomes is one that a worker was done with. -/
theorem Reach.exists_done (reach : Reach r targets scratch out breaks (.initial jobs targets w) crew)
    {o : Outcomes Archive} (returned : crew.pool.outcomes? targets = some o) {t : Target} {a : Archive}
    (member : (t, .ok a) ∈ o.entries) : ∃ i : Nat, targets[i]? = some t ∧ crew.stages[i]? = some (.done (.ok a)) := by
  obtain ⟨i, ending, listed, done, settled⟩ := reach.exists_ending returned member
  have ok : ending = .ok a := by
    rcases ending with (_ | _) | _ <;> simp_all [Schedule.settle]
  exact ⟨i, listed, ok ▸ done⟩

/-- What a crew returns lists its targets in order, and an archive among the outcomes is that of its own target. -/
theorem Reach.outcomes (reach : Reach r targets scratch out breaks (.initial jobs targets w) crew)
    {o : Outcomes Archive} (returned : crew.pool.outcomes? targets = some o) :
    o.entries.map Prod.fst = targets ∧
      ∀ t a, (t, .ok a) ∈ o.entries → a = ⟨t, r.config.version, Stage.archivePath r t⟩ := by
  obtain ⟨moves, pool⟩ := reach.pool
  refine ⟨(Schedule.Pool.outcomes?_eq_some returned pool.length_phases).1, fun t a member => ?_⟩
  obtain ⟨i, listed, done⟩ := reach.exists_done returned member
  exact reach.own.stages i t _ listed done a rfl

theorem Reach.versions (reach : Reach r targets scratch out breaks (.initial jobs targets w) crew)
    {o : Outcomes Archive} (returned : crew.pool.outcomes? targets = some o) :
    ∀ a ∈ o.successes, a.version = r.config.version := by
  intro a member
  obtain ⟨t, listed⟩ := Outcomes.mem_entries_of_mem_successes member
  rw [(reach.outcomes returned).2 t a listed]

theorem Reach.own_outcomes (reach : Reach r targets scratch out breaks (.initial jobs targets w) crew)
    {o : Outcomes Archive} (returned : crew.pool.outcomes? targets = some o) : o.Own := by
  rintro ⟨t, outcome⟩ member a rfl
  exact (reach.outcomes returned).2 t a member ▸ rfl

end Crew

/-- The results that packaging some archives can have, if they are packaged at all. -/
def Packaged (r : Release) (archives : List Archive) (results : List PackageResult) : Prop :=
  if r.config.skipNative then results = [] else r.packaging.packageBuilder.Ended archives results

variable {r : Release} {archives : List Archive} {results : List PackageResult}

theorem Packaged.inOrder (packaged : r.Packaged archives results) : PackageResult.InOrder archives results := by
  unfold Packaged at packaged
  split at packaged
  · exact packaged ▸ .nil archives
  · exact PackageResult.inOrder_of_ended packaged

theorem packaged_buildPackages (r : Release) (archives : List Archive) (w : Workspace) :
    r.Packaged archives ((r.buildPackages archives).run w).1 := by
  unfold Packaged buildPackages
  split
  · rfl
  · exact r.packaging.packageBuilder.ended_buildEach archives w

end Release

namespace Packaging

/-- The targets that native packages are made for in some of the formats asked for. -/
def applicable (p : Packaging) (c : Catalog) : List Target :=
  c.targets.filter fun t => PackageSpec.isApplicable t p.config.formats

/-- What an earlier run left of the archives of the applicable targets. -/
def existing (p : Packaging) (c : Catalog) (w : Workspace) : Outcomes Archive :=
  ⟨(p.applicable c).map fun t => (t, p.existingArchive w t)⟩

theorem order_existing (p : Packaging) (c : Catalog) (w : Workspace) :
    (p.existing c w).entries.map Prod.fst = p.applicable c := by
  simp [existing, Function.comp_def]

theorem eq_of_existing {p : Packaging} {c : Catalog} {w : Workspace} {t : Target} {a : Archive}
    (member : (t, .ok a) ∈ (p.existing c w).entries) :
    a = ⟨t, p.config.version, p.archiver.path p.config.version t⟩ ∧ t ∈ c.targets ∧ w.isFile a.path := by
  obtain ⟨s, listed, same⟩ := List.mem_map.mp member
  obtain ⟨rfl, found⟩ := Prod.mk.inj same
  simp only [existingArchive] at found
  split at found
  · next file =>
    obtain rfl := Except.ok.inj found
    exact ⟨rfl, (List.mem_filter.mp listed).1, file⟩
  · cases found

theorem version_existing (p : Packaging) (c : Catalog) (w : Workspace) :
    ∀ a ∈ (p.existing c w).successes, a.version = p.config.version := fun a member => by
  obtain ⟨t, listed⟩ := Outcomes.mem_entries_of_mem_successes member
  rw [(eq_of_existing listed).1]

theorem own_existing (p : Packaging) (c : Catalog) (w : Workspace) : (p.existing c w).Own := by
  rintro ⟨t, outcome⟩ member a rfl
  exact (eq_of_existing member).1 ▸ rfl

/-- A run of packaging alone makes packages of what it finds, and reports. -/
theorem exists_of_run {p : Packaging} {c : Catalog} {w v : Workspace} {report : Report}
    (run : (p.run c).exec w = (.ok report, v)) : ∃ u, (Files.makeDirectories p.config.outDir).exec w = (.ok (), u) ∧
      (report, v) =
        let packed := (p.packageBuilder.buildEach (p.existing c u).successes).run u
        (p.finish (p.existing c u) packed.1).run packed.2 := by
  obtain ⟨⟨⟩, u, prepared, run⟩ := TaskM.exec_bind_ok run
  rw [TaskM.exec_bind, TaskM.exec_get] at run
  obtain ⟨packages, x, packed, finished⟩ := TaskM.exec_bind_ok run
  obtain ⟨rfl, rfl⟩ := Prod.ext_iff.mp (TaskM.exec_liftM_ok packed)
  exact ⟨u, TaskM.exec_describe_ok prepared, (TaskM.exec_liftM_ok finished).symm⟩

/-- Whatever the archives and packages came to, the report made at the end accounts for them. -/
theorem accounts_finish {o : Outcomes Archive} {results : List PackageResult} {targets : List Target}
    (order : o.entries.map Prod.fst = targets) (nodup : targets.Nodup) (own : o.Own)
    (inOrder : PackageResult.InOrder o.successes results) (p : Packaging) (w : Workspace) :
    ((p.finish o results).run w).1.targets.map TargetReport.target = targets ∧
      ((p.finish o results).run w).1.Accounts o results := by
  have told : ((p.finish o results).run w).1.targets =
      o.entries.map fun entry => .ofOutcome entry.1 entry.2 results := rfl
  refine ⟨?_, Report.accounts_of_targets (order ▸ nodup) own inOrder told⟩
  rw [told, List.map_map, ← order]
  rfl

end Packaging

namespace Release

/-- The program is one crew that builds the targets, and then settles. -/
theorem exists_crew_of_run {r : Release} {c : Catalog} {w v : Workspace} {report : Report}
    (run : (r.run c).exec w = (.ok report, v)) (scratch out : Location) : ∃ u crew,
      r.prepare.exec w = (.ok (), u) ∧
      Crew.Reach r c.targets scratch out (fun _ => False) (.initial r.config.jobs c.targets u) crew ∧
      crew.pool.outcomes? c.targets = some ((r.buildArchives c.targets).run u).1 ∧
      crew.workspace = ((r.buildArchives c.targets).run u).2 ∧
      (report, v) = (r.settle ((r.buildArchives c.targets).run u).1).run crew.workspace := by
  obtain ⟨⟨⟩, u, prepared, run⟩ := TaskM.exec_bind_ok run
  obtain ⟨o, x, built, settled⟩ := TaskM.exec_bind_ok run
  obtain ⟨crew, reach, left, returned⟩ :=
    Crew.exists_reach_buildArchives r c.targets scratch out (fun _ => False) r.config.jobs u
  obtain ⟨rfl, rfl⟩ := Prod.ext_iff.mp (TaskM.exec_liftM_ok built)
  exact ⟨u, crew, prepared, reach, returned, left, left ▸ (TaskM.exec_liftM_ok settled).symm⟩

/-- No outcome of a release is lost, told twice or told of another target. In whatever order the workers take their
steps and wherever they break down, each in its turn, the report accounts for the outcomes that the crew returns and
for the packages made of its archives; and so do the reports of the program and of packaging alone. -/
theorem report_accounts {ids : List String} {c : Catalog} (accepted : Catalog.ofIds ids = .ok c) (r : Release) :
    (∀ scratch out breaks jobs w crew outcomes results v,
      Crew.Reach r c.targets scratch out breaks (.initial jobs c.targets w) crew →
      crew.pool.outcomes? c.targets = some outcomes → r.Packaged outcomes.successes results →
      let report := ((r.packaging.finish outcomes results).run v).1
      report.targets.map TargetReport.target = c.targets ∧ report.Accounts outcomes results) ∧
    (∀ w report v, (r.run c).exec w = (.ok report, v) → ∃ u, r.prepare.exec w = (.ok (), u) ∧
      let built := (r.buildArchives c.targets).run u
      let swept := ((Files.removeDirectory r.config.scratchDir).exec built.2).2
      let packed := (r.buildPackages built.1.successes).run swept
      report.targets.map TargetReport.target = c.targets ∧ report.Accounts built.1 packed.1) ∧
    (∀ u results v, r.packaging.packageBuilder.Ended (r.packaging.existing c u).successes results →
      let report := ((r.packaging.finish (r.packaging.existing c u) results).run v).1
      report.targets.map TargetReport.target = r.packaging.applicable c ∧
        report.Accounts (r.packaging.existing c u) results) ∧
    (∀ w report v, (r.packaging.run c).exec w = (.ok report, v) →
      ∃ u, (Files.makeDirectories r.config.outDir).exec w = (.ok (), u) ∧
      let outcomes := r.packaging.existing c u
      let packed := (r.packaging.packageBuilder.buildEach outcomes.successes).run u
      report.targets.map TargetReport.target = r.packaging.applicable c ∧ report.Accounts outcomes packed.1) := by
  obtain ⟨nodup, -⟩ := Catalog.targets_of_ofIds accepted
  refine ⟨fun scratch out breaks jobs w crew outcomes results v reach returned packaged => ?_,
    fun w report v run => ?_, fun u results v ended => ?_, fun w report v run => ?_⟩
  · exact Packaging.accounts_finish (reach.outcomes returned).1 nodup (reach.own_outcomes returned) packaged.inOrder _ v
  · obtain ⟨u, crew, prepared, reach, returned, left, settled⟩ := exists_crew_of_run run [] []
    obtain ⟨rfl, rfl⟩ := Prod.ext_iff.mp settled
    rw [left]
    exact ⟨u, prepared, Packaging.accounts_finish (reach.outcomes returned).1 nodup (reach.own_outcomes returned)
      (packaged_buildPackages r _ _).inOrder _ _⟩
  · exact Packaging.accounts_finish (r.packaging.order_existing c u) (nodup.filter _) (r.packaging.own_existing c u)
      (PackageResult.inOrder_of_ended ended) _ v
  · obtain ⟨u, prepared, finished⟩ := Packaging.exists_of_run run
    obtain ⟨rfl, rfl⟩ := Prod.ext_iff.mp finished
    exact ⟨u, prepared, Packaging.accounts_finish (r.packaging.order_existing c u) (nodup.filter _)
      (r.packaging.own_existing c u) (PackageResult.inOrder_of_ended (r.packaging.packageBuilder.ended_buildEach _ u)) _ _⟩

/-- A release whose compiler fails for one target and breaks down for the other, and what is packaged of the archive
that an earlier run left of the first. -/
theorem report_accounts_beside_crash :
    let c : Catalog := ⟨[⟨"x86_64-linux"⟩, ⟨"riscv64-linux"⟩], none⟩
    let compiler : Compiler := .prompt fun request =>
      if request.target.id = "x86_64-linux" then WorkM.fail (.toolchainFailed "x86_64-linux" (some 1))
      else throw (.crashed ⟨"out of memory"⟩)
    let packager : Packager := ⟨fun _ _ => throw (.crashed ⟨"out of memory"⟩)⟩
    let r : Release := ⟨.standard 1 ⟨"p"⟩ "1.0.0", compiler, packager⟩
    let w : Workspace := ⟨⟨[(["p"], .directory), (["p", "pkg"], .directory),
      (["p", "pkg", "mufiz_1.0.0_x86_64-linux.zip"], .file [] false)], []⟩, [], []⟩
    (∃ report v, (r.run c).exec w = (.ok report, v) ∧ report.targets.map TargetReport.target = c.targets ∧
      ∃ outcomes results, report.Accounts outcomes results) ∧
    ∃ report v, (r.packaging.run c).exec w = (.ok report, v) ∧
      report.targets.map TargetReport.target = c.targets ∧ ∃ outcomes results, report.Accounts outcomes results := by
  intro c compiler packager r w
  have accepted : Catalog.ofIds ["x86_64-linux", "riscv64-linux"] = .ok c := by decide
  obtain ⟨-, whole, -, packaging⟩ := report_accounts accepted r
  constructor
  · rcases run : (r.run c).exec w with ⟨error | report, v⟩
    · have ok : ((r.run c).exec w).1.toBool = true := by decide +kernel
      rw [run] at ok
      cases ok
    · obtain ⟨u, -, listed, accounts⟩ := whole w report v run
      exact ⟨report, v, rfl, listed, _, _, accounts⟩
  · rcases run : (r.packaging.run c).exec w with ⟨error | report, v⟩
    · have ok : ((r.packaging.run c).exec w).1.toBool = true := by decide +kernel
      rw [run] at ok
      cases ok
    · obtain ⟨u, -, listed, accounts⟩ := packaging w report v run
      have all : r.packaging.applicable c = c.targets := by decide
      exact ⟨report, v, rfl, listed.trans all, _, _, accounts⟩

end Release

end ReleaseMatrix
