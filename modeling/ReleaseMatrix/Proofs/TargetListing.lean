import ReleaseMatrix.Proofs.CatalogFormats
import ReleaseMatrix.Proofs.WholeRun

namespace ReleaseMatrix

/-- The arguments that keep a program from the network and from files. -/
def Profile.restrictions : List String :=
  ["-Dsandbox=true", "-Dnet=false", "-Dfs=false"]

/-- The value after an option, where options and their values take turns. -/
def optionValue? (option : String) : List String → Option String
  | name :: value :: rest => if name = option then some value else optionValue? option rest
  | _ => none

namespace Catalog

namespace Row

/-- The name that a row shows for the target's processor in packages of a format. -/
def arch? (row : Row) : PackageFormat → Option String
  | .deb => row.deb
  | .rpm | .pacman => row.rpm

/-- A run of the toolchain is one that the row tells of. -/
structure Tells (row : Row) (q : BuildRequest) : Prop where
  target : row.target = q.target
  profile : row.profile = q.profile
  restrictions : ∀ flag ∈ Profile.restrictions, flag ∈ q.arguments ↔ row.profile = .restricted

/-- A run of the packager is one that the row tells of. -/
structure TellsPackage (row : Row) (q : PackageRequest) : Prop where
  target : row.target = q.spec.target
  arch : row.arch? q.spec.format = some q.spec.arch
  argument : optionValue? "-a" q.arguments.tail = row.arch? q.spec.format

end Row

/-- A catalog tells of a run of the toolchain or of the packager if a row of it does. -/
def Tells (c : Catalog) (q : BuildRequest) : Prop :=
  ∃ row ∈ c.rows, row.Tells q

def TellsPackage (c : Catalog) (q : PackageRequest) : Prop :=
  ∃ row ∈ c.rows, row.TellsPackage q

variable {c : Catalog} {t : Target}

/-- The row of a target. -/
def row (c : Catalog) (t : Target) : Row :=
  ⟨t, .forTarget t (c.restricted?.getD defaultRestricted), PackageArch.find? t .deb, PackageArch.find? t .rpm⟩

theorem rows_eq (c : Catalog) : c.rows = c.targets.map c.row := rfl

theorem row_mem_rows (listed : t ∈ c.targets) : c.row t ∈ c.rows :=
  List.mem_map_of_mem listed

theorem arch?_row (c : Catalog) (t : Target) (f : PackageFormat) : (c.row t).arch? f = PackageArch.find? t f := by
  cases f <;> rfl

/-- The targets of a catalog that was loaded are different triples. -/
theorem targets_of_load {w : Workspace} {p : Path} (loaded : load w p = .ok c) :
    c.targets.Nodup ∧ ∀ t ∈ c.targets, t.isTriple := by
  have stored : ∃ stored, ofStored p stored = .ok c := by
    unfold load at loaded
    cases there : w.exists? p with
    | false => simp [there, bind, Except.bind] at loaded
    | true =>
      cases read : w.readText p with
      | error fault => simp [there, read, Except.mapError, bind, Except.bind] at loaded
      | ok s =>
        have text : ofText p s = .ok c := by
          simpa [there, read, Except.mapError, bind, Except.bind, pure, Except.pure] using loaded
        unfold ofText at text
        cases parsed : Stored.parse? (.ofPath p) s with
        | none => simp [parsed] at text
        | some stored => exact ⟨stored, by simpa [parsed] using text⟩
  obtain ⟨⟨targets?, restricted?⟩, made⟩ := stored
  cases targets? with
  | none => simp [ofStored] at made
  | some ids =>
    cases found : targetsOfIds ids with
    | error error => simp [ofStored, found, bind, Except.bind] at made
    | ok targets =>
      obtain rfl : ⟨targets, restricted?⟩ = c := by
        simpa [ofStored, found, bind, Except.bind, pure, Except.pure] using made
      have accepted : ofIds ids = .ok ⟨targets, none⟩ := by
        simp [ofIds, found, bind, Except.bind, pure, Except.pure]
      have different := targets_of_ofIds accepted
      exact different

/-- Different targets have different names, so that no more than one of them is the restricted one. -/
theorem length_restricted_le_one (nodup : c.targets.Nodup) :
    (c.rows.filter (·.profile = .restricted)).length ≤ 1 := by
  have same : ∀ t, (c.row t).profile = .restricted → t = ⟨c.restricted?.getD defaultRestricted⟩ := by
    intro t restricted
    by_cases named : t.id = c.restricted?.getD defaultRestricted
    · rw [← named]
    · simp [row, Profile.forTarget, named] at restricted
  let isRestricted (t : Target) : Bool := (c.row t).profile = .restricted
  have only : ∀ t ∈ c.targets.filter isRestricted, t = ⟨c.restricted?.getD defaultRestricted⟩ := fun t member =>
    same t (by simpa [isRestricted] using (List.mem_filter.mp member).2)
  have one : (c.targets.filter isRestricted).length ≤ 1 :=
    List.nodup_replicate.mp (List.eq_replicate_of_mem only ▸ nodup.filter isRestricted)
  rw [rows_eq, List.filter_map, List.length_map]
  exact one

end Catalog

/-- Only the restricted profile has restrictions among its arguments, where what is built is installed below the root. -/
theorem BuildRequest.mem_arguments_iff {q : BuildRequest} (absolute : q.installDir.isAbsolute) {flag : String}
    (restriction : flag ∈ Profile.restrictions) : flag ∈ q.arguments ↔ q.profile = .restricted := by
  have other : ∀ flag ∈ Profile.restrictions, flag ≠ "build" ∧ flag ≠ "--prefix" ∧ flag.toList.head? ≠ some '/' ∧
      ¬ "-Dtarget=".toList <+: flag.toList ∧ flag ∉ Profile.standard.flags ∧ flag ∈ Profile.restricted.flags := by
    decide
  obtain ⟨noBuild, noPrefix, relative, noTarget, absent, present⟩ := other flag restriction
  have noTarget : flag ≠ "-Dtarget=" ++ q.target.id := by
    rintro rfl
    exact noTarget (by simp)
  have noPath : flag ≠ q.installDir.text := by
    rintro rfl
    exact relative (by simpa [Path.isAbsolute] using absolute)
  cases profile : q.profile <;> simp [arguments, noBuild, noPrefix, noTarget, noPath, profile, absent, present]

theorem PackageRequest.optionValue?_arguments (q : PackageRequest) :
    optionValue? "-a" q.arguments.tail = some q.spec.arch := by
  simp [arguments, optionValue?]

/-- What comes of waiting for a binary depends on nothing of the compiler but what it has written when. -/
theorem Builder.waitForBinary_congr {b : Builder} {other : Compiler} {q : BuildRequest}
    (same : other.filesAt q = b.compiler.filesAt q) :
    Builder.waitForBinary { b with compiler := other } q = b.waitForBinary q := by
  have seen (w : Workspace) : Builder.seen { b with compiler := other } q w = b.seen q w := by
    funext k
    rw [Builder.seen, Builder.seen, same]
  have chosen (w : Workspace) : Builder.chosen { b with compiler := other } q w = b.chosen q w := by
    rw [Builder.chosen, Builder.chosen, seen]
  have view (w : Workspace) (p : Path) : Builder.view { b with compiler := other } q w p = b.view q w p := by
    funext k
    rw [Builder.view, Builder.view, seen]
  simp only [Builder.waitForBinary, seen, chosen, view]

namespace Release

/-- What the toolchain is asked for when a target is built. -/
structure Asks (r : Release) (t : Target) (q : BuildRequest) : Prop where
  target : q.target = t
  profile : q.profile = r.builder.profile t
  directory : Scratch.directory r.config.scratchDir t = .ok q.installDir

/-- The toolchain did what it was asked for. -/
def Compiled (r : Release) (t : Target) : Prop :=
  ∃ q w, r.Asks t q ∧ ((r.compiler.compile q).exec w).1 = .ok ()

/-- What a worker has asked for when it comes to a stage. -/
def Stage.Asked (r : Release) (t : Target) : Stage → Prop
  | .compile q => r.Asks t q
  | .locate _ | .draft _ | .rename _ | .unlink _ | .sweep (.ok _) | .done (.ok _) => r.Compiled t
  | .reset | .undo _ | .sweep (.error _) | .done (.error _) => True

namespace Stage

variable {r : Release} {t : Target} {stage : Stage} {w : Workspace}

theorem asked_after {α : Type} {next : α → Stage} {ending : Except (Stop BuildError) α}
    (going : ∀ a, ending = .ok a → (next a).Asked r t) : (after next ending).Asked r t := by
  rcases ending with (_ | _) | a
  · trivial
  · trivial
  · exact going a rfl

theorem IsFailure.asked (failure : stage.IsFailure) : stage.Asked r t := by
  cases stage with
  | sweep archived | done archived =>
    cases archived with
    | error _ => trivial
    | ok _ => exact failure.elim
  | undo _ => trivial
  | reset | compile _ | locate _ | draft _ | rename _ | unlink _ => exact failure.elim

/-- A worker asks the toolchain only for its own target, and goes on only with what was compiled. -/
theorem next_asked (asked : stage.Asked r t) : (stage.next r t w).1.Asked r t := by
  cases stage with
  | reset =>
    simp only [next]
    cases named : Scratch.directory r.config.scratchDir t with
    | error _ => trivial
    | ok scratch => exact asked_after fun _ _ => ⟨rfl, rfl, named⟩
  | compile q =>
    simp only [next]
    exact asked_after fun _ ok => ⟨q, w.record (.compiled q), asked, ok⟩
  | locate q =>
    simp only [next]
    exact asked_after fun _ _ => asked
  | draft binary =>
    simp only [next]
    generalize (Archiver.writeDraft binary (Archive.entryName binary t) (archivePath r t)).exec w = run
    rcases run with ⟨_ | _, _⟩
    · trivial
    · exact asked
  | undo _ => trivial
  | rename binary =>
    simp only [next]
    generalize (FileM.rename (Archive.draft (archivePath r t)) (archivePath r t)).exec w = run
    rcases run with ⟨_ | _, _⟩
    · trivial
    · exact asked
  | unlink _ => exact asked
  | sweep archived =>
    cases archived with
    | error _ => trivial
    | ok _ => exact asked
  | done _ => exact asked

end Stage

namespace Crew

variable {r : Release} {targets : List Target} {scratch out : Location} {breaks : Target → Prop} {jobs : Nat}
variable {w : Workspace} {crew : Crew}

/-- What a worker's own steps keep, and what holds of every failure, holds at every stage of a crew's workers. -/
theorem Reach.each_stage (holds : Target → Stage → Prop) (begun : ∀ t, holds t .reset)
    (next : ∀ t stage w, holds t stage → holds t (stage.next r t w).1)
    (failed : ∀ t (stage : Stage), stage.IsFailure → holds t stage)
    (reach : Reach r targets scratch out breaks (.initial jobs targets w) crew) :
    ∀ (j : Nat) (t : Target) (stage : Stage), targets[j]? = some t → crew.stages[j]? = some stage → holds t stage := by
  have set {stages : List Stage} {i : Nat} {t : Target} {now : Stage} (at_i : targets[i]? = some t)
      (here : holds t now)
      (each : ∀ (j : Nat) (t : Target) (stage : Stage), targets[j]? = some t → stages[j]? = some stage → holds t stage)
      (j : Nat) (s : Target) (stage : Stage) (at_j : targets[j]? = some s)
      (found : (stages.set i now)[j]? = some stage) : holds s stage := by
    obtain ⟨rfl, rfl, rfl⟩ | ⟨-, found⟩ := stage_cases at_i at_j found
    · exact here
    · exact each j s stage at_j found
  induction reach with
  | start =>
    intro j t stage _ found
    obtain ⟨-, rfl⟩ : j < targets.length ∧ Stage.reset = stage := by
      simpa [initial, List.getElem?_replicate] using found
    exact begun t
  | next _ step ih =>
    cases step with
    | start _ | join _ | finish _ _ _ => exact ih
    | advance _ at_i atStage => exact set at_i (next _ _ _ (ih _ _ _ at_i atStage)) ih
    | fail _ at_i _ failure _ _ => exact set at_i (failed _ _ failure) ih

theorem Reach.asked (reach : Reach r targets scratch out breaks (.initial jobs targets w) crew) {j : Nat} {t : Target}
    {stage : Stage} (at_j : targets[j]? = some t) (found : crew.stages[j]? = some stage) : stage.Asked r t :=
  reach.each_stage (Stage.Asked r) (fun _ => trivial) (fun _ _ _ asked => Stage.next_asked asked)
    (fun _ _ failure => failure.asked) j t stage at_j found

/-- Where there is an archive of a target, the toolchain did what it was asked for. -/
theorem Reach.compiled (reach : Reach r targets scratch out breaks (.initial jobs targets w) crew)
    {o : Outcomes Archive} (returned : crew.pool.outcomes? targets = some o) {t : Target} {a : Archive}
    (member : (t, .ok a) ∈ o.entries) : r.Compiled t := by
  obtain ⟨i, listed, done⟩ := reach.exists_done returned member
  exact reach.asked listed done

end Crew

/-- Releases that are told the same build a target alike if their compilers do alike what they are asked for. -/
theorem buildTarget_congr {config : ReleaseConfig} {compiler other : Compiler} {packager packager' : Packager}
    {t : Target} (same : ∀ q, Asks ⟨config, compiler, packager⟩ t q →
      other.compile q = compiler.compile q ∧ other.filesAt q = compiler.filesAt q) :
    buildTarget ⟨config, other, packager'⟩ t = buildTarget ⟨config, compiler, packager⟩ t := by
  have built : (builder ⟨config, other, packager'⟩).build t config.scratchDir =
      (builder ⟨config, compiler, packager⟩).build t config.scratchDir := by
    cases named : Scratch.directory config.scratchDir t with
    | error _ => rw [Stage.build_of_no_directory named, Stage.build_of_no_directory named]
    | ok scratch =>
      rw [Stage.build_of_directory named, Stage.build_of_directory named]
      obtain ⟨compile, filesAt⟩ :=
        same ⟨t, (builder ⟨config, compiler, packager⟩).profile t, scratch⟩ ⟨rfl, rfl, named⟩
      simp only [Builder.profile, builder] at compile filesAt
      have waits := Builder.waitForBinary_congr (b := builder ⟨config, compiler, packager⟩) filesAt
      simp only [Builder.compileAndWait, Builder.profile, builder, compile] at waits ⊢
      simp only [waits]
  unfold buildTarget
  rw [built]
  rfl

end Release

theorem mapM_congr_of_mem {m : Type → Type} [Monad m] [LawfulMonad m] {α β : Type} {f g : α → m β} {l : List α}
    (same : ∀ a ∈ l, f a = g a) : l.mapM f = l.mapM g := by
  induction l with
  | nil => rfl
  | cons a l ih =>
    obtain ⟨first, others⟩ := List.forall_mem_cons.mp same
    rw [List.mapM_cons, List.mapM_cons, first, ih others]

theorem exists_of_forall₂ {α β : Type} {related : α → β → Prop} {l : List α} {m : List β}
    (each : List.Forall₂ related l m) {b : β} (member : b ∈ m) : ∃ a ∈ l, related a b := by
  induction each with
  | nil => cases member
  | cons first _ ih =>
    rcases List.mem_cons.mp member with rfl | later
    · exact ⟨_, List.mem_cons_self, first⟩
    · obtain ⟨a, listed, here⟩ := ih later
      exact ⟨a, List.mem_cons_of_mem _ listed, here⟩

namespace PackageBuilder

variable {b : PackageBuilder} {packager : Packager} {a : Archive} {archives : List Archive}
variable {results : List PackageResult}

theorem buildOne_congr {s : PackageSpec}
    (same : ∀ q dir, q.spec = s → packager.pack q dir = b.packager.pack q dir) :
    buildOne { b with packager } a s = b.buildOne a s := by
  have alike (product version : String) (archive : Path) (output : String) (dir : Path) :
      packager.pack ⟨product, version, s, archive, output⟩ dir =
        b.packager.pack ⟨product, version, s, archive, output⟩ dir := same _ _ rfl
  simp only [buildOne, packIn, alike]

/-- Archives are packaged alike by packagers that do alike what the archives call for. -/
theorem buildEach_congr
    (same : ∀ a ∈ archives, ∀ q dir, q.spec ∈ PackageSpec.list a.target b.formats →
      packager.pack q dir = b.packager.pack q dir) (w : Workspace) :
    (buildEach { b with packager } archives).run w = (b.buildEach archives).run w := by
  induction archives generalizing w with
  | nil => rw [buildEach_nil, buildEach_nil]
  | cons a archives ih =>
    obtain ⟨first, others⟩ := List.forall_mem_cons.mp same
    have all : buildAll { b with packager } a = b.buildAll a := by
      unfold buildAll
      refine mapM_congr_of_mem fun s member => ?_
      rw [buildOne_congr fun q dir spec => first q dir (spec ▸ member)]
    rw [buildEach_cons, buildEach_cons, all]
    simp only [ih others]
    rfl

/-- A package that was made comes from a run of the packager that did not fail. -/
theorem Ended.exists_pack (ended : b.Ended archives results) {r : PackageResult} (member : r ∈ results) {p : Path}
    (built : r.outcome = .ok p) : ∃ q dir w, q.spec.target = r.target ∧ q.spec.format = r.format ∧
      (∃ a ∈ archives, q.spec ∈ PackageSpec.list a.target b.formats) ∧
      ((b.packager.pack q dir).exec w).1 = .ok () := by
  obtain ⟨groups, each, rfl⟩ := ended
  obtain ⟨group, inGroups, inGroup⟩ := List.mem_flatten.mp member
  obtain ⟨a, listed, ends⟩ := exists_of_forall₂ each inGroups
  cases ends with
  | broken crash =>
    obtain ⟨s, -, rfl⟩ := List.mem_map.mp inGroup
    cases built
  | worked run =>
    obtain ⟨s, called, w, v, run⟩ := exists_of_forall₂ (TaskM.forall₂_of_exec_mapM run) inGroup
    obtain ⟨outcome, u, one, run⟩ := TaskM.exec_bind_ok run
    obtain rfl : ⟨s.target, s.format, outcome⟩ = r := by simpa using congrArg Prod.fst run
    simp only at built
    subst built
    obtain ⟨archive, dir, x, y, -, -, packed, -⟩ := exec_buildOne_ok (WorkM.exec_of_outcome_ok one)
    obtain ⟨z, -, pack, -⟩ := exec_packIn_ok packed
    exact ⟨_, dir, _, rfl, rfl, ⟨a, listed, called⟩, congrArg Prod.fst pack⟩

end PackageBuilder

theorem PackageSpec.of_mem_list {s : PackageSpec} {t : Target} {formats : List PackageFormat}
    (member : s ∈ list t formats) :
    s.target = t ∧ s.format ∈ formats ∧ PackageArch.find? t s.format = some s.arch := by
  obtain ⟨f, asked, found⟩ := List.mem_filterMap.mp member
  obtain ⟨arch, known, rfl⟩ := Option.map_eq_some_iff.mp found
  exact ⟨rfl, asked, known⟩

/-- Under each target that a report lists are the packages that the target's row tells of: with an archive, one for each
format that was asked for and that the row has a name of the processor for. Those that were made come from runs of
the packager that rows tell of. -/
def Catalog.TellsReport (c : Catalog) (formats : List PackageFormat) (packager : Packager) (report : Report) : Prop :=
  ∀ t ∈ report.targets, ∃ row ∈ c.rows, row.target = t.target ∧
    (∀ f, (∃ p ∈ t.packages, p.format = f) ↔ t.outcome.toBool ∧ f ∈ formats ∧ (row.arch? f).isSome) ∧
    ∀ p ∈ t.packages, ∀ path, p.outcome = .ok path → ∃ q dir w, c.TellsPackage q ∧ q.spec.target = t.target ∧
      q.spec.format = p.format ∧ ((packager.pack q dir).exec w).1 = .ok ()

namespace Catalog

variable {c : Catalog} {t : Target}

theorem tellsPackage_row {q : PackageRequest} {formats : List PackageFormat}
    (called : q.spec ∈ PackageSpec.list t formats) : (c.row t).TellsPackage q := by
  obtain ⟨rfl, -, known⟩ := PackageSpec.of_mem_list called
  rw [← arch?_row c] at known
  exact ⟨rfl, known, q.optionValue?_arguments.trans known.symm⟩

/-- A target has packages in the formats asked for if it has an archive and its processor has a name. -/
theorem mem_pairs_iff {o : Outcomes Archive} {formats : List PackageFormat} {outcome : Except TargetFailure Archive}
    (nodup : (o.entries.map Prod.fst).Nodup) (own : o.Own) (member : (t, outcome) ∈ o.entries) (f : PackageFormat) :
    (t, f) ∈ PackageBuilder.expected formats o.successes ↔
      outcome.toBool ∧ f ∈ formats ∧ ((c.row t).arch? f).isSome := by
  rw [arch?_row, PackageArch.isSome_find?, PackageBuilder.expected, List.mem_flatMap]
  constructor
  · rintro ⟨a, success, inGroup⟩
    obtain ⟨s, listed⟩ := Outcomes.mem_entries_of_mem_successes success
    have target : a.target = s := own _ listed a rfl
    split at inGroup
    · next mapped =>
      obtain ⟨g, asked, same⟩ := List.mem_map.mp inGroup
      obtain ⟨rfl, rfl⟩ : a.target = t ∧ g = f := by simpa using same
      subst target
      have entry := List.inj_on_of_nodup_map nodup member listed rfl
      obtain rfl : outcome = .ok a := (Prod.mk.inj entry).2
      exact ⟨rfl, asked, mapped⟩
    · cases inGroup
  · rintro ⟨ok, asked, mapped⟩
    cases outcome with
    | error _ => cases ok
    | ok a =>
      have target : a.target = t := own _ member a rfl
      refine ⟨a, List.mem_filterMap.mpr ⟨_, member, rfl⟩, ?_⟩
      rw [target, if_pos mapped]
      exact List.mem_map_of_mem asked

/-- The report of what was packaged is what the rows tell. -/
theorem tellsReport_finish {p : Packaging} {o : Outcomes Archive} {results : List PackageResult} {w : Workspace}
    (listed : ∀ entry ∈ o.entries, entry.1 ∈ c.targets) (nodup : (o.entries.map Prod.fst).Nodup) (own : o.Own)
    (ended : p.packageBuilder.Ended o.successes results) :
    c.TellsReport p.config.formats p.packager ((p.finish o results).run w).1 := by
  have told : ((p.finish o results).run w).1.targets =
      o.entries.map fun entry => .ofOutcome entry.1 entry.2 results := rfl
  rw [TellsReport, told, List.forall_mem_map]
  rintro ⟨t, outcome⟩ member
  refine ⟨c.row t, row_mem_rows (listed _ member), rfl, fun f => ?_, fun p inPackages path made => ?_⟩
  · have sameEnd : (TargetReport.ofOutcome t outcome results).outcome.toBool = outcome.toBool := by
      cases outcome <;> rfl
    rw [sameEnd, ← mem_pairs_iff nodup own member f]
    have pairs : results.map PackageResult.pair = PackageBuilder.expected p.config.formats o.successes := ended.pairs
    rw [← pairs, List.mem_map]
    constructor
    · rintro ⟨q, inPackages, rfl⟩
      obtain ⟨r, inResults, rfl⟩ := List.mem_map.mp inPackages
      obtain ⟨result, own⟩ := List.mem_filter.mp inResults
      have target : r.target = t := by simpa using own
      exact ⟨r, result, Prod.ext target rfl⟩
    · rintro ⟨r, result, same⟩
      obtain ⟨rfl, rfl⟩ := Prod.mk.inj same
      exact ⟨.ofResult r, List.mem_map_of_mem (List.mem_filter.mpr ⟨result, by simp⟩), rfl⟩
  · obtain ⟨r, inResults, rfl⟩ := List.mem_map.mp inPackages
    obtain ⟨result, mine⟩ := List.mem_filter.mp inResults
    have target : r.target = t := by simpa using mine
    have built : r.outcome = .ok path := by
      cases outcome : r.outcome with
      | error _ => simp [PackageReport.ofResult, outcome, Except.mapError] at made
      | ok _ => simpa [PackageReport.ofResult, outcome, Except.mapError] using made
    obtain ⟨q, dir, u, ofTarget, ofFormat, ⟨a, success, called⟩, pack⟩ := ended.exists_pack result built
    obtain ⟨s, entry⟩ := Outcomes.mem_entries_of_mem_successes success
    have own : a.target ∈ c.targets := own _ entry a rfl ▸ listed _ entry
    exact ⟨q, dir, u, ⟨_, row_mem_rows own, tellsPackage_row called⟩, ofTarget.trans target, ofFormat, pack⟩

end Catalog

namespace Release

theorem exec_run (r : Release) (c : Catalog) (w : Workspace) :
    (r.run c).exec w = match r.prepare.exec w with
      | (.ok _, u) =>
        let built := (r.buildArchives c.targets).run u
        let settled := (r.settle built.1).run built.2
        (.ok settled.1, settled.2)
      | (.error e, u) => (.error e, u) := by
  rw [run, TaskM.exec_bind]
  rcases r.prepare.exec w with ⟨_ | _, u⟩ <;> rfl

/-- Releases that are told the same do the same if their tools do alike what they are asked for. -/
theorem exec_run_congr {config : ReleaseConfig} {compiler other : Compiler} {packager packager' : Packager} {c : Catalog}
    (compiles : ∀ t ∈ c.targets, ∀ q, Asks ⟨config, compiler, packager⟩ t q →
      other.compile q = compiler.compile q ∧ other.filesAt q = compiler.filesAt q)
    (packs : ∀ t ∈ c.targets, ∀ q dir, q.spec ∈ PackageSpec.list t config.formats →
      packager'.pack q dir = packager.pack q dir) (w : Workspace) :
    (run ⟨config, other, packager'⟩ c).exec w = (run ⟨config, compiler, packager⟩ c).exec w := by
  have archives : buildArchives ⟨config, other, packager'⟩ c.targets = buildArchives ⟨config, compiler, packager⟩ c.targets := by
    unfold buildArchives Schedule.run
    rw [mapM_congr_of_mem fun t listed => ?_]
    unfold Schedule.runOne
    rw [buildTarget_congr (compiles t listed)]
  rw [exec_run, exec_run, archives]
  have prepared : prepare ⟨config, other, packager'⟩ = prepare ⟨config, compiler, packager⟩ := rfl
  rw [prepared]
  rcases (prepare ⟨config, compiler, packager⟩).exec w with ⟨error | _, u⟩
  · rfl
  obtain ⟨crew, reach, -, returned⟩ := Crew.exists_reach_buildArchives ⟨config, compiler, packager⟩ c.targets [] []
    (fun _ => False) config.jobs u
  have called : ∀ a ∈ ((buildArchives ⟨config, compiler, packager⟩ c.targets).run u).1.successes, ∀ q dir,
      q.spec ∈ PackageSpec.list a.target config.formats → packager'.pack q dir = packager.pack q dir := by
    intro a success q dir called
    obtain ⟨t, entry⟩ := Outcomes.mem_entries_of_mem_successes success
    have target : a.target = t := reach.own_outcomes returned _ entry a rfl
    have listed : t ∈ c.targets := (reach.outcomes returned).1 ▸ List.mem_map_of_mem entry
    exact packs t listed q dir (target ▸ called)
  dsimp only
  generalize (buildArchives ⟨config, compiler, packager⟩ c.targets).run u = built at called ⊢
  have each := PackageBuilder.buildEach_congr (b := ⟨packager, config.product, config.outDir, config.formats⟩) called
  have packaged : packed ⟨config, other, packager'⟩ built.1 built.2 = packed ⟨config, compiler, packager⟩ built.1 built.2 := by
    unfold packed buildPackages
    dsimp only [packaging, Packaging.packageBuilder]
    split
    · rfl
    · exact each _
  have settled : (settle ⟨config, other, packager'⟩ built.1).run built.2 =
      (settle ⟨config, compiler, packager⟩ built.1).run built.2 := by
    rw [run_settle, run_settle, packaged]
    rfl
  simp only [settled]

end Release

namespace Packaging

theorem exec_run (p : Packaging) (c : Catalog) (w : Workspace) :
    (p.run c).exec w = match ((Files.makeDirectories p.config.outDir).describe .files : TaskM ReleaseError Unit).exec w with
      | (.ok _, u) =>
        let packed := (p.packageBuilder.buildEach (p.existing c u).successes).run u
        let finished := (p.finish (p.existing c u) packed.1).run packed.2
        (.ok finished.1, finished.2)
      | (.error e, u) => (.error e, u) := by
  rw [run, TaskM.exec_bind]
  rcases ((Files.makeDirectories p.config.outDir).describe .files : TaskM ReleaseError Unit).exec w with ⟨_ | _, u⟩ <;> rfl

theorem exec_run_congr {config : ReleaseConfig} {packager packager' : Packager} {c : Catalog}
    (packs : ∀ t ∈ c.targets, ∀ q dir, q.spec ∈ PackageSpec.list t config.formats →
      packager'.pack q dir = packager.pack q dir) (w : Workspace) :
    (run ⟨config, packager'⟩ c).exec w = (run ⟨config, packager⟩ c).exec w := by
  rw [exec_run, exec_run]
  dsimp only
  rcases ((Files.makeDirectories config.outDir).describe .files : TaskM ReleaseError Unit).exec w with ⟨_ | _, u⟩
  · rfl
  have called : ∀ a ∈ (existing ⟨config, packager⟩ c u).successes, ∀ q dir,
      q.spec ∈ PackageSpec.list a.target config.formats → packager'.pack q dir = packager.pack q dir := by
    intro a success q dir called
    obtain ⟨t, entry⟩ := Outcomes.mem_entries_of_mem_successes success
    obtain ⟨rfl, listed, -⟩ := eq_of_existing entry
    exact packs t listed q dir called
  have each := PackageBuilder.buildEach_congr (b := ⟨packager, config.product, config.outDir, config.formats⟩) called u
  have packaged : ((packageBuilder ⟨config, packager'⟩).buildEach (existing ⟨config, packager'⟩ c u).successes).run u =
      ((packageBuilder ⟨config, packager⟩).buildEach (existing ⟨config, packager⟩ c u).successes).run u := each
  dsimp only
  rw [packaged]
  rfl

end Packaging

/-- The formats that a release makes packages in. -/
def Release.packageFormats (r : Release) : List PackageFormat :=
  if r.config.skipNative then [] else r.config.formats

/-- What is listed of the targets of a catalog tells the truth about a release and about packaging alone. -/
structure Catalog.Truthful (c : Catalog) (r : Release) (p : Packaging) : Prop where
  rows : c.rows.map Row.target = c.targets
  restricted : (c.rows.filter (·.profile = .restricted)).length ≤ 1
  /-- In whatever order the workers take their steps, each asks the toolchain for what the row of its target tells. -/
  compiles : ∀ scratch out breaks jobs w crew,
    Release.Crew.Reach r c.targets scratch out breaks (.initial jobs c.targets w) crew →
    ∀ (j : Nat) q, crew.stages[j]? = some (.compile q) → ∃ row, c.rows[j]? = some row ∧ row.Tells q
  /-- Archives come from such runs of the toolchain. -/
  archives : ∀ scratch out breaks jobs w crew o,
    Release.Crew.Reach r c.targets scratch out breaks (.initial jobs c.targets w) crew →
    crew.pool.outcomes? c.targets = some o → ∀ t a, (t, .ok a) ∈ o.entries →
    ∃ q v, c.Tells q ∧ q.target = t ∧ ((r.compiler.compile q).exec v).1 = .ok ()
  packages : ∀ scratch out breaks jobs w crew o results v,
    Release.Crew.Reach r c.targets scratch out breaks (.initial jobs c.targets w) crew →
    crew.pool.outcomes? c.targets = some o → r.Packaged o.successes results →
    c.TellsReport r.packageFormats r.packager ((r.packaging.finish o results).run v).1
  run : ∀ w report v, (r.run c).exec w = (.ok report, v) → c.TellsReport r.packageFormats r.packager report
  alone : ∀ w report v, (p.run c).exec w = (.ok report, v) → c.TellsReport p.config.formats p.packager report ∧
    ∀ row ∈ c.rows, row.target ∈ report.targets.map TargetReport.target ↔
      ∃ f ∈ p.config.formats, (row.arch? f).isSome
  /-- Nothing else is asked of the tools: other tools that do these things alike make the same release. -/
  asks : ∀ compiler packager, (∀ q, c.Tells q → compiler.compile q = r.compiler.compile q ∧
      compiler.filesAt q = r.compiler.filesAt q) →
    (∀ q dir, c.TellsPackage q → packager.pack q dir = r.packager.pack q dir) → ∀ w,
    (Release.run ⟨r.config, compiler, packager⟩ c).exec w = (r.run c).exec w
  asksAlone : ∀ packager, (∀ q dir, c.TellsPackage q → packager.pack q dir = p.packager.pack q dir) → ∀ w,
    (Packaging.run ⟨p.config, packager⟩ c).exec w = (p.run c).exec w

theorem Release.tellsReport_packaged {c : Catalog} {r : Release} {o : Outcomes Archive} {results : List PackageResult}
    {w : Workspace} (order : o.entries.map Prod.fst = c.targets) (nodup : c.targets.Nodup) (own : o.Own)
    (packaged : r.Packaged o.successes results) :
    c.TellsReport r.packageFormats r.packager ((r.packaging.finish o results).run w).1 := by
  have listed : ∀ entry ∈ o.entries, entry.1 ∈ c.targets := fun entry member => order ▸ List.mem_map_of_mem member
  unfold Packaged at packaged
  unfold packageFormats
  split at packaged
  · next skip =>
    have told : ((r.packaging.finish o results).run w).1.targets =
        o.entries.map fun entry => .ofOutcome entry.1 entry.2 results := rfl
    rw [if_pos skip, Catalog.TellsReport, told, List.forall_mem_map]
    subst packaged
    exact fun entry member => ⟨c.row entry.1, Catalog.row_mem_rows (listed entry member), rfl, by
      simp [TargetReport.ofOutcome]⟩
  · next make =>
    rw [if_neg make]
    exact Catalog.tellsReport_finish listed (order ▸ nodup) own packaged

namespace Catalog

variable {c : Catalog}

/-- What a release asks of the toolchain is what the row of the target tells, where nothing else is to be restricted than
what the catalog names, and the scratch directory is below the root. -/
theorem tells_of_asks {r : Release} (restricted : r.config.restrictedTarget = c.restricted?.getD defaultRestricted)
    (absolute : r.config.scratchDir.isAbsolute) {t : Target} (valid : IsName t.id) {q : BuildRequest}
    (asks : r.Asks t q) : (c.row t).Tells q := by
  obtain ⟨rfl, profile, directory⟩ := asks
  have same : (c.row q.target).profile = q.profile := by
    rw [profile, Builder.profile, Release.builder, restricted]
    rfl
  have inside : q.installDir.isAbsolute := by
    rw [Scratch.eq_of_directory directory, Path.isAbsolute_join _ valid, absolute]
  exact ⟨rfl, same, fun flag restriction => by rw [BuildRequest.mem_arguments_iff inside restriction, same]⟩

theorem mem_applicable_iff {p : Packaging} {row : Row} (listed : row ∈ c.rows) :
    row.target ∈ p.applicable c ↔ ∃ f ∈ p.config.formats, (row.arch? f).isSome := by
  obtain ⟨t, member, rfl⟩ := List.mem_map.mp (rows_eq c ▸ listed)
  have target : (c.row t).target = t := rfl
  simp [Packaging.applicable, target, member, PackageSpec.isApplicable, PackageSpec.find?, arch?_row]

theorem truthful {r : Release} {p : Packaging} (nodup : c.targets.Nodup) (triples : ∀ t ∈ c.targets, t.isTriple)
    (restricted : r.config.restrictedTarget = c.restricted?.getD defaultRestricted)
    (absolute : r.config.scratchDir.isAbsolute) : c.Truthful r p := by
  have tells {t : Target} (listed : t ∈ c.targets) {q : BuildRequest} (asks : r.Asks t q) : (c.row t).Tells q :=
    tells_of_asks restricted absolute (Target.isName_id (triples t listed)) asks
  have tellsPackage {t : Target} (listed : t ∈ c.targets) {q : PackageRequest} {formats : List PackageFormat}
      (called : q.spec ∈ PackageSpec.list t formats) : c.TellsPackage q :=
    ⟨_, row_mem_rows listed, tellsPackage_row called⟩
  constructor
  case rows => rw [rows_eq, List.map_map]; exact List.map_id _
  case restricted => exact length_restricted_le_one nodup
  case compiles =>
    intro scratch out breaks jobs w crew reach j q found
    obtain ⟨bound, -⟩ := List.getElem?_eq_some_iff.mp found
    rw [reach.own.length] at bound
    have at_j := List.getElem?_eq_getElem bound
    exact ⟨c.row c.targets[j], by rw [rows_eq, List.getElem?_map, at_j, Option.map_some],
      tells (List.getElem_mem bound) (reach.asked at_j found)⟩
  case archives =>
    intro scratch out breaks jobs w crew o reach returned t a member
    have listed : t ∈ c.targets := (reach.outcomes returned).1 ▸ List.mem_map_of_mem member
    obtain ⟨q, v, asks, ok⟩ := reach.compiled returned member
    exact ⟨q, v, ⟨_, row_mem_rows listed, tells listed asks⟩, asks.target, ok⟩
  case packages =>
    intro scratch out breaks jobs w crew o results v reach returned packaged
    exact r.tellsReport_packaged (reach.outcomes returned).1 nodup (reach.own_outcomes returned) packaged
  case run =>
    intro w report v run
    obtain ⟨u, crew, prepared, reach, returned, left, settled⟩ := Release.exists_crew_of_run run [] []
    obtain ⟨rfl, rfl⟩ := Prod.ext_iff.mp settled
    exact r.tellsReport_packaged (reach.outcomes returned).1 nodup (reach.own_outcomes returned)
      (r.packaged_buildPackages _ _)
  case alone =>
    intro w report v run
    obtain ⟨u, prepared, finished⟩ := Packaging.exists_of_run run
    obtain ⟨rfl, rfl⟩ := Prod.ext_iff.mp finished
    have order := p.order_existing c u
    have listed : ∀ entry ∈ (p.existing c u).entries, entry.1 ∈ c.targets := fun entry member =>
      (List.mem_filter.mp (order ▸ List.mem_map_of_mem member : entry.1 ∈ p.applicable c)).1
    refine ⟨tellsReport_finish listed (order ▸ nodup.filter _) (p.own_existing c u)
      (p.packageBuilder.ended_buildEach _ u), fun row member => ?_⟩
    have told (results : List PackageResult) (x : Workspace) :
        ((p.finish (p.existing c u) results).run x).1.targets.map TargetReport.target = p.applicable c := by
      rw [← order]
      exact List.map_map
    rw [← mem_applicable_iff member, told]
  case asks =>
    intro compiler packager compiles packs w
    exact Release.exec_run_congr (fun t listed q asks => compiles q ⟨_, row_mem_rows listed, tells listed asks⟩)
      (fun t listed q dir called => packs q dir (tellsPackage listed called)) w
  case asksAlone =>
    intro packager packs w
    exact Packaging.exec_run_congr (fun t listed q dir called => packs q dir (tellsPackage listed called)) w

/-- The listing of a catalog that is loaded from a file tells the truth about a release, and about packaging alone, that
a command line configures. -/
theorem truthful_of_load {processors : Nat} {v w : Workspace} {p : Path} {project : CommandLine.ProjectOptions}
    {package : CommandLine.PackageOptions} {config : ReleaseConfig} (loaded : load v p = .ok c)
    (configured : CommandLine.configure processors w project package c = .ok config) (build : CommandLine.BuildOptions)
    (compiler : Compiler) (packager : Packager) :
    c.Truthful ⟨build.apply processors config, compiler, packager⟩ ⟨config, packager⟩ := by
  obtain ⟨nodup, triples⟩ := targets_of_load loaded
  obtain ⟨projectDir, version, found, -, rfl⟩ := CommandLine.configure_eq_ok configured
  have absolute : projectDir.isAbsolute := by
    unfold Workspace.canonical at found
    cases there : w.find project.catalog.projectDir with
    | error fault => simp [there, bind, Except.bind] at found
    | ok place =>
      obtain rfl : Workspace.pathOf place.1 = projectDir := by
        simpa [there, bind, Except.bind, pure, Except.pure] using found
      simp [Path.isAbsolute, Workspace.pathOf]
  exact truthful nodup triples rfl ((Path.isAbsolute_join projectDir (by decide)).trans absolute)

/-- A catalog that restricts a target of its own, listed beside one that is restricted where nothing is said. -/
theorem truthful_of_load_kept :
    let c : Catalog := ⟨[⟨"x86_64-linux"⟩, ⟨"wasm32-wasi"⟩], some "x86_64-linux"⟩
    let compiler : Compiler := .prompt fun q => WorkM.fail (.toolchainFailed q.target.id (some 1))
    let packager : Packager := ⟨fun _ _ => throw (.crashed ⟨"out of memory"⟩)⟩
    ∃ config, load Kept.workspace ⟨"targets.json"⟩ = .ok c ∧
      CommandLine.configure 1 Kept.workspace ⟨⟨⟨"/"⟩, none⟩, none, some "1.0.0", none⟩ ⟨[.pacman], ⟨"fpm"⟩⟩ c = .ok config ∧
      c.Truthful ⟨CommandLine.BuildOptions.apply ⟨2, ⟨"zig"⟩, 0, false⟩ 1 config, compiler, packager⟩ ⟨config, packager⟩ ∧
      c.rows.map (fun row => (row.profile, row.rpm)) = [(.restricted, some "x86_64"), (.standard, none)] := by
  intro c compiler packager
  let config : ReleaseConfig :=
    { ReleaseConfig.standard 1 ⟨"/"⟩ "1.0.0" with formats := [.pacman], restrictedTarget := "x86_64-linux" }
  have configured : CommandLine.configure 1 Kept.workspace ⟨⟨⟨"/"⟩, none⟩, none, some "1.0.0", none⟩
      ⟨[.pacman], ⟨"fpm"⟩⟩ c = .ok config := rfl
  exact ⟨config, load_kept, configured, truthful_of_load load_kept configured _ compiler packager, by decide⟩

end Catalog

end ReleaseMatrix
