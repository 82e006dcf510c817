import ReleaseMatrix.CommandLine.Run
import ReleaseMatrix.Packaging
import ReleaseMatrix.Proofs.Execution
import ReleaseMatrix.Proofs.PathEnding
import ReleaseMatrix.Proofs.ReleaseNames
import Mathlib.Data.List.Nodup

namespace ReleaseMatrix

theorem WorkM.exec_of_outcome_ok {ε α : Type} {x : WorkM ε α} {w v : Workspace} {a : α}
    (run : (x.outcome).exec w = (.ok (.ok a), v)) : x.exec w = (.ok a, v) := by
  rw [exec_outcome] at run
  rcases ending : x.exec w with ⟨(_ | _) | _, u⟩ <;> simp_all

namespace PackageBuilder

variable {b : PackageBuilder} {a : Archive} {s : PackageSpec}

/-- A package that was made was found in the packager's directory and moved to its destination. -/
theorem exec_packIn_ok {workDir p : Path} {r : PackageRequest} {w v : Workspace}
    (run : (b.packIn workDir r).exec w = (.ok p, v)) :
    ∃ u found, (b.packager.pack r workDir).exec (w.record (.packed r)) = (.ok (), u) ∧
      produced? u workDir r.outputName r.spec.format = some found ∧
      (Files.move found p).exec (u.record (.produced r ((u.read found).toOption.getD []))) = (.ok (), v) ∧
      p = b.outDir.join (r.spec.releaseName b.product r.version) := by
  unfold packIn at run
  rw [TaskM.exec_bind, TaskM.exec_modify] at run
  obtain ⟨_, u, packed, run⟩ := TaskM.exec_bind_ok run
  rw [TaskM.exec_bind, TaskM.exec_get] at run
  cases found : produced? u workDir r.outputName r.spec.format with
  | none => simp [found] at run
  | some path =>
    simp only [found] at run
    rw [TaskM.exec_bind, TaskM.exec_modify] at run
    obtain ⟨_, x, moved, run⟩ := TaskM.exec_bind_ok run
    obtain ⟨rfl, rfl⟩ : _ = p ∧ x = v := by simpa using run
    exact ⟨u, path, packed, found, TaskM.exec_describe_ok (WorkM.exec_ofTask_ok moved), rfl⟩

/-- A package is made of an archive that is there, in a directory of its own, which is removed however that ends. -/
theorem exec_buildOne_eq (b : PackageBuilder) (a : Archive) (s : PackageSpec) (w : Workspace) :
    (b.buildOne a s).exec w =
      if w.isFile a.path then
        match w.canonical a.path, (PackageScratch.make b.outDir).exec w with
        | .error fault, _ => (.error (.failed (.files a.path fault.message)), w)
        | .ok _, (.error error, v) => (.error (.failed error), v)
        | .ok archive, (.ok workDir, v) =>
          let made := (b.packIn workDir ⟨b.product, a.version, s, archive, s.outputName b.product a.version⟩).exec v
          (made.1, ((FileM.removeTree workDir).exec made.2).2)
      else (.error (.failed (.archiveMissing a.path)), w) := by
  unfold buildOne
  rw [TaskM.exec_bind, TaskM.exec_get]
  by_cases file : w.isFile a.path
  · simp only [file, Bool.not_true, Bool.false_eq_true, if_false, if_true]
    rw [TaskM.exec_bind, WorkM.exec_ofTask, TaskM.exec_describe, FileM.exec_look]
    cases w.canonical a.path with
    | error fault => rfl
    | ok archive =>
      dsimp only [Except.mapError]
      rw [TaskM.exec_bind, WorkM.exec_ofTask]
      rcases (PackageScratch.make b.outDir).exec w with ⟨error | workDir, v⟩
      · rfl
      · dsimp only [Except.mapError]
        rw [TaskM.exec_bind, TaskM.exec_attempt]
        dsimp only
        rw [TaskM.exec_bind, TaskM.exec_attempt]
        dsimp only
        rw [TaskM.exec_ofExcept]
  · simp [file, WorkM.fail]

/-- A package that was built was made in a directory of its own, which is then removed. -/
theorem exec_buildOne_ok {w v : Workspace} {p : Path} (run : (b.buildOne a s).exec w = (.ok p, v)) :
    ∃ archive workDir u x, w.canonical a.path = .ok archive ∧
      (PackageScratch.make b.outDir).exec w = (.ok workDir, u) ∧
      (b.packIn workDir ⟨b.product, a.version, s, archive, s.outputName b.product a.version⟩).exec u = (.ok p, x) ∧
      v = ((FileM.removeTree workDir).exec x).2 := by
  rw [exec_buildOne_eq] at run
  split at run
  · split at run
    · cases run
    · cases run
    · next archive workDir u canonical made =>
      obtain ⟨packed, left⟩ := Prod.mk.inj run
      exact ⟨archive, workDir, u, _, canonical, made, Prod.ext packed rfl, left.symm⟩
  · cases run

/-- What the worker of an archive leaves behind, also if it breaks down. -/
def settled (b : PackageBuilder) (a : Archive) : Except Crash (List PackageResult) → List PackageResult
  | .ok results => results
  | .error crash => b.aborted a.target crash

@[simp] theorem buildEach_nil (b : PackageBuilder) (w : Workspace) : (b.buildEach []).run w = ([], w) := rfl

theorem buildEach_cons (b : PackageBuilder) (a : Archive) (archives : List Archive) (w : Workspace) :
    (b.buildEach (a :: archives)).run w =
      let first := (b.buildAll a).exec w
      let rest := (b.buildEach archives).run first.2
      (b.settled a first.1 ++ rest.1, rest.2) := by
  have run : StateT.run (b.buildAll a).run w = (b.buildAll a).exec w := rfl
  simp only [buildEach, List.mapM_cons, StateT.run_bind, run]
  rcases (b.buildAll a).exec w with ⟨_ | _, v⟩ <;> rfl

end PackageBuilder

end ReleaseMatrix

namespace ReleaseMatrix.CommandLine

/-- The formats that packages are built in when these are asked for. -/
def requested (formats : List PackageFormat) : List PackageFormat :=
  if formats = [] then ReleaseConfig.defaultFormats else formats.eraseDups

theorem distinct_eq_eraseDups (formats : List PackageFormat) : distinct formats = formats.eraseDups := by
  -- The formats that were seen stay at the front, and the others follow without them.
  suffices general : ∀ seen : List PackageFormat,
      formats.foldl (fun seen f => if f ∈ seen then seen else seen ++ [f]) seen =
        seen ++ (formats.filter (· ∉ seen)).eraseDups by
    simpa [distinct] using general []
  induction formats with
  | nil => simp
  | cons f formats ih =>
    intro seen
    rw [List.foldl_cons]
    by_cases old : f ∈ seen
    · simp [old, ih]
    · rw [if_neg old, ih, List.filter_cons_of_pos (by simpa using old), List.eraseDups_cons,
        List.filter_filter, List.append_assoc, List.singleton_append]
      congr 4
      funext g
      rw [Bool.eq_iff_iff]
      simp [and_comm]

theorem nodup_distinct (formats : List PackageFormat) : (distinct formats).Nodup := by
  suffices general : ∀ seen : List PackageFormat, seen.Nodup →
      (formats.foldl (fun seen f => if f ∈ seen then seen else seen ++ [f]) seen).Nodup from
    general [] .nil
  induction formats with
  | nil => exact fun _ nodup => nodup
  | cons f formats ih =>
    intro seen nodup
    rw [List.foldl_cons]
    split
    · exact ih seen nodup
    · next fresh => exact ih _ (by simpa using nodup.concat fresh)

theorem nodup_requested (formats : List PackageFormat) : (requested formats).Nodup := by
  unfold requested
  split
  · decide
  · rw [← distinct_eq_eraseDups]
    exact nodup_distinct formats

/-- A configuration is the standard one but for what was asked for. -/
theorem configure_eq_ok {processors : Nat} {w : Workspace} {project : ProjectOptions} {package : PackageOptions}
    {catalog : Catalog} {config : ReleaseConfig}
    (configured : configure processors w project package catalog = .ok config) :
    ∃ projectDir version, w.canonical project.catalog.projectDir = .ok projectDir ∧
      Version.resolve w project.version? projectDir = .ok version ∧
      config = { ReleaseConfig.standard processors projectDir version with
        outDir := project.outDir?.getD (projectDir.join ReleaseConfig.defaultOutDir)
        product := project.product?.getD ReleaseConfig.defaultProduct
        formats := requested package.formats
        restrictedTarget := catalog.restricted?.getD Catalog.defaultRestricted } := by
  unfold configure at configured
  cases found : w.canonical project.catalog.projectDir with
  | error fault => simp [found, Except.mapError, bind, Except.bind] at configured
  | ok projectDir =>
    cases resolved : Version.resolve w project.version? projectDir with
    | error e => simp [found, resolved, Except.mapError, bind, Except.bind] at configured
    | ok version =>
      refine ⟨projectDir, version, rfl, resolved, ?_⟩
      simp only [found, resolved, Except.mapError, bind, Except.bind, pure, Except.pure, Except.ok.injEq]
        at configured
      rw [← configured]
      simp [ReleaseConfig.standard, requested, distinct_eq_eraseDups]

end ReleaseMatrix.CommandLine

namespace ReleaseMatrix

namespace PackageArch

/-- One of the tables names the target's processor. -/
def Mapped (t : Target) : Prop :=
  ∃ f, t.id ∈ (table f).map Prod.fst

/-- The two tables are about the same targets. -/
theorem targets_table (f : PackageFormat) : (table f).map Prod.fst = debian.map Prod.fst := by
  cases f <;> rfl

theorem mapped_iff {t : Target} : Mapped t ↔ t.id ∈ debian.map Prod.fst :=
  ⟨fun ⟨f, listed⟩ => targets_table f ▸ listed, fun listed => ⟨.deb, listed⟩⟩

instance (t : Target) : Decidable (Mapped t) :=
  decidable_of_iff _ mapped_iff.symm

theorem isSome_find? {t : Target} {f : PackageFormat} : (find? t f).isSome ↔ Mapped t := by
  rw [mapped_iff, ← targets_table f, find?, List.lookup_isSome_iff]
  simp only [List.mem_map, beq_iff_eq, @eq_comm _ t.id]

/-- The end of a name tells which target of the tables it is about. -/
theorem ending_inj : ∀ s ∈ debian.map Prod.fst, ∀ t ∈ debian.map Prod.fst,
    ('_' :: s.toList) <:+ ('_' :: t.toList) → s = t := by
  decide +kernel

theorem noSlash_of_mapped {t : Target} (mapped : Mapped t) : '/' ∉ t.id.toList := by
  have all : ∀ s ∈ debian.map Prod.fst, '/' ∉ s.toList := by decide
  exact all _ (mapped_iff.mp mapped)

end PackageArch

/-- The ending of a package's name tells its format. -/
theorem PackageFormat.ending_inj (f g : PackageFormat) :
    ('.' :: f.extension.toList) <:+ ('.' :: g.extension.toList) → f = g := by
  cases f <;> cases g <;> decide

namespace PackageSpec

open PackageArch (Mapped)

variable {t : Target} {f : PackageFormat} {s : PackageSpec}

theorem find?_of_not_mapped (unmapped : ¬ Mapped t) : find? t f = none := by
  have absent : ¬ (PackageArch.find? t f).isSome := fun found => unmapped (PackageArch.isSome_find?.mp found)
  rw [find?, Option.not_isSome_iff_eq_none.mp absent, Option.map_none]

theorem exists_find? (mapped : Mapped t) : ∃ arch, find? t f = some ⟨t, f, arch⟩ := by
  obtain ⟨arch, found⟩ := Option.isSome_iff_exists.mp (PackageArch.isSome_find?.mpr mapped)
  exact ⟨arch, by rw [find?, found, Option.map_some]⟩

theorem mapped_of_mem_list {formats : List PackageFormat} (member : s ∈ list t formats) :
    Mapped t ∧ s.target = t := by
  obtain ⟨f, -, found⟩ := List.mem_filterMap.mp member
  by_cases mapped : Mapped t
  · obtain ⟨arch, eq⟩ := exists_find? (f := f) mapped
    obtain rfl := Option.some.inj (eq.symm.trans found)
    exact ⟨mapped, rfl⟩
  · rw [find?_of_not_mapped mapped] at found
    cases found

/-- The packages of a target are one for each format, or none. -/
theorem pairs_list (t : Target) (formats : List PackageFormat) :
    (list t formats).map (fun s => (s.target, s.format)) =
      if Mapped t then formats.map (t, ·) else [] := by
  induction formats with
  | nil => simp [list]
  | cons f formats ih =>
    split at ih
    · next mapped =>
      obtain ⟨arch, found⟩ := exists_find? (f := f) mapped
      simp only [list, List.filterMap_cons, found, List.map_cons, if_pos mapped]
      rw [← ih, list]
    · next unmapped =>
      rw [list, List.filterMap_cons_none (find?_of_not_mapped unmapped), if_neg unmapped]
      exact ih

/-- What the name of a package ends in, whatever product and version it starts with. -/
def ending (s : PackageSpec) : List Char :=
  ('_' :: s.target.id.toList) ++ '.' :: s.format.extension.toList

theorem ending_inj {x : List Char} {p q : PackageSpec} (mappedP : Mapped p.target) (mappedQ : Mapped q.target)
    (endsP : p.ending <:+ x) (endsQ : q.ending <:+ x) : p.target = q.target ∧ p.format = q.format := by
  have formats : p.format = q.format := by
    have tailP := (List.suffix_append _ _).trans endsP
    have tailQ := (List.suffix_append _ _).trans endsQ
    rcases List.suffix_or_suffix_of_suffix tailP tailQ with shorter | shorter
    · exact PackageFormat.ending_inj _ _ shorter
    · exact (PackageFormat.ending_inj _ _ shorter).symm
  obtain ⟨before, rfl⟩ := endsP
  obtain ⟨other, eq⟩ := endsQ
  have same : before ++ '_' :: p.target.id.toList = other ++ '_' :: q.target.id.toList := by
    rw [ending, ending, formats, ← List.append_assoc, ← List.append_assoc] at eq
    exact (List.append_cancel_right eq).symm
  have ids : p.target.id = q.target.id := by
    have listedP := PackageArch.mapped_iff.mp mappedP
    have listedQ := PackageArch.mapped_iff.mp mappedQ
    rcases List.suffix_or_suffix_of_suffix ⟨before, rfl⟩ ⟨other, same.symm⟩ with shorter | shorter
    · exact PackageArch.ending_inj _ listedP _ listedQ shorter
    · exact (PackageArch.ending_inj _ listedQ _ listedP shorter).symm
  exact ⟨congrArg Target.mk ids, formats⟩

/-- The last piece of a package's name has the package's ending and can be the name of an entry. -/
theorem exists_split_releaseName (product version : String) (mapped : Mapped s.target) :
    ∃ pieces front, Text.splitChars '/' (s.releaseName product version).toList = pieces ++ [front ++ s.ending] ∧
      IsName (String.ofList (front ++ s.ending)) := by
  have letters : (s.releaseName product version).toList = (product ++ "_" ++ version).toList ++ s.ending := by
    simp [releaseName, ending]
  have noSlash : '/' ∉ s.ending := by
    have := PackageArch.noSlash_of_mapped mapped
    cases format : s.format <;> simp [ending, format, PackageFormat.extension, this]
  obtain ⟨pieces, front, split⟩ : ∃ pieces front,
      Text.splitChars '/' (product ++ "_" ++ version).toList = pieces ++ [front] :=
    ⟨_, _, (List.dropLast_concat_getLast (Text.splitChars_ne_nil '/' _)).symm⟩
  have plain : '/' ∉ front := Text.not_mem_of_mem_splitChars (split ▸ List.mem_append_right _ List.mem_cons_self)
  refine ⟨pieces, front, by rw [letters, Text.splitChars_append split noSlash], ?_⟩
  have mark : '_' ∈ (String.ofList (front ++ s.ending)).toList := by simp [ending]
  refine ⟨?_, ?_, ?_, by simp [plain, noSlash]⟩ <;>
    · intro eq
      simp [eq] at mark

end PackageSpec

namespace PackageResult

/-- What the result is about. -/
def pair (r : PackageResult) : Target × PackageFormat :=
  (r.target, r.format)

end PackageResult

namespace PackageBuilder

variable {b : PackageBuilder} {a : Archive} {s : PackageSpec} {archives : List Archive}

/-- The packages that archives call for, each with its archive. -/
def planned (b : PackageBuilder) (archives : List Archive) : List (Archive × PackageSpec) :=
  archives.flatMap fun a => (PackageSpec.list a.target b.formats).map (a, ·)

/-- Where a package goes. -/
def destination (b : PackageBuilder) (plan : Archive × PackageSpec) : Path :=
  b.outDir.join (plan.2.releaseName b.product plan.1.version)

/-- The result is that of the planned package. -/
structure Answers (b : PackageBuilder) (plan : Archive × PackageSpec) (r : PackageResult) : Prop where
  pair : r.pair = (plan.2.target, plan.2.format)
  placed : ∀ p, r.outcome = .ok p → p = b.destination plan

/-- What the worker of an archive can come to: the results of its packages, built in any workspace, or those of
a worker that broke down anywhere. -/
inductive Ends (b : PackageBuilder) (a : Archive) : List PackageResult → Prop
  | worked {w v : Workspace} {results : List PackageResult} (run : (b.buildAll a).exec w = (.ok results, v)) :
      Ends b a results
  | broken (crash : Crash) : Ends b a (b.aborted a.target crash)

/-- The results of workers, whichever of them broke down. -/
def Ended (b : PackageBuilder) (archives : List Archive) (results : List PackageResult) : Prop :=
  ∃ ends, List.Forall₂ b.Ends archives ends ∧ results = ends.flatten

/-- Whichever way the worker of an archive ends, each of the archive's packages has a result. -/
theorem Ends.answers {results : List PackageResult} (ends : b.Ends a results) :
    List.Forall₂ b.Answers (b.planned [a]) results := by
  rw [planned, List.flatMap_singleton, List.forall₂_map_left_iff]
  cases ends with
  | worked run =>
    refine (TaskM.forall₂_of_exec_mapM run).imp fun s r ⟨w, v, run⟩ => ?_
    obtain ⟨outcome, u, one, run⟩ := TaskM.exec_bind_ok run
    obtain rfl : ⟨s.target, s.format, outcome⟩ = r := by simpa using congrArg Prod.fst run
    refine ⟨rfl, fun p built => ?_⟩
    simp only at built
    subst built
    obtain ⟨_, _, _, x, -, -, packed, -⟩ := exec_buildOne_ok (WorkM.exec_of_outcome_ok one)
    obtain ⟨_, _, -, -, -, placed⟩ := exec_packIn_ok packed
    exact placed
  | broken crash =>
    rw [aborted, List.forall₂_map_right_iff, List.forall₂_same]
    exact fun s _ => ⟨rfl, fun p built => by simp at built⟩

theorem Ended.answers {results : List PackageResult} (ended : b.Ended archives results) :
    List.Forall₂ b.Answers (b.planned archives) results := by
  obtain ⟨ends, each, rfl⟩ := ended
  induction each with
  | nil => exact .nil
  | cons first _ ih =>
    rw [planned, List.flatMap_cons, List.flatten_cons]
    exact List.rel_append (by simpa [planned] using first.answers) ih

theorem ended_buildEach (b : PackageBuilder) (archives : List Archive) (w : Workspace) :
    b.Ended archives ((b.buildEach archives).run w).1 := by
  induction archives generalizing w with
  | nil => exact ⟨[], .nil, rfl⟩
  | cons a archives ih =>
    obtain ⟨ends, each, eq⟩ := ih ((b.buildAll a).exec w).2
    have first : b.Ends a (b.settled a ((b.buildAll a).exec w).1) := by
      rcases run : (b.buildAll a).exec w with ⟨crash | results, v⟩
      · exact .broken crash
      · exact .worked run
    exact ⟨_, .cons first each, by simp [buildEach_cons, eq]⟩

open PackageArch (Mapped) in
/-- No two packages of different targets, or of different formats, have the same destination. -/
theorem not_same_destination {p q : Archive × PackageSpec} (mappedP : Mapped p.2.target)
    (mappedQ : Mapped q.2.target) (same : (b.destination p).Same (b.destination q)) :
    p.2.target = q.2.target ∧ p.2.format = q.2.format := by
  have last {plan : Archive × PackageSpec} (mapped : Mapped plan.2.target) :
      ∃ front, (b.destination plan).components.getLast? =
        some (.name (String.ofList (front ++ plan.2.ending))) := by
    obtain ⟨pieces, front, split, valid⟩ :=
      PackageSpec.exists_split_releaseName b.product plan.1.version mapped
    obtain ⟨before, joined⟩ := b.outDir.exists_split_join split
    exact ⟨front, Path.getLast?_components valid (by rw [destination, joined, String.toList_ofList])⟩
  obtain ⟨frontP, lastP⟩ := last mappedP
  obtain ⟨frontQ, lastQ⟩ := last mappedQ
  have names : frontP ++ p.2.ending = frontQ ++ q.2.ending := by
    have eq := lastP.symm.trans ((congrArg List.getLast? same).trans lastQ)
    simpa only [Option.some.injEq, Path.Component.name.injEq, String.ofList_inj] using eq
  exact PackageSpec.ending_inj mappedP mappedQ ⟨frontP, rfl⟩ ⟨frontQ, names.symm⟩

open PackageArch (Mapped) in
/-- What archives call for: each format for a target of the tables, and nothing for another one. -/
def expected (formats : List PackageFormat) (archives : List Archive) : List (Target × PackageFormat) :=
  archives.flatMap fun a => if Mapped a.target then formats.map (a.target, ·) else []

theorem pairs_planned (b : PackageBuilder) (archives : List Archive) :
    (b.planned archives).map (fun plan => (plan.2.target, plan.2.format)) = expected b.formats archives := by
  simp only [planned, expected, List.map_flatMap, List.map_map, Function.comp_def, PackageSpec.pairs_list]

theorem Ended.pairs {results : List PackageResult} (ended : b.Ended archives results) :
    results.map PackageResult.pair = expected b.formats archives := by
  rw [← pairs_planned, eq_comm, ← List.forall₂_eq_eq_eq, List.forall₂_map_left_iff, List.forall₂_map_right_iff]
  exact ended.answers.imp fun _ _ answers => answers.pair.symm

theorem mapped_of_mem_planned {plan : Archive × PackageSpec} (member : plan ∈ b.planned archives) :
    PackageArch.Mapped plan.2.target := by
  obtain ⟨a, -, member⟩ := List.mem_flatMap.mp member
  obtain ⟨s, listed, rfl⟩ := List.mem_map.mp member
  obtain ⟨mapped, same⟩ := PackageSpec.mapped_of_mem_list listed
  rwa [← same] at mapped

theorem nodup_expected {formats : List PackageFormat} (distinct : formats.Nodup)
    (targets : (archives.map Archive.target).Nodup) : (expected formats archives).Nodup := by
  refine List.nodup_flatMap.mpr ⟨fun a _ => ?_, ?_⟩
  · split
    · exact distinct.map fun f g same => (Prod.mk.inj same).2
    · exact .nil
  · refine (List.pairwise_map.mp targets).imp fun {a c} other => ?_
    have about {a : Archive} {pair : Target × PackageFormat}
        (member : pair ∈ if PackageArch.Mapped a.target then formats.map (a.target, ·) else []) :
        pair.1 = a.target := by
      split at member
      · obtain ⟨f, -, rfl⟩ := List.mem_map.mp member
        rfl
      · cases member
    exact fun pair inA inC => other ((about inA).symm.trans (about inC))

/-- Packages of different targets go to different places. -/
theorem destinations_differ (distinct : b.formats.Nodup) (targets : (archives.map Archive.target).Nodup) :
    (b.planned archives).Pairwise fun p q => ¬ (b.destination p).Same (b.destination q) := by
  have pairs : (b.planned archives).Pairwise fun p q => (p.2.target, p.2.format) ≠ (q.2.target, q.2.format) := by
    rw [← List.pairwise_map (f := fun plan : Archive × PackageSpec => (plan.2.target, plan.2.format)), pairs_planned]
    exact nodup_expected distinct targets
  refine pairs.imp_of_mem fun inP inQ other same => other ?_
  obtain ⟨target, format⟩ := not_same_destination (mapped_of_mem_planned inP) (mapped_of_mem_planned inQ) same
  rw [target, format]

end PackageBuilder

/-- Whichever workers break down, each archive of a target in the tables has one result for each format that is
asked for, in the order in which they are first named, and no other archive has any. A package goes to a
destination of its own. -/
theorem Packaging.complete_sets {processors : Nat} {w : Workspace} {project : CommandLine.ProjectOptions}
    {package : CommandLine.PackageOptions} {catalog : Catalog} {config : ReleaseConfig}
    (configured : CommandLine.configure processors w project package catalog = .ok config) (packager : Packager)
    (archives : List Archive) :
    let builder := Packaging.packageBuilder ⟨config, packager⟩
    let expected := PackageBuilder.expected (CommandLine.requested package.formats) archives
    (∀ v, builder.Ended archives ((builder.buildEach archives).run v).1) ∧
    (∀ results, builder.Ended archives results →
      results.map PackageResult.pair = expected ∧
      List.Forall₂ builder.Answers (builder.planned archives) results) ∧
    ((archives.map Archive.target).Nodup → expected.Nodup ∧
      (builder.planned archives).Pairwise fun p q => ¬ (builder.destination p).Same (builder.destination q)) := by
  obtain ⟨projectDir, version, -, -, rfl⟩ := CommandLine.configure_eq_ok configured
  have distinct := CommandLine.nodup_requested package.formats
  refine ⟨PackageBuilder.ended_buildEach _ archives, fun results ended => ⟨ended.pairs, ended.answers⟩,
    fun targets => ⟨PackageBuilder.nodup_expected distinct targets, ?_⟩⟩
  exact PackageBuilder.destinations_differ distinct targets

theorem Packaging.complete_sets_beside_crash :
    let w : Workspace := ⟨⟨[(["pkg"], .directory), (["pkg", "a.zip"], .file [] false)], []⟩, [], []⟩
    let archives : List Archive :=
      [⟨⟨"x86_64-linux"⟩, "1.0.0", ⟨"/pkg/a.zip"⟩⟩, ⟨⟨"x86_64-windows"⟩, "1.0.0", ⟨"/pkg/a.zip"⟩⟩,
        ⟨⟨"riscv64-linux"⟩, "1.0.0", ⟨"/pkg/none.zip"⟩⟩]
    let crashing : Packager := ⟨fun _ _ => throw (.crashed ⟨"out of memory"⟩)⟩
    ∃ config, CommandLine.configure 1 w ⟨⟨⟨"/"⟩, none⟩, none, some "1.0.0", none⟩ ⟨[.rpm, .deb, .rpm], ⟨"fpm"⟩⟩
        ⟨[], none⟩ = .ok config ∧
      let builder := Packaging.packageBuilder ⟨config, crashing⟩
      ((builder.buildEach archives).run w).1.map PackageResult.pair =
        [(⟨"x86_64-linux"⟩, .rpm), (⟨"x86_64-linux"⟩, .deb), (⟨"riscv64-linux"⟩, .rpm),
          (⟨"riscv64-linux"⟩, .deb)] ∧
      (builder.planned archives).Pairwise fun p q => ¬ (builder.destination p).Same (builder.destination q) := by
  intro w archives crashing
  let config : ReleaseConfig := { ReleaseConfig.standard 1 ⟨"/"⟩ "1.0.0" with formats := [.rpm, .deb] }
  have configured : CommandLine.configure 1 w ⟨⟨⟨"/"⟩, none⟩, none, some "1.0.0", none⟩ ⟨[.rpm, .deb, .rpm], ⟨"fpm"⟩⟩
      ⟨[], none⟩ = .ok config := rfl
  obtain ⟨ended, pairs, places⟩ := Packaging.complete_sets configured crashing archives
  exact ⟨config, configured, (pairs _ (ended w)).1.trans (by decide), (places (by decide)).2⟩

end ReleaseMatrix
