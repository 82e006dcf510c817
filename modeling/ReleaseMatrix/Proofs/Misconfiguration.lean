import ReleaseMatrix.CommandLine.Run
import ReleaseMatrix.Proofs.CatalogFormats
import ReleaseMatrix.Proofs.ReleaseNames
import ReleaseMatrix.Proofs.ReportLines

namespace ReleaseMatrix

section Failing

variable {ε δ α β : Type}

/-- Two steps fail where the first one does, or the second one after it. -/
theorem exists_error_bind_iff {x : Except ε α} {f : α → Except ε β} :
    (∃ error, (x >>= f) = .error error) ↔
      (∃ error, x = .error error) ∨ ∃ a, x = .ok a ∧ ∃ error, f a = .error error := by
  cases x <;> simp [bind, Except.bind]

theorem exists_error_mapError_iff {x : Except ε α} {describe : ε → δ} :
    (∃ error, x.mapError describe = .error error) ↔ ∃ error, x = .error error := by
  cases x <;> simp [Except.mapError]

theorem mapError_eq_ok_iff {x : Except ε α} {describe : ε → δ} {a : α} :
    x.mapError describe = .ok a ↔ x = .ok a := by
  cases x <;> simp [Except.mapError]

theorem not_exists_error_pure {a : α} : ¬ ∃ error : ε, (pure a : Except ε α) = .error error := by
  rintro ⟨_, ⟨⟩⟩

end Failing

namespace Catalog

/-- The target that an id names. -/
def targetOf (id : String) : Target :=
  ⟨Text.trim id⟩

/-- Ids that make no catalog: one of them is blank, is no triple, or names a target again. -/
inductive FaultyIds (ids : List String) : Prop
  | empty {id : String} (listed : id ∈ ids) (blank : (targetOf id).id = "")
  | invalid {id : String} (listed : id ∈ ids) (other : (targetOf id).isTriple = false)
  | duplicate (again : ¬ (ids.map targetOf).Nodup)

theorem not_isTriple_of_blank {t : Target} (blank : t.id = "") : t.isTriple = false := by
  rw [Target.isTriple, blank]
  rfl

theorem addId_of_fresh {targets : List Target} {id : String} (triple : (targetOf id).isTriple)
    (fresh : targetOf id ∉ targets) : addId targets id = .ok (targets ++ [targetOf id]) := by
  have solid : (targetOf id).id ≠ "" := fun blank => by
    rw [not_isTriple_of_blank blank] at triple
    cases triple
  change (if (targetOf id).id = "" then _ else if !(targetOf id).isTriple then _ else
    if targetOf id ∈ targets then _ else _) = _
  rw [if_neg solid, triple, if_neg (by decide), if_neg fresh]
  rfl

/-- Ids are added to targets just if they name triples that are all new. -/
theorem foldlM_addId_isOk_iff {ids : List String} {targets : List Target} :
    (∃ all, ids.foldlM addId targets = .ok all) ↔
      (∀ id ∈ ids, (targetOf id).isTriple ∧ targetOf id ∉ targets) ∧ (ids.map targetOf).Nodup := by
  -- The induction is for any targets so far: an id must be new to those of the ids before it.
  induction ids generalizing targets with
  | nil => simp [pure, Except.pure]
  | cons id ids ih =>
    have others : (∀ other ∈ ids, (targetOf other).isTriple ∧ targetOf other ∉ targets ++ [targetOf id]) ↔
        (∀ other ∈ ids, (targetOf other).isTriple ∧ targetOf other ∉ targets) ∧ targetOf id ∉ ids.map targetOf := by
      simp only [List.mem_append, List.mem_singleton, List.mem_map]
      grind
    rw [List.foldlM_cons, List.forall_mem_cons, List.map_cons, List.nodup_cons]
    constructor
    · rintro ⟨all, added⟩
      cases first : addId targets id with
      | error error => simp [first, bind, Except.bind] at added
      | ok next =>
        obtain ⟨triple, fresh, rfl⟩ := addId_eq_ok first
        rw [first] at added
        obtain ⟨rest, nodup⟩ := ih.mp ⟨all, added⟩
        exact ⟨⟨⟨triple, fresh⟩, (others.mp rest).1⟩, (others.mp rest).2, nodup⟩
    · rintro ⟨⟨⟨triple, fresh⟩, rest⟩, new, nodup⟩
      rw [addId_of_fresh triple fresh]
      exact ih.mpr ⟨others.mpr ⟨rest, new⟩, nodup⟩

/-- A list of ids is refused just if one of them is faulty, wherever it stands. -/
theorem targetsOfIds_error_iff {ids : List String} : (∃ error, targetsOfIds ids = .error error) ↔ FaultyIds ids := by
  have accepted : (∃ all, targetsOfIds ids = .ok all) ↔
      (∀ id ∈ ids, (targetOf id).isTriple) ∧ (ids.map targetOf).Nodup := by
    rw [targetsOfIds, foldlM_addId_isOk_iff]
    simp
  have refused : (∃ error, targetsOfIds ids = .error error) ↔ ¬ ∃ all, targetsOfIds ids = .ok all := by
    cases targetsOfIds ids <;> simp
  rw [refused, accepted]
  constructor
  · intro unaccepted
    by_cases triples : ∀ id ∈ ids, (targetOf id).isTriple
    · exact .duplicate fun nodup => unaccepted ⟨triples, nodup⟩
    · push Not at triples
      obtain ⟨id, listed, other⟩ := triples
      exact .invalid listed (Bool.eq_false_iff.mpr other)
  · rintro (⟨listed, blank⟩ | ⟨listed, other⟩ | again) ⟨triples, nodup⟩
    · exact Bool.false_ne_true ((not_isTriple_of_blank blank).symm.trans (triples _ listed))
    · exact Bool.false_ne_true (other.symm.trans (triples _ listed))
    · exact again nodup

/-- A text that keeps these ids. -/
def compactText (ids : List String) : String :=
  (Json.ofMembers (entries (fun ids => .array (ids.map .text)) .text ids none)).compact

theorem keeps_compactText (ids : List String) : Keeps ids none .json (compactText ids) :=
  ⟨_, .inl rfl, [], _, [], Json.gap_nil, (textual_entries ids none).spelling .compact, Json.gap_nil, by
    simp [compactText, Json.compact]⟩

/-- A path from which no catalog can be loaded. -/
inductive Unloadable (w : Workspace) (p : Path) : Prop
  | missing (nothing : w.entry? p = none)
  | unreadable {fault : FileFault} (refused : w.readText p = .error fault)
  | malformed {text : String} (read : w.readText p = .ok text) (misspelt : Stored.parse? (.ofPath p) text = none)
  | untargeted {text : String} {stored : Stored} (read : w.readText p = .ok text)
    (kept : Stored.parse? (.ofPath p) text = some stored) (unlisted : stored.targets? = none)
  | faulty {text : String} {stored : Stored} {ids : List String} (read : w.readText p = .ok text)
    (kept : Stored.parse? (.ofPath p) text = some stored) (listed : stored.targets? = some ids) (ids : FaultyIds ids)

theorem ofText_error_iff {p : Path} {text : String} : (∃ error, ofText p text = .error error) ↔
    Stored.parse? (.ofPath p) text = none ∨ ∃ stored, Stored.parse? (.ofPath p) text = some stored ∧
      (stored.targets? = none ∨ ∃ ids, stored.targets? = some ids ∧ FaultyIds ids) := by
  rw [ofText]
  cases Stored.parse? (.ofPath p) text with
  | none => simp
  | some stored =>
    cases listed : stored.targets? with
    | none => simp [ofStored, listed]
    | some ids =>
      simp only [ofStored, listed, exists_error_bind_iff, targetsOfIds_error_iff, not_exists_error_pure]
      simp [listed]

theorem load_error_iff {w : Workspace} {p : Path} : (∃ error, load w p = .error error) ↔ Unloadable w p := by
  cases found : w.entry? p with
  | none =>
    have refused : load w p = .error (.catalogMissing p) := by simp [load, Workspace.exists?, found]; rfl
    exact iff_of_true ⟨_, refused⟩ (.missing found)
  | some entry =>
    have loaded : load w p = (w.readText p).mapError (.unreadable p ·.message) >>= ofText p := by
      simp [load, Workspace.exists?, found]
    rw [loaded, exists_error_bind_iff, exists_error_mapError_iff]
    simp only [mapError_eq_ok_iff, ofText_error_iff]
    constructor
    · rintro (⟨fault, refused⟩ | ⟨text, read, misspelt | ⟨stored, kept, unlisted | ⟨ids, listed, faulty⟩⟩⟩)
      · exact .unreadable refused
      · exact .malformed read misspelt
      · exact .untargeted read kept unlisted
      · exact .faulty read kept listed faulty
    · rintro (nothing | refused | ⟨read, misspelt⟩ | ⟨read, kept, unlisted⟩ | ⟨read, kept, listed, faulty⟩)
      · cases found.symm.trans nothing
      · exact .inl ⟨_, refused⟩
      · exact .inr ⟨_, read, .inl misspelt⟩
      · exact .inr ⟨_, read, .inr ⟨_, kept, .inl unlisted⟩⟩
      · exact .inr ⟨_, read, .inr ⟨_, kept, .inr ⟨_, listed, faulty⟩⟩⟩

end Catalog

namespace Version

/-- A version that was asked for, or a project's manifest, from which no version of a release can be told. -/
inductive Unresolved (w : Workspace) (explicit? : Option String) (projectDir : Path) : Prop
  | invalid {version : String} {fault : Fault} (given : explicit? = some version)
    (refused : parse version = .error fault)
  | missing (ungiven : explicit? = none) (nothing : w.entry? (projectDir.join manifestName) = none)
  | unreadable {fault : FileFault} (ungiven : explicit? = none)
    (refused : w.readText (projectDir.join manifestName) = .error fault)
  | undeclared {text : String} (ungiven : explicit? = none) (read : w.readText (projectDir.join manifestName) = .ok text)
    (silent : Manifest.version? text = none)
  | misdeclared {text version : String} {fault : Fault} (ungiven : explicit? = none)
    (read : w.readText (projectDir.join manifestName) = .ok text) (declared : Manifest.version? text = some version)
    (refused : parse version = .error fault)

theorem accept_error_iff {version : String} :
    (∃ error, accept version = .error error) ↔ ∃ fault, parse version = .error fault := by
  rw [accept, exists_error_bind_iff, check, exists_error_mapError_iff]
  simp [not_exists_error_pure]

/-- Without a version that was asked for, what stands at the place of the manifest decides. -/
theorem resolve_of_manifest {w : Workspace} {projectDir : Path} {entry : Entry}
    (found : w.entry? (projectDir.join manifestName) = some entry) :
    resolve w none projectDir =
      (w.readText (projectDir.join manifestName)).mapError (.unreadable (projectDir.join manifestName) ·.message) >>=
        fun text => match Manifest.version? text with
          | some version => accept version
          | none => .error (.versionMissing (projectDir.join manifestName)) := by
  simp [resolve, Workspace.exists?, found]
  rfl

theorem resolve_error_iff {w : Workspace} {explicit? : Option String} {projectDir : Path} :
    (∃ error, resolve w explicit? projectDir = .error error) ↔ Unresolved w explicit? projectDir := by
  cases explicit? with
  | some version =>
    rw [resolve, accept_error_iff]
    constructor
    · rintro ⟨fault, refused⟩
      exact .invalid rfl refused
    · intro unresolved
      cases unresolved with
      | invalid given refused => exact ⟨_, Option.some.inj given ▸ refused⟩
      | missing ungiven | unreadable ungiven | undeclared ungiven | misdeclared ungiven => cases ungiven
  | none =>
    cases found : w.entry? (projectDir.join manifestName) with
    | none =>
      have refused : resolve w none projectDir = .error (.versionMissing (projectDir.join manifestName)) := by
        simp [resolve, Workspace.exists?, found]; rfl
      exact iff_of_true ⟨_, refused⟩ (.missing rfl found)
    | some entry =>
      rw [resolve_of_manifest found, exists_error_bind_iff, exists_error_mapError_iff]
      simp only [mapError_eq_ok_iff]
      constructor
      · rintro (⟨fault, refused⟩ | ⟨text, read, refused⟩)
        · exact .unreadable rfl refused
        · cases declared : Manifest.version? text with
          | none => exact .undeclared rfl read declared
          | some version =>
            rw [declared] at refused
            obtain ⟨fault, refused⟩ := accept_error_iff.mp refused
            exact .misdeclared rfl read declared refused
      · rintro (⟨⟨⟩, -⟩ | ⟨-, nothing⟩ | ⟨-, refused⟩ | ⟨-, read, silent⟩ | ⟨-, read, declared, refused⟩)
        · cases found.symm.trans nothing
        · exact .inl ⟨_, refused⟩
        · exact .inr ⟨_, read, by simp [silent]⟩
        · exact .inr ⟨_, read, by rw [declared]; exact accept_error_iff.mpr ⟨_, refused⟩⟩

end Version

namespace CommandLine

/-- The catalog and the configuration that a release or a packaging run starts with. -/
def setup (processors : Nat) (w : Workspace) (project : ProjectOptions) (package : PackageOptions) :
    Except Failure (Catalog × ReleaseConfig) := do
  let catalog ← loadCatalog w project.catalog
  pure (catalog, ← configure processors w project package catalog)

/-- A project whose catalog, directory or version keeps it from being released. -/
inductive Misconfigured (w : Workspace) (o : ProjectOptions) : Prop
  | catalog (unloadable : Catalog.Unloadable w o.catalog.catalogPath)
  | directory (nothing : w.entry? o.catalog.projectDir = none)
  | version {projectDir : Path} (there : w.canonical o.catalog.projectDir = .ok projectDir)
    (unresolved : Version.Unresolved w o.version? projectDir)

theorem canonical_error_iff {w : Workspace} {p : Path} : (∃ fault, w.canonical p = .error fault) ↔ w.entry? p = none := by
  rw [Workspace.canonical, exists_error_bind_iff, Workspace.entry?]
  cases w.find p <;> simp [not_exists_error_pure]

theorem setup_error_iff {processors : Nat} {w : Workspace} {project : ProjectOptions} {package : PackageOptions} :
    (∃ f, setup processors w project package = .error f) ↔ Misconfigured w project := by
  simp only [setup, loadCatalog, configure, exists_error_bind_iff, exists_error_mapError_iff, mapError_eq_ok_iff,
    not_exists_error_pure, Catalog.load_error_iff, Version.resolve_error_iff, canonical_error_iff, and_false,
    exists_false, or_false]
  constructor
  · rintro (unloadable | ⟨catalog, loaded, nothing | ⟨projectDir, there, unresolved⟩⟩)
    · exact .catalog unloadable
    · exact .directory nothing
    · exact .version there unresolved
  · intro wrong
    cases loaded : Catalog.load w project.catalog.catalogPath with
    | error error => exact .inl (Catalog.load_error_iff.mp ⟨error, loaded⟩)
    | ok catalog =>
      refine .inr ⟨catalog, rfl, ?_⟩
      obtain unloadable | nothing | ⟨there, unresolved⟩ := wrong
      · obtain ⟨error, refused⟩ := Catalog.load_error_iff.mpr unloadable
        cases loaded.symm.trans refused
      · exact .inl nothing
      · exact .inr ⟨_, there, unresolved⟩

namespace CommandM

variable {α β : Type} {o : Output} {w : Workspace}

/-- What a command gives and what is printed by then, and the workspace it leaves. -/
def exec (x : CommandM α) (o : Output) (w : Workspace) : (Except Failure α × Output) × Workspace :=
  (x.run.run o).run w

@[simp] theorem exec_workspace : workspace.exec o w = ((.ok w, o), w) := rfl

@[simp] theorem exec_ofExcept (x : Except Failure α) :
    (MonadExcept.ofExcept x : CommandM α).exec o w = ((x, o), w) := by
  cases x <;> rfl

theorem exec_bind (x : CommandM α) (f : α → CommandM β) :
    (x >>= f).exec o w = match x.exec o w with
      | ((.ok a, p), v) => (f a).exec p v
      | ((.error e, p), v) => ((.error e, p), v) := by
  change (match x.exec o w with
    | ((a, p), v) => ((ExceptT.bindCont f a : StateT Output (StateM Workspace) _) p) v) = _
  rcases x.exec o w with ⟨⟨_ | _, p⟩, v⟩ <;> rfl

/-- A command whose setup is refused does nothing else. -/
theorem exec_of_setup_error {processors : Nat} {project : ProjectOptions} {package : PackageOptions} {f : Failure}
    (refused : setup processors w project package = .error f) (rest : Catalog → ReleaseConfig → CommandM Unit) :
    (do
      let w ← workspace
      let catalog ← MonadExcept.ofExcept (loadCatalog w project.catalog)
      let config ← MonadExcept.ofExcept (configure processors w project package catalog)
      rest catalog config : CommandM Unit).exec o w = ((.error f, o), w) := by
  rw [exec_bind, exec_workspace]
  dsimp only
  rw [exec_bind, exec_ofExcept]
  rw [setup] at refused
  cases loaded : loadCatalog w project.catalog with
  | error e =>
    rw [loaded] at refused
    obtain rfl : e = f := Except.error.inj refused
    rfl
  | ok catalog =>
    dsimp only
    rw [exec_bind, exec_ofExcept]
    cases configured : configure processors w project package catalog with
    | error e =>
      rw [loaded] at refused
      simp only [configured, bind, Except.bind] at refused
      obtain rfl : e = f := Except.error.inj refused
      rfl
    | ok config => simp [loaded, configured, bind, Except.bind, pure, Except.pure] at refused

end CommandM

/-- What a command is told about the project that it releases or packages. -/
def Command.releaseOptions? : Command → Option ProjectOptions
  | .release project _ _ | .native project _ => some project
  | _ => none

theorem exec_runCommand_of_misconfigured (m : Machine) (style : OutputStyle) {c : Command} {project : ProjectOptions}
    (o : Output) {w : Workspace} (about : c.releaseOptions? = some project) (wrong : Misconfigured w project) :
    ∃ f, (runCommand m style c).exec o w = ((.error f, o), w) := by
  cases c with
  | release _ build package =>
    obtain rfl := Option.some.inj about
    obtain ⟨f, refused⟩ := setup_error_iff.mpr wrong
    exact ⟨f, CommandM.exec_of_setup_error refused _⟩
  | native _ package =>
    obtain rfl := Option.some.inj about
    obtain ⟨f, refused⟩ := setup_error_iff.mpr wrong
    exact ⟨f, CommandM.exec_of_setup_error refused _⟩
  | _ => cases about

/-- What is shown of a failure is shown on the standard error stream. -/
theorem Output.failure_spec (style : OutputStyle) (f : Failure) :
    (failure style f).exitCode = 1 ∧ (failure style f).standard = "" ∧ (failure style f).errors ≠ "" := by
  have nonempty (text rest : String) : text ++ "\n" ++ rest ≠ "" := fun nothing => by
    simpa using congrArg String.length nothing
  refine ⟨rfl, ?_⟩
  rw [failure]
  split
  · exact ⟨rfl, by simp [errorLine]⟩
  · have causes : (f.causes.map Cause.message).map (fun cause => errorLine ("  caused by: " ++ cause)) =
        ((f.causes.map Cause.message).map ("  caused by: " ++ ·)).map errorLine := by
      simp [Function.comp_def]
    dsimp only
    rw [causes, foldl_errorLine _ rfl]
    exact ⟨rfl, nonempty _ _⟩

theorem Invocation.run_of_command {m : Machine} {i : Invocation} {c : Command} {w : Workspace} (asked : i.command? = some c) :
    (i.run m).run w = match (runCommand m i.style c).exec Output.empty w with
      | ((.ok (), o), v) => (o, v)
      | ((.error f, o), v) => (o.followedBy (.failure i.style f), v) := by
  rw [Invocation.run, asked]
  rcases ran : (runCommand m i.style c).exec Output.empty w with ⟨⟨_ | _, o⟩, v⟩
  all_goals
    rw [CommandM.exec] at ran
    dsimp only
    rw [StateT.run_bind, ran]
    rfl

/-- A release or a packaging run of a misconfigured project fails and does nothing to the workspace: the files stay as they
are, and so does the journal, where every call of a tool is noted before the tool runs. -/
theorem rejected_without_effect {m : Machine} {words : List String} {i : Invocation} {c : Command}
    {project : ProjectOptions} {w : Workspace} (understood : Invocation.ofWords m.valueOf? words = .ok i)
    (asked : i.command? = some c) (about : c.releaseOptions? = some project) (wrong : Misconfigured w project) :
    ∃ output, (run m words).run w = (output, w) ∧ output.exitCode = 1 ∧ output.standard = "" ∧ output.errors ≠ "" := by
  obtain ⟨f, rejected⟩ := exec_runCommand_of_misconfigured m i.style Output.empty about wrong
  refine ⟨.failure i.style f, ?_, Output.failure_spec i.style f⟩
  rw [run, understood]
  dsimp only
  rw [Invocation.run_of_command asked, rejected]
  simp [Output.followedBy, Output.empty]

namespace Relisted

/-- The third target again, with a blank before it. -/
def ids : List String := ["x86_64-linux", "aarch64-macos", "wasm32-wasi", " wasm32-wasi"]

def workspace : Workspace where
  files := ⟨[(["targets.json"], .file (Text.Utf8.encode (Catalog.compactText ids)) false)], []⟩
  directory := []
  journal := []

theorem misconfigured (version? : Option String) : Misconfigured workspace ⟨⟨⟨"."⟩, none⟩, none, version?, none⟩ := by
  have read : workspace.readText ⟨"./targets.json"⟩ = .ok (Catalog.compactText ids) :=
    Workspace.readText_of_file (l := ["targets.json"]) (by decide +kernel) rfl
  have json : Catalog.Encoding.ofPath ⟨"./targets.json"⟩ = .json := by decide +kernel
  have kept : Catalog.Stored.parse? (.ofPath ⟨"./targets.json"⟩) (Catalog.compactText ids) = some ⟨some ids, none⟩ := by
    rw [json]
    exact (Catalog.keeps_compactText _).parse?
  have again : ¬ (ids.map Catalog.targetOf).Nodup := by decide +kernel
  have path : CatalogOptions.catalogPath ⟨⟨"."⟩, none⟩ = ⟨"./targets.json"⟩ := by decide +kernel
  refine .catalog ?_
  rw [path]
  exact .faulty read kept rfl (.duplicate again)

end Relisted

theorem rejected_without_effect_relisted :
    [["release", "--release-version", "1.0.0"], ["native", "--format", "deb", "-q"]].Forall fun words =>
      ∃ output, (run ⟨[], 1⟩ words).run Relisted.workspace = (output, Relisted.workspace) ∧
        output.exitCode = 1 ∧ output.standard = "" ∧ output.errors ≠ "" := by
  rw [List.forall_iff_forall_mem, List.forall_mem_cons, List.forall_mem_singleton]
  have release : Invocation.ofWords (Machine.valueOf? ⟨[], 1⟩) ["release", "--release-version", "1.0.0"] =
      .ok ⟨⟨0, false, false⟩, some (.release ⟨⟨⟨"."⟩, none⟩, none, some "1.0.0", none⟩ ⟨2, ⟨"zig"⟩, 2000, false⟩
        ⟨[], ⟨"fpm"⟩⟩)⟩ := by decide +kernel
  have native : Invocation.ofWords (Machine.valueOf? ⟨[], 1⟩) ["native", "--format", "deb", "-q"] =
      .ok ⟨⟨0, true, false⟩, some (.native ⟨⟨⟨"."⟩, none⟩, none, none, none⟩ ⟨[.deb], ⟨"fpm"⟩⟩)⟩ := by decide +kernel
  exact ⟨rejected_without_effect release rfl rfl (Relisted.misconfigured _),
    rejected_without_effect native rfl rfl (Relisted.misconfigured _)⟩

end CommandLine

end ReleaseMatrix
