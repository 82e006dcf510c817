import Mathlib.Data.List.DropRight
import ReleaseMatrix.Proofs.Misconfiguration
import ReleaseMatrix.Proofs.TargetListing

namespace ReleaseMatrix

namespace Text

theorem trimChars_trimChars (cs : List Char) : trimChars (trimChars cs) = trimChars cs := by
  have front : (trimChars cs).dropWhile isBlank = trimChars cs := by
    rw [List.dropWhile_eq_self_iff]
    intro filled
    -- What is left starts with the character that stopped the blanks in front, so it is not dropped again.
    have start : trimChars cs <+: cs.dropWhile isBlank := List.rdropWhile_prefix _ _
    have kept := List.dropWhile_eq_self_iff.mp (List.dropWhile_idempotent isBlank cs)
    rw [start.getElem filled]
    exact kept _
  have back : (cs.dropWhile isBlank).rdropWhile isBlank = trimChars cs := rfl
  calc trimChars (trimChars cs) = ((trimChars cs).dropWhile isBlank).rdropWhile isBlank := rfl
    _ = ((cs.dropWhile isBlank).rdropWhile isBlank).rdropWhile isBlank := by rw [front, back]
    _ = trimChars cs := List.rdropWhile_idempotent _ _

theorem trim_trim (s : String) : trim (trim s) = trim s := by
  rw [trim, trim, String.toList_ofList, trimChars_trimChars]

end Text

theorem Profile.forTarget_eq_restricted_iff {t : Target} {restrictedTarget : String} :
    forTarget t restrictedTarget = .restricted ↔ t.id = restrictedTarget := by
  simp [forTarget]

namespace Catalog

section Overriding

variable {ids : List String} {given : String} {i : Nat}

/-- Ids that are added to targets stand behind them, in their order. -/
theorem eq_of_foldlM_addId {before targets : List Target} (made : ids.foldlM addId before = .ok targets) :
    targets = before ++ ids.map targetOf := by
  induction ids generalizing before with
  | nil =>
    cases made
    simp
  | cons id ids ih =>
    rw [List.foldlM_cons] at made
    cases first : addId before id with
    | error error => simp [first, bind, Except.bind] at made
    | ok more =>
      obtain ⟨-, -, rfl⟩ := addId_eq_ok first
      rw [first] at made
      have rest := ih made
      simpa [targetOf] using rest

/-- The targets that a file lists are those of its catalog, while the override stays as it is written. -/
theorem eq_of_load {w : Workspace} {p : Path} {c : Catalog} {text : String} (loaded : load w p = .ok c)
    (read : w.readText p = .ok text) (kept : Stored.parse? (.ofPath p) text = some ⟨some ids, some given⟩) :
    c.targets = ids.map targetOf ∧ c.restricted? = some given := by
  rw [load_of_readText read, ofText, kept] at loaded
  simp only [ofStored] at loaded
  cases made : targetsOfIds ids with
  | error error => simp [made, bind, Except.bind] at loaded
  | ok targets =>
    obtain rfl : ⟨targets, some given⟩ = c := by simpa [made, bind, Except.bind, pure, Except.pure] using loaded
    exact ⟨eq_of_foldlM_addId made, rfl⟩

/-- How far the override goes that names the entry with this number: only an entry without blanks around it becomes a
target of the overriding name. -/
structure Overrides (c : Catalog) (given : String) (i : Nat) : Prop where
  target : c.targets[i]? = some (targetOf given)
  rows : ∀ (j : Nat) row, c.rows[j]? = some row → (row.profile = .restricted ↔ j = i ∧ Text.trim given = given)
  /-- In a release that a command line configures, at any stage of any of its workers. -/
  builds : ∀ {processors : Nat} {w : Workspace} {project : CommandLine.ProjectOptions}
    {package : CommandLine.PackageOptions} {config : ReleaseConfig},
    CommandLine.configure processors w project package c = .ok config →
    ∀ (build : CommandLine.BuildOptions) (compiler : Compiler) (packager : Packager),
    let release : Release := ⟨build.apply processors config, compiler, packager⟩
    (∀ (j : Nat) t, c.targets[j]? = some t →
      (release.builder.profile t = .restricted ↔ j = i ∧ Text.trim given = given)) ∧
    ∀ scratch out breaks jobs u crew,
      Release.Crew.Reach release c.targets scratch out breaks (.initial jobs c.targets u) crew →
      ∀ (j : Nat) q, crew.stages[j]? = some (.compile q) → c.targets[j]? = some q.target ∧
        (q.profile = .restricted ↔ j = i ∧ Text.trim given = given) ∧
        ∀ flag ∈ Profile.restrictions, flag ∈ q.arguments ↔ j = i ∧ Text.trim given = given

variable {c : Catalog}

/-- A target has the name that the override gives just if it comes from the entry of the override, and this has no
blanks around it. -/
theorem profile_row_iff (nodup : c.targets.Nodup) (targets : c.targets = ids.map targetOf)
    (overridden : c.restricted? = some given) (entry : ids[i]? = some given) {j : Nat} {t : Target}
    (listed : c.targets[j]? = some t) : (c.row t).profile = .restricted ↔ j = i ∧ Text.trim given = given := by
  have atEntry : c.targets[i]? = some (targetOf given) := by rw [targets, List.getElem?_map, entry, Option.map_some]
  have named : (c.row t).profile = .restricted ↔ t.id = given := by
    rw [row, overridden, Profile.forTarget_eq_restricted_iff, Option.getD_some]
  rw [named]
  constructor
  · intro same
    rw [targets, List.getElem?_map] at listed
    obtain ⟨id, -, rfl⟩ := Option.map_eq_some_iff.mp listed
    have trimmed : Text.trim given = given := by rw [← same, targetOf, Text.trim_trim]
    have equal : targetOf id = targetOf given := congrArg Target.mk (same.trans trimmed.symm)
    rw [← List.getElem?_map, ← targets, equal] at listed
    obtain ⟨bound, -⟩ := List.getElem?_eq_some_iff.mp listed
    exact ⟨(List.getElem?_inj bound nodup).mp (listed.trans atEntry.symm), trimmed⟩
  · rintro ⟨rfl, trimmed⟩
    obtain rfl : targetOf given = t := Option.some.inj (atEntry.symm.trans listed)
    exact trimmed

/-- The override of a catalog that is loaded from a file reaches the target of its entry just if no blanks stand around
it. Where they do, all targets are built with full capabilities. -/
theorem override_reaches {v : Workspace} {p : Path} {text : String} (loaded : load v p = .ok c)
    (read : v.readText p = .ok text) (kept : Stored.parse? (.ofPath p) text = some ⟨some ids, some given⟩)
    (entry : ids[i]? = some given) : c.Overrides given i := by
  obtain ⟨nodup, triples⟩ := targets_of_load loaded
  obtain ⟨targets, overridden⟩ := eq_of_load loaded read kept
  have profile {j : Nat} {t : Target} (listed : c.targets[j]? = some t) :=
    profile_row_iff nodup targets overridden entry listed
  have rows (j : Nat) (row : Row) (found : c.rows[j]? = some row) :
      row.profile = .restricted ↔ j = i ∧ Text.trim given = given := by
    rw [rows_eq, List.getElem?_map] at found
    obtain ⟨t, listed, rfl⟩ := Option.map_eq_some_iff.mp found
    exact profile listed
  constructor
  case target => rw [targets, List.getElem?_map, entry, Option.map_some]
  case rows => exact rows
  case builds =>
    intro processors w project package config configured build compiler packager release
    have truthful : c.Truthful release ⟨config, packager⟩ := truthful_of_load loaded configured build compiler packager
    have restricted : release.config.restrictedTarget = c.restricted?.getD defaultRestricted := by
      obtain ⟨projectDir, version, -, -, rfl⟩ := CommandLine.configure_eq_ok configured
      rfl
    constructor
    · intro j t listed
      rw [Builder.profile, Release.builder, restricted]
      exact profile listed
    · intro scratch out breaks jobs u crew reach j q compiling
      obtain ⟨row, found, tells⟩ := truthful.compiles scratch out breaks jobs u crew reach j q compiling
      have reached := rows j row found
      refine ⟨?_, tells.profile ▸ reached, fun flag listed => (tells.restrictions flag listed).trans reached⟩
      rw [← truthful.rows, List.getElem?_map, found, Option.map_some, tells.target]

theorem override_reaches_kept :
    Overrides ⟨[⟨"x86_64-linux"⟩, ⟨"wasm32-wasi"⟩], some "x86_64-linux"⟩ "x86_64-linux" 0 :=
  override_reaches load_kept readText_json (paths_kept.1.1 ▸ keeps_json.parse?) rfl

end Overriding

namespace Padded

def ids : List String := ["x86_64-linux", " wasm32-freestanding"]

def text : String :=
  (Json.ofMembers (entries (fun ids => .array (ids.map .text)) .text ids (some " wasm32-freestanding"))).compact

def workspace : Workspace where
  files := ⟨[(["targets.json"], .file (Text.Utf8.encode text) false)], []⟩
  directory := []
  journal := []

def catalog : Catalog :=
  ⟨[⟨"x86_64-linux"⟩, ⟨"wasm32-freestanding"⟩], some " wasm32-freestanding"⟩

theorem keeps_text : Keeps ids (some " wasm32-freestanding") .json text :=
  ⟨_, .inl rfl, [], _, [], Json.gap_nil, (textual_entries _ _).spelling .compact, Json.gap_nil, by
    simp [text, Json.compact]⟩

end Padded

/-- The override is written as in the list, with a blank in front. The target of the entry is listed as one with full
capabilities, and a release asks the toolchain for it without any restrictions. -/
theorem override_missed :
    load Padded.workspace ⟨"targets.json"⟩ = .ok Padded.catalog ∧
    Padded.workspace.readText ⟨"targets.json"⟩ = .ok Padded.text ∧
    Stored.parse? .json Padded.text = some ⟨some Padded.ids, some " wasm32-freestanding"⟩ ∧
    " wasm32-freestanding" ∈ Padded.ids ∧ targetOf " wasm32-freestanding" ∈ Padded.catalog.targets ∧
    Padded.catalog.rows.map (fun row => (row.target.id, row.profile)) =
      [("x86_64-linux", .standard), ("wasm32-freestanding", .standard)] ∧
    ∃ config, CommandLine.configure 1 Padded.workspace ⟨⟨⟨"/"⟩, none⟩, none, some "1.0.0", none⟩ ⟨[], ⟨"fpm"⟩⟩
        Padded.catalog = .ok config ∧
      (Release.builder ⟨CommandLine.BuildOptions.apply ⟨2, ⟨"zig"⟩, 0, false⟩ 1 config, .prompt fun q =>
        WorkM.fail (.toolchainFailed q.target.id (some 1)), ⟨fun _ _ => throw (.crashed ⟨"out of memory"⟩)⟩⟩).profile
          (targetOf " wasm32-freestanding") = .standard := by
  have leads : Encoding.ofPath ⟨"targets.json"⟩ = .json ∧
      (Padded.workspace.locate ⟨"targets.json"⟩ .target).toOption = some ["targets.json"] := by decide +kernel
  have read : Padded.workspace.readText ⟨"targets.json"⟩ = .ok Padded.text := Workspace.readText_of_file leads.2 rfl
  have accepted : ofIds Padded.ids = .ok ⟨Padded.catalog.targets, none⟩ := by
    have targets : (ofIds Padded.ids).toOption = some ⟨Padded.catalog.targets, none⟩ := by decide +kernel
    cases given : ofIds Padded.ids <;> simp_all [Except.toOption]
  have loaded : load Padded.workspace ⟨"targets.json"⟩ = .ok Padded.catalog := by
    have keeps : Keeps Padded.ids (some " wasm32-freestanding") (.ofPath ⟨"targets.json"⟩) Padded.text :=
      leads.1 ▸ Padded.keeps_text
    rw [keeps.load read, accepted]
    rfl
  exact ⟨loaded, read, Padded.keeps_text.parse?, by decide, by decide, by decide, _, rfl, by decide⟩

end Catalog

end ReleaseMatrix
