import ReleaseMatrix.Catalog.Stored
import ReleaseMatrix.Proofs.Manifest
import ReleaseMatrix.Proofs.TomlSpelling

namespace ReleaseMatrix

/-- What is read of a file where a path leads to it. -/
theorem Workspace.readText_of_file {w : Workspace} {p : Path} {l : Location} {s : String} {executable : Bool}
    (leads : (w.locate p .target).toOption = some l)
    (file : w.files.get? l = some (.file (Text.Utf8.encode s) executable)) : w.readText p = .ok s := by
  have located : w.locate p .target = .ok l := by
    cases there : w.locate p .target <;> simp_all [Except.toOption]
  simp [readText, read, find, located, file, Entry.content?, Text.Utf8.decode?_encode, bind, Except.bind, pure,
    Except.pure]

namespace Catalog

open Stored (targetsKey restrictedKey)

/-- The keys of a catalog file with what they hold, where there are values for lists of texts and for texts. -/
def entries {α : Type} (list : List String → α) (text : String → α) (ids : List String)
    (restricted? : Option String) : List (String × α) :=
  (targetsKey, list ids) :: (restricted?.map fun r => (restrictedKey, text r)).toList

/-- The same keys, in one order or the other. -/
def InEitherOrder {α : Type} (members entries : List (String × α)) : Prop :=
  members = entries ∨ members = entries.reverse

/-- A text that keeps the ids and, if there is one, the restricted target under their keys, in whatever spelling. -/
def Keeps (ids : List String) (restricted? : Option String) : Encoding → String → Prop
  | .json, s => ∃ members, InEitherOrder members (entries (fun ids => .array (ids.map .text)) .text ids restricted?) ∧
      ∃ before written after, Json.Gap before ∧ Json.Spelling (.value (.ofMembers members)) written ∧
        Json.Gap after ∧ s.toList = before ++ written ++ after
  | .toml, s => ∃ members, InEitherOrder members
      (entries (fun ids => .array (ids.map .string)) .string ids restricted?) ∧ Toml.LinesSpelling members s.toList

section

variable {ids : List String} {restricted? : Option String}

theorem Stored.ofJson?_of_inEitherOrder {members : List (String × Json)}
    (inOrder : InEitherOrder members (entries (fun ids => .array (ids.map .text)) .text ids restricted?)) :
    ofJson? (.ofMembers members) = some ⟨some ids, restricted?⟩ := by
  have texts : (ids.map Json.text).mapM textsOrNull.text? = some ids :=
    mapM_map_of_inverse (fun id => show textsOrNull.text? (.text id) = some id from rfl) ids
  rcases inOrder with rfl | rfl <;> cases restricted? <;>
    simp [entries, Json.ofMembers, ofJson?, onlyMember, targetsKey, restrictedKey, textsOrNull, texts, textOrNull,
      Json.text]

theorem Stored.ofToml?_of_inEitherOrder {members : Toml.Members}
    (inOrder : InEitherOrder members (entries (fun ids => .array (ids.map .string)) .string ids restricted?)) :
    ofToml? members.reverse = some ⟨some ids, restricted?⟩ := by
  have texts : (ids.map Toml.string).mapM tomlText? = some ids :=
    mapM_map_of_inverse (fun id => show tomlText? (.string id) = some id from rfl) ids
  rcases inOrder with rfl | rfl <;> cases restricted? <;>
    simp [entries, ofToml?, optionalMember, Toml.member?, targetsKey, restrictedKey, tomlTexts?, texts, tomlText?]

theorem nodup_of_inEitherOrder {α : Type} {list : List String → α} {text : String → α} {members : List (String × α)}
    (inOrder : InEitherOrder members (entries list text ids restricted?)) : (members.map Prod.fst).Nodup := by
  rcases inOrder with rfl | rfl <;> cases restricted? <;> simp [entries, targetsKey, restrictedKey]

/-- However a text keeps ids and a restricted target, it is read as what it keeps. -/
theorem Keeps.parse? {e : Encoding} {s : String} (keeps : Keeps ids restricted? e s) :
    Stored.parse? e s = some ⟨some ids, restricted?⟩ := by
  cases e with
  | json =>
    obtain ⟨members, inOrder, before, written, after, blankBefore, spelling, blankAfter, whole⟩ := keeps
    rw [Stored.parse?, spelling.parse? blankBefore blankAfter whole, Option.bind_some,
      Stored.ofJson?_of_inEitherOrder inOrder]
  | toml =>
    obtain ⟨members, inOrder, spelling⟩ := keeps
    rw [Stored.parse?, spelling.parse? (nodup_of_inEitherOrder inOrder), Option.bind_some,
      Stored.ofToml?_of_inEitherOrder inOrder]

theorem load_of_readText {w : Workspace} {p : Path} {s : String} (read : w.readText p = .ok s) :
    load w p = ofText p s := by
  have found : w.exists? p = true := by
    cases find : w.find p with
    | error fault => simp [Workspace.readText, Workspace.read, find, bind, Except.bind] at read
    | ok place => simp [Workspace.exists?, Workspace.entry?, find]
  simp [load, found, read, bind, Except.bind, Except.mapError]

/-- A file that keeps ids and a restricted target is loaded as the catalog of the ids, restricted to that target, or with
the error that the ids have. -/
theorem Keeps.load {w : Workspace} {p : Path} {s : String} (keeps : Keeps ids restricted? (.ofPath p) s)
    (read : w.readText p = .ok s) :
    Catalog.load w p = (ofIds ids).map fun c => { c with restricted? := restricted? } := by
  rw [load_of_readText read, ofText, keeps.parse?]
  simp only [ofStored, ofIds, bind, Except.bind]
  cases targetsOfIds ids <;> rfl

theorem textual_entries (ids : List String) (restricted? : Option String) :
    Json.Textual (.ofMembers (entries (fun ids => .array (ids.map .text)) .text ids restricted?)) := by
  refine .object fun member listed => ?_
  rcases List.mem_cons.mp listed with rfl | listed
  · exact .array (by simpa using fun id _ => Json.Textual.text id)
  · obtain ⟨r, -, rfl⟩ := by simpa using listed
    exact .text r

/-- Whatever the ids and the restricted target, there is a text that keeps them. -/
theorem exists_keeps (ids : List String) (restricted? : Option String) (e : Encoding) : ∃ s, Keeps ids restricted? e s := by
  cases e with
  | json =>
    have spelling := (textual_entries ids restricted?).spelling (.indented 0)
    exact ⟨String.ofList _, _, .inl rfl, [], _, [], Json.gap_nil, spelling, Json.gap_nil, by simp; rfl⟩
  | toml =>
    have bare : ∀ key ∈ [targetsKey, restrictedKey], ∃ name, Toml.KeySpelling key name := by
      have written : ∀ key ∈ [targetsKey, restrictedKey], key.toList ≠ [] ∧ key.toList.all Toml.isBareChar := by decide
      exact fun key listed => ⟨_, .bare (written key listed).1 (List.all_eq_true.mp (written key listed).2)⟩
    obtain ⟨written, spelling⟩ := Toml.exists_linesSpelling
      (entries (fun ids => .array (ids.map .string)) .string ids restricted?) (by
        intro member listed
        rcases List.mem_cons.mp listed with rfl | listed
        · obtain ⟨written, items⟩ := Toml.exists_itemsSpelling ids
          exact ⟨bare targetsKey (by simp), _, .array items⟩
        · obtain ⟨r, -, rfl⟩ := by simpa using listed
          obtain ⟨written, text⟩ := Toml.exists_textSpelling r.toList
          exact ⟨bare restrictedKey (by simp), _, .text text⟩)
    exact ⟨String.ofList written, _, .inl rfl, by rwa [String.toList_ofList]⟩

/-- The two encodings agree. -/
theorem encodings_agree {w v : Workspace} {p q : Path} {s t : String} (json : Encoding.ofPath p = .json)
    (toml : Encoding.ofPath q = .toml) (readJson : w.readText p = .ok s) (readToml : v.readText q = .ok t)
    (keepsJson : Keeps ids restricted? .json s) (keepsToml : Keeps ids restricted? .toml t) :
    load w p = ((ofIds ids).map fun c => { c with restricted? := restricted? }) ∧ load v q = load w p := by
  have loaded := Keeps.load (json ▸ keepsJson) readJson
  exact ⟨loaded, (Keeps.load (toml ▸ keepsToml) readToml).trans loaded.symm⟩

end

namespace Kept

def ids : List String := ["x86_64-linux", "wasm32-wasi"]

def members : List (String × Json) :=
  entries (fun ids => .array (ids.map .text)) .text ids (some "x86_64-linux")

def json : String := (Json.ofMembers members.reverse).compact

def toml : String :=
  "targets = [\n  \"x86_64-linux\", # first\n  \"wasm32-wasi\",\n]\nrestricted_target = \"x86_64-linux\"\n"

def workspace : Workspace where
  files := ⟨[(["targets.json"], .file (Text.Utf8.encode json) false),
    (["targets.toml"], .file (Text.Utf8.encode toml) false)], []⟩
  directory := []
  journal := []

end Kept

theorem keeps_json : Keeps Kept.ids (some "x86_64-linux") .json Kept.json := by
  have textual : Json.Textual (.ofMembers Kept.members.reverse) := by
    refine .object ?_
    simp only [Kept.members, entries, Option.map_some, Option.toList_some, List.reverse_cons, List.reverse_nil,
      List.nil_append, List.cons_append, List.forall_mem_cons]
    exact ⟨.text _, .array (by simpa using fun id _ => Json.Textual.text id), by simp⟩
  exact ⟨_, .inr rfl, [], _, [], Json.gap_nil, textual.spelling .compact, Json.gap_nil, by
    simp [Kept.json, Json.compact, Kept.members]⟩

theorem keeps_toml : Keeps Kept.ids (some "x86_64-linux") .toml Kept.toml := by
  have none : Toml.Spaces [] := by simp [Toml.Spaces]
  have one : Toml.Spaces [' '] := by simp [Toml.Spaces, Toml.isSpace]
  have two : Toml.Spaces [' ', ' '] := by simp [Toml.Spaces, Toml.isSpace]
  have remark : Toml.Trailing ([' '] ++ '#' :: " first".toList) := .comment one (List.all_eq_true.mp (by decide))
  have first : Toml.TextSpelling "x86_64-linux".toList _ := Toml.textSpelling_self (List.forall_iff_forall_mem.mp (by decide))
  have second : Toml.TextSpelling "wasm32-wasi".toList _ := Toml.textSpelling_self (List.forall_iff_forall_mem.mp (by decide))
  have targetsKey : Toml.KeySpelling "targets" _ := .bare (by decide) (List.all_eq_true.mp (by decide))
  have restrictedKey : Toml.KeySpelling "restricted_target" _ := .bare (by decide) (List.all_eq_true.mp (by decide))
  have items : Toml.ItemsSpelling Kept.ids _ :=
    .item (.line (.spaces none) (.inl rfl) (.spaces two)) first (.spaces none)
      (.item (.line remark (.inl rfl) (.spaces two)) second (.spaces none)
        (.nil (.line (.spaces none) (.inl rfl) (.spaces none))))
  have lines := Toml.LinesSpelling.pair (.intro none targetsKey one one (.array items)) (.spaces none) (.inl rfl)
    (.pair (.intro none restrictedKey one one (.text first)) (.spaces none) (.inl rfl) (.done (.spaces none)))
  refine ⟨_, .inl rfl, ?_⟩
  convert lines using 1
  · rfl
  · decide +kernel

theorem ofIds_kept : ofIds Kept.ids = .ok ⟨[⟨"x86_64-linux"⟩, ⟨"wasm32-wasi"⟩], none⟩ := by
  have targets : (ofIds Kept.ids).toOption = some ⟨[⟨"x86_64-linux"⟩, ⟨"wasm32-wasi"⟩], none⟩ := by decide +kernel
  cases given : ofIds Kept.ids <;> simp_all [Except.toOption]

theorem paths_kept :
    (Encoding.ofPath ⟨"targets.json"⟩ = .json ∧
      (Kept.workspace.locate ⟨"targets.json"⟩ .target).toOption = some ["targets.json"]) ∧
    (Encoding.ofPath ⟨"targets.toml"⟩ = .toml ∧
      (Kept.workspace.locate ⟨"targets.toml"⟩ .target).toOption = some ["targets.toml"]) := by
  decide +kernel

theorem readText_json : Kept.workspace.readText ⟨"targets.json"⟩ = .ok Kept.json :=
  Workspace.readText_of_file paths_kept.1.2 rfl

theorem readText_toml : Kept.workspace.readText ⟨"targets.toml"⟩ = .ok Kept.toml :=
  Workspace.readText_of_file paths_kept.2.2 rfl

theorem load_kept : load Kept.workspace ⟨"targets.json"⟩ =
    .ok ⟨[⟨"x86_64-linux"⟩, ⟨"wasm32-wasi"⟩], some "x86_64-linux"⟩ := by
  have keeps : Keeps Kept.ids (some "x86_64-linux") (.ofPath ⟨"targets.json"⟩) Kept.json := paths_kept.1.1 ▸ keeps_json
  rw [keeps.load readText_json, ofIds_kept]
  rfl

/-- Two files with the same keys in different orders, one of them with a comment and a comma to spare. -/
theorem encodings_agree_kept : load Kept.workspace ⟨"targets.json"⟩ =
      .ok ⟨[⟨"x86_64-linux"⟩, ⟨"wasm32-wasi"⟩], some "x86_64-linux"⟩ ∧
    load Kept.workspace ⟨"targets.toml"⟩ = load Kept.workspace ⟨"targets.json"⟩ :=
  ⟨load_kept, (encodings_agree paths_kept.1.1 paths_kept.2.1 readText_json readText_toml keeps_json keeps_toml).2⟩

end Catalog

end ReleaseMatrix
