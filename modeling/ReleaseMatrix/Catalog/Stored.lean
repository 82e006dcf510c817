import ReleaseMatrix.Json
import ReleaseMatrix.Toml.Reader
import ReleaseMatrix.Catalog
import ReleaseMatrix.Workspace

namespace ReleaseMatrix.Catalog

/-- What a catalog file says. Either part may be missing. -/
structure Stored where
  targets? : Option (List String)
  restricted? : Option String
deriving DecidableEq, Repr

namespace Stored

def targetsKey : String := "targets"

def restrictedKey : String := "restricted_target"

/-- The value of a text, and no text for a null. -/
def textOrNull : Json → Option (Option String)
  | .null => some none
  | .string (some text) => some (some text)
  | _ => none

/-- The texts of a list, and no list for a null. -/
def textsOrNull : Json → Option (Option (List String))
  | .null => some none
  | .array items => (items.mapM text?).map some
  | _ => none
where
  text? : Json → Option String
    | .string text? => text?
    | _ => none

/-- The value of a key that an object has at most once. -/
def onlyMember (key : String) (members : List (Option String × Json)) : Option Json :=
  match members.filter (·.1 == some key) with
  | [] => some .null
  | [(_, v)] => some v
  | _ => none

/-- Reads a JSON value: an object with the two keys among others, or an array of the two values. -/
def ofJson? : Json → Option Stored
  | .object members =>
    if members.all (·.1.isSome) then do
      let targets? ← textsOrNull (← onlyMember targetsKey members)
      pure ⟨targets?, ← textOrNull (← onlyMember restrictedKey members)⟩
    else none
  | .array [targets, restricted] => do pure ⟨← textsOrNull targets, ← textOrNull restricted⟩
  | _ => none

/-- The text of a TOML string. -/
def tomlText? : Toml → Option String
  | .string text => some text
  | _ => none

def tomlTexts? : Toml → Option (List String)
  | .array items => items.mapM tomlText?
  | _ => none

/-- What a member says if it is there. The second half is missing if the member is of the wrong kind. -/
def optionalMember {α : Type} (read : Toml → Option α) (key : String) (members : Toml.Members) :
    Option (Option α) :=
  match Toml.member? key members with
  | none => some none
  | some v => (read v).map some

/-- Reads a TOML document, in which other keys may stand too. -/
def ofToml? (members : Toml.Members) : Option Stored := do
  pure ⟨← optionalMember tomlTexts? targetsKey members, ← optionalMember tomlText? restrictedKey members⟩

end Stored

/-- The encodings that catalogs are kept in. -/
inductive Encoding
  | json
  | toml
deriving DecidableEq, Repr

namespace Stored

/-- What a text in one of the encodings says, if it is well formed. -/
def parse? : Encoding → String → Option Stored
  | .json, text => (Json.parse? text).bind ofJson?
  | .toml, text => (Toml.parse? text).bind ofToml?

end Stored

/-- The encoding that a file's extension, in either case, tells. -/
def Encoding.ofPath (p : Path) : Encoding :=
  if p.extension?.any (·.map Char.toLower == "toml") then .toml else .json

/-- What stands for the parser's own words where a file is malformed. -/
def malformedCause : String := "<parser message>"

/-- The catalog that a file's content describes. -/
def ofStored (p : Path) (stored : Stored) : Except ConfigError Catalog :=
  match stored.targets? with
  | none => .error (.missingField p Stored.targetsKey)
  | some ids => do pure ⟨← targetsOfIds ids, stored.restricted?⟩

/-- The catalog that a text describes; errors name the file it comes from. -/
def ofText (p : Path) (text : String) : Except ConfigError Catalog :=
  match Stored.parse? (.ofPath p) text with
  | none => .error (.malformed p malformedCause)
  | some stored => ofStored p stored

def load (w : Workspace) (p : Path) : Except ConfigError Catalog := do
  if !w.exists? p then throw (.catalogMissing p)
  ofText p (← (w.readText p).mapError (.unreadable p ·.message))

end ReleaseMatrix.Catalog
