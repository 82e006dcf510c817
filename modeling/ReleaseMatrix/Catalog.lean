import ReleaseMatrix.Build.Request
import ReleaseMatrix.Error
import ReleaseMatrix.Package.Spec
import ReleaseMatrix.Text
import ReleaseMatrix.Json

namespace ReleaseMatrix

/-- The targets of a release, in the order they are listed, and the target that is built restricted if
the catalog names one. -/
structure Catalog where
  targets : List Target
  restricted? : Option String
deriving DecidableEq, Repr

namespace Catalog

/-- The target that is built restricted where nothing else is said. -/
def defaultRestricted : String := "wasm32-wasi"

/-- Adds one id to the targets so far. Blanks around it do not count. -/
def addId (targets : List Target) (id : String) : Except ConfigError (List Target) :=
  let target : Target := ⟨Text.trim id⟩
  if target.id = "" then .error .emptyTarget
  else if !target.isTriple then .error (.invalidTarget target.id)
  else if target ∈ targets then .error (.duplicateTarget target.id)
  else .ok (targets ++ [target])

/-- The targets with these ids, which must be different triples. -/
def targetsOfIds (ids : List String) : Except ConfigError (List Target) :=
  ids.foldlM addId []

def ofIds (ids : List String) : Except ConfigError Catalog := do
  pure ⟨← targetsOfIds ids, none⟩

/-- What the target listing says about a target. -/
structure Row where
  target : Target
  profile : Profile
  deb : Option String
  rpm : Option String
deriving DecidableEq, Repr

def rows (c : Catalog) : List Row :=
  c.targets.map fun t =>
    ⟨t, Profile.forTarget t (c.restricted?.getD defaultRestricted), PackageArch.find? t .deb,
      PackageArch.find? t .rpm⟩

/-- The width of the column that holds the longest of some texts. -/
def columnWidth (heading : String) (texts : List String) : Nat :=
  (texts.map String.length).foldl max heading.length

def listingLine (width : Nat) (target profile deb rpm : String) : String :=
  Text.pad width target ++ "  " ++ Text.pad 10 profile ++ "  " ++ Text.pad 8 deb ++ "  " ++ rpm

/-- The targets as a table: what each is built as, and its processor's names in packages. -/
def listingLines (c : Catalog) : List String :=
  let width := columnWidth "TARGET" (c.targets.map Target.id)
  listingLine width "TARGET" "PROFILE" "DEB" "RPM" ::
    c.rows.map fun r => listingLine width r.target.id r.profile.name (r.deb.getD "-") (r.rpm.getD "-")

def Row.toJson (r : Row) : Json :=
  let textOrNull : Option String → Json
    | some text => .text text
    | none => .null
  .ofMembers [("target", .text r.target.id), ("profile", .text r.profile.name), ("deb", textOrNull r.deb),
    ("rpm", textOrNull r.rpm)]

def listingJson (c : Catalog) : Json :=
  .array (c.rows.map Row.toJson)

end Catalog

end ReleaseMatrix
