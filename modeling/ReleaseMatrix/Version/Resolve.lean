import ReleaseMatrix.Text
import ReleaseMatrix.Error
import ReleaseMatrix.Version
import ReleaseMatrix.Workspace

namespace ReleaseMatrix.Manifest

def stripStart : List Char → List Char → Option (List Char)
  | [], cs => some cs
  | _ :: _, [] => none
  | p :: ps, c :: cs => if p = c then stripStart ps cs else none

def fieldName : List Char := ".version".toList

/-- The value of a version field at the very start of the text: the field's name, an equals sign and a
quoted value that is not empty, with any blanks around the sign. -/
def fieldAt? (cs : List Char) : Option (List Char) := do
  let cs ← stripStart fieldName cs
  let cs ← stripStart ['='] (cs.dropWhile Text.isBlank)
  let cs ← stripStart ['"'] (cs.dropWhile Text.isBlank)
  let value := cs.takeWhile (· ≠ '"')
  if value ≠ [] ∧ (cs.dropWhile (· ≠ '"')) ≠ [] then some value else none

def firstField? : List Char → Option (List Char)
  | [] => none
  | c :: cs => match fieldAt? (c :: cs) with
    | some value => some value
    | none => firstField? cs

/-- The version that a project manifest declares: the leftmost version field of the text. -/
def version? (text : String) : Option String :=
  (firstField? text.toList).map String.ofList

end ReleaseMatrix.Manifest

namespace ReleaseMatrix.Version

/-- The manifest of a project, in which its version stands. -/
def manifestName : String := "build.zig.zon"

def check (version : String) : Except ConfigError Version :=
  (parse version).mapError (.invalidVersion version ·.message)

/-- The text of a valid version. -/
def accept (version : String) : Except ConfigError String := do
  let _ ← check version
  pure version

/-- The version of a release: the one that was asked for, or else the one in the project's manifest. -/
def resolve (w : Workspace) (explicit? : Option String) (projectDir : Path) : Except ConfigError String :=
  match explicit? with
  | some version => accept version
  | none => do
    let path := projectDir.join manifestName
    if !w.exists? path then throw (.versionMissing path)
    let text ← (w.readText path).mapError (.unreadable path ·.message)
    match Manifest.version? text with
    | some version => accept version
    | none => throw (.versionMissing path)

end ReleaseMatrix.Version
