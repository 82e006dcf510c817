import ReleaseMatrix.Text

namespace ReleaseMatrix

/-- A build target, named by a triple such as `x86_64-linux-musl`. -/
structure Target where
  id : String
deriving DecidableEq, Repr

namespace Target

def segments (t : Target) : List String :=
  Text.split '-' t.id

/-- The processor, the first segment of the triple. -/
def arch (t : Target) : String :=
  t.segments.headD ""

/-- The operating system, the second segment of the triple. -/
def os? (t : Target) : Option String :=
  t.segments[1]?

def isWindows (t : Target) : Bool :=
  t.os? == some "windows"

def isWasm (t : Target) : Bool :=
  t.arch == "wasm32" || t.arch == "wasm64"

/-- What the toolchain appends to the names of executables. -/
def exeSuffix (t : Target) : String :=
  if t.isWindows then ".exe" else if t.isWasm then ".wasm" else ""

end Target

namespace Triple

def isSegmentChar (c : Char) : Bool :=
  c.isAlphanum || c == '_' || c == '.'

/-- Accepts the rest of a triple. `fresh` says that the current segment is still empty. -/
def acceptsRest (fresh : Bool) : List Char → Bool
  | [] => !fresh
  | c :: cs =>
    if c = '-' then !fresh && acceptsRest true cs
    else isSegmentChar c && acceptsRest false cs

/-- A triple is a list of nonempty segments joined by hyphens, and starts with a letter or a digit. -/
def accepts : List Char → Bool
  | [] => false
  | c :: cs => c.isAlphanum && acceptsRest false cs

end Triple

/-- Whether the target's id is a triple, which can stand as a single path component. -/
def Target.isTriple (t : Target) : Bool :=
  Triple.accepts t.id.toList

end ReleaseMatrix
