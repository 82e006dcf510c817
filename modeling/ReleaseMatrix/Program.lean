import ReleaseMatrix.Workspace

namespace ReleaseMatrix

namespace Program

/-- The bytes that scripts start with. -/
def scriptMark : Bytes := [0x23, 0x21]

/-- How many bytes at the start of a file tell how it is run. -/
def headSize : Nat := 256

def isSpace (b : UInt8) : Bool :=
  b == 0x20 || b == 0x09

/-- Whether a byte ends the name of an interpreter. -/
def endsName (b : UInt8) : Bool :=
  isSpace b || b == 0x00

/-- The interpreter and the option in the first line of a script, read after its mark. The rest of the line
is one option. -/
def splitLine (line : Bytes) : Option (Path × Option String) :=
  let line := line.dropWhile isSpace
  let name := line.takeWhile (!endsName ·)
  let rest := line.drop name.length
  let option := if rest.head? = some 0x00 then [] else (rest.dropWhile isSpace).takeWhile (· ≠ 0x00)
  if name.isEmpty then none
  else some (⟨Text.Utf8.decodeLossy name⟩,
    if option.isEmpty then none else some (Text.Utf8.decodeLossy option))

/-- The interpreter of a script and the option in its first line. If that line is cut off, the name of the
interpreter at least must not be. -/
def interpreter? (content : Bytes) : Option (Path × Option String) := do
  let head := content.take headSize
  guard (scriptMark.isPrefixOf head)
  let line := head.drop scriptMark.length
  let dropEnd (line : Bytes) : Bytes := (line.reverse.dropWhile isSpace).reverse
  if line.contains 0x0A then splitLine (dropEnd (line.takeWhile (· ≠ 0x0A)))
  else
    let filled := line ++ List.replicate (headSize - head.length) 0x00
    guard ((filled.dropWhile isSpace).any endsName)
    splitLine (dropEnd filled.dropLast)

/-- A program of the machine itself with the name that it is called by and the words that follow it. -/
structure Loaded where
  native : String
  called : String
  arguments : List String
deriving DecidableEq, Repr

/-- The program in a file, run by a name with some arguments. A script is handed to its interpreter, which may
be a script itself; `n` bounds how often. -/
def load (w : Workspace) : Nat → String → Path → List String → Except FileFault Loaded
  | 0, _, _, _ => .error .tooManyLinks
  | n + 1, called, p, arguments => do
    match ← w.find p with
    | (_, .program name) => pure ⟨name, called, arguments⟩
    | (_, .file content true) =>
      match interpreter? content with
      | some (interpreter, option?) =>
        load w n interpreter.text interpreter (option?.toList ++ p.text :: arguments)
      | none => throw .badExecutable
    | _ => throw .permissionDenied

/-- How often one script may be the interpreter of another. -/
def loadLimit : Nat := 6

def isRunnable (w : Workspace) (p : Path) : Bool :=
  (w.entry? p).any Entry.isRunnable

/-- The directories in which programs are looked for where nothing else is said. -/
def standardDirectories : String :=
  "/usr/local/sbin:/usr/local/bin:/usr/sbin:/usr/bin:/sbin:/bin"

/-- The directories in a list of them. A tilde at the start of one stands for the home directory. -/
def directoriesOf (home? : Option String) (directories : String) : List Path :=
  (Text.split ':' directories).map fun dir =>
    match (Path.mk dir).components, home? with
    | .name "~" :: rest, some home =>
      rest.foldl (fun p c => p.join c.text) ⟨home⟩
    | _, _ => ⟨dir⟩

/-- The file of a program that is called by its bare name: the first one in the given directories. -/
def search (w : Workspace) (directories : List Path) (name : String) : Option Path :=
  (directories.map (·.join name)).find? (isRunnable w)

/-- A relative path as it reads from the root, less a dot at its start. -/
def absolutePath (w : Workspace) (p : Path) : Path :=
  if p.isAbsolute then p
  else
    let body := (Path.splitHead p.text.toList).2
    let pieces := (Text.splitChars '/' body).filter (!Path.isSilent ·)
    ⟨String.ofList (Text.joinChars '/' ((Workspace.pathOf w.directory).text.toList :: pieces))⟩

/-- The file of a program that is called by a name or a path. What has one component only is a name, even if
it is written with slashes. -/
def resolve (w : Workspace) (directories : List Path) (p : Path) : Option Path :=
  if p.text.isEmpty then none
  else if p.components.length > 1 then
    let absolute := absolutePath w p
    if isRunnable w absolute then some absolute else none
  else search w directories p.text

end Program

end ReleaseMatrix
