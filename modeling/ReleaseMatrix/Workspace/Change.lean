import ReleaseMatrix.Workspace
import ReleaseMatrix.Error

namespace ReleaseMatrix.FileM

open FileTree (Ending)

def ending (p : Path) : FileM Ending :=
  look fun w => w.files.ending w.directory p

def entryAt? (l : Location) : FileM (Option Entry) := do
  pure ((← get).files.get? l)

def makeDirectory (p : Path) : FileM Unit := do
  match ← ending p with
  | .name parent name =>
    match ← entryAt? (parent ++ [name]) with
    | some _ => throw .alreadyExists
    | none => update (·.put (parent ++ [name]) .directory)
  | _ => throw .alreadyExists

/-- A directory that is there already is as good as a new one. -/
def makeDirectoryIfMissing (p : Path) : FileM Unit :=
  tryCatch (makeDirectory p) fun fault => do
    if (← get).isDirectory p then pure () else throw fault

/-- Makes a directory, and before it the directories above it that are missing, of which there are
fewer than `n`. -/
def makeDirectoriesWithin : Nat → Path → FileM Unit
  | 0, _ => pure ()
  | n + 1, p =>
    tryCatch (makeDirectoryIfMissing p) fun fault =>
      match fault, p.parent? with
      | .notFound, some parent => do
        makeDirectoriesWithin n parent
        makeDirectoryIfMissing p
      | _, _ => throw fault

/-- Makes a directory and the directories above it. The empty path stands for the current directory,
which is there. -/
def makeDirectories (p : Path) : FileM Unit :=
  makeDirectoriesWithin p.components.length p

/-- Where a file that is written ends up: a link at the end of the path is followed. -/
def locateForWriting (p : Path) : FileM Location := do
  let l ← look (·.locate p .newFile)
  match ← entryAt? l with
  | some .directory => throw .isADirectory
  | _ => pure l

/-- Writes a whole file. A file that is there keeps its permissions. -/
def write (p : Path) (content : Bytes) : FileM Unit := do
  let l ← locateForWriting p
  let before := (← entryAt? l).getD (.file [] false)
  update (·.replace l (before.withContent content))

/-- Makes a pipe with a name. -/
def makeQueue (p : Path) : FileM Unit := do
  match ← ending p with
  | .name parent name =>
    match ← entryAt? (parent ++ [name]) with
    | some _ => throw .alreadyExists
    | none => if p.endsInSlash then throw .notFound else update (·.put (parent ++ [name]) (.queue []))
  | _ => throw .alreadyExists

/-- Removes a file or a link, but no directory. -/
def removeFile (p : Path) : FileM Unit := do
  match ← ending p with
  | .name parent name =>
    match ← entryAt? (parent ++ [name]) with
    | none => throw .notFound
    | some .directory => throw .isADirectory
    | some _ => if p.endsInSlash then throw .notADirectory else update (·.erase (parent ++ [name]))
  | _ => throw .isADirectory

/-- Where the current directory is once it is removed: in a place that no path names. -/
def lostPlace (l : Location) : Location :=
  l.dropLast ++ [l.getLast?.getD "" ++ "/"]

/-- Removes an empty directory. What runs in it stays in it, but finds nothing there. -/
def removeDirectory (p : Path) : FileM Unit := do
  match ← ending p with
  | .name parent name =>
    let l := parent ++ [name]
    match ← entryAt? l with
    | none => throw .notFound
    | some .directory =>
      if ((← get).files.names l).isEmpty then
        update (·.erase l)
        modify fun w => if w.directory = l then { w with directory := lostPlace l } else w
      else throw .directoryNotEmpty
    | some _ => throw .notADirectory
  | .here => throw .invalidArgument
  | .up => throw .directoryNotEmpty
  | .root => throw .busy

/-- Removes what is strictly below a directory. -/
def clearDirectory (l : Location) : FileM Unit := do
  update (·.clear l)
  modify fun w =>
    if l.isPrefixOf w.directory && w.directory ≠ l then { w with directory := lostPlace w.directory } else w

/-- Removes a directory with all that is in it. A link is removed itself, a file is refused. The path may
lead through what is removed first: then the directory has nothing in it and stays. -/
def removeTree (p : Path) : FileM Unit := do
  let l ← look (·.locate p .entry)
  match ← entryAt? l with
  | none => throw .notFound
  | some (.link _) => removeFile p
  | some .directory =>
    clearDirectory l
    tryCatch (removeDirectory p) fun fault => if fault = .notFound then pure () else throw fault
  | some _ => throw .notADirectory

/-- Moves an entry with what is below it. What runs in it goes with it. -/
def moveEntry (source dest : Location) : FileM Unit := do
  update (·.move source dest)
  modify fun w =>
    if source.isPrefixOf w.directory then { w with directory := dest ++ w.directory.drop source.length }
    else w

/-- Gives an entry a new name, in place of what has it. A directory replaces only an empty directory,
and anything else replaces no directory. -/
def rename (a b : Path) : FileM Unit := do
  match ← ending a, ← ending b with
  | .name aParent aName, .name bParent bName =>
    let source := aParent ++ [aName]
    let dest := bParent ++ [bName]
    match ← entryAt? source with
    | none => throw .notFound
    | some e =>
      if e ≠ .directory && (a.endsInSlash || b.endsInSlash) then throw .notADirectory
      else if ((← get).files.places source).contains dest then pure ()
      else if source.isPrefixOf dest then throw .invalidArgument
      else if dest.isPrefixOf source then throw .directoryNotEmpty
      else match e, ← entryAt? dest with
        | .directory, some .directory =>
          if ((← get).files.names dest).isEmpty then moveEntry source dest
          else throw .directoryNotEmpty
        | .directory, some _ => throw .notADirectory
        | _, some .directory => throw .isADirectory
        | _, _ => moveEntry source dest
  | _, _ => throw .busy

/-- Writes what the file `a` holds to `b`, with the permissions of `a`. The destination is emptied before
the source is read. -/
def copy (a b : Path) : FileM Unit := do
  match ← look (·.find a) with
  | (source, e) =>
    if !e.isFile then throw .notRegular
    let dest ← locateForWriting b
    if (← entryAt? dest) ≠ some .void then
      let isSame := ((← get).files.places source).contains dest
      update (·.replace dest (if isSame then .file [] e.isRunnable else e))

def makeLink (target p : Path) : FileM Unit := do
  match ← ending p with
  | .name parent name =>
    match ← entryAt? (parent ++ [name]) with
    | some _ => throw .alreadyExists
    | none =>
      if p.endsInSlash then throw .notFound
      else update (·.put (parent ++ [name]) (.link target))
  | _ => throw .alreadyExists

/-- Gives the entry `a`, which is no directory, a second place. -/
def makeTwin (a b : Path) : FileM Unit := do
  let source ← look (·.locate a .entry)
  match ← ending b with
  | .name parent name =>
    match ← entryAt? source, ← entryAt? (parent ++ [name]) with
    | none, _ => throw .notFound
    | _, some _ => throw .alreadyExists
    | some .directory, none => throw .notPermitted
    | some _, none =>
      if b.endsInSlash then throw .notFound
      else update (·.share source (parent ++ [name]))
  | _ => throw .alreadyExists

def setExecutable (p : Path) (executable : Bool) : FileM Unit := do
  let (l, e) ← look (·.find p)
  update (·.replace l (e.withRight executable))

end ReleaseMatrix.FileM

namespace ReleaseMatrix.Files

def makeDirectories (p : Path) : TaskM FileError Unit :=
  (FileM.makeDirectories p).describe (.makeDirectory p ·.message)

/-- Removes a directory with all that is in it, if it is there. -/
def removeDirectory (p : Path) : TaskM FileError Unit := do
  if (← get).exists? p then (FileM.removeTree p).describe (.removeDirectory p ·.message)

/-- Makes the directories above a path. -/
def makeParent (p : Path) : TaskM FileError Unit :=
  match p.parent? with
  | some parent => makeDirectories parent
  | none => pure ()

/-- Moves a file, in place of what has the name. What cannot be renamed is copied and then removed. -/
def move (source dest : Path) : TaskM FileError Unit := do
  makeParent dest
  match ← (FileM.rename source dest).attempt with
  | .ok () => pure ()
  | .error _ =>
    TaskM.describe (.move source dest ·.message) do
      FileM.copy source dest
      FileM.removeFile source

def writeText (p : Path) (text : String) : TaskM FileError Unit := do
  makeParent p
  (FileM.write p (Text.Utf8.encode text)).describe (.write p ·.message)

end ReleaseMatrix.Files
