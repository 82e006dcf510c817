import ReleaseMatrix.Build.Request
import ReleaseMatrix.FileTree.Walk
import ReleaseMatrix.Package.Spec
import ReleaseMatrix.Text.Quoted

namespace ReleaseMatrix

/-- What a release notes down while it runs: which external tools it ran, what the packager wrote, and which
targets are done. -/
inductive Event
  | compiled (request : BuildRequest)
  | packed (request : PackageRequest)
  | produced (request : PackageRequest) (content : Bytes)
  | finished (target : Target)
deriving DecidableEq, Repr

/-- The files that a release works on, the directory that relative paths start in, and what happened so
far, in order. -/
structure Workspace where
  files : FileTree
  directory : Location
  journal : List Event

/-- Work on a workspace that can fail. What was changed before a failure stays changed. -/
abbrev TaskM (ε : Type) := ExceptT ε (StateM Workspace)

abbrev FileM := TaskM FileFault

/-- The same work, whose failures are told in other words. -/
def TaskM.describe {ε δ α : Type} (describe : ε → δ) (x : TaskM ε α) : TaskM δ α :=
  ExceptT.adapt describe x

/-- The outcome of the work as a value. -/
def TaskM.attempt {ε δ α : Type} (x : TaskM ε α) : TaskM δ (Except ε α) :=
  ExceptT.lift x.run

namespace Workspace

def locate (w : Workspace) (p : Path) (quarry : Quarry) : Except FileFault Location :=
  w.files.locate w.directory p quarry

/-- The place of a path and what stands there, through links at its end. -/
def find (w : Workspace) (p : Path) : Except FileFault (Location × Entry) := do
  let l ← w.locate p .target
  match w.files.get? l with
  | some e => pure (l, e)
  | none => throw .notFound

/-- What a path names, through links; `none` if nothing is there. -/
def entry? (w : Workspace) (p : Path) : Option Entry :=
  match w.find p with
  | .ok (_, e) => some e
  | .error _ => none

def exists? (w : Workspace) (p : Path) : Bool :=
  (w.entry? p).isSome

def isFile (w : Workspace) (p : Path) : Bool :=
  (w.entry? p).any Entry.isFile

def isDirectory (w : Workspace) (p : Path) : Bool :=
  w.entry? p == some .directory

def read (w : Workspace) (p : Path) : Except FileFault Bytes := do
  match (← w.find p).2.content? with
  | some content => pure content
  | none => throw .isADirectory

def readText (w : Workspace) (p : Path) : Except FileFault String := do
  match Text.Utf8.decode? (← w.read p) with
  | some text => pure text
  | none => throw .invalidText

/-- The names in a directory, in increasing order. -/
def list (w : Workspace) (p : Path) : Except FileFault (List String) := do
  match ← w.find p with
  | (l, .directory) => pure (w.files.names l)
  | _ => throw .notADirectory

/-- The absolute path of a place. -/
def pathOf (l : Location) : Path :=
  ⟨"/" ++ Text.join '/' l⟩

/-- The one absolute path, free of links and dots, of what `p` names. -/
def canonical (w : Workspace) (p : Path) : Except FileFault Path := do
  let (l, _) ← w.find p
  pure (pathOf l)

def record (w : Workspace) (e : Event) : Workspace :=
  { w with journal := w.journal ++ [e] }

end Workspace

namespace FileM

/-- What a look at the workspace gives, or the fault that it finds. -/
def look {α : Type} (f : Workspace → Except FileFault α) : FileM α := do
  MonadExcept.ofExcept (f (← get))

def update (f : FileTree → FileTree) : FileM Unit :=
  modify fun w => { w with files := f w.files }

end FileM

/-- The message of a worker that broke down instead of finishing. -/
structure Crash where
  message : String
deriving DecidableEq, Repr

/-- How the breakdown of a worker is told. -/
def Crash.cause (c : Crash) : String :=
  "task # panicked with message " ++ Text.quote c.message

/-- Why work stops early: it fails, or its worker breaks down. -/
inductive Stop (ε : Type)
  | failed (error : ε)
  | crashed (crash : Crash)
deriving DecidableEq, Repr

/-- Work that an external tool takes part in, so that it may break down. -/
abbrev WorkM (ε : Type) := TaskM (Stop ε)

namespace WorkM

/-- Work that does not break down. -/
def ofTask {ε α : Type} (x : TaskM ε α) : WorkM ε α :=
  x.describe .failed

def fail {ε α : Type} (error : ε) : WorkM ε α :=
  throw (.failed error)

/-- The outcome of the work as a value, unless it breaks down. -/
def outcome {ε α : Type} (x : WorkM ε α) : TaskM Crash (Except ε α) := do
  match ← x.attempt with
  | .ok a => pure (.ok a)
  | .error (.failed error) => pure (.error error)
  | .error (.crashed crash) => throw crash

end WorkM

end ReleaseMatrix
