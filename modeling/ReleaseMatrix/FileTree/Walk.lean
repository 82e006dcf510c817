import ReleaseMatrix.FileTree

namespace ReleaseMatrix

/-- The names along a path, dots included. -/
def Path.steps (p : Path) : List String :=
  (Text.split '/' p.text).filter (· ≠ "")

def Path.endsInSlash (p : Path) : Bool :=
  p.text.toList.getLast? == some '/'

/-- What is looked for at the end of a path. -/
inductive Quarry
  /-- What has the name, even if it is a link. -/
  | entry
  /-- What links at the end lead to. -/
  | target
  /-- The place of a file that is made unless it is there. -/
  | newFile
deriving DecidableEq, Repr

/-- The step that a slash at the end of a path makes: what it follows must be a directory. -/
def Path.closingStep : String := "/"

/-- The steps of a path that is looked up. -/
def Path.lookupSteps (p : Path) : List String :=
  p.steps ++ if p.endsInSlash then [closingStep] else []

/-- Where a path starts when it is met in directory `here`. -/
def Path.start (p : Path) (here : Location) : Location :=
  if p.isAbsolute then [] else here

namespace FileTree

/-- The longest name in bytes that a directory holds. -/
def nameLimit : Nat := 255

/-- The length in bytes from which on a path is refused. -/
def pathLimit : Nat := 4096

/-- How many links one walk follows. -/
def linkLimit : Nat := 40

/-- Where a walk starts. From a directory that was removed, dots still lead on. -/
def enter (t : FileTree) : Location → List String → Location × List String
  | here, [] => (here, [])
  | here, step :: rest =>
    if (t.get? here).isSome then (here, step :: rest)
    else if step = "." then enter t here rest
    else if step = ".." then enter t here.dropLast rest
    else (here, step :: rest)

/-- Walks the steps from `here`. A link on the way is handed to `jump` together with the steps after it;
a link at the end is handed over unless it is what is looked for. The place reached need not exist, but
the directory that would hold it does. No file is made with a slash at its end. -/
def walkWith (t : FileTree) (quarry : Quarry)
    (jump : Location → List String → Except FileFault Location) :
    Location → List String → Except FileFault Location
  | here, [] => .ok here
  | here, step :: rest =>
    match t.get? here with
    | none => .error .notFound
    | some .directory =>
      if step = "." || step = Path.closingStep then walkWith t quarry jump here rest
      else if step = ".." then walkWith t quarry jump here.dropLast rest
      else if quarry = .newFile && rest = [Path.closingStep] then .error .isADirectory
      else if step.utf8ByteSize > nameLimit then .error .nameTooLong
      else match t.get? (here ++ [step]) with
        | some (.link target) =>
          if rest.isEmpty && quarry = .entry then .ok (here ++ [step])
          else jump (target.start here) (target.lookupSteps ++ rest)
        | _ => walkWith t quarry jump (here ++ [step]) rest
    | some _ => .error .notADirectory

/-- Walks with a bound on the links that are followed. -/
def walk (t : FileTree) (quarry : Quarry) : Nat → Location → List String → Except FileFault Location
  | 0 => walkWith t quarry fun _ _ => .error .tooManyLinks
  | n + 1 => walkWith t quarry (walk t quarry n)

/-- What is wrong with a path whatever the tree holds. -/
def checkPath (p : Path) : Except FileFault Unit :=
  if p.text.toList.contains '\x00' then .error .nulInName
  else if p.text.isEmpty then .error .notFound
  else if p.text.utf8ByteSize ≥ pathLimit then .error .nameTooLong
  else .ok ()

/-- The place that a path names when it is met in directory `here`. That a file with a slash at its end cannot be
made is found even in a directory that was removed. -/
def locate (t : FileTree) (here : Location) (p : Path) (quarry : Quarry) : Except FileFault Location := do
  checkPath p
  let (start, steps) := t.enter (p.start here) p.lookupSteps
  if quarry = .newFile && (t.get? start).isNone && steps.drop 1 = [Path.closingStep] then throw .isADirectory
  walk t quarry linkLimit start steps

/-- How a path ends once its directory is found: in a name, in a dot or two, or at the root. -/
inductive Ending
  | name (parent : Location) (name : String)
  | here
  | up
  | root

/-- The ending of a path that names something to make, remove or rename. -/
def ending (t : FileTree) (here : Location) (p : Path) : Except FileFault Ending := do
  checkPath p
  match p.steps.reverse with
  | [] => pure .root
  | last :: before =>
    let (start, steps) := t.enter (p.start here) before.reverse
    let parent ← walk t .target linkLimit start steps
    match t.get? parent with
    | none => throw .notFound
    | some .directory =>
      if last = "." then pure .here
      else if last = ".." then pure .up
      else if last.utf8ByteSize > nameLimit then throw .nameTooLong
      else pure (.name parent last)
    | some _ => throw .notADirectory

end FileTree

end ReleaseMatrix
