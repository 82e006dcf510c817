import ReleaseMatrix.Shell.Value
import ReleaseMatrix.Shell.Utility.Basic

namespace ReleaseMatrix.Shell.Utility

open FileM (makeDirectory removeFile removeDirectory)

/-- The path of a directory and the paths of those above it, the highest one first. -/
def pathsAbove (path : Octets) : List Octets :=
  let steps := Text.split '/' path
  let starts := (List.range steps.length).map fun n => Text.join '/' (steps.take (n + 1))
  (starts.filter fun p => p.toList.any (· ≠ '/')).eraseDups

/-- Makes a directory, and says so if that is asked for. -/
def makeOne (talks : Bool) (path : Octets) : ShellM Nat := do
  let status ← tryFiles ("cannot create directory " ++ quoted path) (makeDirectory (Octets.toPath path))
  if status = 0 && talks then
    print ((← ShellM.self).name ++ ": created directory " ++ quoted path ++ "\n")
  else pure status

/-- Makes the directories of a path that are missing, up to the first one that cannot be made. -/
def makeAll (talks : Bool) : List Octets → ShellM Nat
  | [] => pure 0
  | path :: more => do
    match ← look path with
    | .ok (_, .directory) => makeAll talks more
    | .ok _ =>
      warn ("cannot create directory " ++ quoted path ++ ": " ++
        if more.isEmpty then "File exists" else "Not a directory")
      pure 1
    | .error _ =>
      let status ← makeOne talks path
      if status = 0 then makeAll talks more else pure status

def mkdir : Work := fun words =>
  withGiven 1 (forms "m:pvZ" [('m', "mode"), ('p', "parents"), ('v', "verbose")]) words fun g => do
    if g.operands.isEmpty then misuse "missing operand" 1
    else forEach g.operands fun path =>
      if g.has 'p' && !path.isEmpty then
        let ending := (path.toList.reverse.dropWhile (· = '/')).reverse
        makeAll (g.has 'v') (pathsAbove (if ending.isEmpty then "/" else String.ofList ending))
      else makeOne (g.has 'v') path

def rmdir : Work := fun words =>
  withGiven 1 (forms "pv" [('p', "parents"), ('v', "verbose"), ('ι', "ignore-fail-on-non-empty")]) words
    fun g => do
      if g.operands.isEmpty then misuse "missing operand" 1
      else forEach g.operands fun path =>
        let paths := if g.has 'p' then (pathsAbove path).reverse else [path]
        removeEach paths
where
  removeEach : List Octets → ShellM Nat
    | [] => pure 0
    | path :: more => do
      let status ← tryFiles ("failed to remove " ++ quoted path) (removeDirectory (Octets.toPath path))
      if status = 0 then removeEach more else pure status

/-- Whether a path ends in dots, which no removal follows. -/
def endsInDots (path : Octets) : Bool :=
  baseName path = "." || baseName path = ".."

/-- What is told of the removal of all that is below a directory. -/
def removalsBelow (w : Workspace) : Nat → Octets → Location → List Octets
  | 0, _, _ => []
  | n + 1, path, l =>
    (w.files.names l).flatMap fun name =>
      let inner := under path (Octets.ofText name)
      match w.files.get? (l ++ [name]) with
      | some .directory =>
        removalsBelow w n inner (l ++ [name]) ++ ["removed directory " ++ quoted inner ++ "\n"]
      | _ => ["removed " ++ quoted inner ++ "\n"]

/-- Removes one path, with all that is below it where that is said. -/
def removeOne (g : Given) (path : Octets) : ShellM Nat := do
  let isDeep := g.has 'r' || g.has 'R'
  let say (status : Nat) (text : Octets) : ShellM Nat :=
    if status = 0 && g.has 'v' then print (text ++ quoted path ++ "\n") else pure status
  if isDeep && endsInDots path then
    warn ("refusing to remove '.' or '..' directory: skipping " ++ quoted path)
    pure 1
  else match ← lookAt path with
    | .error fault =>
      if g.has 'f' && (fault = .notFound || fault = .notADirectory) then pure 0
      else
        warn ("cannot remove " ++ quoted path ++ ": " ++ fault.text)
        pure 1
    | .ok ([], .directory) =>
      warn "it is dangerous to operate recursively on '/'\nrm: use --no-preserve-root to override this failsafe"
      pure 1
    | .ok (l, .directory) =>
      let message := "cannot remove " ++ quoted path
      if isDeep then do
        let told := removalsBelow (← get).workspace 64 path l
        let status ← tryFiles message (FileM.removeTree (Octets.toPath path))
        if status = 0 && g.has 'v' then
          let _ ← print (String.join told)
        say status "removed directory "
      else if g.has 'd' then do
        let status ← tryFiles message (removeDirectory (Octets.toPath path))
        say status "removed directory "
      else
        warn (message ++ ": Is a directory")
        pure 1
    | .ok _ => do
      let status ← tryFiles ("cannot remove " ++ quoted path) (removeFile (Octets.toPath path))
      say status "removed "

def rm : Work := fun words =>
  withGiven 1 (forms "dfirRvI" [('d', "dir"), ('f', "force"), ('r', "recursive"), ('v', "verbose")]) words
    fun g => do
      if g.operands.isEmpty then
        if g.has 'f' then pure 0 else misuse "missing operand" 1
      else forEach g.operands (removeOne g)

/-- Makes a file unless it is there. -/
def touchOne (creates : Bool) (path : Octets) : ShellM Nat := do
  match ← look path with
  | .ok _ => pure 0
  | .error fault =>
    if !creates && fault = .notFound then pure 0
    else tryFiles ("cannot touch " ++ quoted path) (FileM.write (Octets.toPath path) [])

def touch : Work := fun words =>
  withGiven 1
    (forms "acd:fhmr:t:" [('c', "no-create"), ('d', "date"), ('r', "reference"), ('h', "no-dereference")]) words
    fun g => do
      if g.operands.isEmpty then misuse "missing file operand" 1
      else forEach g.operands (touchOne !(g.has 'c'))

/-- The rights of a file as nine bits. -/
def rightsOf (e : Entry) : Nat :=
  if e = .directory || e.isRunnable then 493 else 420

/-- Sets the rights of one path, and of what is below it where that is said. -/
def chmodOne (isDeep : Bool) (mode : Octets) : Nat → Octets → ShellM Nat
  | 0, _ => pure 0
  | n + 1, path => do
    match ← look path with
    | .error fault =>
      warn (match ← lookAt path with
        | .ok _ => "cannot operate on dangling symlink " ++ quoted path
        | .error _ => "cannot access " ++ quoted path ++ ": " ++ fault.text)
      pure 1
    | .ok (l, e) => do
      let mask := (← get).self.mask
      let rights := (changeRights mode (e = .directory) mask (rightsOf e)).getD 0
      let _ ← ShellM.onFiles (FileM.setExecutable (Octets.toPath path) (rights &&& 73 ≠ 0))
      if isDeep && e = .directory then
        let names := (← get).workspace.files.names l
        names.foldlM (fun status name => do
          pure (max status (← chmodOne isDeep mode n (under path (Octets.ofText name))))) 0
      else pure 0

def chmod : Work := fun words => do
  let isMode (word : Octets) : Bool := (changeRights word false 0 0).isSome
  let (dashed, words) := words.partition fun word =>
    word.toList.head? = some '-' && word.length > 1 && isMode word
  withGiven 1 (forms "cfvR" [('R', "recursive"), ('v', "verbose"), ('f', "silent"), ('c', "changes")])
    words fun g => do
      match dashed ++ g.operands with
      | [] => misuse "missing operand" 1
      | [mode] => misuse ("missing operand after " ++ quoted mode) 1
      | mode :: paths =>
        if isMode mode then forEach paths (chmodOne (g.has 'R') mode 64)
        else misuse ("invalid mode: " ++ quoted mode) 1

end ReleaseMatrix.Shell.Utility
