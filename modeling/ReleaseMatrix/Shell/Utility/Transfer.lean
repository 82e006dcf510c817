import ReleaseMatrix.Shell.Utility.Basic

namespace ReleaseMatrix.Shell.Utility

/-- Where each of some sources goes: the paths, and whether the last one is a directory that takes them. -/
inductive Plan
  | single (source dest : Octets)
  | into (sources : List Octets) (directory : Octets)
  | refused (status : Nat)

/-- Finds out from the words of a program what goes where. -/
def plan (g : Given) : ShellM Plan := do
  let refuse (message : Octets) : ShellM Plan := do return .refused (← misuse message 1)
  match g.argument? 't', g.operands with
  | some directory, sources =>
    if sources.isEmpty then refuse "missing file operand"
    else match ← look directory with
      | .ok (_, .directory) => pure (.into sources directory)
      | .ok _ =>
        warn ("target directory " ++ quoted directory ++ ": Not a directory")
        pure (.refused 1)
      | .error fault =>
        warn ("target directory " ++ quoted directory ++ ": " ++ fault.text)
        pure (.refused 1)
  | none, [] => refuse "missing file operand"
  | none, [source] => refuse ("missing destination file operand after " ++ quoted source)
  | none, [source, dest] =>
    if !(g.has 'T') && (← isDirectory dest) then pure (.into [source] dest) else pure (.single source dest)
  | none, words =>
    if g.has 'T' then refuse ("extra operand " ++ quoted (words[2]?.getD ""))
    else
      let directory := words.getLastD ""
      match ← look directory with
      | .ok (_, .directory) => pure (.into words.dropLast directory)
      | .ok _ =>
        warn ("target " ++ quoted directory ++ ": Not a directory")
        pure (.refused 1)
      | .error fault =>
        warn ("target " ++ quoted directory ++ ": " ++ fault.text)
        pure (.refused 1)

/-- Does work for each source and where it goes. -/
def carryOutPlan (p : Plan) (work : Octets → Octets → ShellM Nat) : ShellM Nat :=
  match p with
  | .refused status => pure status
  | .single source dest => work source dest
  | .into sources directory =>
    forEach sources fun source => work source (under directory (baseName source))

/-- What is said of a source and where it went. -/
def say (isAsked : Bool) (text : Octets) (status : Nat) : ShellM Nat :=
  if isAsked && status = 0 then print (text ++ "\n") else pure status

/-- Whether two places hold the same file. -/
def isSame (w : Workspace) (a b : Location) : Bool :=
  a = b || (w.files.places a).contains b

/-- Moves one file or directory. -/
def moveOne (g : Given) (source dest : Octets) : ShellM Nat := do
  let refuse (message : Octets) : ShellM Nat := do
    warn message
    pure 1
  let done : ShellM Nat := say (g.has 'v') ("renamed " ++ quoted source ++ " -> " ++ quoted dest) 0
  match ← lookAt source, ← lookAt dest with
  | .error fault, _ => refuse ("cannot stat " ++ quoted source ++ ": " ++ fault.text)
  | .ok (a, e), found =>
    let w := (← get).workspace
    let rename : ShellM Nat := do
      match ← ShellM.onFiles (FileM.rename (Octets.toPath source) (Octets.toPath dest)) with
      | .ok () => done
      | .error .directoryNotEmpty => refuse ("cannot overwrite " ++ quoted dest ++ ": Directory not empty")
      | .error .invalidArgument =>
        refuse ("cannot move " ++ quoted source ++ " to a subdirectory of itself, " ++ quoted dest)
      | .error fault => refuse ("cannot move " ++ quoted source ++ " to " ++ quoted dest ++ ": " ++ fault.text)
    match found with
    | .error _ => rename
    | .ok (b, old) =>
      if a = b then refuse (quoted source ++ " and " ++ quoted dest ++ " are the same file")
      else if g.has 'n' then pure 0
      else if isSame w a b then do
        let _ ← ShellM.onFiles (FileM.removeFile (Octets.toPath source))
        done
      else if e = .directory && old ≠ .directory then
        refuse ("cannot overwrite non-directory " ++ quoted dest ++ " with directory " ++ quoted source)
      else if e ≠ .directory && old = .directory then
        refuse ("cannot overwrite directory " ++ quoted dest ++ " with non-directory")
      else rename

def mv : Work := fun words =>
  withGiven 1
    (forms "bfint:uvTS:Z" [('f', "force"), ('n', "no-clobber"), ('v', "verbose"), ('t', "target-directory"),
      ('T', "no-target-directory"), ('i', "interactive"), ('u', "update")]) words
    fun g => do carryOutPlan (← plan g) (moveOne g)

/-- Copies what a file holds to a place where a file is, or may be made. -/
def copyContent (keepsRights : Bool) (e : Entry) (dest : Octets) : ShellM Nat := do
  let refuse (message : Octets) : ShellM Nat := do
    warn message
    pure 1
  match ← ShellM.openPath dest .write with
  | .error fault =>
    match ← lookAt dest with
    | .ok (_, .link _) => refuse ("not writing through dangling symlink " ++ quoted dest)
    | _ =>
      let fault := if fault = .isADirectory then .notADirectory else fault
      refuse ("cannot create regular file " ++ quoted dest ++ ": " ++ fault.text)
  | .ok _ =>
    match ← look dest with
    | .error _ => pure 0
    | .ok (l, made) => do
      let content := e.content?.getD []
      let whole := if keepsRights then (made.withContent content).withRight e.isRunnable
        else made.withContent content
      let _ ← ShellM.onFiles (FileM.update (·.replace l whole))
      pure 0

/-- Copies one file or directory, with all that is below it where that is said. -/
def copyOne (g : Given) (isDeep follows : Bool) : Nat → Octets → Octets → ShellM Nat
  | 0, _, _ => pure 1
  | n + 1, source, dest => do
    let refuse (message : Octets) : ShellM Nat := do
      warn message
      pure 1
    let done (status : Nat) : ShellM Nat :=
      say (g.has 'v') (quoted source ++ " -> " ++ quoted dest) status
    match ← if follows then look source else lookAt source, ← look dest with
    | .error fault, _ => refuse ("cannot stat " ++ quoted source ++ ": " ++ fault.text)
    | .ok (a, .directory), found =>
      let w := (← get).workspace
      if !isDeep then refuse ("-r not specified; omitting directory " ++ quoted source)
      else match found with
        | .ok (_, .directory) | .error _ => do
          let made ← match found with
            | .ok _ => pure 0
            | .error _ => do
              tryFiles ("cannot create directory " ++ quoted dest)
                (FileM.makeDirectory (Octets.toPath dest))
          if made ≠ 0 then pure made
          else
            let status ← done 0
            let place? := (← look dest).toOption.map (·.1)
            (w.files.names a).foldlM (fun status name => do
              let inner := Octets.ofText name
              if place? = some (a ++ [name]) then pure status
              else pure (max status (← copyOne g isDeep (g.has 'L') n (under source inner) (under dest inner))))
              status >>= fun status =>
                if place?.any a.isPrefixOf && place? ≠ some a then
                  refuse ("cannot copy a directory, " ++ quoted source ++ ", into itself, " ++ quoted dest)
                else pure status
        | .ok _ =>
          refuse ("cannot overwrite non-directory " ++ quoted dest ++ " with directory " ++ quoted source)
    | .ok (a, e), found =>
      let w := (← get).workspace
      match found with
      | .ok (_, .directory) => refuse ("cannot overwrite directory " ++ quoted dest ++ " with non-directory")
      | found =>
        let isTwin := found.toOption.any fun (b, _) => isSame w a b
        if isTwin && !(g.has 's' || g.has 'l') then
          refuse (quoted source ++ " and " ++ quoted dest ++ " are the same file")
        else if found.isOk && g.has 'n' then pure 0
        else match e with
          | .link target => do
            if (← lookAt dest).isOk then
              let _ ← ShellM.onFiles (FileM.removeFile (Octets.toPath dest))
            done (← tryFiles ("cannot create symbolic link " ++ quoted dest)
              (FileM.makeLink target (Octets.toPath dest)))
          | e =>
            if g.has 's' then
              done (← tryFiles ("cannot create symbolic link " ++ quoted dest ++ " to " ++ quoted source)
                (FileM.makeLink (Octets.toPath source) (Octets.toPath dest)))
            else if g.has 'l' then
              done (← tryFiles ("cannot create hard link " ++ quoted dest ++ " to " ++ quoted source)
                (FileM.makeTwin (Octets.toPath source) (Octets.toPath dest)))
            else
              let keepsRights := !found.isOk || g.has 'p' || g.has 'a'
              done (← copyContent keepsRights e dest)

def cp : Work := fun words =>
  withGiven 1
    (forms "abdfilnprst:uvxHLPRTS:Z" [('a', "archive"), ('f', "force"), ('n', "no-clobber"), ('p', "preserve"),
      ('r', "recursive"), ('v', "verbose"), ('t', "target-directory"), ('T', "no-target-directory"),
      ('L', "dereference"), ('P', "no-dereference"), ('s', "symbolic-link"), ('l', "link"), ('u', "update")])
    words fun g => do
      let isDeep := g.has 'r' || g.has 'R' || g.has 'a'
      let keepsLinks := (isDeep || g.has 'P' || g.has 'd') && !(g.has 'L') && !(g.has 'H')
      carryOutPlan (← plan g) (copyOne g isDeep (!keepsLinks) 64)

/-- Makes one link. -/
def linkOne (g : Given) (source dest : Octets) : ShellM Nat := do
  let refuse (message : Octets) : ShellM Nat := do
    warn message
    pure 1
  let isSymbolic := g.has 's'
  let found ← lookAt dest
  let origin ← if g.has 'L' then look source else lookAt source
  let done (status : Nat) : ShellM Nat :=
    say (g.has 'v') (quoted dest ++ (if isSymbolic then " -> " else " => ") ++ quoted source) status
  let w := (← get).workspace
  match isSymbolic, origin, found with
  | false, .error fault, _ => refuse ("failed to access " ++ quoted source ++ ": " ++ fault.text)
  | false, .ok (_, .directory), _ => refuse (quotedIfOdd source ++ ": hard link not allowed for directory")
  | isSymbolic, origin, found => do
    let isTwin := !isSymbolic && found.toOption.any fun (b, _) => origin.toOption.any fun (a, _) => isSame w a b
    let isSelf := isTwin && found.toOption.map (·.1) = origin.toOption.map (·.1)
    if isSelf && g.has 'f' then refuse (quoted source ++ " and " ++ quoted dest ++ " are the same file")
    else if isTwin && g.has 'f' then done 0
    else
      if g.has 'f' && found.isOk then
        let _ ← ShellM.onFiles (FileM.removeFile (Octets.toPath dest))
      if isSymbolic then
        if source.isEmpty then
          refuse ("failed to create symbolic link " ++ quoted dest ++ " -> '': No such file or directory")
        else
          done (← tryFiles ("failed to create symbolic link " ++ quoted dest)
            (FileM.makeLink (Octets.toPath source) (Octets.toPath dest)))
      else
        match ← ShellM.onFiles (FileM.makeTwin (Octets.toPath source) (Octets.toPath dest)) with
        | .ok () => done 0
        | .error .alreadyExists => refuse ("failed to create hard link " ++ quoted dest ++ ": File exists")
        | .error fault => refuse ("failed to create hard link " ++ quoted dest ++ " => " ++ quoted source ++ ": " ++
            fault.text)

def ln : Work := fun words =>
  withGiven 1
    (forms "bdfinst:vFLPTS:r" [('s', "symbolic"), ('f', "force"), ('n', "no-dereference"), ('v', "verbose"),
      ('t', "target-directory"), ('T', "no-target-directory")]) words fun g => do
      match g.operands, g.argument? 't' with
      | [source], none =>
        if g.has 'T' then misuse ("missing destination file operand after " ++ quoted source) 1
        else linkOne g source (under "." (baseName source))
      | [source, dest], none =>
        let isLink := (← lookAt dest).toOption.any fun (_, e) => e matches .link _
        if g.has 'n' && isLink then linkOne g source dest else carryOutPlan (← plan g) (linkOne g)
      | _, _ => do carryOutPlan (← plan g) (linkOne g)

/-- Prints where paths lead to, or what links hold. -/
def showPath (ending : Octets) (isQuiet : Bool) (find : Octets → ShellM (Except FileFault Octets))
    (paths : List Octets) : ShellM Nat :=
  forEach paths fun path => do
    match ← find path with
    | .ok text => print (text ++ ending)
    | .error fault =>
      if !isQuiet then warn (quotedIfOdd path ++ ": " ++ fault.text)
      pure 1

/-- The absolute path of what a path leads to. Its last name need not be there, or none of them. -/
def fullPath (needsLast needsAll : Bool) (path : Octets) : ShellM (Except FileFault Octets) := do
  let w := (← get).workspace
  let show' (l : Location) : Octets := Octets.ofText (Workspace.pathOf l).text
  match w.locate (Octets.toPath path) .target with
  | .ok l =>
    if needsLast && (w.files.get? l).isNone then pure (.error .notFound) else pure (.ok (show' l))
  | .error fault =>
    if needsAll then pure (.error fault)
    else
      let here := (Workspace.pathOf w.directory).text
      let steps := Text.split '/' (if (Octets.toPath path).isAbsolute then Octets.toText path
        else here ++ "/" ++ Octets.toText path)
      let place := steps.foldl (fun l step =>
        if step = "" || step = "." then l else if step = ".." then l.dropLast else l ++ [step]) []
      pure (.ok (show' place))

def readlink : Work := fun words =>
  withGiven 1
    (forms "femnqsvz" [('f', "canonicalize"), ('e', "canonicalize-existing"), ('m', "canonicalize-missing"),
      ('n', "no-newline"), ('q', "quiet"), ('s', "silent"), ('v', "verbose"), ('z', "zero")]) words fun g => do
      if g.operands.isEmpty then misuse "missing operand" 1
      else
        let ending := if g.has 'n' && g.operands.length = 1 then "" else if g.has 'z' then "\x00" else "\n"
        let isFull := g.has 'f' || g.has 'e' || g.has 'm'
        let target (path : Octets) : ShellM (Except FileFault Octets) := do
          match ← lookAt path with
          | .ok (_, .link target) => pure (.ok (Octets.ofText target.text))
          | .ok _ => pure (.error .invalidArgument)
          | .error fault => pure (.error fault)
        let find := if isFull then fullPath (g.has 'e') (!g.has 'm') else target
        showPath ending (!g.has 'v') find g.operands

def realpath : Work := fun words =>
  withGiven 1
    (forms "eLmPqsz" [('e', "canonicalize-existing"), ('m', "canonicalize-missing"), ('q', "quiet"),
      ('s', "strip"), ('z', "zero")]) words fun g => do
      if g.operands.isEmpty then misuse "missing operand" 1
      else
        let ending := if g.has 'z' then "\x00" else "\n"
        showPath ending (g.has 'q') (fullPath (g.has 'e') (!g.has 'm')) g.operands

end ReleaseMatrix.Shell.Utility
