import ReleaseMatrix.Indented.Operation
import ReleaseMatrix.Indented.OpenFiles
import ReleaseMatrix.Shell.Pattern
import ReleaseMatrix.Shell.Signal

namespace ReleaseMatrix.Indented

namespace PathText

/-- What is before the last slash of a path, and what is after it. -/
def split (s : String) : String × String :=
  let cs := s.toList
  let name := (cs.reverse.takeWhile (· ≠ '/')).reverse
  let head := cs.take (cs.length - name.length)
  let trimmed := (head.reverse.dropWhile (· = '/')).reverse
  (String.ofList (if trimmed.isEmpty then head else trimmed), String.ofList name)

def directory (s : String) : String := (split s).1

def name (s : String) : String := (split s).2

/-- A path without its last ending, and that ending. A dot at the start of a name begins none. -/
def splitEnding (s : String) : String × String :=
  let last := (name s).toList
  let lead := last.takeWhile (· = '.')
  let rest := last.drop lead.length
  let ending := (rest.reverse.takeWhile (· ≠ '.')).reverse
  if ending.length < rest.length then
    (String.ofList (s.toList.take (s.length - ending.length - 1)), String.ofList ('.' :: ending))
  else (s, "")

/-- A path without dots and doubled slashes, as it reads. -/
def normal (s : String) : String :=
  let root := if s.startsWith "//" && !s.startsWith "///" then "//" else if s.startsWith "/" then "/" else ""
  let steps := (s.splitOn "/").filter fun step => step ≠ "" && step ≠ "."
  let kept := steps.foldl (fun (kept : List String) step =>
    if step ≠ ".." then step :: kept
    else match kept with
      | ".." :: _ => step :: kept
      | _ :: rest => rest
      | [] => if root = "" then [step] else []) []
  let text := root ++ "/".intercalate kept.reverse
  if text = "" then "." else text

/-- A path from a directory on. -/
def relative (path start : String) : String :=
  let steps (s : String) : List String := (s.splitOn "/").filter (· ≠ "")
  let a := steps path
  let b := steps start
  let common := ((a.zip b).takeWhile fun (x, y) => x = y).length
  let all := List.replicate (b.length - common) ".." ++ a.drop common
  if all.isEmpty then "." else "/".intercalate all

/-- The steps of a path object, with its root as the first one. -/
def parts (s : String) : List String :=
  let root := if s.startsWith "//" && !s.startsWith "///" then ["//"] else if s.startsWith "/" then ["/"] else []
  root ++ (s.splitOn "/").filter fun step => step ≠ "" && step ≠ "."

/-- The path object with some steps. -/
def ofParts : List String → String
  | "/" :: rest => "/" ++ "/".intercalate rest
  | "//" :: rest => "//" ++ "/".intercalate rest
  | [] => "."
  | steps => "/".intercalate steps

/-- The last step of a path object, unless it is the root. -/
def lastName (s : String) : String :=
  match (parts s).getLast? with
  | some step => if step = "/" || step = "//" || step = "." then "" else step
  | none => ""

def parent (s : String) : String :=
  match parts s with
  | [] => "."
  | steps => if steps.length = 1 && s.startsWith "/" then s else ofParts steps.dropLast

/-- The ending of a name, if it has one. -/
def ending (name : String) : String :=
  let (before, ending) := splitEnding name
  if before = "" || ending = "." then "" else ending

/-- All endings of a name. -/
def endings (name : String) : List String :=
  if name.endsWith "." then []
  else ((String.ofList (name.toList.dropWhile (· = '.'))).splitOn ".").drop 1 |>.map ("." ++ ·)

end PathText

open Shell (Octets)

namespace RunM

variable (r : Runner)

def workspace : RunM Workspace := do
  return (← getThe Shell.State).workspace

/-- What is at a path, through links at its end. -/
def entryAt? (path : String) : RunM (Option Entry) := do
  return Workspace.entry? (← workspace) ⟨path⟩

def isDirectoryAt (path : String) : RunM Bool := do
  return (← workspace).isDirectory ⟨path⟩

/-- What is at a path itself, be it a link. -/
def ownEntryAt? (path : String) : RunM (Option Entry) := do
  let w ← workspace
  match w.locate ⟨path⟩ .entry with
  | .ok l => pure (w.files.get? l)
  | .error _ => pure none

def currentDirectory : RunM String := do
  return (Workspace.pathOf (← workspace).directory).text

/-- A path that starts at the root. -/
def absolutePath (path : String) : RunM String := do
  return PathText.normal (joinPath (← currentDirectory) path)

/-- A path without links as far as it is there. -/
def realPath : Nat → String → RunM String
  | 0, path => absolutePath path
  | n + 1, path => do
    let path ← absolutePath path
    match (← workspace).canonical ⟨path⟩ with
    | .ok p => pure p.text
    | .error _ =>
      let (directory, name) := PathText.split path
      if name = "" then pure path else return joinPath (← realPath n directory) name

/-- Where the home directory is. -/
def homeDirectory : RunM String := do
  return ((← getThe Shell.State).self.valueOf? "HOME").getD "/root"

def expandUser (path : String) : RunM String := do
  if path = "~" then homeDirectory
  else if path.startsWith "~/" then return (← homeDirectory) ++ String.ofList (path.toList.drop 1)
  else pure path

/-- Work on files that errors tell the path of. -/
def onPath {α : Type} (v? : Option Value) (work : FileM α) : RunM α :=
  onFiles [pathValue v?] work

/-- The names in a directory. -/
def namesAt (v? : Option Value) (path : String) : RunM (List String) :=
  onPath v? (FileM.look fun w => w.list ⟨path⟩)

/-- Makes a directory and those above it. -/
def makeDirectories (v? : Option Value) (isFine : Bool) : Nat → String → RunM Unit
  | 0, _ => pure ()
  | n + 1, path => do
    let (above, name) := PathText.split path
    let (above, name) := if name = "" then PathText.split above else (above, name)
    if above ≠ "" && name ≠ "" && (← entryAt? above).isNone then
      inLibrary "<frozen os>" "makedirs" 215 (makeDirectories (some (.text above)) true n above)
    match ← onShell (Shell.ShellM.onFiles (FileM.makeDirectory ⟨path⟩)) with
    | .ok _ => pure ()
    | .error fault =>
      if isFine && (← isDirectoryAt path) then pure ()
      else inLibrary "<frozen os>" "makedirs" 225 (raiseFault fault [pathValue v?])

/-- Sets the right to run a file. -/
def setMode (v? : Option Value) (path : String) (mode : Int) : RunM Unit :=
  onPath v? (FileM.setExecutable ⟨path⟩ (mode.toNat &&& 73 ≠ 0))

/-- What is known about what is at a path. -/
def statusAt (v? : Option Value) (path : String) (ofLink : Bool) : RunM Value := do
  let w ← workspace
  let found := w.locate ⟨path⟩ (if ofLink then .entry else .target)
  match found with
  | .error fault => raiseFault fault [pathValue v?]
  | .ok l =>
    match w.files.get? l with
    | none => raiseFault .notFound [pathValue v?]
    | some e =>
      let size := match e with
        | .link target => target.text.utf8ByteSize
        | .directory => 4096
        | e => (e.content?.getD []).length
      let kind := match e with
        | .directory => 16384
        | .link _ => 40960 + 511
        | .queue _ => 4096 + 420
        | .void => 8192 + 438
        | _ => 32768
      let rights := match e with
        | .directory => 493
        | .file _ executable => if executable then 493 else 420
        | .program _ => 493
        | _ => 0
      make (.instance (.kind "os.stat_result")
        [("st_mode", .whole (kind + rights)), ("st_size", .whole size), ("st_uid", .whole 0), ("st_gid", .whole 0),
          ("st_nlink", .whole (w.files.places l).length), ("st_mtime", .whole 1700000000)])

/-- The paths that a pattern finds. -/
def globPaths (pattern : String) (isDeep : Bool) : RunM (List String) := do
  let w ← workspace
  let glyphs := (Octets.ofText pattern).toList.map fun c => Shell.Glyph.mk c false
  let rules : Shell.PathPattern.PathRules := ⟨.plain, false, false, isDeep, false⟩
  let found := Shell.PathPattern.paths rules w glyphs
  pure (found.map Octets.toText)

/-- Whether a name is as a pattern says. -/
def matchesPattern (pattern name : String) : Bool :=
  let glyphs := pattern.toList.map fun c => Shell.Glyph.mk c false
  Shell.matchesAll (Shell.patternOf glyphs) name.toList

/-- Goes through a directory and all below it, as paths with the directories and the other names in each. -/
def walk (isTopDown : Bool) : Nat → String → RunM (List Value)
  | 0, _ => pure []
  | n + 1, top => do
    match (← workspace).list ⟨top⟩ with
    | .error _ => pure []
    | .ok names =>
      let directories ← names.filterM fun name => isDirectoryAt (joinPath top name)
      let files := names.filter (!directories.contains ·)
      let here := Value.tuple [.text top, ← makeList (directories.map .text), ← makeList (files.map .text)]
      let below ← directories.mapM fun name => do
        let path := joinPath top name
        if (← ownEntryAt? path) matches some (.link _) then pure [] else walk isTopDown n path
      pure (if isTopDown then here :: below.flatten else below.flatten ++ [here])

/-- Copies a directory with all that is in it. -/
def copyTree (isFine : Bool) : Nat → String → String → RunM Unit
  | 0, _, _ => pure ()
  | n + 1, source, dest => do
    let names ← namesAt (some (.text source)) source
    makeDirectories (some (.text dest)) isFine 64 dest
    for name in names do
      let a := joinPath source name
      let b := joinPath dest name
      if ← isDirectoryAt a then copyTree isFine n a b
      else onFiles [.text a, .text b] (FileM.copy ⟨a⟩ ⟨b⟩)

/-- Copies a file, into a directory if one is meant. Gives where to. -/
def copyFile (g : Given) (intoDirectory keepsRight : Bool) : RunM Value := do
  let source ← pathFor g 0 "src"
  let given ← pathFor g 1 "dst"
  let dest ← if intoDirectory && (← isDirectoryAt given) then pure (joinPath given (PathText.name source))
    else pure given
  let w ← workspace
  match w.find ⟨source⟩, w.find ⟨dest⟩ with
  | .error fault, _ => raiseFault fault [pathValue (g.argument? 0 "src")]
  | .ok (a, _), .ok (b, e) =>
    if a = b then raise "shutil.SameFileError" (Display.quoted source ++ " and " ++ Display.quoted dest ++
      " are the same file")
    if e = .directory then raiseFault .isADirectory [.text dest]
  | _, _ => pure ()
  if ← isDirectoryAt source then raiseFault .isADirectory [pathValue (g.argument? 0 "src")]
  let before ← entryAt? dest
  onFiles [.text dest] (FileM.copy ⟨source⟩ ⟨dest⟩)
  if !keepsRight then
    onFiles [.text dest] (FileM.setExecutable ⟨dest⟩ (before.any Entry.isRunnable))
  pure (if intoDirectory then .text dest else (g.argument? 1 "dst").getD .none)

/-- The program that a name stands for. -/
def findProgram (name : String) : RunM Value := do
  let isRunnable (path : String) : RunM Bool := return (← entryAt? path).any fun e => e.isFile && e.isRunnable
  if name.toList.contains '/' then
    return if ← isRunnable name then .text name else .none
  let path := ((← getThe Shell.State).self.valueOf? "PATH").getD "/bin:/usr/bin"
  match ← (path.splitOn ":").findM? fun d => isRunnable (joinPath d name) with
  | some d => pure (.text (joinPath d name))
  | none => pure .none

/-- Ends the process at once. -/
def endProcess {α : Type} (status : Int) : RunM α :=
  throw (.jumped (.gone (.exited (status % 256).toNat)))

/-- Sends a signal to a process. -/
def sendSignal (signal id : Int) : RunM Value := do
  let isSent ← onShell (do
    let isSent ← Shell.ShellM.send signal.toNat id.toNat
    Shell.ShellM.receiveMail
    pure isSent)
  if isSent then pure .none
  else raiseWith "ProcessLookupError" [.whole 3, .text "No such process"] [("errno", .whole 3)]

/-- What a function about paths as texts gives. -/
def pathFunction? (name : String) (g : Given) : Option (RunM Value) :=
  let path : RunM String := pathFor g 0 "path"
  let test (f : Workspace → Path → Bool) : RunM Value := do
    match g.plain.head? with
    | some (.whole _) => pure (.truth true)
    | _ => return .truth (f (← workspace) ⟨← path⟩)
  match name with
  | "join" => some do
    let steps ← g.plain.mapM fun v => do
      match v with
      | .text _ | .path _ => pathText v
      | v =>
        raise "TypeError" ("join() argument must be str, bytes, or os.PathLike object, not " ++
          Display.quoted (← kindName v))
    match steps with
    | [] => raise "TypeError" "join() missing 1 required positional argument: 'a'"
    | first :: rest =>
      pure (.text (rest.foldl (fun a b =>
        if b = "" && !(a.endsWith "/") && a ≠ "" then a ++ "/" else joinPath a b) first))
  | "basename" => some do return .text (PathText.name (← path))
  | "dirname" => some do return .text (PathText.directory (← path))
  | "split" => some do
    let (a, b) := PathText.split (← path)
    pure (.tuple [.text a, .text b])
  | "splitext" => some do
    let (a, b) := PathText.splitEnding (← path)
    pure (.tuple [.text a, .text b])
  | "normpath" => some do return .text (PathText.normal (← path))
  | "abspath" => some do return .text (← absolutePath (← path))
  | "realpath" => some do return .text (← realPath 64 (← path))
  | "relpath" => some do
    let start ← match g.argument? 1 "start" with
      | some v => pathText v
      | none => pure "."
    return .text (PathText.relative (← absolutePath (← path)) (← absolutePath start))
  | "isabs" => some do return .truth ((← path).startsWith "/")
  | "expanduser" => some do return .text (← expandUser (← path))
  | "expandvars" | "normcase" | "fspath" => some do return .text (← path)
  | "exists" => some (test fun w p => w.exists? p)
  | "lexists" => some do return .truth (← ownEntryAt? (← path)).isSome
  | "isfile" => some (test fun w p => w.isFile p)
  | "isdir" => some (test fun w p => w.isDirectory p)
  | "islink" => some do return .truth ((← ownEntryAt? (← path)) matches some (.link _))
  | "getsize" => some do
    let path ← path
    match ← onPath g.plain.head? (FileM.look fun w => w.find ⟨path⟩) with
    | (_, e) => pure (.whole (if e = .directory then 4096 else (e.content?.getD []).length))
  | "samefile" => some do
    let w ← workspace
    let first ← pathFor g 0 "f1"
    let second ← pathFor g 1 "f2"
    match w.find ⟨first⟩, w.find ⟨second⟩ with
    | .ok (a, _), .ok (b, _) => pure (.truth (a = b))
    | .error fault, _ => raiseFault fault [pathValue g.plain[0]?]
    | _, .error fault => raiseFault fault [pathValue g.plain[1]?]
  | "commonprefix" => some do
    let texts ← (← itemsOf r (g.plain.headD (.tuple []))).mapM pathText
    let common := match texts with
      | [] => []
      | first :: rest => rest.foldl (fun (common : List Char) s =>
        ((common.zip s.toList).takeWhile fun (a, b) => a = b).map (·.1)) first.toList
    pure (.text (String.ofList common))
  | _ => none

/-- What a function about files and processes gives. -/
def placeFunction? (name : String) (g : Given) : Option (RunM Value) :=
  let first? := g.plain.head?
  let path : RunM String := pathFor g 0 "path"
  let nothing (work : RunM Unit) : RunM Value := do
    work
    pure .none
  let two (work : Path → Path → FileM Unit) : RunM Value := do
    let a ← pathFor g 0 "src"
    let b ← pathFor g 1 "dst"
    nothing (onFiles [pathValue (g.argument? 0 "src"), pathValue (g.argument? 1 "dst")] (work ⟨a⟩ ⟨b⟩))
  let isFine : RunM Bool := do
    match g.argument? 2 "exist_ok" with
    | some v => isTrue r v
    | none => pure false
  match name with
  | "getcwd" => some do return .text (← currentDirectory)
  | "chdir" => some do
    let path ← path
    let l ← onPath first? (FileM.look fun w => do
      let (l, e) ← w.find ⟨path⟩
      if e = .directory then pure l else throw .notADirectory)
    modifyThe Shell.State fun s => { s with workspace.directory := l, self.directory := "" }
    pure .none
  | "listdir" => some do
    let path ← match first? with
      | none | some .none => pure "."
      | some v => pathText v
    makeList ((← namesAt (some (first?.getD (.text "."))) path).map .text)
  | "mkdir" => some do
    let path ← path
    nothing (onPath first? (FileM.makeDirectory ⟨path⟩))
  | "makedirs" => some do
    let path ← pathFor g 0 "name"
    nothing (makeDirectories (g.argument? 0 "name") (← isFine) 64 path)
  | "remove" | "unlink" => some do
    let path ← path
    nothing (onPath first? (FileM.removeFile ⟨path⟩))
  | "rmdir" => some do
    let path ← path
    nothing (onPath first? (FileM.removeDirectory ⟨path⟩))
  | "rename" | "replace" | "renames" => some (two FileM.rename)
  | "symlink" => some (two FileM.makeLink)
  | "link" => some (two FileM.makeTwin)
  | "readlink" => some do
    let path ← path
    match ← ownEntryAt? path with
    | some (.link target) => pure (.text target.text)
    | some _ => raiseFault .invalidArgument [pathValue first?]
    | none => raiseFault .notFound [pathValue first?]
  | "chmod" => some do
    nothing (setMode first? (← path) (← wholeFor (g.argument? 1 "mode") 0))
  | "mkfifo" => some do
    let path ← path
    nothing (onPath first? (FileM.makeQueue ⟨path⟩))
  | "access" => some do
    let mode ← wholeFor (g.argument? 1 "mode") 0
    let e? ← entryAt? (← path)
    pure (.truth (e?.any fun e => mode.toNat &&& 1 = 0 || e = .directory || e.isRunnable))
  | "stat" => some do statusAt first? (← path) false
  | "lstat" => some do statusAt first? (← path) true
  | "walk" => some do
    let isTopDown ← match g.argument? 1 "topdown" with
      | some v => isTrue r v
      | none => pure true
    make (.passage (.items (← walk isTopDown 64 (← pathFor g 0 "top"))))
  | "scandir" => some do
    let path ← match first? with
      | none | some .none => pure "."
      | some v => pathText v
    let names ← namesAt (some (first?.getD (.text "."))) path
    make (.passage (.items (← names.mapM fun name =>
      make (.instance (.kind "os.DirEntry") [("name", .text name), ("path", .text (joinPath path name))]))))
  | "fspath" => some do return .text (← path)
  | "getpid" => some do return .whole (← getThe Shell.State).self.id
  | "getppid" => some do return .whole ((← getThe Shell.State).self.ancestors.headD 1)
  | "getuid" | "geteuid" | "getgid" | "getegid" => some (pure (.whole 0))
  | "cpu_count" => some (pure (.whole 4))
  | "umask" => some do
    let mask ← wholeFor first? 18
    let before := (← getThe Shell.State).self.mask
    modifyThe Shell.State fun s => { s with self.mask := mask.toNat }
    pure (.whole before)
  | "kill" | "killpg" => some do
    sendSignal (← wholeFor g.plain[1]? 0) (← wholeFor first? 0)
  | "abort" => some (throw (.jumped (.gone (.killed 6))))
  | "_exit" => some do endProcess (← wholeFor first? 0)
  | "write" => some do
    match g.plain with
    | [.whole n, .bytes b] =>
      writeThrough n.toNat b
      pure (.whole b.length)
    | _ => raise "TypeError" "a bytes-like object is required"
  | "read" => some do
    let stream ← make (.stream ⟨.none, "rb", (← wholeFor first? 0).toNat, true, false, none⟩)
    readValue stream (some (← wholeFor g.plain[1]? 0).toNat)
  | "close" => some do
    let descriptor := (← wholeFor first? 0).toNat
    nothing (onShell (Shell.ShellM.close descriptor))
  | "utime" | "chown" | "fsync" | "sync" | "lchown" => some (pure .none)
  | "isatty" => some (pure (.truth false))
  | "strerror" => some do
    let n ← wholeFor first? 0
    pure (.text (if n = 2 then "No such file or directory" else if n = 13 then "Permission denied" else "Error"))
  | _ => none

/-- What a function that works on whole files gives. -/
def transferFunction? (name : String) (g : Given) : Option (RunM Value) :=
  match name with
  | "copy" | "copy2" => some (copyFile g true true)
  | "copyfile" => some (copyFile g false false)
  | "copymode" | "copystat" => some (pure .none)
  | "copytree" => some do
    let source ← pathFor g 0 "src"
    let dest ← pathFor g 1 "dst"
    let isFine ← match g.argument? 9 "dirs_exist_ok" with
      | some v => isTrue r v
      | none => pure false
    copyTree isFine 64 source dest
    pure ((g.argument? 1 "dst").getD .none)
  | "rmtree" => some do
    let path ← pathFor g 0 "path"
    let ignores ← match g.argument? 1 "ignore_errors" with
      | some v => isTrue r v
      | none => pure false
    match ← onShell (Shell.ShellM.onFiles (FileM.removeTree ⟨path⟩)) with
    | .ok _ => pure .none
    | .error fault => if ignores then pure .none else raiseFault fault [pathValue (g.argument? 0 "path")]
  | "move" => some do
    let source ← pathFor g 0 "src"
    let given ← pathFor g 1 "dst"
    let dest ← if ← isDirectoryAt given then pure (joinPath given (PathText.name source)) else pure given
    onFiles [pathValue (g.argument? 0 "src"), .text dest] (FileM.rename ⟨source⟩ ⟨dest⟩)
    pure (.text dest)
  | "which" => some do findProgram (← pathFor g 0 "cmd")
  | _ => none

end RunM

end ReleaseMatrix.Indented
