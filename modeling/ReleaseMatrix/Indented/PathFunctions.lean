import ReleaseMatrix.Indented.PlaceFunctions

namespace ReleaseMatrix.Indented

open Shell (Octets)

namespace RunM

variable (r : Runner)

/-- What a path object has under a name, if it is no function. -/
def pathAttribute? (s : String) (name : String) : Option (RunM Value) :=
  match name with
  | "name" => some (pure (.text (PathText.lastName s)))
  | "stem" => some do
    let name := PathText.lastName s
    pure (.text (String.ofList (name.toList.take (name.length - (PathText.ending name).length))))
  | "suffix" => some (pure (.text (PathText.ending (PathText.lastName s))))
  | "suffixes" => some (makeList ((PathText.endings (PathText.lastName s)).map .text))
  | "parent" => some (pure (.path (PathText.parent s)))
  | "parents" => some do
    let rec above (n : Nat) (s : String) : List Value :=
      match n with
      | 0 => []
      | n + 1 => if PathText.parent s = s then [] else .path (PathText.parent s) :: above n (PathText.parent s)
    pure (.tuple (above 64 s))
  | "parts" => some (pure (.tuple ((PathText.parts s).map .text)))
  | "anchor" | "root" => some (pure (.text (if s.startsWith "/" then "/" else "")))
  | "drive" => some (pure (.text ""))
  | _ => none

/-- What a function of a path object gives, if paths have it. -/
def pathObjectFunction? (s : String) (name : String) (g : Given) : Option (RunM Value) :=
  let self : Option Value := some (.path s)
  let first? := g.plain.head?
  let nothing (work : RunM Unit) : RunM Value := do
    work
    pure .none
  let isGiven (name : String) (index : Nat) : RunM Bool := do
    match g.argument? index name with
    | some v => isTrue r v
    | none => pure false
  let paths (found : List String) : RunM Value :=
    make (.passage (.items (found.map fun p => .path p)))
  match name with
  | "mkdir" => some do
    let isFine ← isGiven "exist_ok" 2
    if ← isGiven "parents" 1 then nothing (makeDirectories self isFine 64 s)
    else
      match ← onShell (Shell.ShellM.onFiles (FileM.makeDirectory ⟨s⟩)) with
      | .ok _ => pure .none
      | .error fault => if isFine && (← isDirectoryAt s) then pure .none else raiseFault fault [pathValue self]
  | "exists" => some do return .truth (← entryAt? s).isSome
  | "is_file" => some do return .truth ((← entryAt? s).any Entry.isFile)
  | "is_dir" => some do return .truth (← isDirectoryAt s)
  | "is_symlink" => some do return .truth ((← ownEntryAt? s) matches some (.link _))
  | "is_absolute" => some (pure (.truth (s.startsWith "/")))
  | "write_text" => some do
    match g.argument? 0 "data" with
    | some (.text t) => writeFile (.path s) "w" (.text t)
    | v => raise "TypeError" ("data must be str, not " ++ (← kindName (v.getD .none)))
  | "write_bytes" => some do writeFile (.path s) "wb" (first?.getD .none)
  | "read_text" => some (readFile (.path s) "r")
  | "read_bytes" => some (readFile (.path s) "rb")
  | "open" => some do
    let mode ← match g.argument? 0 "mode" with
      | some m => textFor "open" (some m)
      | none => pure "r"
    openFile (.path s) mode
  | "touch" => some do
    match ← entryAt? s with
    | some _ => pure .none
    | none => nothing (onPath self (FileM.write ⟨s⟩ []))
  | "unlink" => some do
    match ← onShell (Shell.ShellM.onFiles (FileM.removeFile ⟨s⟩)) with
    | .ok _ => pure .none
    | .error fault =>
      if fault = .notFound && (← isGiven "missing_ok" 0) then pure .none else raiseFault fault [pathValue self]
  | "rmdir" => some (nothing (onPath self (FileM.removeDirectory ⟨s⟩)))
  | "rename" | "replace" => some do
    let target ← pathFor g 0 "target"
    onFiles [pathValue self, pathValue first?] (FileM.rename ⟨s⟩ ⟨target⟩)
    pure (.path (tidyPath target))
  | "symlink_to" => some do
    let target ← pathFor g 0 "target"
    nothing (onFiles [.text target, pathValue self] (FileM.makeLink ⟨target⟩ ⟨s⟩))
  | "hardlink_to" => some do
    let target ← pathFor g 0 "target"
    nothing (onFiles [.text target, pathValue self] (FileM.makeTwin ⟨target⟩ ⟨s⟩))
  | "readlink" => some do
    match ← ownEntryAt? s with
    | some (.link target) => pure (.path (tidyPath target.text))
    | some _ => raiseFault .invalidArgument [pathValue self]
    | none => raiseFault .notFound [pathValue self]
  | "chmod" => some do nothing (setMode self s (← wholeFor (g.argument? 0 "mode") 0))
  | "stat" => some (statusAt self s false)
  | "lstat" => some (statusAt self s true)
  | "iterdir" => some do paths ((← namesAt self s).map (joinPaths s))
  | "glob" => some do
    let pattern ← pathFor g 0 "pattern"
    paths ((← globPaths (joinPath s pattern) true).map fun p => joinPaths "." p)
  | "rglob" => some do
    let pattern ← pathFor g 0 "pattern"
    paths ((← globPaths (joinPath s ("**/" ++ pattern)) true).map fun p => joinPaths "." p)
  | "joinpath" => some do
    let steps ← g.plain.mapM pathText
    pure (.path (steps.foldl joinPaths s))
  | "with_name" => some do
    let name ← pathFor g 0 "name"
    if PathText.lastName s = "" then raise "ValueError" ((← reprOf r (.path s)) ++ " has an empty name")
    pure (.path (joinPaths (PathText.parent s) name))
  | "with_suffix" | "with_stem" => some do
    let given ← pathFor g 0 "suffix"
    let last := PathText.lastName s
    let ending := PathText.ending last
    let stem := String.ofList (last.toList.take (last.length - ending.length))
    pure (.path (joinPaths (PathText.parent s) (if name = "with_stem" then given ++ ending else stem ++ given)))
  | "resolve" => some do return .path (tidyPath (← realPath 64 s))
  | "absolute" => some do return .path (tidyPath (joinPath (← currentDirectory) s))
  | "expanduser" => some do return .path (tidyPath (← expandUser s))
  | "relative_to" => some do
    let other ← pathFor g 0 "other"
    let a := PathText.parts s
    let b := PathText.parts other
    if b.isPrefixOf a then pure (.path (PathText.ofParts (a.drop b.length)))
    else
      raise "ValueError" (Display.quoted s ++ " is not in the subpath of " ++ Display.quoted (tidyPath other))
  | "is_relative_to" => some do
    pure (.truth ((PathText.parts (← pathFor g 0 "other")).isPrefixOf (PathText.parts s)))
  | "match" => some do
    pure (.truth (matchesPattern (← pathFor g 0 "pattern") (PathText.lastName s)))
  | "as_posix" | "__str__" | "__fspath__" => some (pure (.text s))
  | "samefile" => some do
    let w ← workspace
    let other ← pathFor g 0 "other"
    match w.find ⟨s⟩, w.find ⟨other⟩ with
    | .ok (a, _), .ok (b, _) => pure (.truth (a = b))
    | .error fault, _ => raiseFault fault [pathValue self]
    | _, .error fault => raiseFault fault [pathValue first?]
  | _ => none

end RunM

end ReleaseMatrix.Indented
