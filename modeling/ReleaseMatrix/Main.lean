import ReleaseMatrix.CommandLine.Run
import ReleaseMatrix.Tool

namespace ReleaseMatrix.Disk

open Workspace (pathOf)

/-- The place of an absolute path. -/
def placeOf (absolute : String) : Location :=
  (Text.split '/' absolute).filter (· ≠ "")

/-- A tree with what stands below a directory of the disk. Links are kept as links to where they end, if
they end anywhere. The right to run a file cannot be seen here, so every file is taken to have it. -/
partial def load (t : FileTree) (l : Location) : IO FileTree := do
  let mut t := t
  for entry in ← (← IO.FS.realPath (pathOf l).text).readDir do
    let below := l ++ [entry.fileName]
    match (← entry.path.symlinkMetadata).type with
    | .dir => t ← load (t.put below .directory) below
    | .file => t := t.put below (.file (← IO.FS.readBinFile entry.path).toList true)
    | .symlink =>
      if let .ok target ← (IO.FS.realPath entry.path).toBaseIO then
        t := t.put below (.link ⟨target.toString⟩)
    | .other => pure ()
  return t

/-- Removes from the disk what a tree no longer has, the deepest first. -/
def removeLost (before after : FileTree) : IO Unit := do
  let lost := before.nodes.filter fun n => after.get? n.1 != some n.2
  for (l, e) in lost.mergeSort fun a b => b.1.length ≤ a.1.length do
    match e with
    | .directory => IO.FS.removeDir (pathOf l).text
    | _ => IO.FS.removeFile (pathOf l).text

/-- Puts on the disk what is new in a tree, directories before what they hold. Links that a tool made
are kept as what they lead to. -/
def storeNew (before after : Workspace) : IO Unit := do
  let new := after.files.nodes.filter fun n => before.files.get? n.1 != some n.2
  for (l, e) in new.mergeSort fun a b => a.1.length ≤ b.1.length do
    let path := (pathOf l).text
    match e with
    | .directory => IO.FS.createDirAll path
    | .file content executable =>
      IO.FS.writeBinFile path ⟨content.toArray⟩
      if executable then
        IO.setAccessRights path ⟨⟨true, true, true⟩, ⟨true, false, true⟩, ⟨true, false, true⟩⟩
    | _ =>
      if let .ok content := after.read (pathOf l) then IO.FS.writeBinFile path ⟨content.toArray⟩

/-- The values of the variables that the program and its tools look at. -/
def environment : IO (List (String × String)) :=
  ["MUFIZ_VERSION", "MUFIZ_RELEASE_JOBS", "ZIG", "FPM", "HOME"].filterMapM fun name => do
    return (← IO.getEnv name).map fun value => (name, value)

/-- The number of processors that is counted on. -/
def processors : Nat := 4

/-- Runs a command line on the files below the current directory. -/
def run (words : List String) : IO UInt32 := do
  let here := placeOf (← IO.FS.realPath ".").toString
  let machine : Machine := ⟨← environment, processors⟩
  let bare := StandardFiles.workspace here
  let before := { bare with files := ← load bare.files here }
  let (output, after) := (CommandLine.run machine words).run before
  removeLost before.files after.files
  storeNew before after
  (← IO.getStdout).putStr output.standard
  (← IO.getStderr).putStr output.errors
  return output.exitCode.toUInt32

end ReleaseMatrix.Disk

/-- The command line of the program. -/
def main (words : List String) : IO UInt32 :=
  ReleaseMatrix.Disk.run words
