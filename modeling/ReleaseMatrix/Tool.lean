import ReleaseMatrix.Program
import ReleaseMatrix.Shell.Run
import ReleaseMatrix.Build
import ReleaseMatrix.Package

namespace ReleaseMatrix

/-- What a machine offers besides its files: variables and processors. -/
structure Machine where
  environment : List (String × String)
  processors : Nat

/-- The value of a variable of the machine. -/
def Machine.valueOf? (m : Machine) (name : String) : Option String :=
  (m.environment.find? (·.1 == name)).map (·.2)

/-- The list of the directories in which the machine looks for programs. -/
def Machine.programDirectories (m : Machine) : String :=
  (m.valueOf? "PATH").getD Program.standardDirectories

/-- The home directory, if the machine tells one. -/
def Machine.home? (m : Machine) : Option String :=
  (m.valueOf? "HOME").filter (· ≠ "")

/-- How the run of an external tool ended. A tool that a signal ended has no exit code. -/
structure ToolOutcome where
  exitCode? : Option Nat
  errors : String
deriving DecidableEq, Repr

def ToolOutcome.isSuccess (o : ToolOutcome) : Bool :=
  o.exitCode? = some 0

namespace Tool

/-- The command line of a tool, as messages show it. -/
def commandLine (program : String) (arguments : List String) : String :=
  " ".intercalate (program :: arguments)

/-- How many steps a tool may take. -/
def stepLimit : Nat := 1000000

/-- The number by which a tool knows itself. -/
def processId : Nat := 4096

/-- The process that a tool starts in. It reads nothing, and only its standard error is kept. -/
def process (m : Machine) : Shell.Process where
  name := ""
  arguments := []
  bindings := m.environment.map fun (name, value) => (name, .ofText? (some (Shell.Octets.ofText value)) true false)
  functions := []
  aliases := []
  options := []
  isExtended := false
  switches := []
  frames := []
  pipeStatuses := []
  stacked := []
  subshells := 0
  depth := 0
  status := 0
  outputStatus := 0
  trappedStatus? := none
  line := 0
  command? := none
  descriptors := [(0, 0), (1, 0), (2, 1)]
  traps := []
  arrived := []
  busyEvents := []
  documents := []
  documentCount := 0
  directory := ""
  id := processId
  scriptId := processId
  ancestors := [1]
  lastJob? := none
  jobs := []
  loopDepth := 0
  locals := []
  optionIndex := 1
  optionOffset := 0
  mask := 18

/-- The files that are open when a tool starts. -/
def openFiles : Array Shell.OpenFile :=
  #[⟨.void, 0, true, true, false⟩, ⟨.pipe [] [], 0, false, true, true⟩]

/-- The state that a tool starts in. -/
def start (m : Machine) (w : Workspace) : Shell.State where
  workspace := w
  self := process m
  world := ⟨openFiles, [], [], [], processId + 1⟩

/-- The program file that is run in a workspace when a name or a path is called. -/
def programFile (m : Machine) (w : Workspace) (program : Path) : Except FileFault Path :=
  if program.text.contains '/' then .ok program
  else
    let directories := Program.directoriesOf none m.programDirectories
    match Program.search w directories program.text with
    | some p => .ok p
    | none =>
      if directories.any fun dir => w.exists? (dir.join program.text) then .error .permissionDenied
      else .error .notFound

/-- What was written to the standard error of a tool. -/
def errorsOf (s : Shell.State) : String :=
  match (s.world.opened[1]? : Option Shell.OpenFile) with
  | some ⟨.pipe unread later, _, _, _, _⟩ =>
    Shell.Octets.toText (String.ofList (Shell.ShellM.unreadText unread later))
  | _ => ""

/-- What runs the commands of a tool. -/
def machine : Shell.Interpreter :=
  .ofFuel stepLimit

/-- Runs a program that is ready in a workspace, and what it left in the background. -/
def runLoaded (m : Machine) (w : Workspace) (loaded : Program.Loaded) : ToolOutcome × Workspace :=
  let work : Shell.ShellM Shell.Ending := do
    let ending ← machine.runToEnd (machine.loaded loaded)
    machine.runJobs
    pure ending
  let (result, s) := work.run.run (start m w)
  let exitCode? : Option Nat := match result with
    | .ok (.exited status) => some status
    | _ => none
  (⟨exitCode?, errorsOf s⟩, s.workspace)

/-- Runs a tool in a directory. What it prints is dropped, except for its standard error. -/
def run (m : Machine) (program : Path) (arguments : List String) (directory : Path) :
    FileM ToolOutcome := do
  if (program.text :: directory.text :: arguments).any (·.contains '\x00') then throw .nulInCommand
  let w ← get
  match ← FileM.look (·.find directory) with
  | (l, .directory) =>
    let inside := { w with directory := l }
    let file ← MonadExcept.ofExcept (programFile m inside program)
    let loaded ← MonadExcept.ofExcept
      (Program.load inside Program.loadLimit program.text file arguments)
    let (outcome, after) := runLoaded m inside loaded
    set { after with directory := w.directory }
    pure outcome
  | _ => throw .notADirectory

/-- The file of a tool that is called by a name or a path. -/
def find? (m : Machine) (w : Workspace) (program : Path) : Option Path :=
  Program.resolve w (Program.directoriesOf m.home? m.programDirectories) program

end Tool

end ReleaseMatrix

namespace ReleaseMatrix.StandardFiles

/-- The programs of a machine on which nothing is installed but a shell and its utilities. -/
def programNames : List String :=
  ["sh", "dash", "bash", "[", "arch", "awk", "b2sum", "base32", "base64", "basename", "basenc", "cat", "chcon",
    "chgrp", "chmod", "chown", "cksum", "cmp", "comm", "cp", "csplit", "cut", "date", "dd", "df", "diff",
    "diff3", "dir", "dircolors", "dirname", "du", "echo", "egrep", "env", "expand", "expr", "factor", "false",
    "fgrep", "find", "flock", "fmt", "fold", "getconf", "getent", "getopt", "grep", "groups", "gunzip", "gzip",
    "head", "hostid", "hostname", "iconv", "id", "install", "join", "kill", "link", "ln", "logname", "ls",
    "mawk", "md5sum", "mkdir", "mkfifo", "mknod", "mktemp", "mv", "nawk", "nice", "nl", "nohup", "nproc",
    "numfmt", "od", "paste", "pathchk", "perl", "pinky", "pr", "printenv", "printf", "ps", "ptx", "pwd",
    "python3", "rbash", "readlink", "realpath", "rev", "rm", "rmdir", "runcon", "sdiff", "sed", "seq",
    "setsid", "sha1sum", "sha224sum", "sha256sum", "sha384sum", "sha512sum", "shred", "shuf", "sleep", "sort",
    "split", "stat", "stdbuf", "stty", "sum", "sync", "tac", "tail", "tar", "tee", "test", "timeout", "touch",
    "tr", "true", "truncate", "tsort", "tty", "uname", "unexpand", "uniq", "unlink", "users", "vdir", "wc",
    "which", "who", "whoami", "xargs", "yes", "zcat"]

/-- The variables of such a machine. -/
def environment : List (String × String) :=
  [("PATH", Program.standardDirectories), ("HOME", "/root")]

/-- The directories above a place, the root left out. -/
def above (l : Location) : List Location :=
  (List.range l.length).map fun n => l.take (n + 1)

def putDirectories (t : FileTree) (l : Location) : FileTree :=
  (above l).foldl (fun t l => t.put l .directory) t

def putProgram (t : FileTree) (name : String) : FileTree :=
  (t.put ["bin", name] (.program name)).put ["usr", "bin", name] (.program name)

/-- The files of such a machine. -/
def tree : FileTree :=
  let directories := [["bin"], ["usr", "bin"], ["usr", "local", "bin"], ["sbin"], ["usr", "sbin"], ["tmp"],
    ["etc"], ["home"], ["root"], ["dev"]]
  (programNames.foldl putProgram (directories.foldl putDirectories .empty)).put ["dev", "null"]
    .void

/-- Such a machine, seen from an empty directory of its own at a given place. -/
def workspace (l : Location) : Workspace :=
  ⟨putDirectories tree l, l, []⟩

end ReleaseMatrix.StandardFiles

namespace ReleaseMatrix.Tool

/-- The toolchain that a program is, run in the project's directory. -/
def compiler (m : Machine) (program projectDir : Path) : Compiler :=
  .prompt fun r => do
    match find? m (← get) program with
    | none => WorkM.fail (.toolchainMissing program.text)
    | some file =>
      match ← (run m file r.arguments projectDir).attempt with
      | .error fault => WorkM.fail (.notStarted (commandLine file.text r.arguments) fault.message)
      | .ok outcome =>
        if outcome.isSuccess then pure ()
        else WorkM.fail (.toolchainFailed r.target.id (outcome.exitCode?.map Int.ofNat))

/-- The packager that a program is, run in the directory that it is to write into. -/
def packager (m : Machine) (program : Path) : Packager where
  pack r workDir := do
    match find? m (← get) program with
    | none => WorkM.fail (.packagerMissing program.text)
    | some file =>
      match ← (run m file r.arguments workDir).attempt with
      | .error fault => WorkM.fail (.notStarted (commandLine file.text r.arguments) fault.message)
      | .ok outcome =>
        if outcome.isSuccess then pure ()
        else WorkM.fail (.packagerFailed r.spec.target.id r.spec.format.name
          (outcome.exitCode?.map Int.ofNat))

end ReleaseMatrix.Tool
