import ReleaseMatrix.Shell.Extended.Names
import ReleaseMatrix.Shell.Launch
import ReleaseMatrix.Shell.Extended.Switches

namespace ReleaseMatrix.Shell

namespace Extended

/-- The file that a name calls: that of a program, or else one that cannot be run. Without directories to look in,
names are paths. -/
def programFile? (s : State) (directories : List Path) (name : Octets) : Option Octets :=
  if name.contains '/' then some name
  else if name.isEmpty then none
  else if directories.isEmpty then some name
  else
    let paths := directories.map (·.join (Octets.toText name))
    let isFile (p : Path) : Bool := s.workspace.exists? p && !s.workspace.isDirectory p
    ((paths.find? (Program.isRunnable s.workspace)) <|> paths.find? isFile).map fun p => Octets.ofText p.text

/-- The directories in which programs are looked for. -/
def programDirectories (p : Process) : List Path :=
  if ((p.valueOf? "PATH").getD "").isEmpty then [] else Builtin.programDirectories p

/-- Why a program cannot be run: what is told, whether the line is told with it, and the exit status. -/
structure LaunchFault where
  message : Octets
  showsLine : Bool
  status : Nat

/-- Whether bytes are no text: there is a NUL in the first line. -/
def isBinary (content : Bytes) : Bool :=
  ((content.take 80).takeWhile (· ≠ 0x0A)).contains 0x00

/-- Why the file at a path cannot be run. -/
def launchFault (w : Workspace) (path : Octets) (fault : FileFault) : LaunchFault :=
  let told (text : Octets) (status : Nat) : LaunchFault := ⟨path ++ ": " ++ text, true, status⟩
  match w.find (Octets.toPath path), fault with
  | .ok (_, .directory), _ => told "Is a directory" 126
  | .ok (_, .file content true), .notFound =>
    if (Program.interpreter? content).isSome then told "cannot execute: required file not found" 127
    else told "No such file or directory" 127
  | .ok (_, .file content true), .permissionDenied =>
    match Program.interpreter? content with
    | some (interpreter, _) =>
      ⟨path ++ ": " ++ Octets.ofText interpreter.text ++ ": bad interpreter: Permission denied", false, 126⟩
    | none => told "Permission denied" 126
  | _, .notFound => told "No such file or directory" 127
  | _, fault => told fault.text 126

/-- Loads the program in a file that words call. A file that no interpreter is told for is run as a script. -/
def load (s : State) (path : Octets) (called : Octets) (arguments : List Octets) :
    Except LaunchFault Program.Loaded :=
  let texts := arguments.map Octets.toText
  match Program.load s.workspace Program.loadLimit (Octets.toText called) (Octets.toPath path) texts with
  | .ok loaded => .ok loaded
  | .error .badExecutable =>
    let content := match s.workspace.find (Octets.toPath path) with
      | .ok (_, .file content _) => content
      | _ => []
    if isBinary content then .error ⟨path ++ ": cannot execute binary file: Exec format error", true, 126⟩
    else .ok ⟨"bash", "/bin/bash", Octets.toText path :: texts⟩
  | .error fault => .error (launchFault s.workspace path fault)

/-- Tells why a program cannot be run. -/
def tellFault (fault : LaunchFault) : ShellM Unit := do
  let p ← ShellM.self
  ShellM.modifySelf fun p => { p with command? := none }
  if fault.showsLine then ShellM.complain fault.message
  else
    let _ ← ShellM.write 2 (p.sourceName ++ ": " ++ fault.message ++ "\n")
  ShellM.modifySelf fun now => { now with command? := p.command? }
  ShellM.setStatus fault.status

/-- A path from the root, less a dot at its start. -/
def fullPath (w : Workspace) (path : Octets) : Octets :=
  Octets.ofText (Program.absolutePath w (Octets.toPath path)).text

end Extended

namespace Extended

open ShellM (self modifySelf)

/-- The version of the language, part by part. -/
def versionParts : List String :=
  ["5", "2", "21", "1", "release", "x86_64-pc-linux-gnu"]

def version : String := "5.2.21(1)-release"

/-- Sets up what a new shell has of its own. -/
def setUpShell : ShellM Unit := do
  let before := (← self).bindings
  Launch.setUpVariables
  let had (name : String) : Bool := before.any (·.1 == name)
  modifySelf fun p =>
    let texts : List (String × Octets) :=
      [("BASH", "/bin/bash"), ("BASH_VERSION", version), ("HOSTNAME", "localhost"), ("HOSTTYPE", "x86_64"),
        ("MACHTYPE", "x86_64-pc-linux-gnu"), ("OSTYPE", "linux-gnu"), ("OPTERR", "1"), ("_", "/bin/bash")] ++
      ([("TERM", "dumb"), ("SHELL", "/bin/bash")].filter fun (name, _) => !had name)
    let fixed : List (String × Octets) := [("UID", "0"), ("EUID", "0"), ("PPID", toString (p.ancestors.headD 1))]
    let depth := ((p.valueOf? "SHLVL").bind String.toNat?).getD 0
    let p := { p with isExtended := true, options := ['h', 'B'], switches := firstSwitches }
    let p := texts.foldl (fun p (name, value) => p.put name (.ofText? (some value) false false)) p
    let p := fixed.foldl (fun p (name, value) => p.put name ⟨some (.text value), false, true, ['i']⟩) p
    let p := p.put "BASH_VERSINFO" ⟨some (.ofTexts versionParts), false, true, ['a']⟩
    let p := p.put "SHLVL" (.ofText? (some (toString (depth + 1))) true false)
    if had "OLDPWD" then p else p.put "OLDPWD" (.ofText? none true false)

/-- What the words after the name of the shell say. -/
structure StartSettings where
  /-- The status of a shell that ends at once. -/
  status? : Option Nat
  takesScript : Bool
  readsInput : Bool
  words : List Octets

/-- The names of options that are written in full, of which some take a word. -/
def longOptions : List (String × Bool) :=
  [("debug", false), ("debugger", false), ("dump-po-strings", false), ("dump-strings", false), ("init-file", true),
    ("login", false), ("noediting", false), ("noprofile", false), ("norc", false), ("posix", false),
    ("pretty-print", false), ("rcfile", true), ("restricted", false), ("verbose", false)]

/-- How the shell is called. -/
def startUsage (name : Octets) : Octets :=
  "Usage:\t" ++ name ++ " [GNU long option] [option] ...\n\t" ++ name ++
    " [GNU long option] [option] script-file ...\nGNU long options:\n\t--debug\n\t--debugger\n" ++
    "\t--dump-po-strings\n\t--dump-strings\n\t--help\n\t--init-file\n\t--login\n\t--noediting\n\t--noprofile\n" ++
    "\t--norc\n\t--posix\n\t--pretty-print\n\t--rcfile\n\t--restricted\n\t--verbose\n\t--version\n" ++
    "Shell options:\n\t-ilrsD or -c command or -O shopt_option\t\t(invocation only)\n" ++
    "\t-abefhkmnptuvxBCEHPT or -o option\n"

/-- Complains about an option, and ends the shell. -/
def endStart (message : Octets) (showsUsage : Bool) (s : StartSettings) : ShellM StartSettings := do
  let name := (← self).name
  let usage := if showsUsage then startUsage name else ""
  let _ ← ShellM.write 2 (name ++ ": " ++ message ++ "\n" ++ usage)
  pure { s with status? := some 2 }

/-- Carries out the letters of one word. -/
def startLetters (isOn : Bool) : List Char → StartSettings → ShellM StartSettings
  | [], s => pure s
  | c :: letters, s => do
    let shown := String.ofList [if isOn then '-' else '+', c]
    if c = 'c' then startLetters isOn letters { s with takesScript := true }
    else if c = 's' then startLetters isOn letters { s with readsInput := true }
    else if c ∈ ['i', 'l', 'r', 'D'] then startLetters isOn letters s
    else if c = 'o' || c = 'O' then
      let name := s.words.headD ""
      let isKnown ← if c = 'o' then setNamed name isOn
        else do
          if switchNames.any (·.1 = name) then setSwitch name isOn
          pure (switchNames.any (·.1 = name))
      if isKnown then startLetters isOn letters { s with words := s.words.tail }
      else if c = 'o' then
        let own := (← self).name
        endStart ("line 0: " ++ own ++ ": " ++ name ++ ": invalid option name") false s
      else endStart ("line 0: " ++ name ++ ": invalid shell option name") false s
    else if optionLetters.any (·.2 = c) then
      setLetter c isOn
      startLetters isOn letters s
    else endStart (shown ++ ": invalid option") true s

/-- Carries out the options at the start of words. -/
def startOptions : Nat → StartSettings → ShellM StartSettings
  | 0, s => pure s
  | n + 1, s => do
    if s.status?.isSome then pure s
    else match s.words with
      | [] => pure s
      | word :: rest =>
        let rested := { s with words := rest }
        let name := String.ofList (word.toList.dropWhile (· = '-'))
        match word.toList with
        | ['-'] | ['-', '-'] => pure rested
        | '-' :: letters =>
          match longOptions.find? (·.1 == name) with
          | some (_, takesWord) =>
            if name = "posix" then setSwitch "posix" true
            if name = "verbose" then setLetter 'v' true
            startOptions n (if takesWord then { s with words := rest.tail } else rested)
          | none =>
            if name = "version" || name = "help" then
              let own := (← self).name
              let told := if name = "help" then startUsage own
                else "GNU bash, version " ++ version ++ " (x86_64-pc-linux-gnu)\n"
              let _ ← ShellM.write 1 told
              pure { s with status? := some 0 }
            else if letters.head? = some '-' then endStart (word ++ ": invalid option") true s
            else startOptions n (← startLetters true letters rested)
        | '+' :: letters => do startOptions n (← startLetters false letters rested)
        | _ => pure s

end Extended

end ReleaseMatrix.Shell
