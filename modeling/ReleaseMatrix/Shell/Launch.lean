import ReleaseMatrix.Program
import ReleaseMatrix.Shell.Builtin.Basic
import ReleaseMatrix.Shell.Builtin
import ReleaseMatrix.Shell.Signal
import ReleaseMatrix.Shell.Utility.Small
import ReleaseMatrix.Shell.Utility.TreeSearch.Reader

namespace ReleaseMatrix.Shell

/-- Whether a trap passes to functions and to children: some do where an option says so. -/
def Process.passesTrap (p : Process) (signal : Nat) : Bool :=
  (signal = Signal.failure && p.hasOption 'E') ||
    ((signal = Signal.step || signal = Signal.leaving) && p.hasOption 'T')

/-- The process as a child of it starts. Traps do not pass to children, but ignored signals stay ignored. -/
def Process.fork (p : Process) (id : Nat) : Process :=
  { p with
    id
    ancestors := p.id :: p.ancestors
    subshells := p.subshells + 1
    traps := p.traps.filter fun (signal, action) => action = "" || p.passesTrap signal
    arrived := []
    trappedStatus? := none
    jobs := [] }

/-- The process once another program runs in it, called by a name with arguments. -/
def Process.become (p : Process) (name : Octets) (arguments : List Octets) : Process :=
  { p with
    name
    arguments
    bindings := p.exported.map fun (name, value) => (name, .ofText? (some value) true false)
    functions := []
    aliases := []
    options := []
    isExtended := false
    switches := []
    frames := []
    pipeStatuses := []
    stacked := []
    subshells := 0
    depth := 0
    status := 0
    outputStatus := 0
    trappedStatus? := none
    line := 0
    command? := none
    traps := p.traps.filter (·.2 = "")
    arrived := []
    busyEvents := []
    documents := []
    documentCount := 0
    scriptId := p.id
    lastJob? := none
    jobs := []
    loopDepth := 0
    locals := []
    optionIndex := 1
    optionOffset := 0 }

namespace Launch

/-- The programs that run scripts. -/
def shellNames : List String :=
  ["sh", "dash", "bash"]

/-- The programs that run scripts of the language whose blocks are indented. -/
def indentedNames : List String :=
  ["python3"]

/-- The programs that do not read the files whose names they are given. -/
def namesOnly : List String :=
  ["rm", "test", "[", "mkfifo", "mknod", "tee", "ls", "chmod", "echo", "printf", "mv", "ln", "stat", "touch", "unlink"]

/-- A program that is called with words, in a file at a path. -/
def load (s : State) (path called : Octets) (arguments : List Octets) : Except FileFault Program.Loaded :=
  let texts := arguments.map Octets.toText
  match Program.load s.workspace Program.loadLimit (Octets.toText called) (Octets.toPath path) texts with
  | .error .badExecutable => .ok ⟨"sh", "/bin/sh", Octets.toText path :: texts⟩
  | result => result

/-- The program that some words call, from one of the directories for programs unless a path is given. The first
file that can be run is taken. -/
def find (s : State) (directories : List Path) (words : List Octets) : Except FileFault Program.Loaded :=
  let name := words.headD ""
  if name.contains '/' then load s name name words.tail
  else go .notFound (directories.map fun dir => Octets.ofText (dir.join (Octets.toText name)).text)
where
  go (fault : FileFault) : List Octets → Except FileFault Program.Loaded
    | [] => .error fault
    | path :: paths =>
      match load s path (words.headD "") words.tail with
      | .ok loaded => .ok loaded
      | .error .notFound | .error .notADirectory => go fault paths
      | .error fault => go fault paths

def standardDirectories : List Path :=
  Program.directoriesOf none Program.standardDirectories

/-- The directories in which programs other than shells look for programs. -/
def directoriesFor (p : Process) : List Path :=
  if (p.valueOf? "PATH").isSome then Builtin.programDirectories p else standardDirectories

/-- How a script is told that a program cannot be run. -/
def faultText : FileFault → String
  | .notFound | .notADirectory => "not found"
  | fault => fault.text

/-- The exit status that stands for a program that cannot be run. -/
def faultStatus : FileFault → Nat
  | .notFound | .notADirectory | .tooManyLinks | .nameTooLong => 127
  | _ => 126

/-- Sets up the variables that a new shell has of its own. -/
def setUpVariables : ShellM Unit := do
  let s ← get
  let w := s.workspace
  let here := Octets.ofText (Workspace.pathOf w.directory).text
  let isHere (path : Octets) : Bool := path.toList.head? = some '/' && match w.find (Octets.toPath path) with
    | .ok (l, .directory) => l = w.directory
    | _ => false
  let isThere := (w.files.get? w.directory).isSome
  if !isThere then ShellM.complain "getcwd() failed: No such file or directory"
  let directory := match s.self.valueOf? "PWD" with
    | some path => if isHere path then path else here
    | none => here
  let directory := if isThere then directory else ""
  ShellM.modifySelf fun p =>
    let fixed : List (String × Octets) :=
      [("IFS", " \t\n"), ("OPTIND", "1"), ("PPID", toString (p.ancestors.headD 1)), ("PS4", "+ ")]
    let preset := if (p.valueOf? "PATH").isSome then fixed else ("PATH", Program.standardDirectories) :: fixed
    let p := preset.foldl (fun p (name, value) =>
      p.put name (.ofText? (some value) ((p.binding? name).any Variable.isExported) false)) p
    { p.put "PWD" (.ofText? (some directory) true false) with directory }

/-- A program that starts another one: in what way its words are read, and what runs. -/
inductive Errand
  /-- The program is done. -/
  | done (status : Nat)
  /-- Words are run in place of the program. A complaint follows if that is impossible. -/
  | exec (words : List Octets) (complaint : FileFault → ShellM Unit)
  /-- Words are run as children, one after the other. -/
  | children (commands : List (List Octets)) (complaint : FileFault → ShellM Unit)
  /-- Directories are searched, and words run for what is found. -/
  | search (search : Utility.TreeSearch)

/-- Splits a text as its words would stand in a script, without expansions. -/
def splitText (cs : List Char) : List Octets :=
  (go cs none none).map String.ofList
where
  /-- What is left, the quote that is open, and what is read of a word, last character first. -/
  go : List Char → Option Char → Option (List Char) → List (List Char)
    | [], _, word? => (word?.map List.reverse).toList
    | '\\' :: c :: cs, quote?, word? =>
      if quote? = some '\'' then go (c :: cs) quote? (some ('\\' :: word?.getD []))
      else go cs quote? (some (c :: word?.getD []))
    | c :: cs, none, word? =>
      if c = '\'' || c = '"' then go cs (some c) (some (word?.getD []))
      else if isNumberSpace c then (word?.map List.reverse).toList ++ go cs none none
      else go cs none (some (c :: word?.getD []))
    | c :: cs, some quote, word? =>
      if c = quote then go cs none word? else go cs (some quote) (some (c :: word?.getD []))

/-- Complains that a program cannot be run. -/
def complainOf (name : Octets) (before : Octets) (fault : FileFault) : ShellM Unit :=
  Utility.warn (before ++ Utility.quoted name ++ ": " ++ fault.text)

/-- The options of the program that changes the environment, with texts split into words where that is said. -/
def environmentForms : List Utility.OptionForm :=
  Utility.forms "0iu:C:S:v" [('i', "ignore-environment"), ('u', "unset"), ('C', "chdir"), ('S', "split-string"),
    ('0', "null")]

/-- Words in which a text that is to be split takes the place of the option before it. -/
def spreadWords : Nat → List Octets → List Octets
  | 0, words => words
  | n + 1, words =>
    match words with
    | [] => []
    | word :: rest =>
      match word.toList with
      | '-' :: 'S' :: text =>
        match text, rest with
        | [], text :: rest => spreadWords n (splitText text.toList ++ rest)
        | text, rest => spreadWords n (splitText text ++ rest)
      | '-' :: 'v' :: 'S' :: text => spreadWords n (splitText text ++ rest)
      | _ => words

/-- Changes the environment, and runs a program in it. -/
def env (words : List Octets) : ShellM Errand := do
  let words := spreadWords (words.length + 1) words
  let forms := environmentForms
  let hasBlank (word : Octets) : Bool := word.toList.any fun c => c = ' ' || c = '\t'
  match Utility.readGiven forms true (words.length + 1) words with
  | .error message =>
    Utility.warn message
    if message = "invalid option -- ' '" then
      Utility.warn "use -[v]S to pass options in shebang lines"
    let _ ← ShellM.write 2 (Utility.hint (← ShellM.self).name)
    pure (.done 125)
  | .ok g =>
    let isDash := g.operands.head? = some "-"
    let operands := if isDash then g.operands.tail else g.operands
    let changes := operands.takeWhile fun word => word.contains '='
    let command := operands.drop changes.length
    ShellM.modifySelf fun p =>
      let p := if g.has 'i' || isDash then { p with bindings := [] } else p
      let p := (g.options.filter (·.1 = 'u')).foldl (fun p o => p.restore o.2 none) p
      changes.foldl (fun p change =>
        let (name, value?) := splitAssignment change
        p.put name (.ofText? value? true false)) p
    let missing? ← match g.argument? 'C' with
      | none => pure none
      | some path => match ← Utility.look path with
        | .ok (l, .directory) => do
          modify fun s => { s with workspace.directory := l, self.directory := "" }
          pure none
        | .ok _ => pure (some (path, FileFault.notADirectory))
        | .error fault => pure (some (path, fault))
    match missing?, command with
    | some (path, fault), _ =>
      Utility.warn ("cannot change directory to " ++ Utility.quoted path ++ ": " ++ fault.text)
      pure (.done 125)
    | none, [] =>
      let lines := (← ShellM.self).exported.map fun (name, value) => name ++ "=" ++ value ++ "\n"
      pure (.done (← Utility.print (String.join lines)))
    | none, name :: _ =>
      pure (.exec command fun fault => do
        complainOf name "" fault
        if fault = .notFound && hasBlank name then
          Utility.warn "use -[v]S to pass options in shebang lines")

/-- Runs a program with what is read as more words for it. -/
def xargs (words : List Octets) : ShellM Errand := do
  let forms := Utility.forms "0a:d:E:I:L:n:P:prs:tx" [('n', "max-args"), ('r', "no-run-if-empty"), ('0', "null")]
  match Utility.readGiven forms true (words.length + 1) words with
  | .error message => return .done (← Utility.misuse message 1)
  | .ok g =>
    let text ← match ← ShellM.readAll 0 with
      | .ok text => pure text.toList
      | .error _ => pure []
    let command := if g.operands.isEmpty then ["echo"] else g.operands
    let pieces (c : Char) : List Octets := ((Text.splitChars c text).map String.ofList).filter (· ≠ "")
    let dropBlanks (s : Octets) : Octets := String.ofList (s.toList.dropWhile isNumberSpace)
    let items := if g.has '0' then pieces '\x00'
      else if g.has 'I' then ((pieces '\n').map dropBlanks).filter (· ≠ "")
      else if g.has 'd' then pieces (delimiter ((g.argument? 'd').getD ""))
      else splitText text
    let count := ((g.argument? 'n').bind String.toNat?).getD (items.length + 1)
    let commands := match g.argument? 'I' with
      | some mark => items.map fun item => command.map fun word => word.replace mark item
      | none =>
        if items.isEmpty then if g.has 'r' then [] else [command]
        else (groups (max 1 count) items.length items).map (command ++ ·)
    pure (.children commands fun fault =>
      Utility.warn (Utility.quotedIfOdd (command.headD "") ++ ": " ++ fault.text))
where
  delimiter (text : Octets) : Char :=
    match text.toList with
    | '\\' :: rest => (readEscape rest).1
    | cs => cs.headD '\n'
  groups (size : Nat) : Nat → List Octets → List (List Octets)
    | 0, _ => []
    | _ + 1, [] => []
    | n + 1, items => items.take size :: groups size n (items.drop size)

/-- Searches directories. -/
def searchTrees (words : List Octets) : ShellM Errand := do
  match Utility.TreeSearch.ofWords (← get).workspace words with
  | .ok search => pure (.search search)
  | .error message =>
    Utility.warn message
    pure (.done 1)

/-- Runs a program whose name follows some options and, for some, a time. -/
def wrapper (name : String) (words : List Octets) : ShellM Errand := do
  let letters := if name = "timeout" then "k:s:vpf" else if name = "nice" then "n:" else ""
  match Utility.readGiven (Utility.forms letters []) true (words.length + 1) words with
  | .error message => return .done (← Utility.misuse message 125)
  | .ok g =>
    let words := if name = "timeout" then g.operands.tail else g.operands
    if words.isEmpty then return .done (← Utility.misuse "missing operand" 125)
    else if name = "timeout" && !Utility.isInterval (g.operands.headD "") then
      return .done (← Utility.misuse ("invalid time interval " ++ Utility.quoted (g.operands.headD "")) 125)
    else
      let before := if name = "nice" then "" else "failed to run command "
      pure (.exec words (complainOf (words.headD "") before))

/-- The programs that start others. -/
def errand? (name : String) (words : List Octets) : Option (ShellM Errand) :=
  match name with
  | "env" => some (env words)
  | "xargs" => some (xargs words)
  | "find" => some (searchTrees words)
  | "timeout" | "nohup" | "nice" | "setsid" | "stdbuf" => some (wrapper name words)
  | _ => none

end Launch

end ReleaseMatrix.Shell
