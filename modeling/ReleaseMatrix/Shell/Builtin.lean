import ReleaseMatrix.Program
import ReleaseMatrix.Shell.Builtin.Basic
import ReleaseMatrix.Shell.CommandReader
import ReleaseMatrix.Shell.Signal
import ReleaseMatrix.Shell.Builtin.Settings
import ReleaseMatrix.Shell.Printing
import ReleaseMatrix.Shell.Test

namespace ReleaseMatrix.Shell.Builtin

open ShellM (self modifySelf fail count)

/-- The commands of the shell besides the special ones. -/
def ordinaryNames : List String :=
  ["alias", "bg", "cd", "chdir", "command", "echo", "false", "fg", "getopts", "hash", "jobs", "kill", "printf",
    "pwd", "read", "test", "[", "true", "type", "ulimit", "umask", "unalias", "wait"]

/-- The special commands. If one of them fails, the script ends. -/
def specialCommands : List String :=
  "local" :: specialNames

def isSpecial (name : Octets) : Bool :=
  name ∈ specialCommands

def isBuiltin (name : Octets) : Bool :=
  name ∈ ordinaryNames || isSpecial name

/-- The commands whose arguments may be assignments. -/
def takesAssignments (name : Octets) : Bool :=
  name ∈ ["export", "readonly", "local", "alias"]

/-- The directories in which programs are looked for. -/
def programDirectories (p : Process) : List Path :=
  Program.directoriesOf none (Octets.toText ((p.valueOf? "PATH").getD ""))

/-- The file of a program in one of some directories, or why there is none. -/
def findProgram (directories : List Path) (s : State) (name : Octets) : Except FileFault Path := do
  let paths := directories.map (·.join (Octets.toText name))
  match paths.find? (Program.isRunnable s.workspace) with
  | some p => pure p
  | none => if paths.any s.workspace.exists? then throw .permissionDenied else throw .notFound

/-- A word and what it stands for, as a script says it. -/
def definition (name text : Octets) : Octets :=
  name ++ "=" ++ inQuotes text ++ "\n"

/-- Tells what a name stands for where commands are called. -/
def describe (name : Octets) (isVerbose : Bool) : ShellM (Octets × Bool) := do
  let s ← get
  let told (verbose : Octets) (brief : Octets) : Octets × Bool :=
    (if isVerbose then name ++ verbose ++ "\n" else brief ++ "\n", true)
  if name ∈ Token.reservedWords false then pure (told " is a shell keyword" name)
  else if let some (_, text) := s.self.aliases.find? (·.1 == name) then
    pure (if isVerbose then name ++ " is an alias for " ++ text ++ "\n" else "alias " ++ definition name text, true)
  else if s.self.functions.any (·.1 = name) then pure (told " is a shell function" name)
  else if isBuiltin name then
    pure (told (if isSpecial name then " is a special shell builtin" else " is a shell builtin") name)
  else if name.contains '/' then
    if s.workspace.exists? (Octets.toPath name) then pure (told (" is " ++ name) name)
    else pure (if isVerbose then name ++ ": not found\n" else "", false)
  else match findProgram (programDirectories s.self) s name with
    | .ok p =>
      let path := Octets.ofText p.text
      pure (told (" is " ++ path) path)
    | .error _ => pure (if isVerbose then name ++ ": not found\n" else "", false)

/-- Tells what each name stands for. -/
def types (words : List Octets) : ShellM Nat := do
  let told ← words.mapM (describe · true)
  let status ← print (String.join (told.map (·.1)))
  pure (if told.all (·.2) then status else 127)

/-- Tells what a name stands for, if that is asked for. -/
def tellCommand (words : List Octets) : ShellM Nat := do
  let (chosen, names) ← options "pvV" words
  let isVerbose := chosen.any (·.1 = 'V')
  match names with
  | name :: _ =>
    if isVerbose || chosen.any (·.1 = 'v') then
      let (text, isFound) ← describe name isVerbose
      let status ← print text
      pure (if isFound then status else 127)
    else pure 0
  | [] => pure 0

def hash (words : List Octets) : ShellM Nat := do
  let (_, names) ← options "rv" words
  let s ← get
  let unknown := names.filter fun name => !isBuiltin name && !(findProgram (programDirectories s.self) s name).isOk
  unknown.forM fun name => ShellM.complain (name ++ ": not found")
  pure (if unknown.isEmpty then 0 else 1)

def trap (words : List Octets) : ShellM Nat := do
  let (_, words) ← options "" words
  match words with
  | [] =>
    let traps := (← self).traps.mergeSort fun a b => a.1 ≤ b.1
    print (String.join (traps.map fun (signal, action) =>
      "trap -- " ++ inQuotes action ++ " " ++ Signal.name signal ++ "\n"))
  | first :: rest =>
    let (action?, names) :=
      if rest.isEmpty || Signal.isNumber first then (none, words)
      else (if first = "-" then none else some first, rest)
    setTraps action? names
where
  setTraps (action? : Option Octets) : List Octets → ShellM Nat
    | [] => pure 0
    | name :: names => do
      match Signal.ofText? name with
      | none =>
        let _ ← ShellM.write 2 ("trap: " ++ name ++ ": bad trap\n")
        pure 1
      | some signal =>
        modifySelf fun p =>
          let others := p.traps.filter (·.1 ≠ signal)
          { p with traps := others ++ (action?.map fun action => (signal, action)).toList }
        setTraps action? names

def killUsage : Octets :=
  "Usage: kill [-s sigspec | -signum | -sigspec] [pid | job]... or\nkill -l [exitstatus]"

/-- Sends a signal to one process after the other. -/
def sendTo (signal : Nat) : List Octets → ShellM Nat
  | [] => pure 0
  | word :: words => do
    let receiver ← match word.toList with
      | '%' :: _ => pure ((← self).lastJob?.getD 0)
      | '-' :: rest => count (String.ofList rest)
      | _ => count word
    let isSent ← ShellM.send signal receiver
    if !isSent then ShellM.complain "No such process\n"
    let rest ← sendTo signal words
    pure (if isSent then rest else 1)

/-- What the name or the number of a signal is for an exit status. -/
def signalName (word : Octets) : ShellM Octets := do
  let n ← count word
  let signal := if n > 128 then n - 128 else n
  if 0 < signal && signal < Signal.limit then pure (Signal.name signal ++ "\n")
  else fail ("invalid signal number or exit status: " ++ word)

def kill (words : List Octets) : ShellM Nat := do
  let direct? := match words with
    | word :: _ => match word.toList with
      | '-' :: name => (Signal.ofText? (String.ofList name)).filter fun n => n ≠ 0 || name = ['0']
      | _ => none
    | [] => none
  match direct? with
  | some signal => if words.length < 2 then fail killUsage else sendTo signal words.tail
  | none =>
    let (chosen, receivers) ←
      if (words.headD "").toList.head? = some '-' then options "ls:" words else pure ([], words)
    let isList := chosen.any (·.1 = 'l')
    let signals ← (chosen.filter (·.1 = 's')).mapM fun (_, name) => match Signal.ofText? name with
      | some signal => pure signal
      | none => fail ("invalid signal number or name: " ++ name)
    if isList then
      match signals, receivers with
      | [], [] =>
        print (String.join ("0\n" :: (List.range 64).map fun n => Signal.name (n + 1) ++ "\n"))
      | [], word :: _ => do print (← signalName word)
      | _, _ => fail killUsage
    else if receivers.isEmpty then fail killUsage
    else sendTo (signals.getLast?.getD Signal.terminate) receivers

def exit (words : List Octets) : ShellM Nat := do
  let p ← self
  let status ← match words with
    | [] => pure (p.trappedStatus?.getD p.status)
    | word :: _ => count word
  ShellM.setStatus status
  throw .exit

def leaveFunction (words : List Octets) : ShellM Nat := do
  let status ← match words with
    | [] => do pure (← self).status
    | word :: _ => count word
  ShellM.setStatus status
  throw .leaveFunction

/-- Leaves loops, or goes on with the next round of one. Outside of loops nothing happens. -/
def leaveLoop (words : List Octets) (jump : Nat → Jump) : ShellM Nat := do
  let levels ← match words with
    | [] => pure 1
    | word :: _ => do
      let n ← count word
      if n = 0 then fail ("Illegal number: " ++ word)
      pure n
  let levels := min levels (← self).loopDepth
  if levels > 0 then
    ShellM.setStatus 0
    throw (jump levels)
  pure 0

def printFormatted (words : List Octets) : ShellM Nat := do
  let (_, words) ← options "" words
  match words with
  | [] => fail "usage: printf format [arg ...]"
  | format :: words =>
    let printout := formatText false format words
    printout.complaints.forM fun (_, complaint) => ShellM.complain complaint
    let status ← print printout.output
    pure (if printout.status = 0 then status else printout.status)

def test (name : Octets) (words : List Octets) : ShellM Nat := do
  let words ← if name ≠ "[" then pure words
    else if words.getLast? = some "]" then pure words.dropLast
    else fail "missing ]"
  match TestM.evaluate (← get).workspace words with
  | .ok result => pure (if result then 0 else 1)
  | .error message => fail message

/-- Lets words stand for others, and tells for what they do. -/
def abbreviate (words : List Octets) : ShellM Nat := do
  if words.isEmpty then print (String.join ((← self).aliases.map fun (name, text) => definition name text))
  else words.foldlM (fun status word => do
    match splitAssignment word with
    | (name, some text) =>
      modifySelf fun p => { p with aliases := (name, text) :: p.aliases.filter (·.1 ≠ name) }
      pure status
    | (name, none) =>
      match (← self).aliases.find? (·.1 == name) with
      | some (_, text) =>
        let _ ← print (definition name text)
        pure status
      | none =>
        let _ ← ShellM.write 2 ("alias: " ++ name ++ " not found\n")
        pure 1) 0

def unalias (words : List Octets) : ShellM Nat := do
  let (chosen, words) ← options "a" words
  if chosen.isEmpty then
    words.foldlM (fun status name => do
      let p ← self
      if p.aliases.any (·.1 = name) then
        modifySelf fun p => { p with aliases := p.aliases.filter (·.1 ≠ name) }
        pure status
      else
        let _ ← ShellM.write 2 ("unalias: " ++ name ++ " not found\n")
        pure 1) 0
  else
    modifySelf fun p => { p with aliases := [] }
    pure 0

/-- A command of the shell that runs no other commands, with its exit status. -/
def run? (name : Octets) (words : List Octets) : Option (ShellM Nat) :=
  match name with
  | ":" | "true" | "times" | "ulimit" | "jobs" => some (pure 0)
  | "false" => some (pure 1)
  | "alias" => some (abbreviate words)
  | "unalias" => some (unalias words)
  | "break" => some (leaveLoop words .leaveLoop)
  | "continue" => some (leaveLoop words .nextRound)
  | "return" => some (leaveFunction words)
  | "exit" => some (exit words)
  | "cd" | "chdir" => some (changeDirectory words)
  | "pwd" => some (printDirectory words)
  | "command" => some (tellCommand words)
  | "type" => some (types words)
  | "hash" => some (hash words)
  | "echo" => some (print (echoText words))
  | "printf" => some (printFormatted words)
  | "test" | "[" => some (test name words)
  | "export" => some (mark name words Variable.isExported fun v => { v with isExported := true })
  | "readonly" => some (mark name words Variable.isReadOnly fun v => { v with isReadOnly := true })
  | "local" => some (localVariables words)
  | "unset" => some (unset words)
  | "set" => some (setUp words)
  | "shift" => some (shift words)
  | "read" => some (readFields words)
  | "getopts" => some (getOptions words)
  | "umask" => some (umask words)
  | "trap" => some (trap words)
  | "kill" => some (kill words)
  | "fg" | "bg" => some (fail "No current job")
  | _ => none

end ReleaseMatrix.Shell.Builtin
