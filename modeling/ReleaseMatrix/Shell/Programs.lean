import ReleaseMatrix.Shell.Builtin
import ReleaseMatrix.Shell.Expansion
import ReleaseMatrix.Shell.Extended.Names
import ReleaseMatrix.Shell.Texts
import ReleaseMatrix.Indented.Start
import ReleaseMatrix.Shell.Extended.Start
import ReleaseMatrix.Shell.Redirect
import ReleaseMatrix.Shell.Utility

namespace ReleaseMatrix.Shell

/-- The fields of a command, and how what they call is found. -/
structure Call where
  fields : List Octets
  /-- How many of the fields only say how the others are called. -/
  skipped : Nat
  /-- Whether functions are passed over. -/
  passesFunctions : Bool
  /-- Whether programs are looked for in the standard directories. -/
  isStandard : Bool

/-- What a name calls. -/
inductive Callee
  | nothing
  | function (function : Function)
  | builtin
  | program
deriving Inhabited

namespace Call

def words (c : Call) : List Octets :=
  c.fields.drop c.skipped

def name (c : Call) : Octets :=
  c.words.headD ""

/-- Whether the command is one of the special ones, so that the script ends if it fails. -/
def isSpecial (c : Call) (p : Process) : Bool :=
  !p.isExtended && c.skipped = 0 && !c.fields.isEmpty && Builtin.isSpecial c.name

def callee (c : Call) (p : Process) : Callee :=
  if c.words.isEmpty then .nothing
  else match if c.passesFunctions then none else p.functions.find? (·.1 == c.name) with
    | some (_, f) => .function f
    | none =>
      let isBuiltin := if p.isExtended then Extended.isBuiltin p c.name else Builtin.isBuiltin c.name
      if isBuiltin then .builtin else .program

/-- Whether assignments among the arguments are kept whole. -/
def takesAssignments (c : Call) (p : Process) : Bool :=
  c.callee p matches .builtin &&
    if p.isExtended then Extended.takesAssignments c.name else Builtin.takesAssignments c.name

variable (runner : CommandRunner)

/-- Expands words until there are more fields than a number. -/
def expandUpTo (n : Nat) (count : Nat) : List Octets → List Word → ShellM (List Octets × List Word)
  | fields, [] => pure (fields, [])
  | fields, word :: words => do
    if fields.length > count then pure (fields, word :: words)
    else
      let more ← Expansion.expandFields runner n word
      expandUpTo n count (fields ++ more) words

/-- Reads the options of the command that passes functions over, from the field with an index on. Gives the index
of the name after them, if there is one, and whether the standard directories are meant. -/
def readPassing (n : Nat) : Nat → Nat → Bool → List Octets → List Word →
    ShellM (Option (Nat × Bool) × List Octets × List Word)
  | 0, _, _, fields, words => pure (none, fields, words)
  | m + 1, index, isStandard, fields, words => do
    let (fields, words) ← expandUpTo runner n index fields words
    match (fields[index]?).map String.toList with
    | none => pure (none, fields, words)
    | some ['-', '-'] =>
      let (fields, words) ← expandUpTo runner n (index + 1) fields words
      pure (if fields.length > index + 1 then some (index + 1, isStandard) else none, fields, words)
    | some ('-' :: c :: letters) =>
      if (c :: letters).all (· = 'p') then readPassing n m (index + 1) true fields words
      else pure (none, fields, words)
    | some _ => pure (some (index, isStandard), fields, words)

/-- Finds the name that is called among fields and the words after them. -/
def resolve (n : Nat) : Nat → Call → List Word → ShellM (Call × List Word)
  | 0, c, words => pure (c, words)
  | m + 1, c, words => do
    let (fields, words) ← expandUpTo runner n c.skipped c.fields words
    let c := { c with fields }
    if c.name ≠ "command" || c.callee (← ShellM.self) matches .function _ then pure (c, words)
    else
      let (found?, fields, words) ← readPassing runner n n (c.skipped + 1) false fields words
      let c := { c with fields }
      match found? with
      | none => pure (c, words)
      | some (skipped, isStandard) =>
        resolve n m { c with skipped, passesFunctions := true, isStandard := c.isStandard || isStandard } words

/-- Expands the words of a command. -/
def expand (n : Nat) (words : List Word) : ShellM Call := do
  let (c, words) ← resolve runner n n ⟨[], 0, false, false⟩ words
  let takesAssignments := c.takesAssignments (← ShellM.self)
  let more ← Expansion.expandWords runner n takesAssignments c.name c.words.tail words
  pure { c with fields := c.fields ++ more }

end Call

namespace Interpreter

open ShellM (self modifySelf setStatus)

variable (i : Interpreter)

/-- Runs a function with arguments of its own. -/
def runFunction (setting : Setting) (name : Octets) (f : Function) (arguments : List Octets) : ShellM Unit := do
  let before ← self
  let run : ShellM Unit := tryCatch (i.command setting.inner f.body) fun
    | .leaveFunction => pure ()
    | jump => throw jump
  if before.isExtended then
    let isHidden (signal : Nat) : Bool := signal > Signal.limit && !before.passesTrap signal
    let hidden := before.traps.filter fun t => isHidden t.1
    modifySelf fun p => { p with
      arguments
      loopDepth := 0
      frames := ⟨name, p.line, f.file⟩ :: p.frames
      traps := p.traps.filter fun t => !isHidden t.1 }
    let outcome ← attempt (withoutName run)
    if outcome.isOk then runEvent i Signal.leaving
    if ((← self).locals.headD []).any (·.1 == "OPTIND") then
      modifySelf fun p => { p with optionIndex := before.optionIndex, optionOffset := before.optionOffset }
    modifySelf fun p => { p with
      arguments := before.arguments
      loopDepth := before.loopDepth
      frames := before.frames
      line := before.line
      traps := p.traps ++ hidden.filter fun t => !p.traps.any (·.1 = t.1) }
    resume outcome
  else
    modifySelf fun p => { p with arguments, loopDepth := 0, optionIndex := 1, optionOffset := 0 }
    let outcome ← attempt run
    modifySelf fun p => { p with
      arguments := before.arguments
      loopDepth := before.loopDepth
      optionIndex := before.optionIndex
      optionOffset := before.optionOffset }
    resume outcome

/-- Starts a shell of the extended language in the process, with the words after its name. -/
def startExtended (words : List Octets) : ShellM Unit := do
  Extended.setUpShell
  let settings ← Extended.startOptions (words.length + 1) ⟨none, false, false, words⟩
  let own := (← self).name
  let endWith (message : Octets) (status : Nat) : ShellM Unit := do
    let _ ← ShellM.write 2 (message ++ "\n")
    setStatus status
  match settings.status?, settings.takesScript, settings.words with
  | some status, _, _ => setStatus status
  | none, true, [] => endWith (own ++ ": -c: option requires an argument") 2
  | none, true, script :: rest =>
    modifySelf fun p => { p with
      name := rest.headD p.name, arguments := rest.tail, options := 'c' :: p.options }
    let _ ← runText i ⟨false, true⟩ ⟨script, "-c: ", 1, false⟩
  | none, false, words =>
    match if settings.readsInput then none else words.head? with
    | none =>
      modifySelf fun p => { p with arguments := words, options := 's' :: p.options }
      match ← ShellM.readAll 0 with
      | .ok text =>
        let _ ← runScript i text
      | .error _ => pure ()
    | some file =>
      match ← ShellM.openPath file .read with
      | .error fault => endWith (own ++ ": " ++ file ++ ": " ++ fault.text) 127
      | .ok index =>
        modifySelf fun p => { p with name := file, arguments := words.tail, frames := [⟨"main", 0, file⟩] }
        ShellM.connect Utility.inputDescriptor index
        let content ← ShellM.readAll Utility.inputDescriptor
        ShellM.close Utility.inputDescriptor
        match content with
        | .ok text =>
          if Extended.isBinary (Octets.toBytes text) then
            endWith (file ++ ": " ++ file ++ ": cannot execute binary file") 126
          else
            let _ ← runScript i text
        | .error _ => endWith (file ++ ": " ++ file ++ ": Is a directory") 126

/-- Starts a shell in the process, with the words after its name. -/
def startShell (words : List Octets) : ShellM Unit := do
  Launch.setUpVariables
  let settings ← Builtin.setOptions true (words.length + 1) ⟨false, false, words⟩
  let runStandardInput (arguments : List Octets) : ShellM Unit := do
    modifySelf fun p => { p with arguments, options := 's' :: p.options.filter (· ≠ 's') }
    match ← ShellM.readAll 0 with
    | .ok text =>
      let _ ← runScript i text
    | .error _ => pure ()
  match settings.takesScript, settings.words with
  | true, [] => ShellM.fail "-c requires an argument"
  | true, script :: rest =>
    modifySelf fun p => { p with name := rest.headD p.name, arguments := rest.tail }
    let _ ← runText i ⟨false, true⟩ ⟨script, "", 1, false⟩
  | false, [] => runStandardInput []
  | false, file :: rest =>
    if (← self).hasOption 's' then runStandardInput settings.words
    else match ← ShellM.openPath file .read with
      | .error fault => ShellM.fail (ShellM.openFault file false fault)
      | .ok index =>
        modifySelf fun p => { p with name := file, arguments := rest }
        ShellM.connect Utility.inputDescriptor index
        let content ← ShellM.readAll Utility.inputDescriptor
        ShellM.close Utility.inputDescriptor
        match content with
        | .ok text =>
          let _ ← runScript i text
        | .error _ => pure ()

/-- Runs what words call in place of the program. -/
def runErrand (words : List Octets) (complaint : (FileFault → ShellM Unit)) : ShellM Unit := do
  let s ← get
  match Launch.find s (Launch.directoriesFor s.self) words with
  | .ok loaded => i.loaded loaded
  | .error fault =>
    complaint fault
    setStatus (if fault = .notFound then 127 else 126)

/-- Runs a program of the machine with words as a child, and gives how it ends. -/
def spawn (words : List Octets) : ShellM (Except FileFault Ending) := do
  let s ← get
  match Launch.find s (Launch.directoriesFor s.self) words with
  | .ok loaded => return .ok (← inChild id (runToEnd i (i.loaded loaded)))
  | .error fault => pure (.error fault)

/-- Runs a program of the machine itself in the process. -/
def runLoaded (loaded : Program.Loaded) : ShellM Unit := do
  let words := loaded.arguments.map Octets.ofText
  modifySelf (·.become (Octets.ofText loaded.called) words)
  if loaded.native = "bash" then startExtended i words
  else if loaded.native ∈ Launch.shellNames then startShell i words
  else if loaded.native ∈ Launch.indentedNames then setStatus (← Indented.start (spawn i) i.fuel words)
  else match Launch.errand? loaded.native words with
    | some errand =>
      match ← errand with
      | .done status => setStatus status
      | .exec command complaint => runErrand i command complaint
      | .children commands complaint =>
        let endings ← commands.mapM fun command =>
          inChild id (runToEnd i (runErrand i command complaint))
        let failed := endings.find? fun e => e.status ≠ 0
        setStatus (match failed.map Ending.status with
          | none => 0
          | some status => if status = 126 || status = 127 then status else 123)
      | .search search =>
        let complaint (words : List Octets) (fault : FileFault) : ShellM Unit :=
          Utility.warn (Utility.quoted (words.headD "") ++ ": " ++ fault.text)
        let enter (path : Octets) : ShellM Unit := do
          match ← Utility.look path with
          | .ok (l, _) => modify fun s => { s with workspace.directory := l, self.directory := "" }
          | .error _ => pure ()
        let runner (words : List Octets) (directory? : Option Octets) : ShellM Nat := do
          let ending ← inChild id (runToEnd i (do
            directory?.forM enter
            runErrand i words (complaint words)))
          pure ending.status
        setStatus (← search.carryOut runner)
    | none =>
      match Utility.table.find? (·.1 == loaded.native) with
      | some (name, work) =>
        if !Launch.namesOnly.contains name then fillQueues i words
        setStatus (← work words)
        if name = "sleep" && (← self).status = 0 then runJobs i
      | none => setStatus 0

/-- Runs a program in place of the script. -/
def replaceScript (directories : List Path) (words : List Octets) : ShellM Unit := do
  match Launch.find (← get) directories words with
  | .error fault =>
    ShellM.complain (words.headD "" ++ ": " ++ Launch.faultText fault)
    setStatus (Launch.faultStatus fault)
    throw .exit
  | .ok loaded => throw (.gone (← runToEnd i (i.loaded loaded)))

/-- Runs the program in a file in place of the script. The shell remembers the path for it. -/
def replaceByFile (path : Octets) (words : List Octets) : ShellM Unit := do
  match Extended.load (← get) path (words.headD "") words.tail with
  | .error fault =>
    Extended.tellFault fault
    throw .exit
  | .ok loaded =>
    modifySelf (·.put "_" (.ofText? (some path) true false))
    throw (.gone (← runToEnd i (i.loaded loaded)))

/-- Runs a program, as a child unless nothing follows in the script. -/
def runProgram (setting : Setting) (call : Call) : ShellM Unit := do
  let s ← get
  let directories := if call.isStandard then Launch.standardDirectories else Builtin.programDirectories s.self
  let found := if call.name.contains '/' then .ok ⟨""⟩ else Builtin.findProgram directories s call.name
  match found with
  | .error fault =>
    ShellM.complain (call.name ++ ": " ++ Launch.faultText fault)
    setStatus 127
  | .ok _ =>
    if setting.isLast && s.self.traps.isEmpty then replaceScript i directories call.words
    else
      let ending ← inChild id (runToEnd i (replaceScript i directories call.words))
      ShellM.noteEnding ending

/-- Runs a program of the extended language as a child, or the function for names that call nothing. -/
def runFoundProgram (call : Call) : ShellM Unit := do
  let s ← get
  let directories := if call.isStandard then Launch.standardDirectories else Extended.programDirectories s.self
  match Extended.programFile? s directories call.name with
  | some path =>
    let ending ← inChild id (runToEnd i (replaceByFile i path call.words))
    ShellM.noteEnding ending
  | none =>
    let handler := "command_not_found_handle"
    match s.self.functions.find? (·.1 == handler) with
    | some (_, f) =>
      let ending ← inChild id (runToEnd i (runFunction i .plain handler f call.words))
      ShellM.noteEnding ending
    | none =>
      withoutName (ShellM.complain (call.name ++ ": command not found"))
      setStatus 127

/-- Runs a program in place of the script, as the options of the command for that say. -/
def replaceShell (g : Extended.Given) : ShellM Nat := do
  let s ← get
  let name := g.words.headD ""
  let called := (g.argument? 'a').getD name
  let called := if g.has 'l' then "-" ++ called else called
  let refuse (message : Octets) (status : Nat) : ShellM Nat := do
    ShellM.complain message
    setStatus status
    if s.self.switches.contains "execfail" then pure status else throw .exit
  match Extended.programFile? s (Extended.programDirectories s.self) name with
  | none =>
    if s.workspace.isDirectory (Octets.toPath name) then refuse (name ++ ": cannot execute: Is a directory") 126
    else refuse (name ++ ": not found") 127
  | some path =>
    let path := Extended.fullPath s.workspace path
    match Extended.load s path called g.words.tail with
    | .error fault =>
      Extended.tellFault fault
      let text := String.ofList (fault.message.toList.drop (path.length + 2))
      if fault.status = 127 then
        if s.self.switches.contains "execfail" then pure 127 else throw .exit
      else refuse (path ++ ": cannot execute: " ++ text) 126
    | .ok loaded =>
      modifySelf fun p =>
        let depth := ((p.valueOf? "SHLVL").bind String.toNat?).getD 1
        let p := if g.has 'c' then { p with bindings := [] }
          else p.restore "SHLVL" ((p.binding? "SHLVL").map fun v =>
            { v with content? := some (.text (toString (depth - 1))) })
        p.put "_" (.ofText? (some path) true false)
      throw (.gone (← runToEnd i (i.loaded loaded)))

end Interpreter

end ReleaseMatrix.Shell
