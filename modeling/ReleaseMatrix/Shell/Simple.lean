import ReleaseMatrix.Shell.Connections
import ReleaseMatrix.Shell.Extended.Builtins
import ReleaseMatrix.Shell.Extended.Conditions
import ReleaseMatrix.Shell.Programs

namespace ReleaseMatrix.Shell

namespace Interpreter

open ShellM (self modifySelf setStatus)

variable (i : Interpreter)

/-- Runs a file as a part of the script. -/
def runFile (file : Octets) : ShellM Unit := do
  let s ← get
  let paths := (Builtin.programDirectories s.self).map fun dir => Octets.ofText (dir.join (Octets.toText file)).text
  let path? := if file.contains '/' then some file
    else paths.find? fun path => s.workspace.isFile (Octets.toPath path)
  match path? with
  | none => ShellM.fail (file ++ ": not found")
  | some path =>
    match ← ShellM.openPath path .read with
    | .error fault => ShellM.fail (ShellM.openFault path false fault)
    | .ok index =>
      ShellM.connect Utility.inputDescriptor index
      let content ← ShellM.readAll Utility.inputDescriptor
      ShellM.close Utility.inputDescriptor
      modifySelf fun p => { p with command? := some path }
      match content with
      | .error _ => setStatus 0
      | .ok text =>
        let hasRun ← tryCatch (runScript i text) fun
          | .leaveFunction => pure true
          | jump => throw jump
        if !hasRun then setStatus 0

/-- Runs a command of the shell. -/
def runBuiltin (setting : Setting) (name : Octets) (words : List Octets) : ShellM Unit := do
  let before := (← self).command?
  modifySelf fun p => { p with command? := some name }
  let outcome ← attempt do
    match name with
    | "eval" =>
      let hasRun ← runText i setting.inner ⟨" ".intercalate words, "", 1, false⟩
      if !hasRun then setStatus 0
    | "." =>
      let (_, words) ← Builtin.options "" words
      match words with
      | [] => setStatus 0
      | file :: _ => runFile i file
    | "exec" =>
      let (_, words) ← Builtin.options "" words
      if words.isEmpty then setStatus 0
      else replaceScript i (Builtin.programDirectories (← self)) words
    | "wait" => setStatus (← waitFor i words)
    | name =>
      match Builtin.run? name words with
      | some work => setStatus (← work)
      | none => setStatus 0
  modifySelf fun p => { p with command? := before }
  resume outcome

/-- Runs a file as a part of a script of the extended language, with arguments of its own if there are some. -/
def sourceFile (file : Octets) (arguments : List Octets) : ShellM Nat := do
  let s ← get
  let paths := (Extended.programDirectories s.self).map fun dir =>
    Octets.ofText (dir.join (Octets.toText file)).text
  let found? := paths.find? fun path => s.workspace.isFile (Octets.toPath path)
  let path := if file.contains '/' then file else found?.getD file
  match ← ShellM.openPath path .read with
  | .error fault =>
    withoutName (ShellM.complain (path ++ ": " ++ fault.text))
    pure 1
  | .ok index =>
    ShellM.connect Utility.inputDescriptor index
    let content ← ShellM.readAll Utility.inputDescriptor
    ShellM.close Utility.inputDescriptor
    match content with
    | .error _ => Extended.refuse (path ++ ": is a directory") 1
    | .ok text =>
      if Extended.isBinary (Octets.toBytes text) then Extended.refuse (path ++ ": cannot execute binary file") 126
      else
        let p ← self
        let isGiven := !arguments.isEmpty
        modifySelf fun p => { p with
          frames := ⟨"source", p.line, path⟩ :: p.frames
          arguments := if isGiven then arguments else p.arguments }
        let outcome ← attempt <| withoutName <| tryCatch (runScript i text) fun
          | .leaveFunction => pure true
          | jump => throw jump
        if outcome.isOk then runEvent i Signal.leaving
        modifySelf fun now => { now with
          frames := p.frames, line := p.line, arguments := if isGiven then p.arguments else now.arguments }
        let hasRun ← resume outcome
        if hasRun then do pure (← self).status else pure 0

/-- Runs a command of the extended shell. -/
def runExtendedBuiltin (setting : Setting) (name : Octets) (words : List Octets) : ShellM Unit := do
  let (name, words) := Extended.meantBuiltin name words
  let before := (← self).command?
  modifySelf fun p => { p with command? := some name }
  let outcome ← attempt do
    match name with
    | "eval" =>
      setStatus (← Extended.withOptions "" false words fun g => do
        let p ← self
        let hasRun ← withoutName
          (runText i setting.inner ⟨" ".intercalate g.words, "eval: ", p.line, false⟩)
        if hasRun then do pure (← self).status else pure 0)
    | "." | "source" =>
      setStatus (← Extended.withOptions "" false words fun g => do
        match g.words with
        | [] =>
          ShellM.complain "filename argument required"
          Extended.tellUsage
        | file :: arguments => sourceFile i file arguments)
    | "exec" =>
      setStatus (← Extended.withOptions "cla:" false words fun g =>
        if g.words.isEmpty then pure 0 else replaceShell i g)
    | "wait" => setStatus (← waitExtended i words)
    | "builtin" =>
      setStatus (← Extended.withOptions "" false words fun g =>
        match g.words with
        | [] => pure 0
        | inner :: _ => Extended.refuse (inner ++ ": not a shell builtin") 1)
    | name =>
      match Extended.run? name words with
      | some work => setStatus (← work)
      | none => setStatus 0
  modifySelf fun p => { p with command? := before }
  resume outcome

/-- Expands the values of assignments and carries these out. -/
def assignAll (isLocal exports : Bool) (assignments : List Assignment) : ShellM (List (String × Octets)) :=
  assignments.mapM fun a => do
    let value ← Expansion.expandValue i.runner i.fuel a.value
    assignFor isLocal exports a.name value
    pure (a.name, value)

/-- Runs a simple command. Its assignments last if it has no words, or is a special one. -/
def runSimple (setting : Setting) (line : Nat) (assignments : List Assignment) (words : List Word)
    (redirections : List Redirection) : ShellM Unit := do
  modifySelf fun p => { p with line, outputStatus := 0 }
  let call ← Call.expand i.runner i.fuel words
  let isSpecial := call.isSpecial (← self)
  let isExec := call.name = "exec" && call.callee (← self) matches .builtin
  let isLocal := !call.fields.isEmpty && !isSpecial
  let depth := (← self).locals.length
  if isLocal then modifySelf fun p => { p with locals := [] :: p.locals }
  let errors? := (← ShellM.opened? 2).map (·.1)
  let outcome ← attempt do
    let before := (← self).descriptors
    let inner ← attempt do
      if ← makeRedirections i redirections then
        let assigned ← assignAll i isLocal (isExec && call.words.length > 1) assignments
        if (← self).hasOption 'x' then traceCommand errors? assigned call.fields
        match call.callee (← self) with
        | .nothing => modifySelf fun p => { p with status := p.outputStatus }
        | .function f => runFunction i setting call.name f call.words.tail
        | .program => runProgram i setting call
        | .builtin =>
          tryCatch (runBuiltin i setting call.name call.words.tail) fun jump =>
            if jump = .failed && !isSpecial then pure () else throw jump
      else
        setStatus 2
        if isSpecial then throw .failed
    if !isExec || inner matches .error _ then
      modifySelf fun p => { p with descriptors := before }
    resume inner
  ShellM.leaveLocals depth
  resume outcome

/-- Carries out assignments for one command of the extended language. -/
def assignBefore (assignments : List Assignment) : ShellM Unit :=
  assignments.forM fun a => do
    let value ← Expansion.expandValue i.runner i.fuel a.value
    let p ← self
    let old := if a.appends then (p.valueOf? a.name).getD "" else ""
    Trace.tell i.runner i.fuel (a.name ++ (if a.appends then "+=" else "=") ++ Trace.value value)
    ShellM.makeLocal (a.name ++ "=" ++ old ++ value) true

/-- Runs a simple command of the extended language. Its assignments last if it has no words. -/
def runExtended (setting : Setting) (line : Nat) (assignments : List Assignment) (words : List Word)
    (redirections : List Redirection) : ShellM Unit := do
  modifySelf fun p => { p with line, outputStatus := 0 }
  runEvent i Signal.step
  let start ← get
  let call ← Call.expand i.runner i.fuel words
  let p ← self
  let isExec := call.name = "exec" && call.callee p matches .builtin
  let isFunction := call.callee p matches .function _
  let leave (isKept : Bool) : ShellM Unit := do
    if !isKept then modifySelf fun now => { now with descriptors := start.self.descriptors }
    if !isExec then finishPipes i start.world.waiting.length
  if call.fields.isEmpty then
    assignments.forM (Expansion.assign i.runner i.fuel fun shown text =>
      Trace.tell i.runner i.fuel (shown ++ Trace.value text))
    let isMade ← makeRedirections i redirections
    leave false
    modifySelf fun p => { p with status := if isMade then p.outputStatus else 1 }
  else
    let depth := p.locals.length
    if isFunction || !assignments.isEmpty then modifySelf fun p => { p with locals := [] :: p.locals }
    let outcome ← attempt do
      assignBefore i assignments
      Trace.tell i.runner i.fuel (Trace.words call.fields)
      if ← makeRedirections i redirections then
        match call.callee (← self) with
        | .nothing => setStatus 0
        | .function f => runFunction i setting call.name f call.words.tail
        | .program => runFoundProgram i call
        | .builtin =>
          tryCatch (runExtendedBuiltin i setting call.name call.words.tail) fun jump =>
            if jump = .failed then pure () else throw jump
        pure true
      else
        setStatus 1
        pure false
    leave (isExec && outcome matches .ok true)
    ShellM.leaveLocals depth
    let _ ← resume outcome
  let last := call.fields.getLast?.getD ""
  modifySelf fun p =>
    { p.put "_" (.ofText? (some last) false false) with pipeStatuses := [p.status] }

end Interpreter

end ReleaseMatrix.Shell
