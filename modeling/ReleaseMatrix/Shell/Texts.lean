import ReleaseMatrix.Shell.Child
import ReleaseMatrix.Shell.Expansion
import ReleaseMatrix.Shell.Signal
import ReleaseMatrix.Shell.Builtin.Basic
import ReleaseMatrix.Shell.Extended.Options

namespace ReleaseMatrix.Shell

/-- What runs the commands within a command. -/
structure Interpreter where
  /-- How often a loop may go round, and how deep a word may be. -/
  fuel : Nat
  command : Setting → Command → ShellM Unit
  /-- Runs a program of the machine itself in the process. -/
  loaded : Program.Loaded → ShellM Unit
  /-- How the commands in words run. -/
  runner : CommandRunner

namespace Interpreter

open ShellM (self modifySelf setStatus)

variable (i : Interpreter)

/-- Runs the lines of a script, and prints each one before where that is said and the option for that is on. Says
whether there were commands in them. -/
def runLines (setting : Setting) (origin : Origin) : Nat → Bool → Source → ShellM Bool
  | 0, _, _ => throw .exhausted
  | n + 1, hasRun, source => do
    let p ← self
    let source := { source with
      documents := p.documents
      documentCount := p.documentCount
      aliases := if p.isExtended && !p.switches.contains "expand_aliases" then [] else p.aliases
      isExtended := p.isExtended
      hasGroups := p.isExtended && p.switches.contains "extglob" }
    let result := source.readLine
    if origin.isFile && p.hasOption 'v' then
      let left := match result with
        | .error e => e.left
        | .ok (_, _, after) => after.rest.length
      let _ ← ShellM.write 2 (linesRead source.rest left)
    match result with
    | .error e =>
      if p.isExtended then
        complainOfText origin e
        setStatus e.status
        pure true
      else
        modifySelf fun p => { p with line := e.line }
        ShellM.fail ("Syntax error: " ++ (e.messages.headD ""))
    | .ok (command?, isAtEnd, source) =>
      modifySelf fun p => { p with documents := source.documents, documentCount := source.documentCount }
      if p.isExtended then source.warnings.forM fun (line, warning) => do
        let _ ← ShellM.write 2 (p.sourceName ++ ": line " ++ toString line ++ ": " ++ warning ++ "\n")
      match command? with
      | some command =>
        tryCatch (i.command ⟨setting.isTested, setting.isLast && isAtEnd⟩ command) fun jump =>
          if jump = .abandoned && p.isExtended then pure () else throw jump
      | none => pure ()
      let hasRun := hasRun || command?.isSome
      if isAtEnd then pure hasRun else runLines setting origin n hasRun { source with warnings := [] }

/-- Runs a text as a script of its own. Says whether there were commands in it. -/
def runText (setting : Setting) (origin : Origin) : ShellM Bool := do
  let isExtended := (← self).isExtended
  let text := if isExtended && !origin.text.endsWith "\n" then origin.text ++ "\n" else origin.text
  inText (runLines i setting origin (text.length + 1) false (Source.start text origin.line))

/-- Runs what a file holds. Says whether there were commands in it. -/
def runScript (text : Octets) : ShellM Bool :=
  runText i .plain ⟨text, "", 1, true⟩

/-- Runs work to the end of its process, with the trap for that. -/
def runToEnd (work : ShellM Unit) : ShellM Ending := do
  match ← attempt work with
  | .error .exhausted => throw .exhausted
  | .error (.gone ending) => pure ending
  | _ =>
    let p ← self
    match p.trap? 0 with
    | none => pure (.exited (p.status % 256))
    | some action =>
      modifySelf fun p =>
        { p with traps := p.traps.filter (·.1 ≠ 0), trappedStatus? := some p.status, command? := none }
      match ← attempt (runText i .plain ⟨action, "exit trap: ", 1, false⟩) with
      | .error .exhausted => throw .exhausted
      | .error (.gone ending) => pure ending
      | .error .exit | .error .failed => pure (.exited ((← self).status % 256))
      | _ => pure (.exited (p.status % 256))

/-- Runs the trap for an event if there is one. The status stays as it was before. -/
def runEvent (event : Nat) : ShellM Unit := do
  let p ← self
  match (p.trap? event).filter (· ≠ "") with
  | none => pure ()
  | some action =>
    if !p.busyEvents.contains event then
      let label := if event = Signal.step then "debug trap: "
        else if event = Signal.failure then "error trap: " else "return trap: "
      modifySelf fun p => { p with busyEvents := event :: p.busyEvents }
      let outcome ← attempt (withoutName (runText i .plain ⟨action, label, p.line, false⟩))
      modifySelf fun now =>
        { now with busyEvents := p.busyEvents, line := p.line, pipeStatuses := p.pipeStatuses }
      let _ ← resume outcome
      setStatus p.status

/-- Runs the traps of signals that arrived. The status stays as it was before. -/
def runTraps : ShellM Unit := do
  let p ← self
  if !p.arrived.isEmpty then
    modifySelf fun p => { p with arrived := [], trappedStatus? := p.trappedStatus? <|> some p.status }
    let outcome ← attempt <| (p.arrived.mergeSort fun a b => a ≤ b).forM fun signal => do
      match (← self).trap? signal with
      | some action =>
        let _ ← runText i .plain ⟨action, "trap: ", 1, false⟩
        setStatus p.status
      | none => pure ()
    modifySelf fun after =>
      { after with trappedStatus? := p.trappedStatus?, line := if p.isExtended then p.line else after.line }
    resume outcome

end Interpreter

namespace Interpreter

open ShellM (self modifySelf setStatus)

variable (i : Interpreter)

/-- Runs as many jobs in the background as a number says. -/
def runJobsUpTo : Nat → ShellM Unit
  | 0 => throw .exhausted
  | n + 1 => do
    let s ← get
    match s.world.waiting with
    | [] => pure ()
    | job :: jobs =>
      set { s with self := job.process, workspace.directory := job.place, world.waiting := jobs }
      let ending ← runToEnd i (i.command ⟨false, true⟩ job.body)
      modify fun after => { after with
        self := s.self
        workspace.directory := placeAfter s after
        world.endings := (job.process.id, ending) :: after.world.endings }
      ShellM.receiveMail
      runJobsUpTo n

/-- Runs the jobs in the background that are not run yet, and those that they start. -/
def runJobs : ShellM Unit :=
  runJobsUpTo i i.fuel

/-- Runs the jobs in the background if one of some paths leads to a pipe that is to be read but holds nothing. -/
def fillQueues (paths : List Octets) : ShellM Unit := do
  let s ← get
  let isDry (path : Octets) : Bool := match s.workspace.entry? (Octets.toPath path) with
    | some (.queue []) => true
    | _ => false
  if !s.world.waiting.isEmpty && paths.any isDry then runJobs i

/-- Waits for jobs. -/
def waitFor (words : List Octets) : ShellM Nat := do
  let (_, words) ← Builtin.options "" words
  if words.isEmpty then
    runJobs i
    modifySelf fun p => { p with jobs := [] }
    pure 0
  else words.foldlM (fun _ word => do
    let id ← if word.toList.head? = some '%' then pure ((← self).lastJob?.getD 0) else ShellM.count word
    if (← self).jobs.contains id then
      runJobs i
      modifySelf fun p => { p with jobs := p.jobs.filter (· ≠ id) }
      match (← get).world.endings.find? (·.1 == id) with
      | some (_, ending) =>
        ShellM.noteEnding ending
        pure ending.status
      | none => pure 127
    else pure 127) 0

/-- Waits for jobs in the extended shell. -/
def waitExtended (words : List Octets) : ShellM Nat :=
  Extended.withOptions "fnp:" false words fun g => do
    let take (id : Nat) : ShellM Nat := do
      runJobs i
      modifySelf fun p => { p with jobs := p.jobs.filter (· ≠ id) }
      match (← get).world.endings.find? (·.1 == id) with
      | some (_, ending) =>
        ShellM.noteEnding ending
        pure ending.status
      | none => pure 127
    if g.has 'n' then
      match (← self).jobs.find? fun id => g.words.isEmpty || g.words.contains (toString id) with
      | none => pure 127
      | some id =>
        (g.argument? 'p').forM fun name => ShellM.assign name (toString id)
        take id
    else if g.words.isEmpty then
      runJobs i
      modifySelf fun p => { p with jobs := [] }
      pure 0
    else g.words.foldlM (fun _ word => do
      let p ← self
      let s ← get
      let isKnown (id : Nat) : Bool := p.jobs.contains id || s.world.endings.any (·.1 = id)
      if word.toList.head? = some '%' then
        match p.lastJob? with
        | some id => take id
        | none => Extended.refuse (word ++ ": no such job") 127
      else match word.toNat? with
        | some id =>
          if isKnown id then take id
          else Extended.refuse ("pid " ++ word ++ " is not a child of this shell") 127
        | none => Extended.refuse ("\x60" ++ word ++ "': not a pid or valid job spec") 1) 0

end Interpreter

end ReleaseMatrix.Shell
