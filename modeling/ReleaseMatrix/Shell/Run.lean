import ReleaseMatrix.Shell.Extended.Conditions
import ReleaseMatrix.Shell.Extended.Flow
import ReleaseMatrix.Shell.Texts
import ReleaseMatrix.Shell.Simple

namespace ReleaseMatrix.Shell

namespace Interpreter

open ShellM (self modifySelf setStatus)

variable (i : Interpreter)

/-- Runs a loop as long as its test says so. `last` is the status of the round before. -/
def runLoop (setting : Setting) (isUntil : Bool) (test body : Command) : Nat → Nat → ShellM Unit
  | 0, _ => throw .exhausted
  | n + 1, last => do
    let goesOn ← runRound do
      i.command .tested test
      if ((← self).status = 0) != isUntil then
        i.command setting.inner body
        pure true
      else
        setStatus last
        pure false
    if goesOn then
      let status := (← self).status
      runLoop setting isUntil test body n status

/-- Runs the body of a loop for each value. What is told before each round is given too. -/
def runEach (setting : Setting) (line : Nat) (name : String) (shown : Octets) (body : Command) :
    List Octets → ShellM Unit
  | [] => pure ()
  | value :: values => do
    if (← self).isExtended then
      modifySelf fun p => { p with line }
      runEvent i Signal.step
      Trace.tell i.runner i.fuel shown
    ShellM.assign name value
    let goesOn ← runRound do
      i.command setting.inner body
      pure true
    if goesOn then runEach setting line name shown body values

/-- Runs the body of a loop for each word that is chosen from a menu. -/
def runMenu (setting : Setting) (name : String) (body : Command) (choices : List Octets) : Nat → Bool → ShellM Unit
  | 0, _ => throw .exhausted
  | n + 1, showsMenu => do
    let p ← self
    let width := ((p.valueOf? "COLUMNS").bind String.toNat?).getD 80
    if showsMenu then
      let _ ← ShellM.write 2 (menu width choices)
    let _ ← ShellM.write 2 ((p.valueOf? "PS3").getD "#? ")
    let status ← Extended.readFields ["-r", "REPLY"]
    let reply := ((← self).valueOf? "REPLY").getD ""
    if status ≠ 0 then
      let _ ← ShellM.write 1 "\n"
      setStatus 1
    else if reply.isEmpty then runMenu setting name body choices n true
    else
      let choice := match reply.toNat? with
        | some (k + 1) => choices.getD k ""
        | _ => ""
      ShellM.assign name choice
      let goesOn ← runRound do
        i.command setting.inner body
        pure true
      if goesOn then runMenu setting name body choices n false

/-- The value of an expression that steers a loop. Nothing is given if it has none. -/
def steer (line : Nat) (word : Word) : ShellM (Option Int64) := do
  modifySelf fun p => { p with line }
  let text ← Expansion.expandExpression i.runner i.fuel word
  if (text.toList.all (· = ' ')) then pure (some 1)
  else
    runEvent i Signal.step
    Trace.tell i.runner i.fuel ("(( " ++ text ++ " ))")
    Extended.calculateFor "((" text

/-- Runs a loop that is steered by expressions. -/
def runCounting (setting : Setting) (line : Nat) (test step : Word) (body : Command) : Nat → Nat → ShellM Unit
  | 0, _ => throw .exhausted
  | n + 1, last => do
    match ← steer i line test with
    | none => setStatus 1
    | some value =>
      if value = 0 then setStatus last
      else
        let goesOn ← runRound do
          i.command setting.inner body
          pure true
        if goesOn then
          let status := (← self).status
          match ← steer i line step with
          | none => setStatus 1
          | some _ => runCounting setting line test step body n status

/-- Whether one of several patterns matches a text. -/
def matchesAny (subject : Octets) : List Word → ShellM Bool
  | [] => pure false
  | pattern :: patterns => do
    let glyphs ← Expansion.expandGlyphs i.runner i.fuel pattern
    let p ← self
    if p.matchesText p.patternStyle glyphs subject then pure true else matchesAny subject patterns

/-- The arms from the first one on with a pattern that matches. -/
def findArm (subject : Octets) : List (List Word × Option Command × ArmEnd) →
    ShellM (List (List Word × Option Command × ArmEnd))
  | [] => pure []
  | (patterns, body) :: arms => do
    if ← matchesAny i subject patterns then pure ((patterns, body) :: arms) else findArm subject arms

/-- Runs the commands of an arm, and of those after it that its end leads to. -/
def runArms (setting : Setting) (subject : Octets) : Nat → List (List Word × Option Command × ArmEnd) → ShellM Unit
  | 0, _ => pure ()
  | _ + 1, [] => pure ()
  | n + 1, (_, body?, ending) :: arms => do
    match body? with
    | some body => i.command (if ending = .stop then setting else setting.inner) body
    | none => setStatus 0
    match ending with
    | .stop => pure ()
    | .fallThrough => runArms setting subject n arms
    | .goOn => do runArms setting subject n (← findArm i subject arms)

/-- Runs commands with pipes between them, each as a child. Gives their statuses. -/
def runPipe (setting : Setting) : Option Nat → List Command → ShellM (List Nat)
  | _, [] => pure []
  | input?, part :: parts => do
    let output? ← if parts.isEmpty then pure none
      else some <$> ShellM.addOpened ⟨.pipe [] [], 0, true, true, false⟩
    let connect (p : Process) (descriptor : Nat) (index? : Option Nat) : Process :=
      match index? with
      | some index => p.connected descriptor index
      | none => p
    let connected (p : Process) : Process := connect (connect p 0 input?) 1 output?
    let p ← self
    if parts.isEmpty && p.isExtended && p.switches.contains "lastpipe" then
      modifySelf connected
      let outcome ← attempt (i.command setting.inner part)
      modifySelf fun now => { now with descriptors := p.descriptors }
      resume outcome
      return [(← self).status]
    let ending ← inChild connected (runToEnd i (i.command ⟨setting.isTested, true⟩ part))
    ShellM.noteEnding ending
    let status := (← self).status
    pure (status :: (← runPipe setting output? parts))

/-- Runs a command. Says whether its failure may end the script. -/
def perform (setting : Setting) (c : Command) : ShellM Bool := do
  let isExtended := (← self).isExtended
  match c with
  | .simple line assignments words redirections =>
    if isExtended then runExtended i setting line assignments words redirections
    else runSimple i setting line assignments words redirections
    pure true
  | .sequence first second =>
    i.command setting.inner first
    i.command setting second
    pure false
  | .both first second =>
    i.command .tested first
    if (← self).status = 0 then i.command setting second
    pure false
  | .either first second =>
    i.command .tested first
    if (← self).status ≠ 0 then i.command setting second
    pure false
  | .negation body =>
    i.command .tested body
    setStatus (if (← self).status = 0 then 1 else 0)
    pure false
  | .pipe parts =>
    let statuses ← runPipe i setting none parts
    modifySelf fun p =>
      let failed? := if p.switches.contains "pipefail" then statuses.reverse.find? (· ≠ 0) else none
      { p with status := failed?.getD p.status, pipeStatuses := statuses }
    pure true
  | .background body =>
    let index ← ShellM.addOpened ⟨.void, 0, true, false, false⟩
    let id ← leaveForLater (fun p =>
      let ignored := p.traps.filter fun t => t.1 ≠ 2 && t.1 ≠ 3
      { p.connected 0 index with traps := (2, "") :: (3, "") :: ignored }) body
    modifySelf fun p => { p with lastJob? := some id, jobs := p.jobs ++ [id] }
    setStatus 0
    pure true
  | .branch test positive negative? =>
    i.command .tested test
    if (← self).status = 0 then i.command setting positive
    else match negative? with
      | some negative => i.command setting negative
      | none => setStatus 0
    pure false
  | .loop isUntil test body =>
    inLoop (runLoop i setting isUntil test body i.fuel 0)
    pure false
  | .each line name words? source body =>
    modifySelf fun p => { p with line }
    let values ← match words? with
      | some words => Expansion.expandWords i.runner i.fuel false "" [] words
      | none => do pure (← self).arguments
    if !isName name.toList then
      ShellM.complain ("\x60" ++ name ++ "': not a valid identifier")
      setStatus 1
    else if values.isEmpty then setStatus 0
    else inLoop (runEach i setting line name ("for " ++ name ++ " in" ++ source) body values)
    pure false
  | .choice line subject source arms =>
    modifySelf fun p => { p with line }
    if isExtended then
      runEvent i Signal.step
      Trace.tell i.runner i.fuel ("case " ++ source ++ " in")
    let text ← Expansion.expandText i.runner i.fuel subject
    match ← findArm i text arms with
    | [] => setStatus 0
    | found => runArms i setting text arms.length found
    pure false
  | .selection line name words? source body =>
    modifySelf fun p => { p with line }
    let choices ← match words? with
      | some words => Expansion.expandWords i.runner i.fuel false "" [] words
      | none => do pure (← self).arguments
    runEvent i Signal.step
    Trace.tell i.runner i.fuel ("select " ++ name ++ " in" ++ source)
    if choices.isEmpty then setStatus 0 else inLoop (runMenu i setting name body choices i.fuel true)
    pure false
  | .counting line start test step body =>
    match ← steer i line start with
    | none => setStatus 1
    | some _ => inLoop (runCounting i setting line test step body i.fuel 0)
    pure false
  | .calculation line expression =>
    modifySelf fun p => { p with line }
    runEvent i Signal.step
    let text ← Expansion.expandExpression i.runner i.fuel expression
    Trace.tell i.runner i.fuel ("(( " ++ text ++ " ))")
    let value? ← Extended.calculateFor "((" text
    modifySelf fun p =>
      let status := if value?.all (· = 0) then 1 else 0
      { p with status, pipeStatuses := [status] }
    pure true
  | .condition line condition =>
    modifySelf fun p => { p with line }
    runEvent i Signal.step
    let status ← Extended.conditionStatus i.runner i.fuel false condition
    modifySelf fun p => { p with status, pipeStatuses := [status] }
    pure true
  | .timed isPlain body? =>
    body?.forM (i.command setting.inner)
    let zero := if isPlain then " 0.00\n" else "\t0m0.000s\n"
    let _ ← ShellM.write 2 ((if isPlain then "" else "\n") ++ "real" ++ zero ++ "user" ++ zero ++ "sys" ++ zero)
    pure false
  | .subshell line body redirections =>
    modifySelf fun p => { p with line }
    let targets ← if isExtended then pure [] else expandTargets i redirections
    let ending ← inChild id <| runToEnd i do
      let isMade ← if isExtended then makeRedirections i redirections
        else ShellM.redirectAll (Expansion.expandDocument i.runner i.fuel) targets
      if isMade then i.command ⟨setting.isTested, true⟩ body
      else
        setStatus (if isExtended then 1 else 2)
        throw .failed
    ShellM.noteEnding ending
    modifySelf fun p => { p with pipeStatuses := [p.status] }
    pure true
  | .redirected line body redirections =>
    modifySelf fun p => { p with line }
    let isMade ← withRedirections i redirections (i.command setting.inner body)
    pure !isMade
  | .define name body =>
    let p ← self
    let file := if p.frames.isEmpty then "environment" else p.sourceName
    modifySelf fun p => { p with functions := (name, ⟨body, file⟩) :: p.functions.filter (·.1 ≠ name) }
    setStatus 0
    pure false

/-- Runs a command, and the traps of signals that arrived meanwhile. If it fails, the script may end. -/
def runCommand (setting : Setting) (c : Command) : ShellM Unit := do
  let mayEnd ← if (← self).hasOption 'n' then pure false else perform i setting c
  runTraps i
  let p ← self
  if mayEnd && !setting.isTested && p.status ≠ 0 then
    runEvent i Signal.failure
    if p.hasOption 'e' then throw .exit

/-- The interpreter that lets commands and programs stand in each other as deep as a number says. -/
def ofFuel : Nat → Interpreter
  | 0 =>
    { fuel := 0
      command := fun _ _ => throw .exhausted
      loaded := fun _ => throw .exhausted
      runner := ⟨fun _ => throw .exhausted, fun _ _ => throw .exhausted⟩ }
  | n + 1 =>
    { fuel := n + 1
      command := fun setting c => runCommand (ofFuel n) setting c
      loaded := fun program => runLoaded (ofFuel n) program
      runner := ⟨fun body? => takeOutput (ofFuel n) body?, fun isRead body? => openPipe (ofFuel n) isRead body?⟩ }

end Interpreter

end ReleaseMatrix.Shell
