import ReleaseMatrix.Shell.Texts
import ReleaseMatrix.Shell.Redirect

namespace ReleaseMatrix.Shell

namespace Interpreter

open ShellM (self modifySelf setStatus)

variable (i : Interpreter)

/-- What redirections go to. -/
def expandTargets : List Redirection → ShellM (List (Nat × ShellM.Target))
  | [] => pure []
  | r :: rs => do
    let p ← self
    let target ← match r.mode with
      | .document number =>
        pure (.document (((p.documents.find? (·.1 == number)).map (·.2)).getD []))
      | .duplicate => do ShellM.targetOf (← Expansion.expandText i.runner i.fuel r.target)
      | mode =>
        let path ← Expansion.expandText i.runner i.fuel r.target
        if mode = .read then fillQueues i [path]
        pure (.path path (ShellM.accessOf (p.hasOption 'C') mode))
    pure ((r.descriptor, target) :: (← expandTargets rs))

/-- Makes redirections of the extended language one after the other, and says whether that is possible. -/
def redirectInOrder : List Redirection → ShellM Bool
  | [] => pure true
  | r :: rs => do
    let p ← self
    let isMade ← match r.mode with
      | .document number =>
        let text := ((p.documents.find? (·.1 == number)).map (·.2)).getD []
        let text ← Expansion.expandDocument i.runner i.fuel text
        ShellM.redirectAsWritten "" [(r.descriptor, .text text)]
      | .line =>
        let text ← Expansion.expandText i.runner i.fuel r.target
        ShellM.redirectAsWritten "" [(r.descriptor, .text (text ++ "\n"))]
      | mode =>
        let fields ← Expansion.expandFields i.runner i.fuel r.target
        if mode = .read then fillQueues i fields
        withoutName <| match ShellM.targetsOf? (p.hasOption 'C') r fields with
          | some targets => ShellM.redirectAsWritten r.source targets
          | none => do
            ShellM.complain (r.source ++ if fields = [""] then ": Bad file descriptor" else ": ambiguous redirect")
            pure false
    if isMade then redirectInOrder rs else pure false

/-- Makes redirections, and says whether that is possible. -/
def makeRedirections (redirections : List Redirection) : ShellM Bool := do
  if (← self).isExtended then redirectInOrder i redirections
  else
    let targets ← expandTargets i redirections
    ShellM.tryRedirectAll (Expansion.expandDocument i.runner i.fuel) targets

/-- Runs the jobs that read from pipes that words opened, if there are more jobs than before. -/
def finishPipes (waiting : Nat) : ShellM Unit := do
  let s ← get
  let isNew := s.self.isExtended && s.world.waiting.length > waiting
  if isNew && (s.world.waiting.drop waiting).any fun job => !s.self.jobs.contains job.process.id then runJobs i

/-- Does work with redirections, which end with it. Says whether they could be made. -/
def withRedirections (redirections : List Redirection) (work : ShellM Unit) : ShellM Bool := do
  let p ← self
  let waiting := (← get).world.waiting.length
  let outcome ← attempt do
    if ← makeRedirections i redirections then
      work
      pure true
    else
      setStatus (if p.isExtended then 1 else 2)
      pure false
  modifySelf fun now => { now with descriptors := p.descriptors }
  finishPipes i waiting
  resume outcome

/-- Prints what a redirection reads. -/
def copyInput (r : Redirection) : ShellM Unit := do
  if ← makeRedirections i [r] then
    match ← ShellM.readAll 0 with
    | .ok text =>
      let _ ← ShellM.write 1 text
      setStatus 0
    | .error _ => setStatus 1
  else setStatus 1

/-- Runs commands for their output. -/
def takeOutput (body? : Option Command) : ShellM Octets := do
  match body? with
  | none =>
    modifySelf fun p => { p with outputStatus := 0 }
    pure ""
  | some body =>
    let p ← self
    let index ← ShellM.addOpened ⟨.pipe [] [], 0, true, true, false⟩
    let keepsErrors := !p.isExtended || p.switches.contains "inherit_errexit" || p.switches.contains "posix"
    let start (p : Process) : Process :=
      { p.connected 1 index with
        depth := p.depth + 1
        options := if keepsErrors then p.options else p.options.filter (· ≠ 'e') }
    let work := match if p.isExtended then readOnly? body else none with
      | some r => copyInput i r
      | none => i.command ⟨false, true⟩ body
    let ending ← inChild start (runToEnd i work)
    let status := (← self).status
    ShellM.noteEnding ending
    modifySelf fun p => { p with status, outputStatus := ending.status }
    match (← get).world.opened[index]? with
    | some ⟨.pipe unread later, _, _, _, _⟩ =>
      let text := String.ofList (ShellM.unreadText unread later)
      if p.isExtended && text.contains '\x00' then
        withoutName (ShellM.complain "warning: command substitution: ignored null byte in input")
      pure (outputText text)
    | _ => pure ""

/-- Gives the path of a pipe that commands write to, or read from once there is something in it. -/
def openPipe (isRead : Bool) (body? : Option Command) : ShellM Octets := do
  let index ← ShellM.addOpened ⟨.pipe [] [], 0, true, true, false⟩
  let taken := (← self).descriptors.map (·.1)
  let descriptor := (((List.range 54).map (63 - ·)).find? fun d => !taken.contains d).getD 9
  match body? with
  | none => pure ()
  | some body =>
    if isRead then
      let _ ← inChild (fun p => { p.connected 1 index with depth := p.depth + 1 })
        (runToEnd i (i.command ⟨false, true⟩ body))
    else
      let _ ← leaveForLater (fun p => { p.connected 0 index with depth := p.depth + 1 }) body
  ShellM.connect descriptor index
  pure ("/dev/fd/" ++ toString descriptor)

end Interpreter

end ReleaseMatrix.Shell
