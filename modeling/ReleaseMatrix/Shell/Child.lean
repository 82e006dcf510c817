import ReleaseMatrix.Shell.Launch

namespace ReleaseMatrix.Shell

/-- What is known of the place where a command stands. -/
structure Setting where
  /-- Whether its status is asked for, so that its failure does not end the script. -/
  isTested : Bool
  /-- Whether it is the last one of its process. -/
  isLast : Bool

namespace Setting

def plain : Setting := ⟨false, false⟩

def tested : Setting := ⟨true, false⟩

/-- The place of a command inside of another one, after which something is still to do. -/
def inner (s : Setting) : Setting := ⟨s.isTested, false⟩

end Setting

/-- A text that runs as a script, and where it comes from. -/
structure Origin where
  text : Octets
  /-- What complaints about the text say before the line. -/
  label : Octets
  /-- The number of its first line. -/
  line : Nat
  /-- Whether its lines may be printed as they are read. -/
  isFile : Bool

open ShellM (self modifySelf)

/-- The outcome of work as a value. -/
def attempt {α : Type} (work : ShellM α) : ShellM (Except Jump α) :=
  ExceptT.lift work.run

/-- Goes on as an outcome says. -/
def resume {α : Type} (outcome : Except Jump α) : ShellM α :=
  MonadExcept.ofExcept outcome

/-- Where a process is after a child ran that started in the same directory. The child knows if that was moved
or removed, unless it went elsewhere. -/
def placeAfter (before after : State) : Location :=
  let l := before.workspace.directory
  if after.self.directory = before.self.directory then after.workspace.directory
  else if (after.workspace.files.get? l).isSome then l
  else FileM.lostPlace l

/-- Runs work as a child of the process. What the child changes of itself is lost after it. -/
def inChild (change : Process → Process) (work : ShellM Ending) : ShellM Ending := do
  let s ← get
  let child := change (s.self.fork s.world.nextId)
  set { s with self := child, world.nextId := s.world.nextId + 1 }
  let ending ← work
  modify fun after => { after with
    self := s.self
    workspace.directory := placeAfter s after }
  ShellM.receiveMail
  pure ending

/-- Leaves a command in the background, in a child of the process with an id that is given. -/
def leaveForLater (change : Process → Process) (body : Command) : ShellM Nat := do
  let s ← get
  let id := s.world.nextId
  let job : Job := ⟨change (s.self.fork id), s.workspace.directory, body⟩
  set { s with
    world.nextId := id + 1
    world.waiting := s.world.waiting ++ [job] }
  pure id

/-- The process with a descriptor that stands for an open file. -/
def Process.connected (p : Process) (descriptor index : Nat) : Process :=
  { p with descriptors := (descriptor, index) :: p.descriptors.filter (·.1 ≠ descriptor) }

/-- Runs one round of a loop, which says whether the loop goes on. -/
def runRound (work : ShellM Bool) : ShellM Bool :=
  tryCatch work fun
    | .leaveLoop levels => if levels ≤ 1 then pure false else throw (.leaveLoop (levels - 1))
    | .nextRound levels => if levels ≤ 1 then pure true else throw (.nextRound (levels - 1))
    | jump => throw jump

/-- Work in a loop. -/
def inLoop (work : ShellM Unit) : ShellM Unit := do
  modifySelf fun p => { p with loopDepth := p.loopDepth + 1 }
  let outcome ← attempt work
  modifySelf fun p => { p with loopDepth := p.loopDepth - 1 }
  resume outcome

/-- Work in a text that runs within another one. -/
def inText {α : Type} (work : ShellM α) : ShellM α := do
  modifySelf fun p => { p with depth := p.depth + 1 }
  let outcome ← attempt work
  modifySelf fun p => { p with depth := p.depth - 1 }
  resume outcome

/-- Work for which the name of the command is not told in complaints. -/
def withoutName {α : Type} (work : ShellM α) : ShellM α := do
  let before := (← self).command?
  modifySelf fun p => { p with command? := none }
  let outcome ← attempt work
  modifySelf fun p => { p with command? := before }
  resume outcome

/-- Prints a command before it runs, on the standard error as it was before the command. -/
def traceCommand (index? : Option Nat) (assignments : List (String × Octets)) (fields : List Octets) :
    ShellM Unit := do
  let p ← self
  let lead := (p.valueOf? "PS4").getD ""
  let texts := (assignments.map fun (name, value) => name ++ "=" ++ value) ++ fields
  let descriptors := p.descriptors
  match index? with
  | some index =>
    ShellM.connect 2 index
    let _ ← ShellM.write 2 (lead ++ " ".intercalate texts ++ "\n")
    modifySelf fun p => { p with descriptors }
  | none => pure ()

/-- The lines of a script that were begun once only so much of it was left. -/
def linesRead (rest : List Char) (left : Nat) : Octets :=
  let read := rest.take (rest.length - left)
  let more := if read.isEmpty || read.getLast? = some '\n' then []
    else (rest.drop read.length).takeWhile (· ≠ '\n') ++ ['\n']
  String.ofList (read ++ more)

/-- The output of commands as it takes the place of them. -/
def outputText (text : Octets) : Octets :=
  let kept := text.toList.filter (· ≠ '\x00')
  String.ofList (kept.reverse.dropWhile (· = '\n')).reverse

/-- Sets a variable for a command, or for good if the command is a special one or there is none. -/
def assignFor (isLocal exports : Bool) (name value : Octets) : ShellM Unit :=
  if isLocal then ShellM.makeLocal (name ++ "=" ++ value) true
  else ShellM.setVariable name (some value) exports

/-- Complains that a text cannot be read. -/
def complainOfText (o : Origin) (e : ReadError) : ShellM Unit := do
  let p ← self
  let start := p.sourceName ++ ": " ++ o.label ++ "line " ++ toString e.line ++ ": "
  let shown := if e.showsLine then
      ["\x60" ++ (o.text.splitOn "\n").getD (e.line - o.line) "" ++ "'"] else []
  (e.messages ++ shown).forM fun message => do
    let _ ← ShellM.write 2 (start ++ message ++ "\n")

/-- The redirection whose file takes the place of a command that does nothing but read it. -/
def readOnly? (body : Command) : Option Redirection :=
  match body with
  | .simple _ [] [] [r] => if r.mode = .read && r.descriptor = 0 then some r else none
  | _ => none

/-- Tells what a menu offers, in as few lines as fit. -/
def menu (width : Nat) (choices : List Octets) : Octets :=
  let count := choices.length
  let digits (n : Nat) : Nat := (toString n).length
  let cell := ((choices.map String.length).max?.getD 0) + digits count + 4
  let columns := max 1 (width / cell)
  let rows := (count + columns - 1) / columns
  let columns := (count + rows - 1) / max 1 rows
  let (rows, columns) := if rows = 1 then (columns, 1) else (rows, columns)
  let item (size k : Nat) : Octets :=
    let number := toString (k + 1)
    String.ofList (List.replicate (size - number.length) ' ') ++ number ++ ") " ++ choices.getD k ""
  let line (row : Nat) : Octets :=
    let cells := (List.range columns).filterMap fun column =>
      let k := row + column * rows
      if k < count then some (item (if column = 0 then digits rows else digits count) k) else none
    (joinCells cell 0 cells) ++ "\n"
  if choices.isEmpty then "\n" else String.join ((List.range rows).map line)
where
  /-- Blanks and tabs up to a column. -/
  indent : Nat → Nat → Nat → List Char
    | 0, _, _ => []
    | n + 1, start, stop =>
      if start ≥ stop then []
      else if stop / 8 > start / 8 then '\t' :: indent n (start + 8 - start % 8) stop
      else ' ' :: indent n (start + 1) stop
  joinCells (cell position : Nat) : List Octets → Octets
    | [] => ""
    | [text] => text
    | text :: more =>
      text ++ String.ofList (indent cell (position + text.length) (position + cell)) ++
        joinCells cell (position + cell) more

end ReleaseMatrix.Shell
