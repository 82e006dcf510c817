import ReleaseMatrix.Indented.Report
import ReleaseMatrix.Indented.Statements
import ReleaseMatrix.Indented.StatementReader

namespace ReleaseMatrix.Indented

namespace RunM

variable (r : Runner)

/-- The status that a program ends with when it asks to be ended. -/
def statusOf (error : Value) : RunM Nat := do
  match error with
  | .object i =>
    match ← objectAt i with
    | .trouble t =>
      let code : Value := match t.fields.find? (·.1 == "code") with
        | some (_, v) => v
        | none =>
          match t.arguments with
          | [] => .none
          | [v] => v
          | vs => .tuple vs
      match code with
      | .none => pure 0
      | v =>
        match v.whole? with
        | some n => pure (n % 256).toNat
        | none =>
          flush standardOutput
          let said ← textOf r v
          let _ ← writeValue standardError (.text (said ++ "\n"))
          pure 1
    | _ => pure 1
  | _ => pure 1

/-- Runs work, and tells about the error that it ends with. Gives the status. -/
def toStatus (work : RunM Unit) : RunM Nat :=
  tryCatch (do
    work
    pure 0) fun
    | .raised error => do
      if ← isOfKind error (.kind "SystemExit") then statusOf r error
      else
        let told ← account r 20 error
        writeBytes standardError (Shell.Octets.ofText told)
        if ← isOfKind error (.kind "KeyboardInterrupt") then
          flush standardOutput
          throw (.jumped (.gone (.killed Shell.Signal.interrupt)))
        pure 1
    | .jumped jump => throw (.jumped jump)
    | _ => pure 0

/-- Runs a program to its end, with what is done then. -/
def runProgramText (body : List Statement) : RunM Nat := do
  let status ← toStatus r (r.run body)
  let farewells := (← machine).farewells
  farewells.forM fun (f, arguments) => do
    let _ ← toStatus r do
      let _ ← r.call f ⟨arguments, []⟩
  tryCatch (do
    flush standardOutput
    pure status) fun
    | .raised error => do
      let said ← textOf r error
      let kind ← kindName error
      writeBytes standardError (Shell.Octets.ofText
        ("Exception ignored in: <_io.TextIOWrapper name='<stdout>' mode='w' encoding='utf-8'>\n" ++ kind ++ ": " ++
          said ++ "\n"))
      pure 120
    | stop => throw stop

end RunM

open Shell (Octets ShellM)

/-- Where a program comes from. -/
inductive Origin
  | file (path : Octets)
  | text (program : Octets)
  | input
  | version
  | wrong (message : Octets)

/-- What the words of a call say: where the program comes from, and its own words. -/
def Origin.ofWords : List Octets → Origin × List Octets
  | [] => (input, [""])
  | word :: rest =>
    if word = "-" then (input, word :: rest)
    else if word = "-c" then
      match rest with
      | program :: more => (text program, "-c" :: more)
      | [] => (wrong "Argument expected for the -c option\n", [])
    else if word = "-V" || word = "--version" then (version, [])
    else if word ∈ ["-u", "-B", "-I", "-s", "-S", "-E", "-O", "-OO", "-q", "-b", "-P", "-i", "-v", "-d"] then
      ofWords rest
    else if word = "-W" || word = "-X" then ofWords rest.tail
    else if word.startsWith "-c" then (text (String.ofList (word.toList.drop 2)), "-c" :: rest)
    else if word.startsWith "-" then
      (wrong ("Unknown option: " ++ String.ofList (word.toList.take 2) ++ "\n" ++
        "usage: python3 [option] ... [-c cmd | -m mod | file | -] [arg] ...\n" ++
        "Try \x60python -h' for more information.\n"), [])
    else (file word, word :: rest)
termination_by words => words.length

/-- The machine before a program runs, with the streams and the words that it finds. -/
def Machine.start (file : String) (lines : List String) (words : List String) (directory : String)
    (environment : List (String × Octets)) : Machine :=
  let stream (name mode : String) (descriptor : Nat) (pending? : Option (List Octets)) : Object :=
    .stream ⟨.text name, mode, descriptor, false, false, pending?⟩
  { objects := #[stream "<stdin>" "r" 0 none, stream "<stdout>" "w" 1 (some []), stream "<stderr>" "w" 2 none,
      .table "dict" (environment.map fun (n, v) => (.text n, .text (Octets.toText v))) .none,
      .list (words.map Value.text).toArray, .list #[.text directory, .text "/usr/lib/python3.12"],
        .table "dict" [] .none]
    scopes := #[⟨.program, .empty, [], none⟩]
    scope := 0
    frames := [⟨"<module>", default, none, none⟩]
    handled := []
    yielded := []
    file
    lines
    arguments := words
    nextDescriptor := 3
    farewells := [] }

/-- Runs the text of a program, and gives the status. -/
def runSource (r : Runner) (file : String) (source : Octets) (words : List Octets) (directory : String) :
    ShellM Nat := do
  let text := Octets.toText source
  let lines := text.splitOn "\n"
  match Statement.ofText text with
  | .error fault =>
    let _ ← ShellM.write 2 (Octets.ofText (Report.faultText file lines fault))
    pure 1
  | .ok body =>
    let state ← get
    let machine := Machine.start file (if file = "<string>" || file = "<stdin>" then [] else lines)
      (words.map Octets.toText) directory state.self.exported
    let ((outcome, _), state) := ((RunM.runProgramText r body).run.run machine).run state
    set state
    match outcome with
    | .ok status => pure status
    | .error (.jumped jump) => throw jump
    | .error _ => pure 1

/-- Runs a program as the words of a call say. -/
def start (spawn : List Octets → ShellM (Except FileFault Shell.Ending)) (fuel : Nat) (words : List Octets) :
    ShellM Nat := do
  let r := Runner.ofFuel spawn fuel
  match Origin.ofWords words with
  | (.version, _) =>
    let _ ← ShellM.write 1 "Python 3.12.3\n"
    pure 0
  | (.wrong message, _) =>
    let _ ← ShellM.write 2 message
    pure 2
  | (.text program, own) => runSource r "<string>" program own ""
  | (.input, own) =>
    match ← ShellM.readAll 0 with
    | .ok program => runSource r "<stdin>" program own ""
    | .error _ => pure 0
  | (.file path, own) =>
    let text := Octets.toText path
    let refuse (fault : FileFault) : ShellM Nat := do
      let place := (Workspace.pathOf (← get).workspace.directory).text
      let full := PathText.normal (joinPath place text)
      let called := (← ShellM.self).name
      let _ ← ShellM.write 2 (called ++ ": can't open file " ++ Octets.ofText (Display.quoted full) ++ ": [Errno " ++
        toString (fault.number?.getD 2) ++ "] " ++ fault.text ++ "\n")
      pure 2
    match (← get).workspace.read ⟨text⟩ with
    | .error .isADirectory =>
      let _ ← ShellM.write 2 ((← ShellM.self).name ++ ": can't find '__main__' module in " ++
        Octets.ofText (Display.quoted text) ++ "\n")
      pure 1
    | .error fault => refuse fault
    | .ok bytes => runSource r text (Octets.ofBytes bytes) own (PathText.directory text)

end ReleaseMatrix.Indented
