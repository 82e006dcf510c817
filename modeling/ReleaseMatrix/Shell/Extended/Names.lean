import ReleaseMatrix.Shell.Builtin
import ReleaseMatrix.Shell.Extended.Declaration

namespace ReleaseMatrix.Shell

namespace Extended

open ShellM (self modifySelf)

/-- The commands of the extended shell itself. -/
def builtinNames : List String :=
  [".", ":", "[", "alias", "bg", "bind", "break", "builtin", "caller", "cd", "command", "compgen", "complete",
    "compopt", "continue", "declare", "dirs", "disown", "echo", "enable", "eval", "exec", "exit", "export", "false",
    "fc", "fg", "getopts", "hash", "help", "history", "jobs", "kill", "let", "local", "logout", "mapfile", "popd",
    "printf", "pushd", "pwd", "read", "readarray", "readonly", "return", "set", "shift", "shopt", "source",
    "suspend", "test", "times", "trap", "true", "type", "typeset", "ulimit", "umask", "unalias", "unset", "wait"]

/-- The commands whose arguments may be assignments. -/
def takesAssignments (name : Octets) : Bool :=
  name ∈ ["declare", "export", "local", "readonly", "typeset"]

/-- Whether a name calls a command of the shell that is not turned off. -/
def isBuiltin (p : Process) (name : Octets) : Bool :=
  builtinNames.contains name && !p.switches.contains ("-" ++ name)

/-- The command of the shell that is meant, where a command only says that another one is called. -/
def meantBuiltin : Octets → List Octets → Octets × List Octets
  | "builtin", "--" :: words => meantBuiltin "builtin" words
  | "builtin", name :: words =>
    if builtinNames.contains name then meantBuiltin name words else ("builtin", name :: words)
  | name, words => (name, words)

/-- What a name stands for where commands are called. -/
inductive Meaning
  | aliased (text : Octets)
  | keyword
  | function
  | builtin
  | file (path : Octets)

/-- The programs that a name calls, the first one first. -/
def programsOf (s : State) (name : Octets) : List Octets :=
  if name.contains '/' then
    if Program.isRunnable s.workspace (Octets.toPath name) then [name] else []
  else
    let paths := (Builtin.programDirectories s.self).map (·.join (Octets.toText name))
    (paths.filter (Program.isRunnable s.workspace)).map fun p => Octets.ofText p.text

/-- All that a name stands for, in the order in which it is looked for. -/
def meanings (s : State) (name : Octets) (passesFunctions : Bool) : List Meaning :=
  let p := s.self
  let aliased := if p.switches.contains "expand_aliases" then
      ((p.aliases.find? (·.1 == name)).map fun a => Meaning.aliased a.2).toList else []
  let isKeyword := (Token.reservedWords true).contains name
  aliased ++ (if isKeyword then [.keyword] else []) ++
    (if !passesFunctions && p.functions.any (·.1 == name) then [.function] else []) ++
    (if isBuiltin p name then [.builtin] else []) ++
    (programsOf s name).map .file

/-- A meaning in one word. -/
def Meaning.kind : Meaning → String
  | aliased _ => "alias"
  | keyword => "keyword"
  | function => "function"
  | builtin => "builtin"
  | file _ => "file"

/-- A meaning in a sentence. -/
def Meaning.sentence (name : Octets) : Meaning → Octets
  | aliased text => name ++ " is aliased to \x60" ++ text ++ "'\n"
  | keyword => name ++ " is a shell keyword\n"
  | function => name ++ " is a function\n"
  | builtin => name ++ " is a shell builtin\n"
  | file path => name ++ " is " ++ path ++ "\n"

/-- A meaning as a command could be called by it. -/
def Meaning.call (name : Octets) : Meaning → Octets
  | aliased text => "alias " ++ name ++ "=" ++ Quoting.single text ++ "\n"
  | file path => path ++ "\n"
  | _ => name ++ "\n"

/-- Tells what names stand for. -/
def types (words : List Octets) : ShellM Nat := do
  withOptions "afptP" false words fun g => do
    let s ← get
    let told (name : Octets) (m : Meaning) : Octets :=
      if g.has 't' then m.kind ++ "\n"
      else if g.has 'p' || g.has 'P' then
        match m with
        | .file path => path ++ "\n"
        | _ => ""
      else m.sentence name
    g.words.foldlM (fun status name => do
      let all := meanings s name (g.has 'f')
      let all := if g.has 'P' then (programsOf s name).map .file else all
      match if g.has 'a' then all else all.take 1 with
      | [] =>
        if g.has 't' || g.has 'p' || g.has 'P' then pure 1 else refuse (name ++ ": not found") 1
      | found =>
        let _ ← print (String.join (found.map (told name)))
        pure status) 0

/-- Tells what names stand for, as commands are called or in sentences. -/
def tellCommand (words : List Octets) : ShellM Nat := do
  withOptions "pvV" false words fun g => do
    let s ← get
    if !g.has 'v' && !g.has 'V' then pure 0
    else
      let found ← g.words.mapM fun name => do
        match meanings s name false with
        | [] =>
          if g.has 'V' then ShellM.complain (name ++ ": not found")
          pure false
        | m :: _ =>
          let _ ← print (if g.has 'V' then m.sentence name else m.call name)
          pure true
      pure (if found.any id then 0 else 1)

def hash (words : List Octets) : ShellM Nat := do
  withOptions "lrp:dt" false words fun g => do
    let s ← get
    if g.words.isEmpty && g.options.isEmpty then print "hash: hash table empty\n"
    else
      g.words.foldlM (fun status name => do
        if (meanings s name false).isEmpty then refuse (name ++ ": not found") 1 else pure status) 0

/-- Turns commands of the shell on or off. -/
def enable (words : List Octets) : ShellM Nat := do
  withOptions "adnpsf:" false words fun g => do
    g.words.foldlM (fun status name => do
      if !builtinNames.contains name then refuse (name ++ ": not a shell builtin") 1
      else
        let mark := "-" ++ name
        modifySelf fun p =>
          let others := p.switches.filter (· ≠ mark)
          { p with switches := if g.has 'n' then mark :: others else others }
        pure status) 0

/-- Tells where the function that runs was called. -/
def caller (words : List Octets) : ShellM Nat := do
  let frames := (← self).frames
  match words with
  | [] =>
    match frames with
    | f :: g :: _ => print (toString f.line ++ " " ++ g.file ++ "\n")
    | [_] => print "0 NULL\n"
    | [] => pure 1
  | word :: _ =>
    match word.toNat? with
    | none =>
      ShellM.complain (word ++ ": invalid number")
      pure 2
    | some n =>
      match frames[n]?, frames[n + 1]? with
      | some f, some g => print (toString f.line ++ " " ++ g.name ++ " " ++ g.file ++ "\n")
      | _, _ => pure 1

/-- Lets words stand for others, and tells for what they do. -/
def abbreviate (words : List Octets) : ShellM Nat := do
  withOptions "p" false words fun g => do
    let definition (name text : Octets) : Octets := "alias " ++ name ++ "=" ++ Quoting.single text ++ "\n"
    let told ← if g.words.isEmpty || g.has 'p' then
        let all := (← self).aliases.mergeSort fun a b => a.1 ≤ b.1
        print (String.join (all.map fun (name, text) => definition name text))
      else pure 0
    g.words.foldlM (fun status word => do
      match splitAssignment word with
      | (name, some text) =>
        modifySelf fun p => { p with aliases := (name, text) :: p.aliases.filter (·.1 ≠ name) }
        pure status
      | (name, none) =>
        match (← self).aliases.find? (·.1 == name) with
        | some (_, text) =>
          let _ ← print (definition name text)
          pure status
        | none => refuse (name ++ ": not found") 1) told

def unalias (words : List Octets) : ShellM Nat := do
  withOptions "a" false words fun g => do
    if g.has 'a' then
      modifySelf fun p => { p with aliases := [] }
      pure 0
    else if g.words.isEmpty then tellUsage
    else g.words.foldlM (fun status name => do
      let p ← self
      if p.aliases.any (·.1 = name) then
        modifySelf fun p => { p with aliases := p.aliases.filter (·.1 ≠ name) }
        pure status
      else refuse (name ++ ": not found") 1) 0

end Extended

end ReleaseMatrix.Shell
