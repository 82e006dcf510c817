import ReleaseMatrix.Shell.Variables

namespace ReleaseMatrix.Shell.Builtin

open ShellM (self fail)

/-- Prints a text. If that is impossible, the command fails. -/
def print (text : Octets) : ShellM Nat := do
  match ← ShellM.write 1 text with
  | none => pure 0
  | some _ =>
    ShellM.complain (((← self).command?.getD "") ++ ": I/O error")
    pure 1

/-- Reads the options at the start of words. In `allowed`, a colon stands after a letter with an argument. -/
def readOptions (allowed : List Char) : Nat → List Octets → ShellM (List (Char × Octets) × List Octets)
  | 0, words => pure ([], words)
  | n + 1, words => do
    match words with
    | [] => pure ([], [])
    | word :: rest =>
      match word.toList with
      | ['-', '-'] => pure ([], rest)
      | '-' :: c :: letters => readLetters n (c :: letters) rest
      | _ => pure ([], words)
where
  /-- Reads the letters that are left of one word. -/
  readLetters : Nat → List Char → List Octets → ShellM (List (Char × Octets) × List Octets)
    | 0, _, rest => pure ([], rest)
    | n + 1, letters, rest => do
      match letters with
      | [] => readOptions allowed n rest
      | c :: letters =>
        if c = ':' || !allowed.contains c then fail ("Illegal option -" ++ String.singleton c)
        else if (allowed.dropWhile (· ≠ c)).tail.head? = some ':' then
          let (argument, rest) ← match letters, rest with
            | [], argument :: rest => pure (argument, rest)
            | [], [] => fail ("No arg for -" ++ String.singleton c ++ " option")
            | letters, rest => pure (String.ofList letters, rest)
          let (options, rest) ← readOptions allowed n rest
          pure ((c, argument) :: options, rest)
        else
          let (options, rest) ← readLetters n letters rest
          pure ((c, "") :: options, rest)

/-- Reads options, of which there are never more than characters. -/
def options (allowed : String) (words : List Octets) : ShellM (List (Char × Octets) × List Octets) :=
  readOptions allowed.toList (words.foldl (· + ·.length + 2) 2) words

open ShellM (self modifySelf fail count)

/-- A path with a step after it. Dots are taken at their word. -/
def follow (found : List Octets) (step : Octets) : List Octets :=
  match step with
  | "" | "." => found
  | ".." => found.dropLast
  | step => found ++ [step]

/-- Whether a path starts with two slashes and no more. -/
def startsWithTwo (path : Octets) : Bool :=
  match path.toList with
  | '/' :: '/' :: c? => c?.head? ≠ some '/'
  | _ => false

/-- The directory that a path leads to from another, as it reads. Two slashes at the start are kept. -/
def logicalPath (here path : Octets) : Octets :=
  let isAbsolute := path.toList.head? = some '/'
  let base := if isAbsolute then [] else (Text.split '/' here).filter (· ≠ "")
  let root := if startsWithTwo (if isAbsolute then path else here) then "//" else "/"
  root ++ Text.join '/' ((Text.split '/' path).foldl follow base)

/-- Enters a directory, and says whether that is possible. -/
def enter (path : Octets) (isPhysical : Bool) : ShellM Bool := do
  let s ← get
  let reached := if isPhysical || s.self.directory.isEmpty then path else logicalPath s.self.directory path
  match s.workspace.find (Octets.toPath reached) with
  | .ok (l, .directory) =>
    let name := if isPhysical || s.self.directory.isEmpty then Octets.ofText (Workspace.pathOf l).text else reached
    set { s with workspace.directory := l }
    ShellM.setVariable "OLDPWD" (some s.self.directory) true
    modifySelf fun p => { p with directory := name }
    ShellM.setVariable "PWD" (some name) true
    pure true
  | _ => pure false

def changeDirectory (words : List Octets) : ShellM Nat := do
  let (chosen, words) ← options "LP" words
  let p ← self
  let isPhysical := chosen.getLast?.any (·.1 = 'P')
  let (dest, printsIt) := match words with
    | [] => ((p.valueOf? "HOME").getD "", false)
    | "-" :: _ => ((p.valueOf? "OLDPWD").getD "", true)
    | dest :: _ => (dest, false)
  let steps := Text.split '/' dest
  let isFixed := steps.head? ∈ [some ".", some ".."] || dest.toList.head? = some '/'
  let dest := if dest.isEmpty then "." else dest
  let w := (← get).workspace
  let searched := if isFixed then [] else Text.split ':' ((p.valueOf? "CDPATH").getD "")
  let candidates := searched.map fun dir => (dir, if dir.isEmpty then dest else (Path.mk dir).join dest |>.text)
  let found? := candidates.find? fun (_, path) => w.isDirectory (Octets.toPath path)
  let (path, printsIt) := match found? with
    | some (dir, path) => (path, printsIt || !dir.isEmpty)
    | none => (dest, printsIt)
  if ← enter path isPhysical then
    if printsIt then print ((← self).directory ++ "\n") else pure 0
  else fail ("can't cd to " ++ dest)

def printDirectory (words : List Octets) : ShellM Nat := do
  let (chosen, _) ← options "LP" words
  let s ← get
  if chosen.getLast?.any (·.1 = 'P') then
    print (Octets.ofText (Workspace.pathOf s.workspace.directory).text ++ "\n")
  else print (s.self.directory ++ "\n")

end ReleaseMatrix.Shell.Builtin
