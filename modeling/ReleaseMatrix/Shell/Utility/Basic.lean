import ReleaseMatrix.Shell.Stream

namespace ReleaseMatrix.Shell.Utility

/-- A program of the machine itself: it takes words and gives an exit status. -/
abbrev Work := List Octets → ShellM Nat

/-- Whether a character needs no quotes in messages. -/
def isPlain (c : Char) : Bool :=
  c.isAlphanum || c ∈ ['%', '+', ',', '-', '.', '/', ':', '@', '_', ']', '\x7b', '\x7d', '~', '#']

def isPrintable (c : Char) : Bool :=
  0x20 ≤ c.toNat && c.toNat < 0x7F

/-- A character that cannot be printed, as an escape. -/
def escape (c : Char) : List Char :=
  let named : List (Nat × Char) :=
    [(7, 'a'), (8, 'b'), (9, 't'), (10, 'n'), (11, 'v'), (12, 'f'), (13, 'r')]
  match named.find? (·.1 == c.toNat) with
  | some (_, letter) => ['\\', letter]
  | none =>
    let ds := Nat.toDigits 8 c.toNat
    '\\' :: List.replicate (3 - ds.length) '0' ++ ds

/-- What stands between single quotes for a text. Characters that cannot be printed stand in quotes of their
own, with a dollar before them. -/
def quoteInside : Bool → List Char → List Char
  | _, [] => []
  | isEscaped, c :: cs =>
    if isPrintable c then
      let text := if c = '\'' then ['\'', '\\', '\'', '\''] else [c]
      (if isEscaped then ['\'', '\''] else []) ++ text ++ quoteInside false cs
    else (if isEscaped then [] else ['\'', '$', '\'']) ++ escape c ++ quoteInside true cs

/-- A name in quotes, as messages show it. -/
def quoted (name : Octets) : Octets :=
  let cs := name.toList
  let fitsDouble (c : Char) : Bool := isPlain c || c = ' ' || c = '\''
  if cs.contains '\'' && cs.all fitsDouble then "\"" ++ name ++ "\""
  else String.ofList ('\'' :: quoteInside false cs ++ ['\''])

/-- A name, in quotes only if it needs them. -/
def quotedIfOdd (name : Octets) : Octets :=
  let cs := name.toList
  let startsOddly := cs.head?.any fun c => c = '#' || c = '~'
  let isLoneBrace := cs = ['\x7b'] || cs = ['\x7d']
  if !cs.isEmpty && cs.all isPlain && !startsOddly && !isLoneBrace then name else quoted name

/-- Tells what is wrong. -/
def warn (message : Octets) : ShellM Unit := do
  let _ ← ShellM.write 2 ((← ShellM.self).name ++ ": " ++ message ++ "\n")

/-- The hint after a complaint about a command line. -/
def hint (program : Octets) : Octets :=
  "Try '" ++ program ++ " --help' for more information.\n"

/-- Complains about the command line. -/
def misuse (message : Octets) (status : Nat) : ShellM Nat := do
  warn message
  let _ ← ShellM.write 2 (hint (← ShellM.self).name)
  pure status

/-- Prints a text. If that is impossible, the program fails. -/
def print (text : Octets) : ShellM Nat := do
  match ← ShellM.write 1 text with
  | none => pure 0
  | some fault =>
    warn ("write error: " ++ fault.text)
    pure 1

/-- Whether an option takes an argument. An optional one stands in the same word. -/
inductive ArgumentNeed
  | none
  | optional
  | required
deriving DecidableEq, Repr

/-- An option that a program knows: its letter, whether it takes an argument, and its long name. -/
structure OptionForm where
  letter : Char
  argument : ArgumentNeed
  name : String

/-- The options in words, and the other words. -/
structure Given where
  options : List (Char × Octets)
  operands : List Octets

namespace Given

def has (g : Given) (letter : Char) : Bool :=
  g.options.any (·.1 = letter)

/-- The last argument of an option. -/
def argument? (g : Given) (letter : Char) : Option Octets :=
  ((g.options.filter (·.1 = letter)).getLast?).map (·.2)

end Given

/-- Reads the letters of one word, with the word that may follow as an argument. -/
def readLetters (forms : List OptionForm) (next : List Octets) :
    List Char → Except Octets (List (Char × Octets) × List Octets)
  | [] => pure ([], next)
  | c :: letters => do
    match forms.find? (·.letter = c) with
    | none => throw ("invalid option -- '" ++ String.singleton c ++ "'")
    | some form =>
      match form.argument, letters, next with
      | .none, letters, _ =>
        let (options, next) ← readLetters forms next letters
        pure ((c, "") :: options, next)
      | .required, [], argument :: next => pure ([(c, argument)], next)
      | .required, [], [] => throw ("option requires an argument -- '" ++ String.singleton c ++ "'")
      | _, letters, next => pure ([(c, String.ofList letters)], next)

/-- Reads a long option without its dashes. The start of its name is enough. -/
def readLong (forms : List OptionForm) (text : Octets) (next : List Octets) :
    Except Octets ((Char × Octets) × List Octets) := do
  let name := String.ofList (text.toList.takeWhile (· ≠ '='))
  let argument? : Option Octets :=
    if name.length < text.length then some (String.ofList (text.toList.drop (name.length + 1))) else none
  let found := forms.filter fun form => !form.name.isEmpty && name.toList.isPrefixOf form.name.toList
  match found.find? (·.name = name) <|> found.head? with
  | none => throw ("unrecognized option '--" ++ text ++ "'")
  | some form =>
    match form.argument, argument?, next with
    | .none, none, next | .optional, none, next => pure ((form.letter, ""), next)
    | .none, some _, _ => throw ("option '--" ++ form.name ++ "' doesn't allow an argument")
    | _, some argument, next => pure ((form.letter, argument), next)
    | .required, none, argument :: next => pure ((form.letter, argument), next)
    | .required, none, [] => throw ("option '--" ++ form.name ++ "' requires an argument")

/-- Reads words, of which there are `n` at most. Options may stand after other words, unless the first of these
ends them. -/
def readGiven (forms : List OptionForm) (stopsEarly : Bool) : Nat → List Octets → Except Octets Given
  | 0, words => pure ⟨[], words⟩
  | n + 1, words => do
    match words with
    | [] => pure ⟨[], []⟩
    | word :: rest =>
      match word.toList with
      | ['-', '-'] => pure ⟨[], rest⟩
      | '-' :: '-' :: text =>
        let (option, rest) ← readLong forms (String.ofList text) rest
        let given ← readGiven forms stopsEarly n rest
        pure { given with options := option :: given.options }
      | '-' :: c :: letters =>
        let (options, rest) ← readLetters forms rest (c :: letters)
        let given ← readGiven forms stopsEarly n rest
        pure { given with options := options ++ given.options }
      | _ =>
        if stopsEarly then pure ⟨[], words⟩
        else
          let given ← readGiven forms stopsEarly n rest
          pure { given with operands := word :: given.operands }

/-- The forms of options that are given as letters, with a colon after those that take an argument and two after
those that may take one, and their long names. A name without such a letter takes an argument if it ends in the
sign for that. -/
def forms (letters : String) (names : List (Char × String)) : List OptionForm :=
  let cs := letters.toList
  let nameOf (c : Char) : String := ((names.find? (·.1 = c)).map (·.2)).getD ""
  let lettered := (cs.zip ((cs.drop 1 ++ [' ']).zip (cs.drop 2 ++ [' ', ' ']))).filterMap fun (c, next, later) =>
    if c = ':' then none
    else some ⟨c, if next ≠ ':' then .none else if later = ':' then .optional else .required, nameOf c⟩
  let others := (names.filter fun (c, _) => !cs.contains c).map fun (c, name) =>
    let plain := String.ofList (name.toList.filter (· ≠ '='))
    ⟨c, if plain = name then .none else .required, plain⟩
  lettered ++ others

/-- Reads the words of a program and goes on with them, or complains. -/
def withGiven (status : Nat) (forms : List OptionForm) (words : List Octets)
    (work : Given → ShellM Nat) : ShellM Nat :=
  match readGiven forms false (words.length + 1) words with
  | .ok given => work given
  | .error message => misuse message status

/-- The choice that a text names. The start of its name is enough if no other starts so. -/
def choiceOf? (choices : List Octets) (text : Octets) : Option Octets :=
  if choices.contains text then some text
  else match choices.filter fun choice => text.toList.isPrefixOf choice.toList with
    | [choice] => some choice
    | _ => none

/-- What is said of the argument of an option that is none of its choices. -/
def noChoice (name : Octets) (choices : List (List Octets)) (text : Octets) : Octets :=
  "invalid argument " ++ quoted text ++ " for '--" ++ name ++ "'\nValid arguments are:" ++
    String.join (choices.map fun names => "\n  - " ++ ", ".intercalate (names.map quoted))

/-- Does work for one word after the other. The status is the highest one. -/
def forEach (words : List Octets) (work : Octets → ShellM Nat) : ShellM Nat :=
  words.foldlM (fun status word => do pure (max status (← work word))) 0

/-- Does work on files. If it fails, that is told. -/
def tryFiles (message : Octets) (x : FileM Unit) : ShellM Nat := do
  match ← ShellM.onFiles x with
  | .ok () => pure 0
  | .error fault =>
    warn (message ++ ": " ++ fault.text)
    pure 1

/-- What a path leads to, or why it leads nowhere. -/
def look (path : Octets) : ShellM (Except FileFault (Location × Entry)) := do
  return (← get).workspace.find (Octets.toPath path)

/-- What a path names, be it a link. -/
def lookAt (path : Octets) : ShellM (Except FileFault (Location × Entry)) := do
  let w := (← get).workspace
  match w.locate (Octets.toPath path) .entry with
  | .error fault => pure (.error fault)
  | .ok l => match w.files.get? l with
    | some e => pure (.ok (l, e))
    | none => pure (.error .notFound)

def isDirectory (path : Octets) : ShellM Bool := do
  return (← get).workspace.isDirectory (Octets.toPath path)

/-- The last name in a path. -/
def baseName (path : Octets) : Octets :=
  let cs := (path.toList.reverse.dropWhile (· = '/')).takeWhile (· ≠ '/')
  if cs.isEmpty && !path.isEmpty then "/" else String.ofList cs.reverse

/-- A path with a name after it. -/
def under (directory name : Octets) : Octets :=
  if directory.toList.getLast? = some '/' then directory ++ name else directory ++ "/" ++ name

end ReleaseMatrix.Shell.Utility
