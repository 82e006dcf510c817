import ReleaseMatrix.Shell.Builtin.Basic
import ReleaseMatrix.Shell.Value

namespace ReleaseMatrix.Shell.Builtin

open ShellM (self modifySelf fail count)

/-- The names of options that have letters. -/
def optionNames : List (String × Char) :=
  [("errexit", 'e'), ("noglob", 'f'), ("ignoreeof", 'I'), ("interactive", 'i'), ("monitor", 'm'),
    ("noexec", 'n'), ("stdin", 's'), ("xtrace", 'x'), ("verbose", 'v'), ("vi", 'V'), ("emacs", 'E'),
    ("noclobber", 'C'), ("allexport", 'a'), ("notify", 'b'), ("nounset", 'u'), ("privileged", 'p')]

/-- The names of options that have no letters, and that change nothing. -/
def idleNames : List String :=
  ["nolog", "debug"]

def setOption (letter : Char) (isOn : Bool) : ShellM Unit := do
  if !(optionNames.any (·.2 = letter)) then fail ("Illegal option -" ++ String.singleton letter)
  modifySelf fun p =>
    let others := p.options.filter (· ≠ letter)
    { p with options := if isOn then letter :: others else others }

/-- Sets an option by its name. Without a name, the options are listed. -/
def setNamedOption (name? : Option Octets) (isOn : Bool) : ShellM Unit := do
  match name? with
  | none =>
    let p ← self
    let states := optionNames.map (fun (name, letter) => (name, p.hasOption letter)) ++
      idleNames.map fun name => (name, false)
    let lines := states.map fun (name, isSet) =>
      if isOn then
        name ++ String.ofList (List.replicate (16 - name.length) ' ') ++ (if isSet then "on" else "off") ++ "\n"
      else "set " ++ (if isSet then "-" else "+") ++ "o " ++ name ++ "\n"
    let _ ← print ((if isOn then "Current option settings\n" else "") ++ String.join lines)
  | some name =>
    match optionNames.find? (·.1 == name) with
    | some (_, letter) => setOption letter isOn
    | none => if name ∉ idleNames then fail ("Illegal option -o " ++ name)

/-- What the options at the start of a command line say. -/
structure Settings where
  /-- Whether the next word is a script. -/
  takesScript : Bool
  /-- Whether a double dash ended the options. -/
  hasEnd : Bool
  words : List Octets

/-- Carries out the letters of one word. -/
def setLetters (isStart isOn : Bool) : List Char → Settings → ShellM Settings
  | [], s => pure s
  | c :: letters, s => do
    if c = 'c' && isStart then setLetters isStart isOn letters { s with takesScript := true }
    else if c = 'l' && isStart then setLetters isStart isOn letters s
    else if c = 'o' then
      setNamedOption s.words.head? isOn
      setLetters isStart isOn letters { s with words := s.words.tail }
    else
      setOption c isOn
      setLetters isStart isOn letters s

/-- Carries out the options at the start of a command line, of the shell itself or of the command that sets
them. -/
def setOptions (isStart : Bool) : Nat → Settings → ShellM Settings
  | 0, s => pure s
  | n + 1, s => do
    match s.words with
    | [] => pure s
    | word :: rest =>
      match word.toList with
      | ['-'] =>
        if !isStart then modifySelf fun p => { p with options := p.options.filter fun c => c ≠ 'x' && c ≠ 'v' }
        pure { s with words := rest }
      | ['-', '-'] => pure { s with words := rest, hasEnd := true }
      | '-' :: letters => do setOptions isStart n (← setLetters isStart true letters { s with words := rest })
      | '+' :: letters => do setOptions isStart n (← setLetters isStart false letters { s with words := rest })
      | _ => pure s

def setUp (words : List Octets) : ShellM Nat := do
  if words.isEmpty then
    ShellM.listVariables "" fun v => v.value?.isSome
    pure 0
  else
    let s ← setOptions false (words.length + 1) ⟨false, false, words⟩
    if !s.words.isEmpty || s.hasEnd then modifySelf fun p =>
      { p with arguments := s.words, optionIndex := 1, optionOffset := 0 }
    pure 0

def mark (name : Octets) (words : List Octets) (isMarked : Variable → Bool) (mark : Variable → Variable) :
    ShellM Nat := do
  let (listed, words) ← options "p" words
  if !listed.isEmpty || words.isEmpty then ShellM.listVariables (name ++ " ") isMarked
  else words.forM fun word => ShellM.markVariable word mark
  pure 0

def localVariables (words : List Octets) : ShellM Nat := do
  if (← self).locals.isEmpty then fail "not in a function"
  let (_, words) ← options "" words
  words.forM fun word => if word = "-" then pure () else ShellM.makeLocal word false
  pure 0

def unset (words : List Octets) : ShellM Nat := do
  let (chosen, words) ← options "vf" words
  let isFunction := chosen.getLast?.any (·.1 = 'f')
  words.forM fun name =>
    if isFunction then modifySelf fun p => { p with functions := p.functions.filter (·.1 ≠ name) }
    else ShellM.setVariable name none false
  pure 0

def shift (words : List Octets) : ShellM Nat := do
  let n ← match words with
    | [] => pure 1
    | word :: _ => count word
  if (← self).arguments.length < n then fail "can't shift that many"
  modifySelf fun p =>
    { p with arguments := p.arguments.drop n, optionIndex := 1, optionOffset := 0 }
  pure 0

/-- Reads one line up to its end. Characters after backslashes are quoted, and lines go on after them, unless
the line is read as it is. -/
def takeLine (isRaw : Bool) : List Char → List Glyph → List Glyph × List Char × Bool
  | [], line => (line.reverse, [], false)
  | '\n' :: rest, line => (line.reverse, rest, true)
  | '\x00' :: rest, line => takeLine isRaw rest line
  | '\\' :: c :: rest, line =>
    if isRaw then takeLine isRaw (c :: rest) (⟨'\\', false⟩ :: line)
    else if c = '\n' then takeLine isRaw rest line
    else takeLine isRaw rest (⟨c, true⟩ :: line)
  | ['\\'], line => ((if isRaw then ⟨'\\', false⟩ :: line else line).reverse, [], false)
  | c :: rest, line => takeLine isRaw rest (⟨c, false⟩ :: line)

def readFields (words : List Octets) : ShellM Nat := do
  let (chosen, names) ← options "p:r" words
  if names.isEmpty then fail "arg count"
  let (line, isWhole) ← match ← ShellM.peekAll 0 with
    | .error _ => pure ([], false)
    | .ok (chars, leave) => do
      let (line, rest, isWhole) := takeLine (chosen.any (·.1 = 'r')) chars []
      leave rest
      pure (line, isWhole)
  let values := splitLine (← self).separators names.length line
  (names.zip values).forM fun (name, value) => ShellM.assign name value
  pure (if isWhole then 0 else 1)

/-- Finds the next option among words, by the index of the word and the letters of it that were read. -/
def getOptions (words : List Octets) : ShellM Nat := do
  match words with
  | allowed :: name :: given => do
    let p ← self
    let words := if given.isEmpty then p.arguments else given
    let isBad := p.optionIndex > words.length + 1
    let index := if isBad then 1 else p.optionIndex
    let offset := if isBad then 0 else p.optionOffset
    let isQuiet := allowed.toList.head? = some ':'
    let letters := if isQuiet then allowed.toList.tail else allowed.toList
    let left := if offset = 0 then [] else ((words[index - 2]?.getD "").toList.drop offset)
    let (left, index, isDone) := if !left.isEmpty then (left, index, false)
      else match (words[index - 1]?.getD "").toList with
        | ['-', '-'] => ([], index + 1, true)
        | '-' :: c :: more => (c :: more, index + 1, false)
        | _ => ([], index, true)
    let finish (found : Char) (index : Nat) (left : List Char) (isDone : Bool) : ShellM Nat := do
      ShellM.setVariable "OPTIND" (some (toString index)) false
      ShellM.assign name (String.singleton found)
      let word := (words[index - 2]?.getD "").toList
      modifySelf fun p => { p with
        optionIndex := index
        optionOffset := if left.isEmpty then 0 else word.length - left.length }
      pure (if isDone then 1 else 0)
    match left with
    | [] => finish '?' index [] isDone
    | c :: left =>
      if c = ':' || !letters.contains c then
        if isQuiet then ShellM.assign "OPTARG" (String.singleton c)
        else
          let _ ← ShellM.write 2 ("Illegal option -" ++ String.singleton c ++ "\n")
          ShellM.setVariable "OPTARG" none false
        finish '?' index left false
      else if (letters.dropWhile (· ≠ c)).tail.head? = some ':' then
        match left, words[index - 1]? with
        | [], none =>
          if isQuiet then
            ShellM.assign "OPTARG" (String.singleton c)
            finish ':' index [] false
          else
            let _ ← ShellM.write 2 ("No arg for -" ++ String.singleton c ++ " option\n")
            ShellM.setVariable "OPTARG" none false
            finish '?' index [] false
        | [], some argument => do
          ShellM.assign "OPTARG" argument
          finish c (index + 1) [] false
        | left, _ => do
          ShellM.assign "OPTARG" (String.ofList left)
          finish c index [] false
      else
        ShellM.assign "OPTARG" ""
        finish c index left false
  | _ => fail "Usage: getopts optstring var [arg...]"

/-- A number in base eight of four digits at least. -/
def octal (n : Nat) : Octets :=
  let ds := Nat.toDigits 8 n
  String.ofList (List.replicate (4 - ds.length) '0' ++ ds)

def umask (words : List Octets) : ShellM Nat := do
  let (chosen, words) ← options "S" words
  let mask := (← self).mask
  match words with
  | [] =>
    if chosen.isEmpty then print (octal mask ++ "\n")
    else
      let rights (who : String) (bits : Nat) : Octets :=
        who ++ "=" ++ (if bits / 4 % 2 = 0 then "r" else "") ++ (if bits / 2 % 2 = 0 then "w" else "") ++
          if bits % 2 = 0 then "x" else ""
      print (rights "u" (mask / 64) ++ "," ++ rights "g" (mask / 8) ++ "," ++ rights "o" mask ++ "\n")
  | word :: _ =>
    if word.toList.head?.any Char.isDigit then
      if word.toList.all (Text.isDigitIn 8) then
        modifySelf fun p => { p with mask := Text.numberOf 8 word.toList % 512 }
        pure 0
      else fail ("Illegal number: " ++ word)
    else match changeRights word false 0 (without 511 mask) with
      | some rights =>
        modifySelf fun p => { p with mask := without 511 rights }
        pure 0
      | none => fail ("Illegal mode: " ++ word)

end ReleaseMatrix.Shell.Builtin
