import ReleaseMatrix.Shell.Builtin.Settings
import ReleaseMatrix.Shell.Extended.Comparison

namespace ReleaseMatrix.Shell

namespace Extended

open ShellM (self modifySelf)

def setSwitch (name : String) (isOn : Bool) : ShellM Unit :=
  modifySelf fun p =>
    let others := p.switches.filter (· ≠ name)
    { p with switches := if isOn then name :: others else others }

def setLetter (letter : Char) (isOn : Bool) : ShellM Unit :=
  modifySelf fun p =>
    let others := p.options.filter (· ≠ letter)
    { p with options := if isOn then letter :: others else others }

/-- Sets an option by its name. Says whether there is one. -/
def setNamed (name : Octets) (isOn : Bool) : ShellM Bool := do
  match optionLetters.find? (·.1 == name) with
  | some (_, letter) =>
    setLetter letter isOn
    pure true
  | none =>
    if letterlessOptions.contains name then
      setSwitch name isOn
      pure true
    else pure false

/-- A name with blanks after it up to a width. -/
def padded (width : Nat) (name : Octets) : Octets :=
  name ++ String.ofList (List.replicate (width - name.length) ' ')

/-- Tells which options are on, or how a script sets them. -/
def tellOptions (names : List String) (isPlain : Bool) : ShellM Nat := do
  let p ← self
  let line (name : String) : Octets :=
    let isOn := hasNamedOption p name
    if isPlain then padded 15 name ++ "\t" ++ (if isOn then "on" else "off") ++ "\n"
    else "set " ++ (if isOn then "-" else "+") ++ "o " ++ name ++ "\n"
  print (String.join (names.map line))

/-- What the options at the start of a command line leave. -/
structure Settings where
  status : Nat
  hasEnd : Bool
  words : List Octets

/-- Carries out the letters of one word, before others. -/
def setLetters (isOn : Bool) : List Char → Settings → ShellM Settings
  | [], s => pure s
  | c :: letters, s => do
    if c = 'o' then
      match s.words with
      | [] =>
        let _ ← tellOptions optionNames isOn
        setLetters isOn letters s
      | name :: rest =>
        if ← setNamed name isOn then setLetters isOn letters { s with words := rest }
        else
          ShellM.complain (name ++ ": invalid option name")
          pure { s with status := 2 }
    else if (optionLetters.any (·.2 = c)) then
      setLetter c isOn
      setLetters isOn letters s
    else
      ShellM.complain (String.ofList [if isOn then '-' else '+', c] ++ ": invalid option")
      pure { s with status := ← tellUsage }

/-- Carries out the options at the start of words. -/
def setOptions : Nat → Settings → ShellM Settings
  | 0, s => pure s
  | n + 1, s => do
    if s.status ≠ 0 then pure s
    else match s.words with
      | [] => pure s
      | word :: rest =>
        match word.toList with
        | ['-'] =>
          setLetter 'x' false
          setLetter 'v' false
          pure { s with words := rest, hasEnd := !rest.isEmpty }
        | ['-', '-'] => pure { s with words := rest, hasEnd := true }
        | '-' :: letters => do setOptions n (← setLetters true letters { s with words := rest })
        | '+' :: letters => do setOptions n (← setLetters false letters { s with words := rest })
        | _ => pure s

/-- Sets options and arguments, or tells all variables. -/
def setUp (words : List Octets) : ShellM Nat := do
  if words.isEmpty then listValues
  else
    let s ← setOptions (words.length + 1) ⟨0, false, words⟩
    if s.status ≠ 0 then pure s.status
    else
      if !s.words.isEmpty || s.hasEnd then modifySelf fun p =>
        { p with arguments := s.words, optionOffset := 0 }
      pure 0

/-- Sets switches, or tells which are on. -/
def shopt (words : List Octets) : ShellM Nat := do
  withOptions "pqsuo" false words fun g => do
    let p ← self
    let isOn (name : String) : Bool := if g.has 'o' then hasNamedOption p name else p.switches.contains name
    let all := if g.has 'o' then optionNames else switchNames.map (·.1)
    let line (name : String) : Octets :=
      if g.has 'p' then
        if g.has 'o' then "set " ++ (if isOn name then "-" else "+") ++ "o " ++ name ++ "\n"
        else "shopt " ++ (if isOn name then "-s " else "-u ") ++ name ++ "\n"
      else padded 15 name ++ "\t" ++ (if isOn name then "on" else "off") ++ "\n"
    let isSetting := g.has 's' || g.has 'u'
    if g.words.isEmpty then
      let shown := if isSetting then all.filter fun name => isOn name = g.has 's' else all
      if g.has 'q' then pure 0 else print (String.join (shown.map line))
    else
      g.words.foldlM (fun status name => do
        if !all.contains name then
          refuse (name ++ ": invalid " ++ (if g.has 'o' then "option name" else "shell option name")) 1
        else if isSetting then
          if g.has 'o' then
            let _ ← setNamed name (g.has 's')
          else setSwitch name (g.has 's')
          pure status
        else
          if !g.has 'q' then
            let _ ← print (line name)
          pure (if isOn name then status else 1)) 0

/-- The rights that new files may have, as they are told for each kind of user. -/
def tellRights (mask : Nat) : Octets :=
  let rights (who : String) (bits : Nat) : Octets :=
    who ++ "=" ++ (if bits / 4 % 2 = 0 then "r" else "") ++ (if bits / 2 % 2 = 0 then "w" else "") ++
      if bits % 2 = 0 then "x" else ""
  ",".intercalate [rights "u" (mask / 64), rights "g" (mask / 8), rights "o" mask]

/-- Sets or tells the rights that new files do not get. -/
def umask (words : List Octets) : ShellM Nat := do
  withOptions "pS" false words fun g => do
    let mask := (← self).mask
    match g.words with
    | [] =>
      let told := if g.has 'S' then tellRights mask else Builtin.octal mask
      print ((if g.has 'p' then if g.has 'S' then "umask -S " else "umask " else "") ++ told ++ "\n")
    | word :: _ =>
      if word.toList.head?.any Char.isDigit then
        if word.toList.all (Text.isDigitIn 8) && Text.numberOf 8 word.toList < 512 then
          modifySelf fun p => { p with mask := Text.numberOf 8 word.toList }
          pure 0
        else refuse (word ++ ": octal number out of range") 1
      else match changeRights word false 0 (without 511 mask) with
        | some rights =>
          modifySelf fun p => { p with mask := without 511 rights }
          if g.has 'S' then print (tellRights (without 511 rights) ++ "\n") else pure 0
        | none =>
          let wrong := (word.toList.dropWhile ("ugoa".contains ·)).take 1
          refuse ("\x60" ++ String.ofList wrong ++ "': invalid symbolic mode operator") 1

end Extended

end ReleaseMatrix.Shell
