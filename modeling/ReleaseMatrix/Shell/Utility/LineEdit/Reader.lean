import ReleaseMatrix.Shell.Utility.LineEdit.Script

namespace ReleaseMatrix.Shell.LineEdit

/-- A script that is being read. -/
structure Source where
  rest : List Char
  read : Nat
  line : Nat
  origin : Origin
  isExtended : Bool
  /-- The blocks that are open. -/
  depth : Nat

abbrev ReadM := StateT Source (Except Fault)

namespace ReadM

def fail {α : Type} (message : String) : ReadM α := do
  let s ← get
  throw ⟨s.origin, s.read, s.line, message, false⟩

/-- The next character. The end counts as one as well. -/
def next : ReadM (Option Char) := do
  let s ← get
  match s.rest with
  | [] => pure none
  | c :: rest =>
    set { s with rest, read := s.read + 1, line := if c = '\n' then s.line + 1 else s.line }
    pure (some c)

def peek : ReadM (Option Char) := do
  return (← get).rest.head?

/-- Passes over characters. -/
def skipWhile (belongs : Char → Bool) : ReadM Unit :=
  modify fun s =>
    let skipped := s.rest.takeWhile belongs
    { s with rest := s.rest.drop skipped.length, read := s.read + skipped.length,
             line := s.line + skipped.count '\n' }

def takeWhile (belongs : Char → Bool) : ReadM (List Char) := do
  let taken := (← get).rest.takeWhile belongs
  skipWhile belongs
  pure taken

def isBlank (c : Char) : Bool :=
  c = ' ' || c = '\t'

def isSpace (c : Char) : Bool :=
  isBlank c || (10 ≤ c.toNat && c.toNat ≤ 13)

def number : ReadM Nat := do
  return Text.numberOf 10 (← takeWhile Char.isDigit)

/-- The end of a command: of its line, of the script or of its block. -/
def endCommand : ReadM Unit := do
  skipWhile isBlank
  match ← peek with
  | none | some '\x7d' | some '#' => pure ()
  | some c =>
    let _ ← next
    if c ≠ '\n' && c ≠ ';' && c ≠ '\r' then fail "extra characters after command"

/-- How many characters a set in brackets has after the opening one, the closing one included. -/
def setLength? : Nat → List Char → Option Nat
  | 0, _ => none
  | n + 1, cs =>
    match cs with
    | [] | '\n' :: _ => none
    | ']' :: _ => some 1
    | '[' :: kind :: rest =>
      if kind ∈ [':', '.', '='] then
        let name := rest.takeWhile (· ≠ kind)
        match rest.drop name.length with
        | _ :: ']' :: rest => (setLength? n rest).map (· + name.length + 4)
        | _ => (setLength? n (kind :: rest)).map (· + 1)
      else (setLength? n (kind :: rest)).map (· + 1)
    | _ :: rest => (setLength? n rest).map (· + 1)

/-- The same, where the first characters may negate the set or belong to it. -/
def wholeSetLength? (cs : List Char) : Option Nat :=
  let lead := match cs with
    | '^' :: ']' :: _ => 2
    | '^' :: _ | ']' :: _ => 1
    | _ => 0
  (setLength? (cs.length + 1) (cs.drop lead)).map (· + lead)

/-- Reads a number of characters. -/
def take (n : Nat) : ReadM (List Char) := do
  let taken := (← get).rest.take n
  modify fun s => { s with
    rest := s.rest.drop n, read := s.read + taken.length, line := s.line + taken.count '\n' }
  pure taken

/-- The characters up to a mark. A backslash before the mark is dropped, and line breaks are refused in patterns.
Nothing is given if the mark is missing. -/
def upToMark (mark : Char) (isPattern : Bool) : Nat → List Char → ReadM (Option (List Char))
  | 0, _ => pure none
  | n + 1, taken => do
    match ← peek with
    | none | some '\n' => pure none
    | some c =>
      let _ ← next
      if c = mark then pure (some taken.reverse)
      else if c = '\\' then
        match ← next with
        | none => pure none
        | some d =>
          let d := if d = 'n' && isPattern then '\n' else d
          let isBare := d = '\n' || (d = mark && (isPattern || d ≠ '&'))
          upToMark mark isPattern n (if isBare then d :: taken else d :: '\\' :: taken)
      else if isPattern && c = '[' then
        match wholeSetLength? (← get).rest with
        | some length =>
          let set ← take length
          upToMark mark isPattern n (set.reverse ++ c :: taken)
        | none =>
          let _ ← takeWhile (· ≠ '\n')
          pure none
      else upToMark mark isPattern n (c :: taken)

end ReadM

open LineEdit.ReadM

/-- The pattern between two marks, with the letters after it that change its meaning. -/
def patternOf (cs : List Char) (foldsCase hasLines : Bool) : ReadM Pattern := do
  if cs.isEmpty then pure ⟨none, foldsCase, hasLines⟩
  else match Regex.read ⟨(← get).isExtended, true, false, false, true, false⟩ cs with
    | .ok r => pure ⟨some r, foldsCase, hasLines⟩
    | .error fault => fail fault.text

/-- Reads an address, if there is one. -/
def readAddress : ReadM (Option Address) := do
  match ← peek with
  | some '/' | some '\\' =>
    let first ← next
    let mark ← if first = some '\\' then next else pure first
    match ← upToMark (mark.getD '/') true ((← get).rest.length + 1) [] with
    | none => fail "unterminated address regex"
    | some cs =>
      skipWhile isBlank
      let flags ← takeWhile (fun c => c = 'I' || c = 'M')
      pure (some (.pattern (← patternOf cs (flags.contains 'I') (flags.contains 'M'))))
  | some '$' =>
    let _ ← next
    pure (some .last)
  | some '+' =>
    let _ ← next
    pure (some (.plus (← number)))
  | some '~' =>
    let _ ← next
    pure (some (.multiple (← number)))
  | some c =>
    if c.isDigit then
      let first ← number
      skipWhile isBlank
      if (← peek) = some '~' then
        let _ ← next
        skipWhile isBlank
        pure (some (.steps first (← number)))
      else pure (some (.line first))
    else pure none
  | none => pure none

/-- Reads the addresses of a command. -/
def readAddresses : ReadM (Option Address × Option Address) := do
  let first? ← readAddress
  match first? with
  | none => pure (none, none)
  | some (.plus _) | some (.multiple _) => fail "invalid usage of +N or ~N as first address"
  | some first =>
    skipWhile isBlank
    let second? ← if (← peek) = some ',' then do
        let _ ← next
        skipWhile isBlank
        match ← readAddress with
        | none => fail "unexpected \x60,'"
        | some second =>
          skipWhile isBlank
          pure (some second)
      else pure none
    let isRange := second? matches some (.pattern _)
    if first matches .line 0 && !isRange then
      let _ ← next
      fail "invalid usage of line address 0"
    pure (some first, second?)

/-- The text of a line and of the lines that follow backslashes. -/
def readTextLines : Nat → List Char → ReadM (List Char)
  | 0, text => pure text.reverse
  | n + 1, text => do
    match ← next with
    | none | some '\n' => pure ('\n' :: text).reverse
    | some '\\' =>
      match ← next with
      | none => pure ('\n' :: text).reverse
      | some c => readTextLines n (c :: text)
    | some c => readTextLines n (c :: text)

/-- The text that a command adds. It starts on the next line after a backslash, or on the same one. -/
def readText : ReadM (List Char) := do
  skipWhile isBlank
  match ← peek with
  | none => fail "expected \\ after \x60a', \x60c' or \x60i'"
  | some c =>
    if c = '\\' then
      let _ ← next
      let blanks ← takeWhile isBlank
      if (← peek) = some '\n' then
        let _ ← next
      else if !blanks.isEmpty then
        modify fun s => { s with rest := blanks ++ s.rest, read := s.read - blanks.length }
      if (← peek).isNone then pure []
      else readTextLines ((← get).rest.length + 1) []
    else readTextLines ((← get).rest.length + 1) []

/-- A name up to a blank or the end of the command. -/
def readLabel : ReadM String := do
  skipWhile isBlank
  return String.ofList (← takeWhile fun c => !isSpace c && c ≠ ';' && c ≠ '\x7d')

def readFileName : ReadM Octets := do
  skipWhile isBlank
  let name ← takeWhile (· ≠ '\n')
  if name.isEmpty then fail "missing filename in r/R/w/W commands"
  let _ ← next
  pure (String.ofList name)

/-- The parts of what takes the place of a match. -/
def partsOf : Nat → List Char → List Part
  | 0, _ => []
  | _ + 1, [] => []
  | n + 1, '\\' :: c :: rest =>
    match c with
    | 'U' => .casing .upper :: partsOf n rest
    | 'L' => .casing .lower :: partsOf n rest
    | 'u' => .casing .upperNext :: partsOf n rest
    | 'l' => .casing .lowerNext :: partsOf n rest
    | 'E' => .casing .plain :: partsOf n rest
    | 'x' =>
      let ds := (rest.take 2).takeWhile (Text.isDigitIn 16)
      .text [Char.ofNat (Text.numberOf 16 ds)] :: partsOf n (rest.drop ds.length)
    | 'o' =>
      let ds := (rest.take 3).takeWhile (Text.isDigitIn 8)
      .text [Char.ofNat (Text.numberOf 8 ds)] :: partsOf n (rest.drop ds.length)
    | 'd' =>
      let ds := (rest.take 3).takeWhile Char.isDigit
      .text [Char.ofNat (Text.numberOf 10 ds)] :: partsOf n (rest.drop ds.length)
    | c =>
      if c.isDigit then .group (c.toNat - '0'.toNat) :: partsOf n rest
      else .text [(Regex.control? c).getD c] :: partsOf n rest
  | n + 1, '&' :: rest => .group 0 :: partsOf n rest
  | n + 1, c :: rest =>
    match partsOf n rest with
    | .text cs :: more => .text (c :: cs) :: more
    | more => .text [c] :: more

/-- What the letters after a substitution say. -/
structure Flags where
  isGlobal : Bool
  prints : Bool
  foldsCase : Bool
  hasLines : Bool
  number? : Option Nat
  writesTo? : Option Octets

def readFlags : Nat → Flags → ReadM Flags
  | 0, f => pure f
  | n + 1, f => do
    match ← peek with
    | none | some '\x7d' | some '#' => pure f
    | some c =>
      if c.isDigit then
        let count ← number
        if count = 0 then fail "number option to \x60s' command may not be zero"
        if f.number?.isSome then fail "multiple number options to \x60s' command"
        readFlags n { f with number? := some count }
      else
        let _ ← next
        match c with
        | '\n' | ';' => pure f
        | ' ' | '\t' | '\r' => readFlags n f
        | 'g' =>
          if f.isGlobal then fail "multiple \x60g' options to \x60s' command"
          readFlags n { f with isGlobal := true }
        | 'p' =>
          if f.prints then fail "multiple \x60p' options to \x60s' command"
          readFlags n { f with prints := true }
        | 'i' | 'I' => readFlags n { f with foldsCase := true }
        | 'm' | 'M' => readFlags n { f with hasLines := true }
        | 'e' => readFlags n f
        | 'w' => do pure { f with writesTo? := some (← readFileName) }
        | _ => fail "unknown option to \x60s'"

/-- The last group that the parts name. -/
def highestGroup (parts : List Part) : Nat :=
  parts.foldl (fun most part => match part with
    | .group index => max most index
    | _ => most) 0

def readSubstitution : ReadM Substitution := do
  let n := (← get).rest.length + 1
  match ← next with
  | none | some '\n' | some '\\' => fail "unterminated \x60s' command"
  | some mark =>
    match ← upToMark mark true n [] with
    | none => fail "unterminated \x60s' command"
    | some pattern =>
      match ← upToMark mark false n [] with
      | none => fail "unterminated \x60s' command"
      | some text =>
        let parts := partsOf (text.length + 1) text
        let f ← readFlags n ⟨false, false, false, false, none, none⟩
        let p ← patternOf pattern f.foldsCase f.hasLines
        let most := highestGroup parts
        if p.regex?.any fun r => r.groupCount < most then
          fail ("invalid reference \\" ++ toString most ++ " on \x60s' command's RHS")
        pure ⟨p, parts, f.isGlobal, f.number?.getD 1, f.prints, f.writesTo?⟩

/-- The characters of a list that is exchanged for another. -/
def plainChars : List Char → List Char
  | '\\' :: '\\' :: rest => '\\' :: plainChars rest
  | '\\' :: c :: rest =>
    match Regex.control? c with
    | some control => control :: plainChars rest
    | none => '\\' :: c :: plainChars rest
  | c :: rest => c :: plainChars rest
  | [] => []

def readExchange : ReadM (List (Char × Char)) := do
  let n := (← get).rest.length + 1
  match ← next with
  | none | some '\n' => fail "unterminated \x60y' command"
  | some mark =>
    match ← upToMark mark false n [] with
    | none => fail "unterminated \x60y' command"
    | some source =>
      match ← upToMark mark false n [] with
      | none => fail "unterminated \x60y' command"
      | some dest =>
        let source := plainChars source
        let dest := plainChars dest
        if source.length ≠ dest.length then fail "strings for \x60y' command are different lengths"
        endCommand
        pure (source.zip dest)

/-- A number after a command, if there is one. -/
def readCount? : ReadM (Option Nat) := do
  skipWhile isBlank
  let ds ← takeWhile Char.isDigit
  endCommand
  pure (if ds.isEmpty then none else some (Text.numberOf 10 ds))

/-- Reads what a command does, by its letter. -/
def readAction (hasFirst hasSecond : Bool) (c : Char) : ReadM Action := do
  let simple (a : Action) : ReadM Action := do
    endCommand
    pure a
  let forOne : ReadM Unit := if hasSecond then fail "command only uses one address" else pure ()
  match c with
  | '#' =>
    if hasFirst then fail "comments don't accept any addresses"
    skipWhile (· ≠ '\n')
    pure .nothing
  | '\x7b' =>
    modify fun s => { s with depth := s.depth + 1 }
    pure .openBlock
  | '\x7d' =>
    if (← get).depth = 0 then fail "unexpected \x60\x7d'"
    if hasFirst then fail "\x7d doesn't want any addresses"
    modify fun s => { s with depth := s.depth - 1 }
    simple .closeBlock
  | ':' =>
    if hasFirst then fail ": doesn't want any addresses"
    let name ← readLabel
    if name.isEmpty then fail "\":\" lacks a label"
    pure (.label name)
  | 'b' => do pure (.jump (← readLabel))
  | 't' => do pure (.jumpIf true (← readLabel))
  | 'T' => do pure (.jumpIf false (← readLabel))
  | 'a' => do pure (.append (← readText))
  | 'i' => do pure (.insert (← readText))
  | 'c' => do pure (.change (← readText))
  | 'd' => simple .delete
  | 'D' => simple .deleteLine
  | 'p' => simple .print
  | 'P' => simple .printLine
  | 'n' => simple .next
  | 'N' => simple .appendNext
  | 'h' => simple .hold
  | 'H' => simple .appendHold
  | 'g' => simple .get
  | 'G' => simple .appendGet
  | 'x' => simple .exchange
  | 'z' => simple .clear
  | '=' => simple .showNumber
  | 'F' => simple .showName
  | 'l' => do pure (.showVisibly (← readCount?))
  | 'q' => do
    forOne
    pure (.quit true ((← readCount?).getD 0))
  | 'Q' => do
    forOne
    pure (.quit false ((← readCount?).getD 0))
  | 'r' => do pure (.readFile (← readFileName))
  | 'R' => do pure (.readLine (← readFileName))
  | 'w' => do pure (.writeFile (← readFileName))
  | 'W' => do pure (.writeLine (← readFileName))
  | 's' => do pure (.substitute (← readSubstitution))
  | 'y' => do pure (.mapChars (← readExchange))
  | 'v' =>
    let _ ← readLabel
    simple .nothing
  | c => fail ("unknown command: \x60" ++ String.singleton c ++ "'")

/-- Reads the commands of a script after those that are read already, last one first. -/
def readCommands : Nat → List Command → ReadM (List Command)
  | 0, commands => pure commands
  | n + 1, commands => do
    skipWhile fun c => isSpace c || c = ';'
    if (← peek).isNone then pure commands
    else
      let (first?, second?) ← readAddresses
      skipWhile isBlank
      let isNegated := (← peek) = some '!'
      if isNegated then
        let _ ← next
        skipWhile isBlank
        if (← peek) = some '!' then
          let _ ← next
          fail "multiple \x60!'s"
      match ← next with
      | none => fail "missing command"
      | some c =>
        let action ← readAction first?.isSome second?.isSome c
        readCommands n (⟨first?, second?, isNegated, action⟩ :: commands)

/-- Reads one script after others whose commands are given. Blocks may go on from one to the next. -/
def readScript (isExtended : Bool) (found : List Command × Nat) (script : Origin × List Char) :
    Except Fault (List Command × Nat) := do
  let (origin, text) := script
  let (commands, s) ← (readCommands (text.length + 1) found.1).run ⟨text, 0, 1, origin, isExtended, found.2⟩
  pure (commands, s.depth)

/-- The labels that commands jump to and that are missing. -/
def missingLabel? (commands : List Command) : Option String :=
  commands.findSome? fun c => match c.action with
    | .jump name | .jumpIf _ name =>
      if name.isEmpty || commands.any fun c => isNamed name c.action then none
      else some name
    | _ => none
where
  isNamed (name : String) : Action → Bool
    | .label other => other = name
    | _ => false

/-- Reads all scripts. -/
def readAll (isExtended : Bool) (scripts : List (Origin × List Char)) : Except Fault (List Command) := do
  let (commands, depth) ← scripts.foldlM (readScript isExtended) ([], 0)
  let origin := (scripts.getLast?.map (·.1)).getD (.word 1)
  if depth > 0 then throw ⟨origin, 0, 0, "unmatched \x60\x7b'", false⟩
  let commands := commands.reverse
  match missingLabel? commands with
  | some name => throw ⟨origin, 0, 0, "can't find label for jump to \x60" ++ name ++ "'", true⟩
  | none => pure commands

end ReleaseMatrix.Shell.LineEdit
