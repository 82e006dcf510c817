import ReleaseMatrix.Shell.Extended.Declaration

namespace ReleaseMatrix.Shell

namespace Extended

open ShellM (self modifySelf)

/-- The words after a double dash, if there is one before them. -/
def dropEnd (words : List Octets) : List Octets :=
  if words.head? = some "--" then words.tail else words

/-- What a command that takes one number finds in its words. -/
inductive NumberGiven
  | missing
  | number (n : Int64)
  | noNumber (word : Octets)

/-- Reads the only number among words. If there are more words, the rest of the line is given up. -/
def readNumber (words : List Octets) : ShellM NumberGiven := do
  match dropEnd words with
  | [] => pure .missing
  | word :: more =>
    match integer? word with
    | none =>
      ShellM.complain (word ++ ": numeric argument required")
      pure (.noNumber word)
    | some n => if more.isEmpty then pure (.number n) else ShellM.dropLine "too many arguments"

/-- The exit status that a number stands for. -/
def statusOf (n : Int64) : Nat :=
  (n.toInt % 256).toNat

def exit (words : List Octets) : ShellM Nat := do
  let p ← self
  let status ← match ← readNumber words with
    | .missing => pure (p.trappedStatus?.getD p.status)
    | .number n => pure (statusOf n)
    | .noNumber _ => pure 2
  ShellM.setStatus status
  throw .exit

/-- Whether a function runs, or a file that is a part of the script. -/
def mayReturn (p : Process) : Bool :=
  p.frames.any fun f => f.name ≠ "main"

def leaveFunction (words : List Octets) : ShellM Nat := do
  let p ← self
  let status ← match ← readNumber words with
    | .missing => pure p.status
    | .number n => pure (statusOf n)
    | .noNumber _ => pure 2
  if !mayReturn p then refuse "can only \x60return' from a function or sourced script" 2
  else
    ShellM.setStatus status
    throw .leaveFunction

/-- Leaves loops, or goes on with the next round of one. -/
def leaveLoop (words : List Octets) (jump : Nat → Jump) : ShellM Nat := do
  let depth := (← self).loopDepth
  if depth = 0 then refuse "only meaningful in a \x60for', \x60while', or \x60until' loop" 0
  else
    match ← readNumber words with
    | .noNumber _ =>
      ShellM.setStatus 128
      throw .exit
    | .missing =>
      ShellM.setStatus 0
      throw (jump 1)
    | .number n =>
      if n < 1 then
        ShellM.complain (words.headD "" ++ ": loop count out of range")
        ShellM.setStatus 1
        throw (.leaveLoop depth)
      ShellM.setStatus 0
      throw (jump (min n.toInt.toNat depth))

def shift (words : List Octets) : ShellM Nat := do
  let p ← self
  let move (n : Nat) : ShellM Nat := do
    if p.arguments.length < n then
      if p.switches.contains "shift_verbose" then ShellM.complain "shift count out of range"
      pure 1
    else
      modifySelf fun p => { p with arguments := p.arguments.drop n }
      pure 0
  match ← readNumber words with
  | .missing => move 1
  | .noNumber _ => pure 1
  | .number n => if n < 0 then refuse (words.headD "" ++ ": shift count out of range") 1 else move n.toInt.toNat

/-- Evaluates expressions. The last one tells the status. -/
def evaluate (words : List Octets) : ShellM Nat := do
  match dropEnd words with
  | [] => refuse "expression expected" 1
  | words => go 0 words
where
  go (status : Nat) : List Octets → ShellM Nat
    | [] => pure status
    | word :: words => do
      match (← self).calculate word with
      | .ok (value, p) =>
        modifySelf fun _ => p
        go (if value = 0 then 1 else 0) words
      | .error fault => refuse fault.message 1

/-- Finds the next option among words. -/
def getOptions (words : List Octets) : ShellM Nat := do
  withOptions "" false words fun g => do
    match g.words with
    | allowed :: name :: given =>
      let p ← self
      let words := if given.isEmpty then p.arguments else given
      let isQuiet := allowed.toList.head? = some ':'
      let letters := if isQuiet then allowed.toList.tail else allowed.toList
      let tell (message : Octets) : ShellM Unit := do
        if !isQuiet && p.valueOf? "OPTERR" ≠ some "0" then
          let _ ← ShellM.write 2 (p.name ++ ": " ++ message ++ "\n")
      let finish (index offset : Nat) (found : Char) (argument? : Option Octets) (status : Nat) : ShellM Nat := do
        ShellM.assign "OPTIND" (toString index)
        modifySelf fun p => { p with optionOffset := offset }
        match argument? with
        | some argument => ShellM.assign "OPTARG" argument
        | none => modifySelf (·.restore "OPTARG" none)
        if isName name.toList then
          ShellM.assign name (String.singleton found)
          pure status
        else refuse ("\x60" ++ name ++ "': not a valid identifier") 1
      let index := p.optionIndex
      let word := (words[index - 1]?.getD "").toList
      let offset := if p.optionOffset = 0 then 1 else p.optionOffset
      match word with
      | ['-', '-'] =>
        if p.optionOffset = 0 then finish (index + 1) 0 '?' none 1
        else next finish tell isQuiet letters words index offset
      | '-' :: _ :: _ => next finish tell isQuiet letters words index offset
      | _ => finish index 0 '?' none 1
    | _ => tellUsage
where
  /-- Takes the next letter of the word with an index. -/
  next (finish : Nat → Nat → Char → Option Octets → Nat → ShellM Nat) (tell : Octets → ShellM Unit) (isQuiet : Bool)
      (letters : List Char) (words : List Octets) (index offset : Nat) : ShellM Nat := do
    let word := (words[index - 1]?.getD "").toList
    let c := word.getD offset '?'
    let isLast := word.length ≤ offset + 1
    let (after, left) := if isLast then (index + 1, 0) else (index, offset + 1)
    if c = ':' || !letters.contains c then
      tell ("illegal option -- " ++ String.singleton c)
      finish after left '?' (if isQuiet then some (String.singleton c) else none) 0
    else if (letters.dropWhile (· ≠ c)).tail.head? ≠ some ':' then finish after left c none 0
    else if !isLast then finish (index + 1) 0 c (some (String.ofList (word.drop (offset + 1)))) 0
    else match words[index]? with
      | some argument => finish (index + 2) 0 c (some argument) 0
      | none =>
        tell ("option requires an argument -- " ++ String.singleton c)
        finish (index + 1) 0 (if isQuiet then ':' else '?') (if isQuiet then some (String.singleton c) else none) 0

end Extended

namespace Extended

open ShellM (self modifySelf)

/-- Where a text that is read ends. -/
structure TextEnd where
  delimiter? : Option Char
  /-- How many characters it has at most. -/
  limit : Nat
  /-- Whether backslashes mean nothing. -/
  isRaw : Bool

/-- Reads a text up to its end: what it holds, last character first, what follows it, and whether its end was
reached. -/
def takeText (e : TextEnd) : Nat → List Char → List Glyph → List Glyph × List Char × Bool
  | _, [], text => (text, [], text.length ≥ e.limit)
  | 0, cs, text => (text, cs, false)
  | n + 1, c :: rest, text =>
    if text.length ≥ e.limit then (text, c :: rest, true)
    else if some c = e.delimiter? then (text, rest, true)
    else if c = '\x00' then takeText e n rest text
    else if c = '\\' && !e.isRaw then
      match rest with
      | d :: more => if d = '\n' then takeText e n more text else takeText e n more (⟨d, true⟩ :: text)
      | [] => (text, [], false)
    else takeText e n rest (⟨c, false⟩ :: text)

/-- All fields of a line. -/
def fieldsOf (separators : String) (line : List Glyph) : List Octets :=
  (splitPieces separators (line.map fun g => .glyph g (!g.isQuoted))).map textOf

/-- Reads a text into variables. -/
def readFields (words : List Octets) : ShellM Nat := do
  withOptions "ersa:d:i:n:N:p:t:u:" false words fun g => do
    let isExact := g.has 'N'
    let delimiter := match g.argument? 'd' with
      | some text => text.toList.headD '\x00'
      | none => '\n'
    let limit? := (g.argument? 'N' <|> g.argument? 'n').bind String.toNat?
    let descriptor := ((g.argument? 'u').bind String.toNat?).getD 0
    let names := match g.argument? 'a' with
      | some name => [name]
      | none => g.words
    match names.find? fun name => !isName (readDeclared name).name.toList with
    | some name => refuse ("\x60" ++ name ++ "': not a valid identifier") 1
    | none =>
      match ← ShellM.peekAll descriptor with
      | .error .isDirectory => refuse ("read error: " ++ toString descriptor ++ ": Is a directory") 1
      | .error _ =>
        if (g.argument? 'u').isSome then
          refuse (toString descriptor ++ ": invalid file descriptor: Bad file descriptor") 1
        else refuse ("read error: " ++ toString descriptor ++ ": Bad file descriptor") 1
      | .ok (chars, leave) =>
        if g.argument? 't' = some "0" then pure 0
        else
          let ending : TextEnd :=
            ⟨if isExact then none else some delimiter, limit?.getD (chars.length + 1), g.has 'r'⟩
          let (text, rest, isWhole) := takeText ending (chars.length + 1) chars []
          leave rest
          let line := text.reverse
          let separators := (← self).separators
          match g.argument? 'a', names with
          | some name, _ =>
            let p ← self
            let target := p.follow name
            let v := (p.binding? target).getD ⟨none, false, false, []⟩
            let traits := if v.has 'a' then v.traits else 'a' :: v.traits
            modifySelf (·.put target { v with content? := some (.ofTexts (fieldsOf separators line)), traits })
          | none, [] => ShellM.assign "REPLY" (textOf line)
          | none, names =>
            let values := if isExact then [textOf line] else splitLine separators names.length line
            names.zip (values ++ List.replicate (names.length - values.length) "") |>.forM fun (name, value) => do
              let d := readDeclared name
              let slot? ← match d.index? with
                | some index => ShellM.slotOf d.name index
                | none => pure (some .whole)
              slot?.forM fun slot => ShellM.assignSlot d.name slot false value
          pure (if isWhole then 0 else 1)

/-- The lines of a text, each with the character that ends it. -/
def linesOf (delimiter : Char) : List Char → List (List Char)
  | [] => []
  | c :: cs =>
    if c = delimiter then [c] :: linesOf delimiter cs
    else match linesOf delimiter cs with
      | line :: more => (c :: line) :: more
      | [] => [[c]]

/-- Reads lines into a list. -/
def mapLines (words : List Octets) : ShellM Nat := do
  withOptions "d:n:O:s:tu:C:c:" false words fun g => do
    let number (letter : Char) : Nat := ((g.argument? letter).bind String.toNat?).getD 0
    let delimiter := match g.argument? 'd' with
      | some text => text.toList.headD '\x00'
      | none => '\n'
    let name := g.words.headD "MAPFILE"
    if !isName name.toList then refuse ("\x60" ++ name ++ "': not a valid identifier") 1
    else
      let p ← self
      let target := p.follow name
      let v := (p.binding? target).getD ⟨none, false, false, []⟩
      if v.isReadOnly then refuse (name ++ ": readonly variable") 1
      else if v.has 'A' then refuse (name ++ ": not an indexed array") 1
      else match ← ShellM.peekAll (if (g.argument? 'u').isSome then number 'u' else 0) with
        | .error _ =>
          refuse (toString (number 'u') ++ ": invalid file descriptor: Bad file descriptor") 1
        | .ok (chars, leave) =>
          let lines := (linesOf delimiter chars).drop (number 's')
          let taken := if number 'n' = 0 then lines else lines.take (number 'n')
          let left := lines.drop taken.length
          leave left.flatten
          let text (line : List Char) : Octets :=
            String.ofList (if g.has 't' && line.getLast? = some delimiter then line.dropLast else line)
          let values := taken.map text
          let traits := if v.has 'a' then v.traits else 'a' :: v.traits
          let first := number 'O'
          let content : Value := match g.argument? 'O', v.content? with
            | some _, some content =>
              (values.mapIdx fun i t => (i + first, t)).foldl (fun c (i, t) => Value.put (some c) (.index i) t) content
            | _, _ => .list (values.mapIdx fun i t => (i + first, t))
          modifySelf (·.put target { v with content? := some content, traits })
          pure 0

end Extended

end ReleaseMatrix.Shell
