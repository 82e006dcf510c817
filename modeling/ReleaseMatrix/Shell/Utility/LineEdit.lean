import ReleaseMatrix.Shell.Utility.LineEdit.Script
import ReleaseMatrix.Shell.Utility.LineEdit.Reader
import ReleaseMatrix.Shell.Utility.Text

namespace ReleaseMatrix.Shell.LineEdit

/-- A line of the input. -/
structure Line where
  text : List Char
  /-- Whether a line break ends it. -/
  isWhole : Bool
  /-- The number of the file that it is in. -/
  file : Nat
  isLast : Bool

/-- Where lines are written. -/
inductive Outlet
  | standard
  | errors
  /-- The copy of an input that takes its place. -/
  | copy (file : Nat)
  | path (path : Octets)
deriving DecidableEq, Repr

/-- What follows the lines that are worked on. -/
inductive Appended
  | text (text : List Char)
  | file (path : Octets)
  | line (text : List Char)

/-- What is on the way through the commands. -/
structure Machine where
  rest : List Line
  current : Line
  number : Nat
  held : List Char
  /-- Whether the line that is held had an end. -/
  heldIsWhole : Bool
  appended : List Appended
  wasReplaced : Bool
  lastPattern? : Option Pattern
  /-- The ranges that started, by the places of their commands, and the lines that they end at if these are known. -/
  ranges : List (Nat × Option Nat)
  /-- What was written, last one first. -/
  written : List (Outlet × List Char)
  /-- The outlets whose last line is still without its end. -/
  unfinished : List Outlet
  /-- How many lines were read of files besides the inputs. -/
  positions : List (Octets × Nat)

/-- What a machine is set up with. -/
structure Setup where
  commands : Array Command
  isQuiet : Bool
  /-- Whether each input has a last line and line numbers of its own. -/
  isSeparate : Bool
  /-- Whether the inputs are replaced. -/
  isInPlace : Bool
  separator : Char
  names : List Octets
  /-- What other files hold. -/
  contentOf : Octets → List Char

/-- Why the machine stops. -/
inductive Stop
  /-- The next line is worked on, after the current one is printed where that is said. -/
  | done (prints : Bool)
  /-- The commands start over with what is left. -/
  | again
  | quit (prints : Bool) (status : Nat)
  | noPattern
  | exhausted

abbrev MachineM := ExceptT Stop (StateM Machine)

namespace MachineM

variable (s : Setup)

def outlet : MachineM Outlet := do
  let m ← get
  pure (if s.isInPlace then .copy m.current.file else .standard)

/-- Writes characters as they are. The line before is finished first. -/
def emit (o : Outlet) (cs : List Char) : MachineM Unit :=
  modify fun m =>
    let lead := if m.unfinished.contains o then [s.separator] else []
    { m with
      written := (o, lead ++ cs) :: m.written
      unfinished := m.unfinished.filter (· ≠ o) }

/-- Writes a line, whose end is missing if that of the current line is. -/
def emitLine (o : Outlet) (cs : List Char) : MachineM Unit := do
  let isWhole := (← get).current.isWhole
  emit s o (if isWhole then cs ++ [s.separator] else cs)
  if !isWhole then modify fun m => { m with unfinished := o :: m.unfinished }

def printCurrent : MachineM Unit := do
  let o ← outlet s
  emitLine s o (← get).current.text

/-- The outlet that a path means. -/
def outletOf (path : Octets) : Outlet :=
  if path = "/dev/stdout" then .standard else if path = "/dev/stderr" then .errors else .path path

/-- Writes what was to follow the current lines. -/
def flushAppended : MachineM Unit := do
  let m ← get
  set { m with appended := [] }
  let o ← outlet s
  m.appended.forM fun
    | .text text => emit s o text
    | .file path =>
      let content := s.contentOf path
      if content.isEmpty then pure () else emit s o content
    | .line text => emit s o (text ++ [s.separator])

/-- Whether there is no line after the current one. -/
def isAtEnd : MachineM Bool := do
  return (← get).rest.isEmpty

/-- Goes on to the next line. -/
def advance (keepsText : Bool) : MachineM Unit := do
  flushAppended s
  modify fun m => match m.rest with
    | [] => m
    | next :: rest =>
      let text := if keepsText then m.current.text ++ '\n' :: next.text else next.text
      let isNewFile := s.isSeparate && next.file ≠ m.current.file
      { m with
        rest
        current := { next with text }
        number := if isNewFile then 1 else m.number + 1 }

/-- The regular expression of a pattern, which is remembered. -/
def regexOf (p : Pattern) : MachineM (Regex × Pattern) := do
  match p.regex? with
  | some r =>
    modify fun m => { m with lastPattern? := some p }
    pure (r, p)
  | none =>
    match (← get).lastPattern? with
    | some ⟨some r, foldsCase, hasLines⟩ => pure (r, ⟨some r, foldsCase, hasLines⟩)
    | _ => throw .noPattern

def subjectOf (r : Regex) (p : Pattern) (text : List Char) : Regex.Subject :=
  ⟨text.toArray, p.foldsCase, p.hasLines, true, true, r.looksBack⟩

def isMeant (a : Address) : MachineM Bool := do
  let m ← get
  match a with
  | .line number => pure (m.number = number)
  | .last => pure (if s.isSeparate then m.current.isLast else m.rest.isEmpty)
  | .pattern p => do
    let (r, p) ← regexOf p
    pure (Regex.search (subjectOf r p m.current.text) r 0).isSome
  | .steps first step =>
    pure (if step = 0 then m.number = first else first ≤ m.number && (m.number - first) % step = 0)
  | .plus _ | .multiple _ => pure false

/-- Whether a command with a range is for the current line. -/
def isInRange (index : Nat) (first second : Address) : MachineM Bool := do
  let m ← get
  let leave : MachineM Unit := modify fun m => { m with ranges := m.ranges.filter (·.1 ≠ index) }
  let enter (last? : Option Nat) : MachineM Unit :=
    modify fun m => { m with ranges := (index, last?) :: m.ranges.filter (·.1 ≠ index) }
  let isOpen := first matches .line 0 && m.number = 1
  match m.ranges.find? (·.1 == index), isOpen with
  | some (_, some last), _ =>
    if m.number ≥ last then leave
    pure (m.number ≤ last)
  | some (_, none), _ | none, true =>
    if ← isMeant s second then leave
    else if isOpen then enter none
    pure true
  | none, false =>
    if !(← isMeant s first) then pure false
    else
      match second with
      | .line last => if last > m.number then enter (some last)
      | .plus count => if count > 0 then enter (some (m.number + count))
      | .multiple step =>
        if step > 0 && m.number % step ≠ 0 then enter (some ((m.number / step + 1) * step))
      | .last => if !(← isMeant s .last) then enter none
      | _ => enter none
      pure true

/-- Whether a command is for the current line. -/
def isFor (index : Nat) (c : Command) : MachineM Bool := do
  let isMeant ← match c.first?, c.second? with
    | none, _ => pure true
    | some first, none => isMeant s first
    | some first, some second => isInRange s index first second
  pure (isMeant != c.isNegated)

/-- Texts with letters changed as casings between them say. -/
def changeCase : Casing → Option Casing → List Part → (Nat → List Char) → List Char
  | _, _, [], _ => []
  | lasting, once?, part :: parts, groupText =>
    let show' (cs : List Char) : List Char × Bool :=
      let all := match lasting with
        | .upper => cs.map Char.toUpper
        | .lower => cs.map Char.toLower
        | _ => cs
      match once?, cs, all with
      | some .upperNext, c :: _, _ :: rest => (c.toUpper :: rest, true)
      | some .lowerNext, c :: _, _ :: rest => (c.toLower :: rest, true)
      | _, cs, all => (all, !cs.isEmpty)
    match part with
    | .casing .upperNext => changeCase lasting (some .upperNext) parts groupText
    | .casing .lowerNext => changeCase lasting (some .lowerNext) parts groupText
    | .casing c => changeCase c none parts groupText
    | .text cs =>
      let (shown, isUsed) := show' cs
      shown ++ changeCase lasting (if isUsed then none else once?) parts groupText
    | .group index =>
      let (shown, isUsed) := show' (groupText index)
      shown ++ changeCase lasting (if isUsed then none else once?) parts groupText

/-- A text with matches replaced, from the one with a number on, and whether there was one. -/
def replaceIn (sub : Substitution) (text : Array Char) (ms : List Regex.Match) : List Char × Bool :=
  let chosen := (ms.drop (sub.number - 1)).take (if sub.isGlobal then ms.length else 1)
  let (done, stop) := chosen.foldl (fun (done, stop) m =>
    let groupText (index : Nat) : List Char := (m.groupText? text index).getD []
    (done ++ (text.extract stop m.start).toList ++ changeCase .plain none sub.parts groupText, m.stop)) ([], 0)
  (done ++ (text.extract stop text.size).toList, !chosen.isEmpty)

def substitute (sub : Substitution) : MachineM Unit := do
  let (r, p) ← regexOf sub.pattern
  let m ← get
  let subject := subjectOf r { p with
    foldsCase := p.foldsCase || sub.pattern.foldsCase, hasLines := p.hasLines || sub.pattern.hasLines } m.current.text
  let (text, isReplaced) := replaceIn sub subject.text (Regex.matchesIn subject r)
  if isReplaced then
    set { m with current.text := text, wasReplaced := true }
    if sub.prints then printCurrent s
    match sub.writesTo? with
    | some path => emitLine s (outletOf path) text
    | none => pure ()

/-- A text with visible signs for characters that cannot be seen, in lines of a width. -/
def visibly (width : Nat) (cs : List Char) : List Char :=
  let signs := cs.map fun c =>
    if c = '\\' then ['\\', '\\']
    else if 0x20 ≤ c.toNat && c.toNat < 0x7F then [c]
    else match [(7, 'a'), (8, 'b'), (12, 'f'), (10, 'n'), (13, 'r'), (9, 't'), (11, 'v')].lookup c.toNat with
      | some letter => ['\\', letter]
      | none =>
        let ds := Nat.toDigits 8 c.toNat
        '\\' :: List.replicate (3 - ds.length) '0' ++ ds
  let (lines, last) := signs.foldl (fun (lines, line) sign =>
    if width > 1 && line.length + sign.length > width - 1 then (lines ++ line ++ ['\\', '\n'], sign)
    else (lines, line ++ sign)) (([], []) : List Char × List Char)
  lines ++ last ++ ['$', '\n']

/-- The place after the end of the block that starts before a place. -/
def blockEnd (commands : Array Command) : Nat → Nat → Nat → Nat
  | 0, _, index => index
  | n + 1, depth, index =>
    match (commands[index]?).map Command.action with
    | none => index
    | some .openBlock => blockEnd commands n (depth + 1) (index + 1)
    | some .closeBlock => if depth = 0 then index + 1 else blockEnd commands n (depth - 1) (index + 1)
    | some _ => blockEnd commands n depth (index + 1)

/-- The place of a label. The end of the script has no name. -/
def placeOf (commands : Array Command) (name : String) : Nat :=
  if name.isEmpty then commands.size
  else (commands.findIdx? fun c => match c.action with
    | .label other => other = name
    | _ => false).getD commands.size

/-- The next line of a file besides the inputs. -/
def nextLineOf (path : Octets) : MachineM (Option (List Char)) := do
  let m ← get
  let position := (m.positions.lookup path).getD 0
  let rest := (s.contentOf path).drop position
  if rest.isEmpty then pure none
  else
    let line := rest.takeWhile (· ≠ s.separator)
    set { m with
      positions := (path, position + line.length + 1) :: m.positions.filter (·.1 ≠ path) }
    pure (some line)

/-- Carries out the action of a command at a place, and gives the place of the next command. -/
def act (index : Nat) (c : Command) : MachineM Nat := do
  let go : MachineM Nat := pure (index + 1)
  let m ← get
  let setText (text : List Char) : MachineM Unit := modify fun m => { m with current.text := text }
  match c.action with
  | .nothing | .openBlock | .closeBlock | .label _ => go
  | .jump name => pure (placeOf s.commands name)
  | .jumpIf wanted name =>
    if m.wasReplaced = wanted then
      if wanted then set { m with wasReplaced := false }
      pure (placeOf s.commands name)
    else
      if !wanted then set { m with wasReplaced := false }
      go
  | .append text =>
    set { m with appended := m.appended ++ [Appended.text text] }
    go
  | .insert text =>
    emit s (← outlet s) text
    go
  | .change text =>
    let isInside := c.second?.isSome && !c.isNegated && m.ranges.any (·.1 == index)
    if !isInside then emit s (← outlet s) text
    throw (.done false)
  | .delete => throw (.done false)
  | .deleteLine =>
    match m.current.text.dropWhile (· ≠ '\n') with
    | [] => throw (.done false)
    | _ :: rest =>
      setText rest
      throw .again
  | .print =>
    printCurrent s
    go
  | .printLine =>
    let first := m.current.text.takeWhile (· ≠ '\n')
    if first.length < m.current.text.length then emit s (← outlet s) (first ++ [s.separator])
    else emitLine s (← outlet s) first
    go
  | .next =>
    if ← isAtEnd then throw (.quit true 0)
    if !s.isQuiet then printCurrent s
    advance s false
    go
  | .appendNext =>
    if ← isAtEnd then throw (.quit true 0)
    advance s true
    go
  | .hold =>
    set { m with held := m.current.text, heldIsWhole := m.current.isWhole }
    go
  | .appendHold =>
    set { m with held := m.held ++ '\n' :: m.current.text }
    go
  | .get =>
    set { m with current.text := m.held, current.isWhole := m.heldIsWhole }
    go
  | .appendGet =>
    set { m with current.text := m.current.text ++ '\n' :: m.held, current.isWhole := m.heldIsWhole }
    go
  | .exchange =>
    set { m with
      held := m.current.text, heldIsWhole := m.current.isWhole
      current.text := m.held, current.isWhole := m.heldIsWhole }
    go
  | .quit prints status => throw (.quit prints status)
  | .showNumber =>
    emit s (← outlet s) (toString m.number).toList
    emit s (← outlet s) ['\n']
    go
  | .showName =>
    emit s (← outlet s) ((s.names[m.current.file]?.getD "-").toList ++ ['\n'])
    go
  | .showVisibly width? =>
    emit s (← outlet s) (visibly (width?.getD 70) m.current.text)
    go
  | .clear =>
    setText []
    go
  | .substitute sub =>
    substitute s sub
    go
  | .mapChars pairs =>
    setText (m.current.text.map fun c => (pairs.lookup c).getD c)
    go
  | .readFile path =>
    set { m with appended := m.appended ++ [Appended.file path] }
    go
  | .readLine path =>
    match ← nextLineOf s path with
    | some line => modify fun m => { m with appended := m.appended ++ [Appended.line line] }
    | none => pure ()
    go
  | .writeFile path =>
    emitLine s (outletOf path) m.current.text
    go
  | .writeLine path =>
    emit s (outletOf path) (m.current.text.takeWhile (· ≠ '\n') ++ [s.separator])
    go

/-- Runs the commands from a place on, with a bound on their number. -/
def runFrom : Nat → Nat → MachineM Unit
  | 0, _ => throw .exhausted
  | n + 1, index => do
    match s.commands[index]? with
    | none => throw (.done true)
    | some c =>
      if ← isFor s index c then runFrom n (← act s index c)
      else match c.action with
        | .openBlock => runFrom n (blockEnd s.commands s.commands.size 0 (index + 1))
        | _ => runFrom n (index + 1)

/-- Works on the current line and those after it. Gives the exit status. -/
def runLines : Nat → MachineM Nat
  | 0 => throw .exhausted
  | n + 1 => do
    match ← ExceptT.lift (runFrom s 1000000 0).run with
    | .ok () => pure 0
    | .error .again =>
      flushAppended s
      runLines n
    | .error (.done prints) =>
      if prints && !s.isQuiet then printCurrent s
      flushAppended s
      if ← isAtEnd then pure 0
      else
        advance s false
        modify fun m => { m with wasReplaced := false }
        runLines n
    | .error (.quit prints status) =>
      if prints then
        if !s.isQuiet then printCurrent s
        flushAppended s
      if s.isInPlace then
        let m ← get
        (m.rest.filter (·.file = m.current.file)).forM fun line => do
          modify fun m => { m with current := line }
          printCurrent s
      pure status
    | .error stop => throw stop

end MachineM

end ReleaseMatrix.Shell.LineEdit

namespace ReleaseMatrix.Shell.Utility

open LineEdit

/-- The options of the line editor. -/
def lineEditForms : List OptionForm :=
  forms "bsnrzuEe:f:l:i::" [('n', "quiet"), ('r', "regexp-extended"), ('z', "null-data"), ('u', "unbuffered"),
    ('e', "expression"), ('f', "file"), ('l', "line-length"), ('i', "in-place"), ('s', "separate"), ('π', "posix"),
    ('δ', "debug"), ('σ', "sandbox")] ++ [⟨'n', .none, "silent"⟩]

/-- Texts that go on with the next one, because a backslash ends them, as one text. -/
def joinContinued : List (Origin × List Char) → List (Origin × List Char)
  | (.word k, text) :: (.word j, next) :: rest =>
    let slashes := (text.reverse.takeWhile (· = '\\')).length
    if slashes % 2 = 1 then joinContinued ((.word k, text ++ '\n' :: next) :: rest)
    else (.word k, text) :: joinContinued ((.word j, next) :: rest)
  | script :: rest => script :: joinContinued rest
  | [] => []
termination_by scripts => scripts.length

/-- The scripts that are given by options, or else by the first operand. -/
def scriptsOf (g : Given) : ShellM (Option (List (Origin × List Char) × List Octets)) := do
  let chosen := g.options.filter fun o => o.1 = 'e' || o.1 = 'f'
  if chosen.isEmpty then
    match g.operands with
    | [] => pure none
    | script :: operands => pure (some ([(.word 1, script.toList)], operands))
  else
    let scripts ← chosen.foldlM (fun (found, count) (letter, text) => do
      if letter = 'e' then pure (found ++ [(Origin.word (count + 1), text.toList)], count + 1)
      else
        let read (text : Octets) : Octets := chomp text
        let content ← withInput text (fun fault => do
          warn ("couldn't open file " ++ text ++ ": " ++ fault.text)
          pure none) fun descriptor => do
            match ← ShellM.readAll descriptor with
            | .ok content => pure (some (read content))
            | .error fault =>
              warn ("read error on " ++ text ++ ": " ++ fault.text)
              pure none
        match content with
        | some content => pure (found ++ [(Origin.file text, content.toList)], count)
        | none => throw (.gone (.exited 4))) (([], 0) : List (Origin × List Char) × Nat)
    pure (some (joinContinued scripts.1, g.operands))

/-- The lines of an input. -/
def inputLines (separator : Char) (file : Nat) (text : Octets) : List Line :=
  let pieces := Text.splitChars separator text.toList
  let whole := pieces.dropLast.map fun piece => (piece, true)
  let all := match pieces.getLast? with
    | some (c :: cs) => whole ++ [(c :: cs, false)]
    | _ => whole
  all.mapIdx fun k (text, isWhole) => ⟨text, isWhole, file, k + 1 = all.length⟩

/-- What the inputs hold, and the status of reading them. -/
def readInputs (isInPlace : Bool) (paths : List Octets) : ShellM (List (Option Octets) × Nat) :=
  paths.foldlM (fun (contents, status) path => do
    let failed (text : Octets) (failure : Nat) : ShellM (List (Option Octets) × Nat) := do
      warn text
      pure (contents ++ [none], if failure = 4 then 4 else max status failure)
    match ← if isInPlace then look path else pure (.error .notFound) with
    | .ok (_, .directory) => failed ("couldn't edit " ++ path ++ ": not a regular file") 4
    | _ =>
      withInput path (fun fault => failed ("can't read " ++ path ++ ": " ++ fault.text) 2) fun descriptor => do
        match ← ShellM.readAll descriptor with
        | .ok text => pure (contents ++ [some text], status)
        | .error fault => failed ("read error on " ++ path ++ ": " ++ fault.text) 4) ([], 0)

/-- Everything that was written to an outlet. -/
def writtenTo (m : Machine) (o : Outlet) : Octets :=
  String.ofList ((m.written.filter (·.1 = o)).reverse.flatMap (·.2))

/-- Writes a file, whatever was in it. -/
def writeFile (path content : Octets) : ShellM Unit := do
  let _ ← tryFiles ("couldn't open file " ++ path) (FileM.write (Octets.toPath path) (Octets.toBytes content))

/-- Edits texts line by line. -/
def sed : Work := fun words =>
  withGiven 1 lineEditForms words fun g => do
    match ← scriptsOf g with
    | none => pure 1
    | some (scripts, operands) =>
      let isExtended := g.has 'E' || g.has 'r'
      match readAll isExtended scripts with
      | .error fault =>
        warn fault.text
        pure (if fault.isBare then 4 else 1)
      | .ok commands =>
        let isInPlace := g.has 'i'
        let separator := if g.has 'z' then '\x00' else '\n'
        let outputs := (writtenPaths commands).filter fun path => path ≠ "/dev/stdout" && path ≠ "/dev/stderr"
        outputs.forM fun path => writeFile path ""
        let paths := inputsOf operands
        let (contents, status) ← readInputs isInPlace paths
        let lines := (contents.mapIdx fun k text? =>
          (text?.map (inputLines separator k)).getD []).flatten
        let w := (← get).workspace
        let input ← match ← ShellM.peekAll 0 with
          | .ok (chars, _) => pure chars
          | .error _ => pure []
        let contentOf (path : Octets) : List Char :=
          if path = "/dev/stdin" then input
          else match w.read (Octets.toPath path) with
            | .ok bytes => (Octets.ofBytes bytes).toList
            | .error _ => []
        let isSilent := g.has 'n' || (scripts.head?.any fun (_, text) =>
          text = ['#', 'n'] || text.take 3 = ['#', 'n', '\n'])
        let s : Setup := ⟨commands.toArray, isSilent, isInPlace || g.has 's', isInPlace, separator, paths, contentOf⟩
        match lines with
        | [] => pure status
        | first :: rest =>
          let m : Machine := ⟨rest, first, 1, [], true, [], false, none, [], [], [], []⟩
          let (result, m) := (MachineM.runLines s 1000000).run.run m
          let failed (message : Octets) : ShellM Nat := do
            warn message
            pure 1
          let _ ← print (writtenTo m .standard)
          let _ ← ShellM.write 2 (writtenTo m .errors)
          outputs.forM fun path => writeFile path (writtenTo m (.path path))
          if isInPlace then
            (paths.zip contents).zipIdx.forM fun ((path, content?), k) => do
              match content? with
              | none => pure ()
              | some before =>
                let ending := (g.argument? 'i').getD ""
                if !ending.isEmpty then
                  writeFile (if ending.contains '*' then ending.replace "*" path else path ++ ending) before
                writeFile path (writtenTo m (.copy k))
          match result with
          | .ok code => pure (if code ≠ 0 then code else status)
          | .error .noPattern => failed "-e expression #1, char 0: no previous regular expression"
          | .error _ => throw .exhausted

end ReleaseMatrix.Shell.Utility
