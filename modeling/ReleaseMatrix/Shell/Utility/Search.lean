import ReleaseMatrix.Regex.Reader
import ReleaseMatrix.Shell.Utility.Text

namespace ReleaseMatrix.Shell.Utility

namespace Search

def forms : List OptionForm :=
  Utility.forms "EFGPe:f:iywxvclLqsnHhobA:B:C:rRm:azIUZTy"
    [('E', "extended-regexp"), ('F', "fixed-strings"), ('G', "basic-regexp"), ('P', "perl-regexp"), ('e', "regexp="),
      ('f', "file="), ('i', "ignore-case"), ('w', "word-regexp"), ('x', "line-regexp"), ('v', "invert-match"),
      ('c', "count"), ('l', "files-with-matches"), ('L', "files-without-match"), ('q', "quiet"), ('q', "silent"),
      ('s', "no-messages"), ('n', "line-number"), ('H', "with-filename"), ('h', "no-filename"),
      ('o', "only-matching"), ('b', "byte-offset"), ('A', "after-context"), ('B', "before-context"),
      ('C', "context"), ('r', "recursive"), ('R', "dereference-recursive"), ('m', "max-count"), ('a', "text"),
      ('Z', "null"), ('ι', "include="), ('ξ', "exclude="), ('δ', "exclude-dir="), ('σ', "no-ignore-case"),
      ('λ', "label="), ('β', "line-buffered")] ++
        [⟨'q', .none, "silent"⟩, ⟨'χ', .optional, "color"⟩, ⟨'χ', .optional, "colour"⟩]

def usage : Octets :=
  "Usage: grep [OPTION]... PATTERNS [FILE]...\nTry 'grep --help' for more information.\n"

/-- What lines are searched for, and what is told of them. -/
structure Query where
  given : Given
  regex : Regex
  before : Nat
  after : Nat
  most? : Option Nat

namespace Query

def subject (s : Query) (line : List Char) : Regex.Subject :=
  .ofLine s.regex (s.given.has 'i' || s.given.has 'y') line

/-- Whether a line is among those that are asked for. -/
def selects (s : Query) (line : Octets) : Bool :=
  (Regex.search (s.subject line.toList) s.regex 0).isSome != s.given.has 'v'

/-- The parts of a line that match and are not empty, with their places. -/
def partsOf (s : Query) (line : Octets) : List (Nat × Octets) :=
  let subject := s.subject line.toList
  (Regex.matchesIn subject s.regex).filterMap fun m =>
    if m.start < m.stop then some (m.start, String.ofList (subject.text.extract m.start m.stop).toList) else none

end Query

/-- A line of an input, with its number and its place. -/
structure Line where
  number : Nat
  offset : Nat
  text : Octets
  isSelected : Bool

def numberLines (s : Query) : Nat → Nat → Nat → List Octets → List Line
  | _, _, _, [] => []
  | number, offset, found, line :: lines =>
    let isSelected := s.most?.all (found < ·) && s.selects line
    ⟨number, offset, line, isSelected⟩ ::
      numberLines s (number + 1) (offset + line.length + 1) (if isSelected then found + 1 else found) lines

/-- What stands before a line that is printed. -/
def lead (s : Query) (name? : Option Octets) (mark : String) (number offset : Nat) : Octets :=
  (match name? with
    | some name => name ++ (if s.given.has 'Z' then "\x00" else mark)
    | none => "") ++
    (if s.given.has 'n' then toString number ++ mark else "") ++
    if s.given.has 'b' then toString offset ++ mark else ""

/-- The lines that are printed: those that are selected, and some around each. Between lines that do not follow
each other stands a separator. -/
def showLines (s : Query) (name? : Option Octets) (lines : List Line) : List Octets :=
  let chosen := (lines.filter Line.isSelected).map Line.number
  let isNear (l : Line) : Bool :=
    chosen.any fun n => l.number ≤ n + s.after && n ≤ l.number + s.before
  let shown := lines.filter isNear
  let hasSeparators := s.before > 0 || s.after > 0
  let isApart (l : Line) (before? : Option Line) : Bool := before?.any fun b => b.number + 1 < l.number
  let ending := if s.given.has 'z' then "\x00" else "\n"
  (shown.zip (none :: shown.map some)).flatMap fun (l, before?) =>
    (if hasSeparators && isApart l before? then ["--\n"] else []) ++
      if s.given.has 'o' then
        if l.isSelected && !s.given.has 'v' then
          (s.partsOf l.text).map fun (start, part) => lead s name? ":" l.number (l.offset + start) ++ part ++ ending
        else []
      else [lead s name? (if l.isSelected then ":" else "-") l.number l.offset ++ l.text ++ ending]

/-- Searches one text, and says whether anything was selected. -/
def searchText (s : Query) (name : Octets) (hasName : Bool) (text : Octets) : ShellM Bool := do
  let pieces := Text.splitChars (if s.given.has 'z' then '\x00' else '\n') text.toList
  let pieces := if pieces.getLast? = some [] then pieces.dropLast else pieces
  let lines := numberLines s 1 0 0 (pieces.map String.ofList)
  let count := (lines.filter Line.isSelected).length
  let ending := if s.given.has 'Z' then "\x00" else "\n"
  let output : Octets :=
    if s.given.has 'q' then ""
    else if s.given.has 'l' then if count > 0 then name ++ ending else ""
    else if s.given.has 'L' then if count = 0 then name ++ ending else ""
    else if s.given.has 'c' then
      (if hasName then name ++ (if s.given.has 'Z' then "\x00" else ":") else "") ++ toString count ++ "\n"
    else if text.contains '\x00' && !s.given.has 'a' && !s.given.has 'z' then
      if count > 0 then "grep: " ++ name ++ ": binary file matches\n" else ""
    else String.join (showLines s (if hasName then some name else none) lines)
  let _ ← print output
  pure (count > 0)

/-- The files below a directory, with the paths that they are told by. -/
def filesBelow (w : Workspace) : Nat → Octets → Location → List Octets
  | 0, _, _ => []
  | n + 1, path, l =>
    (w.files.names l).flatMap fun name =>
      let inner := if path.isEmpty then Octets.ofText name else under path (Octets.ofText name)
      match w.files.get? (l ++ [name]) with
      | some .directory => filesBelow w n inner (l ++ [name])
      | some (.file ..) => [inner]
      | _ => []

/-- Whether files with a name are searched. -/
def isMeant (g : Given) (path : Octets) : Bool :=
  let fits (letter : Char) : Bool := g.options.any fun (c, pattern) =>
    c = letter && matchesAll (patternOf (pattern.toList.map fun c => ⟨c, false⟩)) (baseName path).toList
  (!g.has 'ι' || fits 'ι') && !fits 'ξ'

/-- Searches one input: whether anything was selected, and whether it could be read. -/
def searchInput (s : Query) (hasName : Bool) (path : Octets) : ShellM (Bool × Bool) := do
  let failed (text : Octets) : ShellM (Bool × Bool) := do
    if !s.given.has 's' then warn (path ++ ": " ++ text)
    pure (false, false)
  withInput path (fun fault => failed fault.text) fun descriptor => do
    match ← ShellM.readAll descriptor with
    | .error .isDirectory =>
      warn (path ++ ": Is a directory")
      let _ ← if s.given.has 'c' then searchText s path hasName "" else pure false
      pure (false, false)
    | .error fault => failed fault.text
    | .ok text =>
      let name := if path = "-" then (s.given.argument? 'λ').getD "(standard input)" else path
      pure (← searchText s name hasName text, true)

def run (s : Query) (operands : List Octets) : ShellM Nat := do
  let isDeep := s.given.has 'r' || s.given.has 'R'
  let w := (← get).workspace
  let inputs := if operands.isEmpty && !isDeep then ["-"] else operands
  let place (path : Octets) : Option Location := match w.find (Octets.toPath path) with
    | .ok (l, .directory) => some l
    | _ => none
  let spread : List (Octets × Bool) :=
    if operands.isEmpty && isDeep then (filesBelow w 64 "" w.directory).map (·, true)
    else inputs.flatMap fun path =>
      match if isDeep then place path else none with
      | some l => (filesBelow w 64 path l).map (·, true)
      | none => [(path, false)]
  let hasName (isInside : Bool) : Bool :=
    if s.given.has 'h' then false else s.given.has 'H' || inputs.length > 1 || isInside
  let (found, isRead) ← (spread.filter fun (path, _) => isMeant s.given path).foldlM
    (fun (found, isRead) (path, isInside) => do
      if found && s.given.has 'q' then pure (found, isRead)
      else
        let (more, isGood) ← searchInput s (hasName isInside) path
        pure (found || more, isRead && isGood)) (false, true)
  pure (if found && (isRead || s.given.has 'q') then 0 else if !isRead then 2 else 1)

/-- The pattern of all lines of a text, as it is read. -/
def patternOfLines (g : Given) (lines : List Octets) : Except Regex.Fault Regex := do
  let grammar : Regex.Grammar :=
    if g.has 'P' then ⟨true, true, true, true, true, false⟩ else if g.has 'E' then .extended else .basic
  let parts ← lines.mapM fun line =>
    if g.has 'F' then pure (Regex.ofChars line.toList) else Regex.read grammar line.toList
  let whole := match parts with
    | [] => .oneOf false []
    | first :: more => more.foldl .either first
  let wrapped := if g.has 'x' then .sequence .lineStart (.sequence whole .lineEnd)
    else if g.has 'w' then
      .sequence .afterNoWord (.sequence whole (.ahead false (.oneOf false Regex.wordItems)))
    else whole
  pure wrapped

end Search

open Search in
/-- Prints the lines of files that match a pattern. -/
def grep (letters : List Char) : Work := fun words => do
  let spelled := words.flatMap fun word =>
    match word.toList with
    | '-' :: digits =>
      if !digits.isEmpty && digits.all Char.isDigit then ["-C", String.ofList digits] else [word]
    | _ => [word]
  match readGiven Search.forms false (spelled.length + 1) spelled with
  | .error message =>
    warn message
    let _ ← ShellM.write 2 usage
    pure 2
  | .ok g =>
    let g := { g with options := letters.map (·, "") ++ g.options }
    let listed := (g.options.filter (·.1 = 'e')).map (·.2)
    let stored ← (g.options.filter (·.1 = 'f')).mapM fun o => do
      return ((← readInput o.2).map fun text => (linesOf text).map chomp)
    let isGiven := g.has 'e' || g.has 'f'
    let operands := if isGiven then g.operands else g.operands.tail
    let badCount? := (g.options.filter fun o => o.1 ∈ ['A', 'B', 'C']).find? fun o => o.2.toNat?.isNone
    if stored.any Option.isNone then pure 2
    else if let some (_, text) := badCount? then
      warn (text ++ ": invalid context length argument")
      pure 2
    else if (g.argument? 'm').any fun text => text.toInt?.isNone then
      warn "invalid max count"
      pure 2
    else if !isGiven && g.operands.isEmpty then
      let _ ← ShellM.write 2 usage
      pure 2
    else
      let texts := if isGiven then listed else g.operands.take 1
      let lines := texts.flatMap (fun text => (Text.splitChars '\n' text.toList).map String.ofList) ++
        (stored.filterMap id).flatten
      let isKind (line : Octets) : Bool :=
        let cs := line.toList
        cs.take 2 = ['[', ':'] && cs.drop (cs.length - 2) = [':', ']'] && cs.length > 3
      if !g.has 'F' && lines.any isKind then
        warn "character class syntax is [[:space:]], not [:space:]"
        pure 2
      else match patternOfLines g lines with
        | .error fault =>
          warn fault.text
          pure 2
        | .ok regex =>
          let count (letter : Char) : Nat :=
            ((g.argument? letter <|> g.argument? 'C').bind String.toNat?).getD 0
          run ⟨g, regex, count 'B', count 'A', ((g.argument? 'm').bind String.toNat?)⟩ operands

end ReleaseMatrix.Shell.Utility
