import ReleaseMatrix.Regex.Reader
import ReleaseMatrix.Shell.Utility.Text

namespace ReleaseMatrix.Shell.Utility

/-- The separators that a text lists. Nothing is one too. -/
def separatorsOf (text : Octets) : List Octets :=
  if text.isEmpty then [""] else go (text.length + 1) text.toList
where
  go : Nat → List Char → List Octets
    | 0, _ | _, [] => []
    | n + 1, '\\' :: '0' :: cs => "" :: go n cs
    | n + 1, '\\' :: c :: cs =>
      let meant := match c with
        | 'n' => '\n'
        | 't' => '\t'
        | 'b' => '\x08'
        | 'f' => '\x0c'
        | 'r' => '\x0d'
        | 'v' => '\x0b'
        | c => c
      String.singleton meant :: go n cs
    | n + 1, c :: cs => String.singleton c :: go n cs

/-- Texts with separators between them, which are taken in turn. -/
def interleave (separators : List Octets) (texts : List Octets) : Octets :=
  String.join (texts.mapIdx fun k text =>
    (if k = 0 then "" else separators.getD ((k - 1) % max 1 separators.length) "") ++ text)

/-- The rows of columns, as many as the longest one has. -/
def rowsOf (columns : List (List Octets)) : List (List Octets) :=
  let count := (columns.map List.length).foldl max 0
  (List.range count).map fun k => columns.map fun column => column[k]?.getD ""

/-- Lines dealt out to as many columns. -/
def dealOut (count : Nat) (lines : List Octets) : List (List Octets) :=
  (List.range count).map fun k => (lines.zipIdx.filter fun (_, i) => i % count = k).map (·.1)

/-- Puts the lines of files side by side, or those of one file in a row. -/
def paste : Work := fun words =>
  withGiven 1 (forms "d:sz" [('d', "delimiters"), ('s', "serial"), ('z', "zero-terminated")]) words fun g => do
    let paths := inputsOf g.operands
    let ending := if g.has 'z' then '\x00' else '\n'
    let separators := separatorsOf ((g.argument? 'd').getD "\t")
    let show' (texts : List Octets) : Octets := interleave separators texts ++ String.singleton ending
    let readColumn (path : Octets) : ShellM (Option (List Octets)) := do
      pure ((← readInput path).map (recordsOf ending))
    if g.has 's' then
      forEach paths fun path => do
        match ← readColumn path with
        | none => pure 1
        | some lines => print (show' lines)
    else
      let dashes := (paths.filter (· = "-")).length
      let dealt ← if dashes = 0 then pure [] else do
        pure (dealOut dashes ((← readColumn "-").getD []))
      let rec collect : Nat → List Octets → List (List Octets) → ShellM (Option (List (List Octets)))
        | _, [], found => pure (some found)
        | k, path :: paths, found => do
          if path = "-" then collect (k + 1) paths (found ++ [dealt[k]?.getD []])
          else match ← readColumn path with
            | none => pure none
            | some column => collect k paths (found ++ [column])
      match ← collect 0 paths [] with
      | none => pure 1
      | some columns => print (String.join ((rowsOf columns).map show'))

/-- How far a line reaches after one more character. -/
def columnAfter (countsBytes : Bool) (column : Nat) (c : Char) : Nat :=
  if countsBytes then column + 1
  else match c with
    | '\x08' => column - 1
    | '\x0d' => 0
    | '\t' => (column / 8 + 1) * 8
    | _ => column + 1

/-- A line broken into lines of a width, at blanks where that is asked for. -/
def foldLine (countsBytes atBlanks : Bool) (width : Nat) : Nat → List Char → Nat → List Char → List Char
  | 0, part, _, cs => part.reverse ++ cs
  | _ + 1, part, _, [] => part.reverse
  | n + 1, part, column, c :: cs =>
    let next := columnAfter countsBytes column c
    if next ≤ width || part.isEmpty then foldLine countsBytes atBlanks width n (c :: part) next cs
    else
      let isBlank (c : Char) : Bool := c = ' ' || c = '\t'
      let kept := if atBlanks then part.dropWhile (!isBlank ·) else []
      if kept.isEmpty then part.reverse ++ '\n' :: foldLine countsBytes atBlanks width n [] 0 (c :: cs)
      else
        let moved := part.take (part.length - kept.length)
        let column := moved.reverse.foldl (columnAfter countsBytes) 0
        kept.reverse ++ '\n' :: foldLine countsBytes atBlanks width n moved column (c :: cs)

/-- Breaks long lines. -/
def fold : Work := fun words =>
  let words := words.map fun word => match word.toList with
    | '-' :: c :: cs => if (c :: cs).all Char.isDigit then String.ofList ('-' :: 'w' :: c :: cs) else word
    | _ => word
  withGiven 1 (forms "bsw:" [('b', "bytes"), ('s', "spaces"), ('w', "width")]) words fun g => do
    let text := (g.argument? 'w').getD "80"
    match text.toNat? with
    | none =>
      warn ("invalid number of columns: " ++ quoted text)
      pure 1
    | some 0 =>
      warn ("invalid number of columns: " ++ quoted text ++ ": Numerical result out of range")
      pure 1
    | some width =>
      forEach (inputsOf g.operands) fun path => do
        match ← readInput path with
        | none => pure 1
        | some text =>
          let folded := (linesOf text).map fun line =>
            let body := (chomp line).toList
            String.ofList (foldLine (g.has 'b') (g.has 's') width (2 * body.length + 2) [] 0 body) ++
              if line.length > body.length then "\n" else ""
          print (String.join folded)

/-- Which lines are numbered. -/
inductive Numbering
  | all
  | filled
  | none
  | matching (pattern : Regex)

def Numbering.ofText? (text : Octets) : Option Numbering :=
  match text.toList with
  | ['a'] => some .all
  | ['t'] => some .filled
  | ['n'] => some .none
  | 'p' :: pattern => (Regex.read .basic pattern).toOption.map .matching
  | _ => Option.none

def Numbering.covers (n : Numbering) (line : Octets) : Bool :=
  match n with
  | all => true
  | filled => !line.isEmpty
  | none => false
  | matching pattern => (Regex.search (Regex.Subject.ofLine pattern false line.toList) pattern 0).isSome

/-- Numbers lines. -/
def nl : Work := fun words =>
  withGiven 1 (forms "b:d:f:h:i:l:n:ps:v:w:" [('b', "body-numbering"), ('i', "line-increment"), ('n', "number-format"),
    ('s', "number-separator"), ('v', "starting-line-number"), ('w', "number-width")]) words fun g => do
      let style := (g.argument? 'b').getD "t"
      let width := ((g.argument? 'w').bind String.toNat?).getD 6
      let step := ((g.argument? 'i').bind String.toInt?).getD 1
      let first := ((g.argument? 'v').bind String.toInt?).getD 1
      let separator := (g.argument? 's').getD "\t"
      let form := (g.argument? 'n').getD "rn"
      match Numbering.ofText? style with
      | none => misuse ("invalid body numbering style: " ++ quoted style) 1
      | some numbering =>
        if form ∉ ["ln", "rn", "rz"] then misuse ("invalid line numbering format: " ++ quoted form) 1
        else
          let (lines, status) ← readLines 1 g.operands
          let numberText (n : Int) : Octets :=
            let text := toString n
            let missing := width - text.length
            if form = "ln" then text ++ String.ofList (List.replicate missing ' ')
            else String.ofList (List.replicate missing (if form = "rz" then '0' else ' ')) ++ text
          let (told, _) := lines.foldl (fun (state : List Octets × Int) line =>
            let (told, n) := state
            if numbering.covers line then ((numberText n ++ separator ++ line ++ "\n") :: told, n + step)
            else ((Text.pad (width + separator.length) "" ++ line ++ "\n") :: told, n)) ([], first)
          pure (max status (← print (String.join told.reverse)))

/-- Where the stops of a line are: at multiples of a number, or at places that are listed. -/
inductive Stops
  | every (n : Nat)
  | listed (places : List Nat)

namespace Stops

def ofText? (text : Octets) : Option Stops :=
  let pieces := Text.splitChars ',' (text.toList.map fun c => if c = ' ' then ',' else c)
  let number? (piece : List Char) : Option Nat :=
    if !piece.isEmpty && piece.all Char.isDigit then some (Text.numberOf 10 piece) else none
  match pieces.mapM number? with
  | some [n] => if n = 0 then none else some (.every n)
  | some places => some (.listed places)
  | none => none

/-- The next stop after a column. -/
def next (s : Stops) (column : Nat) : Nat :=
  match s with
  | every n => (column / n + 1) * n
  | listed places => (places.find? (column < ·)).getD (column + 1)

end Stops

/-- A line with blanks in place of tabs. -/
def expandLine (s : Stops) (isInitial : Bool) : Nat → List Char → List Char
  | _, [] => []
  | column, '\t' :: cs =>
    let stop := s.next column
    List.replicate (stop - column) ' ' ++ expandLine s isInitial stop cs
  | column, c :: cs =>
    if isInitial && c ≠ ' ' then c :: cs
    else c :: expandLine s isInitial (if c = '\x08' then column - 1 else column + 1) cs

/-- A line with tabs in place of blanks that reach up to a stop. -/
def unexpandLine (s : Stops) (isAll : Bool) : Nat → Nat → Nat → List Char → List Char
  | 0, _, pending, cs => List.replicate pending ' ' ++ cs
  | _ + 1, _, pending, [] => List.replicate pending ' '
  | n + 1, column, pending, c :: cs =>
    if c = ' ' then
      let next := column + 1
      if s.next column = next && (pending > 0 || (cs.head?.any fun c => c = ' ' || c = '\t')) then
        '\t' :: unexpandLine s isAll n next 0 cs
      else unexpandLine s isAll n next (pending + 1) cs
    else if c = '\t' then '\t' :: unexpandLine s isAll n (s.next column) 0 cs
    else if isAll then List.replicate pending ' ' ++ c :: unexpandLine s isAll n (column + 1) 0 cs
    else List.replicate pending ' ' ++ c :: cs

/-- Prints the lines of files changed with regard to stops. -/
def withStops (g : Given) (change : Stops → List Char → List Char) : ShellM Nat := do
  let text := (g.argument? 't').getD "8"
  match Stops.ofText? text with
  | none =>
    if text = "0" then warn "tab size cannot be 0" else warn ("tab size contains invalid character(s): " ++ quoted text)
    pure 1
  | some stops =>
    forEach (inputsOf g.operands) fun path => do
      match ← readInput path with
      | none => pure 1
      | some text =>
        let lines := (linesOf text).map fun line =>
          String.ofList (change stops (chomp line).toList) ++ if line.toList.getLast? = some '\n' then "\n" else ""
        print (String.join lines)

def expand : Work := fun words =>
  withGiven 1 (forms "it:" [('i', "initial"), ('t', "tabs")]) words fun g =>
    withStops g fun stops line => expandLine stops (g.has 'i') 0 line

def unexpand : Work := fun words =>
  withGiven 1 (forms "at:" [('a', "all"), ('t', "tabs"), ('φ', "first-only")]) words fun g =>
    let isAll := (g.has 'a' || g.has 't') && !g.has 'φ'
    withStops g fun stops line => unexpandLine stops isAll (line.length + 1) 0 0 line

end ReleaseMatrix.Shell.Utility
