import ReleaseMatrix.Shell.Value
import ReleaseMatrix.Workspace

namespace ReleaseMatrix.Shell

/-- A character of an expanded word. A quoted one stands for itself in patterns. -/
structure Glyph where
  char : Char
  isQuoted : Bool
deriving DecidableEq, Repr

def textOf (gs : List Glyph) : String :=
  String.ofList (gs.map Glyph.char)

/-- What a set of characters in a pattern holds. -/
inductive SetItem
  | range (low high : Char)
  | kind (name : String)
deriving DecidableEq, Repr

/-- Whether a character is of a kind that has a name in patterns. -/
def isOfKind (name : String) (c : Char) : Bool :=
  let isBlank := c = ' ' || c = '\t'
  let isSpace := isBlank || (9 ≤ c.toNat && c.toNat ≤ 13)
  let isVisible := 0x20 < c.toNat && c.toNat < 0x7F
  match name with
  | "alnum" => c.isAlphanum
  | "alpha" => c.isAlpha
  | "blank" => isBlank
  | "cntrl" => c.toNat < 0x20 || c.toNat = 0x7F
  | "digit" => c.isDigit
  | "graph" => isVisible
  | "lower" => c.isLower
  | "print" => isVisible || c = ' '
  | "punct" => isVisible && !c.isAlphanum
  | "space" => isSpace
  | "upper" => c.isUpper
  | "xdigit" => c.isDigit || ('a' ≤ c && c ≤ 'f') || ('A' ≤ c && c ≤ 'F')
  | _ => false

def SetItem.contains (c : Char) : SetItem → Bool
  | range low high => low ≤ c && c ≤ high
  | kind name => isOfKind name c

/-- What one step of a pattern matches. -/
inductive PatternStep
  | char (c : Char)
  | anyChar
  | anyText
  | charIn (isNegated : Bool) (items : List SetItem)
  /-- Some of several patterns, as often as the sign before them says. -/
  | group (sign : Char) (choices : List (List PatternStep))

/-- Which signs patterns have. -/
structure PatternStyle where
  /-- Whether a caret negates a set as an exclamation mark does. -/
  hasCaret : Bool
  hasGroups : Bool
deriving DecidableEq, Repr

def PatternStyle.plain : PatternStyle := ⟨false, false⟩

namespace PatternStep

/-- The kind of characters that starts after an opening bracket, and the glyphs after its end. -/
def readKind? (gs : List Glyph) : Option (String × List Glyph) :=
  match gs with
  | ⟨':', false⟩ :: rest =>
    let name := rest.takeWhile (·.char.isAlpha)
    match rest.drop name.length with
    | ⟨':', false⟩ :: ⟨']', false⟩ :: rest => some (textOf name, rest)
    | _ => none
  | _ => none

/-- Reads at most `n` items of a set up to its closing bracket, which may be the first item. -/
def readItems : Nat → Bool → List Glyph → Option (List SetItem × List Glyph)
  | 0, _, _ => none
  | _ + 1, _, [] => none
  | n + 1, isFirst, g :: rest =>
    if g = ⟨']', false⟩ && !isFirst then some ([], rest)
    else match if g = ⟨'[', false⟩ then readKind? rest else none with
      | some (name, rest) => do
        let (items, rest) ← readItems n false rest
        some (.kind name :: items, rest)
      | none =>
        let (low, rest) := match g, rest with
          | ⟨'\\', false⟩, next :: rest => (next.char, rest)
          | g, rest => (g.char, rest)
        match rest with
        | ⟨'-', false⟩ :: high :: more =>
          if high = ⟨']', false⟩ then do
            let (items, rest) ← readItems n false rest
            some (.range low low :: items, rest)
          else do
            let (high, more) := match high, more with
              | ⟨'\\', false⟩, next :: more => (next, more)
              | high, more => (high, more)
            let (items, rest) ← readItems n false more
            some (.range low high.char :: items, rest)
        | rest => do
          let (items, rest) ← readItems n false rest
          some (.range low low :: items, rest)

/-- The set that starts after an opening bracket, and the glyphs after its end. -/
def readSet (style : PatternStyle) (gs : List Glyph) : Option (PatternStep × List Glyph) :=
  let (isNegated, gs) := match gs with
    | ⟨'!', false⟩ :: rest => (true, rest)
    | ⟨'^', false⟩ :: rest => if style.hasCaret then (true, rest) else (false, gs)
    | gs => (false, gs)
  (readItems (gs.length + 1) true gs).map fun (items, rest) => (.charIn isNegated items, rest)

/-- The patterns of a group after its opening parenthesis, and the glyphs after its end. -/
def splitGroup : Nat → List Glyph → Option (List (List Glyph) × List Glyph)
  | _, [] => none
  | depth, g :: rest =>
    let go (depth : Nat) : Option (List (List Glyph) × List Glyph) := do
      match ← splitGroup depth rest with
      | (first :: more, after) => some ((g :: first) :: more, after)
      | ([], after) => some ([[g]], after)
    if g.isQuoted then go depth
    else if g.char = '(' then go (depth + 1)
    else if g.char = ')' then if depth = 0 then some ([[]], rest) else go (depth - 1)
    else if g.char = '|' && depth = 0 then do
      let (others, after) ← splitGroup depth rest
      some ([] :: others, after)
    else go depth

/-- The steps of a pattern of at most `n` glyphs. -/
def ofGlyphs (style : PatternStyle) : Nat → List Glyph → List PatternStep
  | 0, _ => []
  | _ + 1, [] => []
  | n + 1, g :: rest =>
    let group? := match g, rest with
      | ⟨c, false⟩, ⟨'(', false⟩ :: inner =>
        if style.hasGroups && c ∈ ['?', '*', '+', '@', '!'] then splitGroup 0 inner else none
      | _, _ => none
    match group? with
    | some (choices, rest) => .group g.char (choices.map (ofGlyphs style n)) :: ofGlyphs style n rest
    | none =>
      if g.isQuoted then .char g.char :: ofGlyphs style n rest
      else if g.char = '*' then .anyText :: ofGlyphs style n rest
      else if g.char = '?' then .anyChar :: ofGlyphs style n rest
      else if g.char = '[' then
        match readSet style rest with
        | some (step, rest) => step :: ofGlyphs style n rest
        | none => .char '[' :: ofGlyphs style n rest
      else if g.char = '\\' then
        match rest with
        | next :: rest => .char next.char :: ofGlyphs style n rest
        | [] => [.char '\\']
      else .char g.char :: ofGlyphs style n rest

def matchesChar (c : Char) : PatternStep → Bool
  | char d => c = d
  | anyChar => true
  | anyText | group .. => false
  | charIn isNegated items => isNegated != items.any (·.contains c)

def isGroup : PatternStep → Bool
  | group .. => true
  | _ => false

end PatternStep

/-- The ends of a text, the whole text first. -/
def suffixes : List Char → List (List Char)
  | [] => [[]]
  | c :: cs => (c :: cs) :: suffixes cs

/-- Whether steps without groups match the whole text. -/
def matchesPlain : List PatternStep → List Char → Bool
  | [], cs => cs.isEmpty
  | .anyText :: steps, cs => (suffixes cs).any (matchesPlain steps)
  | _ :: _, [] => false
  | step :: steps, c :: cs => step.matchesChar c && matchesPlain steps cs

/-- How much of a text may be left after the steps match the start of it. -/
def lengthsLeft : Nat → List PatternStep → List Char → List Nat
  | 0, _, _ => []
  | _ + 1, [], cs => [cs.length]
  | n + 1, step :: steps, cs =>
    let leaving (k : Nat) : List Char := cs.drop (cs.length - k)
    let once (choices : List (List PatternStep)) (k : Nat) : List Nat :=
      (choices.flatMap fun choice => lengthsLeft n choice (leaving k)).eraseDups
    let further (choices : List (List PatternStep)) (ks : List Nat) : List Nat :=
      (List.range cs.length).foldl (fun found _ => (found ++ found.flatMap (once choices)).eraseDups) ks
    match step, cs with
    | .anyText, cs => ((suffixes cs).flatMap (lengthsLeft n steps)).eraseDups
    | .group sign choices, cs =>
      let found := once choices cs.length
      let ends := match sign with
        | '@' => found
        | '?' => (cs.length :: found).eraseDups
        | '*' => further choices [cs.length]
        | '+' => further choices found
        | _ => (List.range (cs.length + 1)).filter (!found.contains ·)
      (ends.flatMap fun k => lengthsLeft n steps (leaving k)).eraseDups
    | _, [] => []
    | step, c :: cs => if step.matchesChar c then lengthsLeft n steps cs else []

/-- How many steps a pattern has, those in groups included. -/
def stepCount : Nat → List PatternStep → Nat
  | 0, _ => 0
  | n + 1, steps => (steps.map fun
    | .group _ choices => 1 + (choices.map (stepCount n)).sum
    | _ => 1).sum

/-- Whether the steps match the whole text. -/
def matchesAll (steps : List PatternStep) (cs : List Char) : Bool :=
  if steps.any PatternStep.isGroup then (lengthsLeft (stepCount 64 steps + 64) steps cs).contains 0
  else matchesPlain steps cs

def patternWith (style : PatternStyle) (gs : List Glyph) : List PatternStep :=
  PatternStep.ofGlyphs style gs.length gs

def patternOf (gs : List Glyph) : List PatternStep :=
  patternWith .plain gs

/-- The text without what the pattern matches at one of its ends. -/
def stripMatch (fromEnd longest : Bool) (pattern : List PatternStep) (cs : List Char) : List Char :=
  let counts := List.range (cs.length + 1)
  let counts := if longest then counts.reverse else counts
  let matched (k : Nat) : Bool :=
    matchesAll pattern (if fromEnd then cs.drop (cs.length - k) else cs.take k)
  match counts.find? matched with
  | some k => if fromEnd then cs.take (cs.length - k) else cs.drop k
  | none => cs

/-- Whether the text is a pattern for paths: it has a sign, a set that is closed, or a group. What follows a
backslash is no sign. -/
def isWild (hasGroups : Bool) : List Glyph → Bool
  | [] => false
  | ⟨'\\', false⟩ :: _ :: gs => isWild hasGroups gs
  | g :: gs =>
    let isGroup : Bool := hasGroups && g.char ∈ ['+', '@', '!'] && gs.head? = some ⟨'(', false⟩
    !g.isQuoted && (g.char ∈ ['*', '?'] || isGroup || (g.char = '[' && closesSet gs)) || isWild hasGroups gs
where
  /-- Whether a bracket closes the set that starts here, be it not at once. -/
  closesSet (gs : List Glyph) : Bool :=
    let gs := if gs.head? = some ⟨'!', false⟩ then gs.tail else gs
    closes gs.tail
  closes : List Glyph → Bool
    | [] => false
    | ⟨'\\', false⟩ :: _ :: gs => closes gs
    | g :: gs => g.char ≠ '/' && (g = ⟨']', false⟩ || closes gs)

namespace PathPattern

/-- The pieces of a pattern between its slashes. -/
def segments : List Glyph → List (List Glyph)
  | [] => [[]]
  | g :: gs =>
    if g.char = '/' then [] :: segments gs
    else match segments gs with
      | segment :: more => (g :: segment) :: more
      | [] => [[g]]

/-- The text of a segment that is no pattern: a backslash makes way for the character after it. -/
def plainText : List Glyph → List Char
  | [] => []
  | ⟨'\\', false⟩ :: g :: gs => g.char :: plainText gs
  | g :: gs => g.char :: plainText gs

/-- How paths are found. -/
structure PathRules where
  style : PatternStyle
  /-- Whether patterns find names that start with a dot. -/
  findsHidden : Bool
  /-- Whether a directory and the one above it are among the names in a directory. -/
  findsDots : Bool
  /-- Whether two stars stand for any number of directories. -/
  goesDeep : Bool
  /-- Whether the case of letters does not matter. -/
  foldsCase : Bool
deriving DecidableEq, Repr

def PathRules.plain : PathRules := ⟨.plain, false, true, false, false⟩

/-- Whether a segment finds names that start with a dot. -/
def findsHidden (segment : List Glyph) : Bool :=
  (plainText segment).head? = some '.'

/-- Whether something is at a path, be it a link that leads nowhere. -/
def isThere (w : Workspace) (path : Octets) : Bool :=
  match w.locate (Octets.toPath path) .entry with
  | .ok l => (w.files.get? l).isSome
  | .error _ => false

/-- The names in a directory. -/
def namesIn (rules : PathRules) (w : Workspace) (directory : Octets) : List Octets :=
  match w.list (Octets.toPath (if directory.isEmpty then "." else directory)) with
  | .ok names => (if rules.findsDots then [".", ".."] else []) ++ names.map Octets.ofText
  | .error _ => []

def matchesName (rules : PathRules) (segment : List Glyph) (name : Octets) : Bool :=
  let fold (c : Char) : Char := if rules.foldsCase then c.toLower else c
  let segment := segment.map fun g => { g with char := fold g.char }
  (rules.findsHidden || findsHidden segment || name.toList.head? ≠ some '.') &&
    matchesAll (patternWith rules.style segment) (name.toList.map fold)

/-- Paths of what is in a directory at any depth, after a path that leads to it: only of directories, each with a
slash at its end, or of everything. -/
def pathsBelow (rules : PathRules) (w : Workspace) (onlyDirectories : Bool) : Nat → Octets → List Octets
  | 0, _ => []
  | n + 1, found =>
    let names := (namesIn { rules with findsDots := false } w found).filter fun name =>
      rules.findsHidden || name.toList.head? ≠ some '.'
    names.flatMap fun name =>
      let path := found ++ name
      let isLink := match w.locate (Octets.toPath path) .entry with
        | .ok l => ((w.files.get? l) matches some (.link _) : Bool)
        | .error _ => false
      let isDirectory := !isLink && w.isDirectory (Octets.toPath path)
      let below := if isDirectory then pathsBelow rules w onlyDirectories n (path ++ "/") else []
      if onlyDirectories then if isDirectory then (path ++ "/") :: below else [] else path :: below

/-- How deep directories are searched. -/
def depthLimit : Nat := 64

/-- The paths that start with what is found so far and go on as the segments say. -/
def pathsFrom (rules : PathRules) (w : Workspace) : Octets → List (List Glyph) → List Octets
  | found, [] => if isThere w found then [found] else []
  | found, segment :: more =>
    let ending := if more.isEmpty then "" else "/"
    if rules.goesDeep && segment = [⟨'*', false⟩, ⟨'*', false⟩] then
      if more.isEmpty then
        let itself := if found.isEmpty then [] else [found]
        itself ++ pathsBelow rules w false depthLimit found
      else (found :: pathsBelow rules w true depthLimit found).flatMap fun path => pathsFrom rules w path more
    else if isWild rules.style.hasGroups segment then
      ((namesIn rules w found).filter (matchesName rules segment)).flatMap fun name =>
        pathsFrom rules w (found ++ name ++ ending) more
    else pathsFrom rules w (found ++ String.ofList (plainText segment) ++ ending) more

/-- The paths that a pattern finds. -/
def paths (rules : PathRules) (w : Workspace) (gs : List Glyph) : List Octets :=
  (pathsFrom rules w "" (segments gs)).mergeSort fun a b => a ≤ b

end PathPattern

/-- The paths that a field stands for: itself, unless it is a pattern that some match. -/
def matchingPaths (w : Workspace) (gs : List Glyph) : List Octets :=
  if isWild false gs then
    match PathPattern.paths .plain w gs with
    | [] => [textOf gs]
    | paths => paths
  else [textOf gs]

end ReleaseMatrix.Shell
