import ReleaseMatrix.Shell.Pattern

namespace ReleaseMatrix.Shell

/-- What the expansion of a word gives, piece by piece. -/
inductive Piece
  /-- A character. It may be a place where the word is split if it comes from an expansion. -/
  | glyph (glyph : Glyph) (splits : Bool)
  /-- Something empty that still makes a field. -/
  | mark
  /-- The result of an expansion starts here. The arguments of a script are only split from each other. -/
  | start (isArguments : Bool)
  /-- One of the arguments of a script ends and the next one starts. -/
  | boundary
deriving DecidableEq, Repr

namespace Piece

/-- The pieces of a text from the script itself. -/
def ofText (chars : List Char) (isQuoted splits : Bool) : List Piece :=
  (if splits then [start false] else []) ++ chars.map fun c => glyph ⟨c, isQuoted⟩ splits

/-- The pieces of the result of an expansion. -/
def ofValue (text : String) (isQuoted : Bool) : List Piece :=
  if isQuoted then text.toList.map fun c => glyph ⟨c, true⟩ false
  else start false :: text.toList.map fun c => glyph ⟨c, false⟩ true

/-- The glyphs of a word that is not split. -/
def glyphs (pieces : List Piece) : List Glyph :=
  pieces.filterMap fun
    | glyph g _ => some g
    | _ => none

end Piece

/-- The separators that are used where nothing else is said. -/
def standardSeparators : String := " \t\n"

/-- Whether a separator is a blank, of which several count as one. -/
def isBlankSeparator (c : Char) : Bool :=
  c ∈ [' ', '\t', '\n', '\x00']

/-- What may still belong to the place where a field ended. -/
inductive Skipping
  | nothing
  | blanks
  /-- Blanks, and one separator that is none. -/
  | blanksAndSign
deriving DecidableEq, Repr

/-- How far a word is split. -/
structure Splitter where
  /-- The fields that are complete, last one first. -/
  fields : List (List Glyph)
  /-- The field in progress, last glyph first. -/
  current : List Glyph
  hasMark : Bool
  skipping : Skipping
  /-- Whether the pieces are those of arguments. -/
  inArguments : Bool
  /-- Whether the pieces follow those of arguments. -/
  afterArguments : Bool

namespace Splitter

def isAtStart (s : Splitter) : Bool :=
  s.current.isEmpty && !s.hasMark

/-- The splitter after the field in progress ended. -/
def close (s : Splitter) (skipping : Skipping) : Splitter :=
  { s with fields := s.current.reverse :: s.fields, current := [], hasMark := false, skipping }

def add (s : Splitter) (g : Glyph) : Splitter :=
  { s with current := g :: s.current, skipping := .nothing }

/-- The splitter after one more piece. NUL separates arguments even where nothing else does. -/
def step (separators : String) (s : Splitter) (piece : Piece) : Splitter :=
  match piece with
  | .start isArguments =>
    { s with skipping := .nothing, inArguments := isArguments, afterArguments := s.inArguments }
  | .boundary => s.close .nothing
  | .mark => { s with hasMark := true, skipping := .nothing }
  | .glyph g false => s.add g
  | .glyph g true =>
    if !(g.char = '\x00' || separators.contains g.char) then s.add g
    else
      let isBlank := isBlankSeparator g.char
      match s.skipping, isBlank with
      | .blanks, true | .blanksAndSign, true => s
      | .blanksAndSign, false => { s with skipping := .blanks }
      | _, _ =>
        let isBlank := isBlank && !s.afterArguments
        if s.isAtStart && isBlank then s
        else s.close (if isBlank then .blanksAndSign else .blanks)

/-- The fields of a word. -/
def finish (s : Splitter) : List (List Glyph) :=
  (if s.isAtStart && !s.inArguments then s else s.close .nothing).fields.reverse

end Splitter

/-- The fields into which a word is split at the separators. -/
def splitPieces (separators : String) (pieces : List Piece) : List (List Glyph) :=
  (pieces.foldl (Splitter.step separators) ⟨[], [], false, .nothing, false, false⟩).finish

/-- How far the last of several fields is read that takes all that is left. -/
structure LastField where
  /-- What is read, last character first. -/
  chars : List Char
  /-- The length of the field if what follows it is dropped. -/
  cut? : Option Nat
  mayHaveSign : Bool

/-- Reads one more character of the last field. -/
def LastField.step (separators : String) (f : LastField) (g : Glyph) : LastField :=
  let isSeparator := !g.isQuoted && separators.contains g.char
  let chars := g.char :: f.chars
  if isSeparator && isBlankSeparator g.char then
    { f with chars, cut? := some (f.cut?.getD f.chars.length) }
  else ⟨chars, if isSeparator && f.mayHaveSign then f.cut? else none, false⟩

/-- The last field of a line: all that is left, but for separators that only end it. -/
def lastField (separators : String) (gs : List Glyph) : String :=
  let isSeparator (g : Glyph) : Bool := !g.isQuoted && separators.contains g.char
  let gs := gs.dropWhile fun g => isSeparator g && isBlankSeparator g.char
  let first := gs.takeWhile (!isSeparator ·)
  let start : LastField := ⟨(first.map Glyph.char).reverse, none, false⟩
  let f := match gs.drop first.length with
    | [] => start
    | g :: rest =>
      let opened : LastField :=
        ⟨g.char :: start.chars, some first.length, isBlankSeparator g.char⟩
      rest.foldl (LastField.step separators) opened
  String.ofList (f.chars.reverse.take (f.cut?.getD f.chars.length))

/-- The next field of a line, and what follows it with its separators. -/
def nextField (separators : String) (gs : List Glyph) : String × List Glyph :=
  let isSeparator (g : Glyph) : Bool := !g.isQuoted && separators.contains g.char
  let isBlank (g : Glyph) : Bool := isSeparator g && isBlankSeparator g.char
  let gs := gs.dropWhile isBlank
  let field := gs.takeWhile (!isSeparator ·)
  match gs.drop field.length with
  | [] => (textOf field, [])
  | g :: rest =>
    let rest := rest.dropWhile isBlank
    let rest := match isBlank g, rest with
      | true, next :: more => if isSeparator next then more.dropWhile isBlank else rest
      | _, rest => rest
    (textOf field, rest)

/-- The values that the variables of a reader get from a line. -/
def splitLine (separators : String) : Nat → List Glyph → List String
  | 0, _ => []
  | 1, gs => [lastField separators gs]
  | n + 1, gs =>
    let (field, rest) := nextField separators gs
    field :: splitLine separators n rest

end ReleaseMatrix.Shell
