import ReleaseMatrix.Toml.Number
import ReleaseMatrix.Toml.Quoted
import ReleaseMatrix.Toml.Table

namespace ReleaseMatrix.Toml

open Text (Found)

def isBareChar (c : Char) : Bool :=
  c.isAlphanum || c == '_' || c == '-'

/-- Reads one part of a dotted key. -/
def readKeyPart (cs : List Char) : Option (Found String) := do
  match readShort cs with
  | some (text, rest) => pure (String.ofList text, rest)
  | none =>
    let text := cs.takeWhile isBareChar
    if text.isEmpty then none else pure (String.ofList text, cs.dropWhile isBareChar)

/-- Reads at most `n` parts with dots between them, and the spaces around each. -/
def readKeyParts : Nat → List Char → Option (Found (List String))
  | 0, _ => none
  | n + 1, cs => do
    let (part, rest) ← readKeyPart (dropSpaces cs)
    match dropSpaces rest with
    | '.' :: rest =>
      let (parts, rest) ← readKeyParts n rest
      pure (part :: parts, rest)
    | rest => pure ([part], rest)

/-- How many parts a key has, and how many brackets stand within one another, is limited to this. -/
def depthLimit : Nat := 79

/-- Reads a key: the path that its dots give, and its last part. -/
def readKey (cs : List Char) : Option (Found (List String × String)) := do
  let (parts, rest) ← readKeyParts depthLimit cs
  pure ((parts.dropLast, ← parts.getLast?), rest)

/-- Drops a comment up to the line break after it. -/
def dropComment : List Char → List Char
  | '#' :: rest => rest.dropWhile isCommentChar
  | cs => cs

/-- Drops blanks and whole comments, in at most `n` steps. A comment without a line break after it stays. -/
def dropIdleWithin : Nat → List Char → Option (List Char)
  | 0, _ => none
  | n + 1, cs =>
    match dropSpaces cs with
    | '#' :: rest => (dropBreak? (dropComment ('#' :: rest))).bind (dropIdleWithin n)
    | cs => match dropBreak? cs with
      | some rest => dropIdleWithin n rest
      | none => some cs

def dropIdle (cs : List Char) : Option (List Char) :=
  dropIdleWithin (cs.length + 1) cs

/-- Reads the items of an array and its closing bracket. A comma may follow the last item. -/
def readItems (item : List Char → Option (Found Toml)) : Nat → List Char → Option (Found (List Toml))
  | 0, _ => none
  | n + 1, cs => do
    match ← dropIdle cs with
    | ']' :: rest => pure ([], rest)
    | cs =>
      let (v, rest) ← item cs
      match ← dropIdle rest with
      | ']' :: rest => pure ([v], rest)
      | ',' :: rest =>
        let (items, rest) ← readItems item n rest
        pure (v :: items, rest)
      | _ => none

/-- Reads a key, an equals sign and a value. -/
def readPair (item : List Char → Option (Found Toml)) (cs : List Char) : Option (Found Pair) := do
  let ((path, key), rest) ← readKey cs
  let (v, rest) ← item (dropSpaces (← readMark '=' rest))
  pure ((path, key, v), rest)

/-- Reads pairs and the brace that closes them. -/
def readPairs (item : List Char → Option (Found Toml)) : Nat → List Char → Option (Found (List Pair))
  | 0, _ => none
  | n + 1, cs => do
    let (pair, rest) ← readPair item cs
    match dropSpaces rest with
    | '\x7d' :: rest => pure ([pair], rest)
    | ',' :: rest =>
      let (pairs, rest) ← readPairs item n rest
      pure (pair :: pairs, rest)
    | _ => none

/-- Reads a table in braces after its opening brace. -/
def readTable (item : List Char → Option (Found Toml)) (cs : List Char) : Option (Found Toml) := do
  match dropSpaces cs with
  | '\x7d' :: rest => pure (.table .closed [], rest)
  | cs =>
    let (pairs, rest) ← readPairs item (cs.length + 1) cs
    pure (.table .closed (← membersOfPairs pairs), rest)

/-- Reads a value that holds no other one. -/
def readScalar (cs : List Char) : Option (Found Toml) :=
  match cs with
  | '"' :: _ | '\'' :: _ => (readString cs).map fun (text, rest) => (.string (String.ofList text), rest)
  | 't' :: 'r' :: 'u' :: 'e' :: rest => some (.boolean true, rest)
  | 'f' :: 'a' :: 'l' :: 's' :: 'e' :: rest => some (.boolean false, rest)
  | _ => readMoment cs <|> readDecimal cs <|> readSpecial cs <|> readInteger cs

/-- Reads a value with at most `n` brackets within one another. -/
def readValue : Nat → List Char → Option (Found Toml)
  | 0, cs => readScalar cs
  | n + 1, cs => match cs with
    | '[' :: rest => (readItems (readValue n) (rest.length + 1) rest).map fun (items, rest) =>
      (.array items, rest)
    | '\x7b' :: rest => readTable (readValue n) rest
    | cs => readScalar cs

/-- What follows the rest of a line that holds nothing but a comment. -/
def afterLine (cs : List Char) : Option (List Char) :=
  match dropComment (dropSpaces cs) with
  | [] => some []
  | cs => dropBreak? cs

/-- Reads a header or a pair, with the rest of its line. -/
def readStatement (cs : List Char) : Option (Found Statement) :=
  match cs with
  | '[' :: '[' :: rest => do
    let ((path, key), rest) ← readKey rest
    pure (.itemHeader path key, ← afterLine (← readMark ']' (← readMark ']' rest)))
  | '[' :: rest => do
    let ((path, key), rest) ← readKey rest
    pure (.header path key, ← afterLine (← readMark ']' rest))
  | cs => do
    let ((path, key, v), rest) ← readPair (readValue depthLimit) cs
    pure (.pair path key v, ← afterLine rest)

/-- Reads the statements of a document of fewer than `n` lines. -/
def readStatements : Nat → List Char → Option (List Statement)
  | 0, _ => none
  | n + 1, cs =>
    match dropSpaces cs with
    | [] => some []
    | '#' :: rest => do readStatements n (← afterLine ('#' :: rest))
    | cs => match dropBreak? cs with
      | some rest => readStatements n rest
      | none => do
        let (statement, rest) ← readStatement cs
        pure (statement :: (← readStatements n rest))

/-- The members of the document that a text stands for, if it is a TOML document. A byte order mark may
come first. -/
def parse? (s : String) : Option Members := do
  let cs := match s.toList with
    | '\uFEFF' :: rest => rest
    | cs => cs
  runStatements [] [] (← readStatements (cs.length + 1) cs)

end ReleaseMatrix.Toml
