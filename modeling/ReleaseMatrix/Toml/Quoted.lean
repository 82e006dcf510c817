import ReleaseMatrix.Text

namespace ReleaseMatrix.Toml

open Text (Found)

/-- Whether a character may stand in a comment. -/
def isCommentChar (c : Char) : Bool :=
  c == '\t' || (0x20 ≤ c.toNat && c.toNat != 0x7F)

/-- Takes a line break off the front. -/
def dropBreak? : List Char → Option (List Char)
  | '\n' :: rest => some rest
  | '\r' :: '\n' :: rest => some rest
  | _ => none

def isSpace (c : Char) : Bool :=
  c == ' ' || c == '\t'

def dropSpaces (cs : List Char) : List Char :=
  cs.dropWhile isSpace

/-- Drops spaces and line breaks, the latter in either form. -/
def dropBlank : List Char → List Char
  | '\r' :: '\n' :: rest => dropBlank rest
  | c :: rest => if isSpace c || c == '\n' then dropBlank rest else c :: rest
  | [] => []

/-- The characters after a backslash at the end of a line: it hides the line break and all blanks that
follow. -/
def dropHidden? (cs : List Char) : Option (List Char) :=
  (dropBreak? (dropSpaces cs)).map dropBlank

/-- Reads a code point of `width` hexadecimal digits. -/
def readCodePoint (width : Nat) (cs : List Char) : Option (Found Char) := do
  let (n, rest) ← Text.readDigits 16 width cs
  if n.isValidChar then some (Char.ofNat n, rest) else none

/-- Reads an escape after its backslash. -/
def readEscape : List Char → Option (Found Char)
  | 'b' :: rest => some ('\x08', rest)
  | 't' :: rest => some ('\t', rest)
  | 'n' :: rest => some ('\n', rest)
  | 'f' :: rest => some ('\x0c', rest)
  | 'r' :: rest => some ('\r', rest)
  | '"' :: rest => some ('"', rest)
  | '\\' :: rest => some ('\\', rest)
  | 'u' :: rest => readCodePoint 4 rest
  | 'U' :: rest => readCodePoint 8 rest
  | _ => none

/-- Reads the rest of a string between double quotes, in at most `n` steps. -/
def readBasic : Nat → List Char → Option (Found (List Char))
  | 0, _ => none
  | _ + 1, [] => none
  | n + 1, c :: rest =>
    if c = '"' then some ([], rest)
    else if c = '\\' then do
      let (c, rest) ← readEscape rest
      let (text, rest) ← readBasic n rest
      pure (c :: text, rest)
    else if isCommentChar c then do
      let (text, rest) ← readBasic n rest
      pure (c :: text, rest)
    else none

/-- Reads the rest of a string between single quotes. -/
def readLiteral : List Char → Option (Found (List Char))
  | [] => none
  | c :: rest =>
    if c = '\'' then some ([], rest)
    else if isCommentChar c then (readLiteral rest).map fun (text, rest) => (c :: text, rest)
    else none

/-- How quotes in a row go on in a string of several lines: fewer than three belong to the text; three end
it, and up to two before those belong to the text. -/
def readQuotes (quote : Char) (cs : List Char) : Option (Found (List Char × Bool)) :=
  let count := (cs.takeWhile (· == quote)).length
  let rest := cs.drop count
  if count < 3 then some ((List.replicate count quote, false), rest)
  else if count ≤ 5 then some ((List.replicate (count - 3) quote, true), rest)
  else none

/-- Reads the rest of a string of several lines, in at most `n` steps. -/
def readLines (quote : Char) : Nat → List Char → Option (Found (List Char))
  | 0, _ => none
  | _ + 1, [] => none
  | n + 1, c :: rest =>
    if c = quote then do
      let ((quotes, ends), rest) ← readQuotes quote (c :: rest)
      if ends then pure (quotes, rest)
      else
        let (text, rest) ← readLines quote n rest
        pure (quotes ++ text, rest)
    else if c = '\\' ∧ quote = '"' then
      match dropHidden? rest with
      | some rest => readLines quote n rest
      | none => do
        let (c, rest) ← readEscape rest
        let (text, rest) ← readLines quote n rest
        pure (c :: text, rest)
    else match dropBreak? (c :: rest) with
      | some rest => do
        let (text, rest) ← readLines quote n rest
        pure ('\n' :: text, rest)
      | none =>
        if isCommentChar c then do
          let (text, rest) ← readLines quote n rest
          pure (c :: text, rest)
        else none

/-- Reads a string of one line. -/
def readShort : List Char → Option (Found (List Char))
  | '"' :: rest => readBasic (rest.length + 1) rest
  | '\'' :: rest => readLiteral rest
  | _ => none

/-- Reads a string of several lines after its opening quotes. A line break right after them is no part of
the text. -/
def readLong (quote : Char) (rest : List Char) : Option (Found (List Char)) :=
  readLines quote (rest.length + 1) ((dropBreak? rest).getD rest)

/-- Reads a string in any of its four forms. -/
def readString : List Char → Option (Found (List Char))
  | '"' :: '"' :: '"' :: rest => readLong '"' rest
  | '\'' :: '\'' :: '\'' :: rest => readLong '\'' rest
  | cs => readShort cs

end ReleaseMatrix.Toml
