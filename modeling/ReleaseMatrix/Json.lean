import ReleaseMatrix.Text

namespace ReleaseMatrix

/-- A JSON value. Numbers are kept as written. A string has no text when its escapes leave half of a
surrogate pair alone. -/
inductive Json
  | null
  | bool (value : Bool)
  | number (digits : String)
  | string (text? : Option String)
  | array (items : List Json)
  | object (members : List (Option String × Json))

namespace Json

/-- The string with this text. -/
def text (s : String) : Json :=
  .string (some s)

/-- The object with these members, in this order. -/
def ofMembers (members : List (String × Json)) : Json :=
  .object (members.map fun (key, value) => (some key, value))

def hexDigits (width n : Nat) : List Char :=
  (List.range width).reverse.map fun i => Nat.digitChar (n / Nat.pow 16 i % 16)

/-- Quotes, backslashes and control characters are escaped, the latter by a letter where there is one. -/
def escapeChar (c : Char) : List Char :=
  if c = '"' then ['\\', '"']
  else if c = '\\' then ['\\', '\\']
  else if c = '\n' then ['\\', 'n']
  else if c = '\r' then ['\\', 'r']
  else if c = '\t' then ['\\', 't']
  else if c = '\x08' then ['\\', 'b']
  else if c = '\x0c' then ['\\', 'f']
  else if c.toNat < 0x20 then '\\' :: 'u' :: hexDigits 4 c.toNat
  else [c]

/-- A string with no text is written as one half of a surrogate pair. -/
def quoted : Option String → List Char
  | some s => '"' :: s.toList.flatMap escapeChar ++ ['"']
  | none => "\"\\ud800\"".toList

/-- Where line breaks go: nowhere, or before each item, indented by two spaces per level. -/
inductive Style
  | compact
  | indented (level : Nat)

namespace Style

def deeper : Style → Style
  | compact => compact
  | indented level => indented (level + 1)

def lineBreak : Style → List Char
  | compact => []
  | indented level => '\n' :: List.replicate (2 * level) ' '

def colon : Style → List Char
  | compact => [':']
  | indented _ => [':', ' ']

end Style

mutual

def chars (style : Style) : Json → List Char
  | null => "null".toList
  | bool true => "true".toList
  | bool false => "false".toList
  | number digits => digits.toList
  | string text? => quoted text?
  | array [] => ['[', ']']
  | array (item :: items) =>
    '[' :: style.deeper.lineBreak ++ chars style.deeper item ++ itemChars style.deeper items
      ++ style.lineBreak ++ [']']
  | object [] => ['\x7b', '\x7d']
  | object ((key, value) :: members) =>
    '\x7b' :: style.deeper.lineBreak ++ quoted key ++ style.colon ++ chars style.deeper value
      ++ memberChars style.deeper members ++ style.lineBreak ++ ['\x7d']

/-- The items after the first one. -/
def itemChars (style : Style) : List Json → List Char
  | [] => []
  | item :: items => ',' :: style.lineBreak ++ chars style item ++ itemChars style items

/-- The members after the first one. -/
def memberChars (style : Style) : List (Option String × Json) → List Char
  | [] => []
  | (key, value) :: members =>
    ',' :: style.lineBreak ++ quoted key ++ style.colon ++ chars style value ++ memberChars style members

end

/-- The value on one line without blanks. -/
def compact (v : Json) : String :=
  String.ofList (chars .compact v)

/-- The value on lines of its own for each item, indented by two spaces per level. -/
def pretty (v : Json) : String :=
  String.ofList (chars (.indented 0) v)

open Text (Found)

def isSpace (c : Char) : Bool :=
  c == ' ' || c == '\n' || c == '\t' || c == '\r'

def skipSpace (cs : List Char) : List Char :=
  cs.dropWhile isSpace

def letterEscape? (c : Char) : Option Nat :=
  match c with
  | '"' => some 0x22
  | '\\' => some 0x5C
  | '/' => some 0x2F
  | 'b' => some 0x08
  | 'f' => some 0x0C
  | 'n' => some 0x0A
  | 'r' => some 0x0D
  | 't' => some 0x09
  | _ => none

/-- A piece of a string: a code point, or a unit that an escape gave. -/
inductive Piece
  | char (c : Char)
  | unit (n : Nat)

/-- Reads the rest of a string up to its closing quote, with the pieces so far in reverse. -/
def readPieces (pieces : List Piece) : List Char → Option (Found (List Piece))
  | [] => none
  | '"' :: rest => some (pieces.reverse, rest)
  | '\\' :: 'u' :: a :: b :: c :: d :: rest => do
    let (u, _) ← Text.readDigits 16 4 [a, b, c, d]
    readPieces (.unit u :: pieces) rest
  | '\\' :: c :: rest => do readPieces (.unit (← letterEscape? c) :: pieces) rest
  | c :: rest => if c.toNat < 0x20 || c == '\\' then none else readPieces (.char c :: pieces) rest

def isHighUnit (n : Nat) : Bool := 0xD800 ≤ n && n < 0xDC00

def isLowUnit (n : Nat) : Bool := 0xDC00 ≤ n && n < 0xE000

/-- The text of the pieces; `none` when a surrogate has no partner. -/
def textOf : List Piece → Option (List Char)
  | [] => some []
  | .char c :: rest => (textOf rest).map (c :: ·)
  | [.unit n] => if isHighUnit n || isLowUnit n then none else some [Char.ofNat n]
  | .unit n :: .unit m :: rest =>
    if isHighUnit n && isLowUnit m then
      (textOf rest).map (Char.ofNat (0x10000 + (n - 0xD800) * 0x400 + (m - 0xDC00)) :: ·)
    else if isHighUnit n || isLowUnit n then none
    else (textOf (.unit m :: rest)).map (Char.ofNat n :: ·)
  | .unit n :: .char c :: rest =>
    if isHighUnit n || isLowUnit n then none
    else (textOf (.char c :: rest)).map (Char.ofNat n :: ·)

/-- Reads a string after its opening quote. -/
def readString (cs : List Char) : Option (Found (Option String)) := do
  let (pieces, rest) ← readPieces [] cs
  pure ((textOf pieces).map String.ofList, rest)

/-- Reads one digit or more. -/
def readDigits (cs : List Char) : Option (Found (List Char)) :=
  let digits := cs.takeWhile Char.isDigit
  if digits.isEmpty then none else some (digits, cs.dropWhile Char.isDigit)

/-- Reads the digits before a number's point. Only zero itself starts with a zero. -/
def readWhole : List Char → Option (Found (List Char))
  | '0' :: rest => if rest.head?.any Char.isDigit then none else some (['0'], rest)
  | cs => readDigits cs

def readFraction : List Char → Option (Found (List Char))
  | '.' :: rest => (readDigits rest).map fun (digits, rest) => ('.' :: digits, rest)
  | cs => some ([], cs)

def readExponent : List Char → Option (Found (List Char))
  | c :: rest =>
    if c = 'e' ∨ c = 'E' then
      let (sign, rest) := match rest with
        | '+' :: rest => (['+'], rest)
        | '-' :: rest => (['-'], rest)
        | rest => ([], rest)
      (readDigits rest).map fun (digits, rest) => (c :: sign ++ digits, rest)
    else some ([], c :: rest)
  | [] => some ([], [])

def readNumber (cs : List Char) : Option (Found Json) := do
  let (sign, cs) := match cs with
    | '-' :: rest => (['-'], rest)
    | cs => ([], cs)
  let (whole, cs) ← readWhole cs
  let (fraction, cs) ← readFraction cs
  let (exponent, cs) ← readExponent cs
  pure (.number (String.ofList (sign ++ whole ++ fraction ++ exponent)), cs)

def readWord (word : String) (v : Json) (cs : List Char) : Option (Found Json) :=
  if word.toList.isPrefixOf cs then some (v, cs.drop word.length) else none

mutual

/-- Reads one value and the blanks before it. The number bounds the readings inside it. -/
def readValue : Nat → List Char → Option (Found Json)
  | 0, _ => none
  | n + 1, cs =>
    match skipSpace cs with
    | '"' :: rest => do
      let (text?, rest) ← readString rest
      pure (.string text?, rest)
    | '[' :: rest => match skipSpace rest with
      | ']' :: rest => some (.array [], rest)
      | rest => do
        let (items, rest) ← readItems n rest
        pure (.array items, rest)
    | '\x7b' :: rest => match skipSpace rest with
      | '\x7d' :: rest => some (.object [], rest)
      | rest => do
        let (members, rest) ← readMembers n rest
        pure (.object members, rest)
    | 't' :: rest => readWord "true" (.bool true) ('t' :: rest)
    | 'f' :: rest => readWord "false" (.bool false) ('f' :: rest)
    | 'n' :: rest => readWord "null" .null ('n' :: rest)
    | cs => readNumber cs

/-- Reads the items of an array and its closing bracket. -/
def readItems : Nat → List Char → Option (Found (List Json))
  | 0, _ => none
  | n + 1, cs => do
    let (item, rest) ← readValue n cs
    match skipSpace rest with
    | ']' :: rest => pure ([item], rest)
    | ',' :: rest =>
      let (items, rest) ← readItems n rest
      pure (item :: items, rest)
    | _ => none

/-- Reads the members of an object and its closing brace. -/
def readMembers : Nat → List Char → Option (Found (List (Option String × Json)))
  | 0, _ => none
  | n + 1, cs =>
    match skipSpace cs with
    | '"' :: rest => do
      let (key, rest) ← readString rest
      match skipSpace rest with
      | ':' :: rest =>
        let (value, rest) ← readValue n rest
        match skipSpace rest with
        | '\x7d' :: rest => pure ([(key, value)], rest)
        | ',' :: rest =>
          let (members, rest) ← readMembers n rest
          pure ((key, value) :: members, rest)
        | _ => none
      | _ => none
    | _ => none

end

/-- The value that a text stands for, if it is one JSON value with nothing but blanks around it. -/
def parse? (s : String) : Option Json := do
  let cs := s.toList
  let (v, rest) ← readValue (2 * cs.length + 2) cs
  if (skipSpace rest).isEmpty then some v else none

end Json

end ReleaseMatrix
