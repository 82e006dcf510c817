import ReleaseMatrix.Text

namespace ReleaseMatrix.Indented

/-- From where to where something stands in a program. Lines count from one, and columns from zero. -/
structure Span where
  line : Nat
  column : Nat
  endLine : Nat
  endColumn : Nat
deriving DecidableEq, Repr, Inhabited

/-- From the start of one part to the end of another one. -/
def Span.upTo (first last : Span) : Span :=
  ⟨first.line, first.column, last.endLine, last.endColumn⟩

/-- A text as it is quoted in a program: the letters before the quotes, and what stands between these. -/
structure QuotedText where
  letters : List Char
  body : List Char
  isTriple : Bool
deriving DecidableEq, Repr

namespace QuotedText

def isRaw (q : QuotedText) : Bool := q.letters.contains 'r'

def isBytes (q : QuotedText) : Bool := q.letters.contains 'b'

/-- Whether expressions may stand in it. -/
def isTemplate (q : QuotedText) : Bool := q.letters.contains 'f'

end QuotedText

/-- What a program is written with. Lines and blocks are tokens too. -/
inductive Token
  | name (text : String)
  | number (text : String)
  | quoted (text : QuotedText)
  | operator (text : String)
  | newline
  | indent
  | dedent
  | ending
deriving DecidableEq, Repr

/-- A token where it stands. -/
structure Placed where
  token : Token
  span : Span

instance : Inhabited Placed := ⟨⟨.ending, default⟩⟩

/-- Why a program cannot be read: the class of the error, what it says, and where. -/
structure ReadFault where
  kind : String
  message : String
  span : Span

/-- A program of which the start was split into tokens, the last one first. -/
structure Scanner where
  rest : List Char
  line : Nat
  column : Nat
  /-- Brackets that are open, the innermost one first, and where they stand. -/
  brackets : List (Char × Nat × Nat)
  /-- How far the blocks that are open are indented. -/
  indents : List Nat
  tokens : List Placed

abbrev ScanM := StateT Scanner (Except ReadFault)

namespace ScanM

def fail {α : Type} (message : String) (line column : Nat) : ScanM α :=
  throw ⟨"SyntaxError", message, ⟨line, column, line, column + 1⟩⟩

/-- Leaves a number of characters behind, none of which ends a line. -/
def skip (count : Nat) : ScanM Unit :=
  modify fun s => { s with rest := s.rest.drop count, column := s.column + count }

/-- Takes characters that may end lines. -/
def advance (cs : List Char) : ScanM Unit :=
  modify fun s =>
    let lines := (cs.filter (· = '\n')).length
    let last := (cs.reverse.takeWhile (· ≠ '\n')).length
    { s with
      rest := s.rest.drop cs.length
      line := s.line + lines
      column := if lines = 0 then s.column + cs.length else last }

/-- Adds a token that ends here and began at a place. -/
def add (token : Token) (line column : Nat) : ScanM Unit :=
  modify fun s => { s with tokens := ⟨token, ⟨line, column, s.line, s.column⟩⟩ :: s.tokens }

def addHere (token : Token) : ScanM Unit := do
  let s ← get
  add token s.line s.column

def isNameStart (c : Char) : Bool :=
  c.isAlpha || c = '_' || c.toNat > 127

def isNamePart (c : Char) : Bool :=
  isNameStart c || c.isDigit

/-- The operators, longer ones before their beginnings. -/
def operators : List String :=
  ["**=", "//=", ">>=", "<<=", "...", "!=", "->", ":=", "**", "//", ">>", "<<", "<=", ">=", "==", "+=", "-=", "*=",
    "/=", "%=", "&=", "|=", "^=", "@=", "+", "-", "*", "/", "%", "@", "&", "|", "^", "~", "<", ">", "(", ")", "[",
    "]", "\x7b", "\x7d", ",", ":", ".", ";", "="]

def closingOf (c : Char) : Char :=
  if c = '(' then ')' else if c = '[' then ']' else '\x7d'

/-- How much of a text stands before the quotes that end it. What is between braces in a template may hold quotes. -/
def quotedLength (quote : Char) (isTriple isTemplate : Bool) : Nat → Nat → Nat → List Char → Option Nat
  | 0, _, _, _ => none
  | _ + 1, _, _, [] => none
  | n + 1, depth, length, '\\' :: _ :: rest => quotedLength quote isTriple isTemplate n depth (length + 2) rest
  | n + 1, depth, length, c :: rest =>
    if c = '\n' && !isTriple then none
    else if c = quote && depth = 0 then
      if !isTriple || rest.take 2 = [quote, quote] then some length
      else quotedLength quote isTriple isTemplate n depth (length + 1) rest
    else if isTemplate && c = '\x7b' then
      if depth = 0 && rest.head? = some '\x7b' then
        quotedLength quote isTriple isTemplate n depth (length + 2) rest.tail
      else quotedLength quote isTriple isTemplate n (depth + 1) (length + 1) rest
    else if isTemplate && c = '\x7d' then quotedLength quote isTriple isTemplate n (depth - 1) (length + 1) rest
    else quotedLength quote isTriple isTemplate n depth (length + 1) rest

/-- Reads a text from its quotes on, after letters that were read before them. -/
def readQuoted (letters : List Char) (line column : Nat) : ScanM Unit := do
  let s ← get
  let quote := s.rest.headD '"'
  let isTriple := s.rest.take 3 = [quote, quote, quote]
  let width := if isTriple then 3 else 1
  let inner := s.rest.drop width
  let isTemplate := letters.contains 'f'
  let found? := quotedLength quote isTriple isTemplate (inner.length + 1) 0 0 inner <|>
    quotedLength quote isTriple false (inner.length + 1) 0 0 inner
  match found? with
  | none =>
    let lastLine := s.line + if isTriple then (inner.filter (· = '\n')).length else 0
    let lastLine := if isTriple && inner.getLast? = some '\n' then lastLine - 1 else lastLine
    let kind := if isTemplate then "f-string literal" else "string literal"
    fail ("unterminated " ++ (if isTriple then "triple-quoted " else "") ++ kind ++ " (detected at line " ++
      toString lastLine ++ ")") line column
  | some length =>
    advance (s.rest.take (2 * width + length))
    add (.quoted ⟨letters, inner.take length, isTriple⟩) line column

/-- The length of a number. -/
def numberLength (cs : List Char) : Nat :=
  let digitsOf (isDigit : Char → Bool) (cs : List Char) : Nat :=
    (cs.takeWhile fun c => isDigit c || c = '_').length
  match cs with
  | '0' :: c :: rest =>
    if c ∈ ['x', 'X'] then 2 + digitsOf (Text.isDigitIn 16) rest
    else if c ∈ ['o', 'O'] then 2 + digitsOf (Text.isDigitIn 8) rest
    else if c ∈ ['b', 'B'] then 2 + digitsOf (Text.isDigitIn 2) rest
    else decimalLength cs
  | cs => decimalLength cs
where
  decimalLength (cs : List Char) : Nat :=
    let digitsOf (cs : List Char) : Nat := (cs.takeWhile fun c => c.isDigit || c = '_').length
    let whole := digitsOf cs
    let rest := cs.drop whole
    let part := if rest.head? = some '.' then 1 + digitsOf rest.tail else 0
    let rest := rest.drop part
    let power := match rest with
      | e :: sign :: rest =>
        if e ≠ 'e' && e ≠ 'E' then 0
        else if sign.isDigit then 1 + digitsOf (sign :: rest)
        else if (sign = '+' || sign = '-') && rest.head?.any Char.isDigit then 2 + digitsOf rest
        else 0
      | _ => 0
    whole + part + power

/-- Ends the blocks that are indented further than a line. -/
def closeBlocks (width : Nat) : Nat → ScanM Unit
  | 0 => pure ()
  | n + 1 => do
    let s ← get
    match s.indents with
    | top :: outer =>
      if top > width then
        set { s with indents := outer }
        addHere .dedent
        closeBlocks width n
      else if top < width then
        throw ⟨"IndentationError", "unindent does not match any outer indentation level",
          ⟨s.line, s.column, s.line, s.column⟩⟩
      else pure ()
    | [] => pure ()

/-- Reads the blanks at the start of a line, and the blocks that begin or end there. -/
def readIndent : ScanM Unit := do
  let s ← get
  let blanks := s.rest.takeWhile fun c => c = ' ' || c = '\t' || c = '\x0c'
  let width := blanks.foldl (fun w c => if c = '\t' then (w / 8 + 1) * 8 else if c = ' ' then w + 1 else 0) 0
  skip blanks.length
  match (← get).rest.head? with
  | none | some '\n' | some '#' => pure ()
  | _ =>
    let top := s.indents.headD 0
    if width > top then
      modify fun s => { s with indents := width :: s.indents }
      addHere .indent
    else closeBlocks width (s.indents.length + 1)

/-- Reads a bracket, an operator or another sign. -/
def readOperator (c : Char) : ScanM Unit := do
  let s ← get
  match operators.find? fun o => o.toList.isPrefixOf s.rest with
  | none =>
    fail (if c = '$' || c = '?' || c = '!' || c = '\x60' then "invalid syntax"
      else "invalid non-printable character U+" ++
        String.ofList ((Nat.toDigits 16 c.toNat).map Char.toUpper)) s.line s.column
  | some o =>
    if c = '(' || c = '[' || c = '\x7b' then
      modify fun s => { s with brackets := (c, s.line, s.column) :: s.brackets }
    else if c = ')' || c = ']' || c = '\x7d' then
      match s.brackets with
      | [] => fail ("unmatched '" ++ String.singleton c ++ "'") s.line s.column
      | (opening, line, _) :: outer =>
        if closingOf opening ≠ c then
          let place := if line = s.line then "" else " on line " ++ toString line
          fail ("closing parenthesis '" ++ String.singleton c ++ "' does not match opening parenthesis '" ++
            String.singleton opening ++ "'" ++ place) s.line s.column
        modify fun s => { s with brackets := outer }
    skip o.length
    add (.operator o) s.line s.column

/-- Whether a line that ends here holds a token. -/
def isLineBegun (s : Scanner) : Bool :=
  match s.tokens with
  | [] => false
  | t :: _ => !(t.token matches .newline | .indent | .dedent)

/-- Whether a new line of the program begins here. -/
def isAtStart (s : Scanner) : Bool :=
  s.column = 0 && s.brackets.isEmpty && !isLineBegun s

/-- Splits what is left into tokens. -/
def scan : Nat → ScanM Unit
  | 0 => pure ()
  | n + 1 => do
    if isAtStart (← get) then readIndent
    let s ← get
    match s.rest with
    | [] =>
      match s.brackets with
      | (c, line, column) :: _ => fail ("'" ++ String.singleton c ++ "' was never closed") line column
      | [] =>
        if isLineBegun s then addHere .newline
        modify fun s => { s with line := if s.column = 0 then s.line else s.line + 1, column := 0 }
        closeBlocks 0 (s.indents.length + 1)
        addHere .ending
    | '\n' :: rest =>
      if s.brackets.isEmpty && isLineBegun s then addHere .newline
      modify fun s => { s with rest, line := s.line + 1, column := 0 }
      scan n
    | '\\' :: '\n' :: rest =>
      modify fun s => { s with rest, line := s.line + 1, column := 0 }
      scan n
    | '\\' :: _ => fail "unexpected character after line continuation character" s.line s.column
    | '#' :: _ =>
      skip (s.rest.takeWhile (· ≠ '\n')).length
      scan n
    | c :: rest =>
      if c = ' ' || c = '\t' || c = '\x0c' then skip 1
      else if c = '"' || c = '\'' then readQuoted [] s.line s.column
      else if isNameStart c then
        let letters := s.rest.takeWhile isNamePart
        let after := (s.rest.drop letters.length).head?
        let marks := letters.map Char.toLower
        if (after = some '"' || after = some '\'') && marks ∈ [['r'], ['u'], ['b'], ['f'], ['r', 'b'], ['b', 'r'],
            ['f', 'r'], ['r', 'f']] then
          skip letters.length
          readQuoted marks s.line s.column
        else
          skip letters.length
          add (.name (String.ofList letters)) s.line s.column
      else if c.isDigit || c = '.' && rest.head?.any Char.isDigit then
        let length := numberLength s.rest
        skip length
        add (.number (String.ofList (s.rest.take length))) s.line s.column
        if ((← get).rest.head?).any fun c => isNameStart c && c ≠ 'j' then
          let word := String.ofList ((← get).rest.takeWhile isNamePart)
          if !(["and", "or", "if", "else", "in", "is", "for", "not"].any fun w => word.startsWith w) then
            fail "invalid decimal literal" s.line (s.column + length - 1)
      else readOperator c
      scan n

end ScanM

/-- The tokens of a program, or of an expression in it that begins at a place. -/
def Token.ofText (text : List Char) (line column : Nat) (isWhole : Bool) : Except ReadFault (List Placed) :=
  let text := text.filter (· ≠ '\x0d')
  let brackets := if isWhole then [] else [('(', line, column)]
  let text := if isWhole then text else text ++ [')']
  ((ScanM.scan (text.length + 2)).run ⟨text, line, column, brackets, [0], []⟩).map fun (_, s) => s.tokens.reverse

end ReleaseMatrix.Indented
