import ReleaseMatrix.Indented.Tree
import ReleaseMatrix.Shell.Value

namespace ReleaseMatrix.Indented

/-- A program that is being read: the tokens that are left, where the last one stood, the names of the functions
that are being read, the innermost one first, and how many loops of the innermost function are. -/
structure Reader where
  tokens : List Placed
  last : Span
  scopes : List Names
  loops : Nat

abbrev ReadM := StateT Reader (Except ReadFault)

def Names.empty : Names := ⟨[], [], [], false⟩

/-- Words that are no names. -/
def keywords : List String :=
  ["False", "None", "True", "and", "as", "assert", "async", "await", "break", "class", "continue", "def", "del", "elif",
    "else", "except", "finally", "for", "from", "global", "if", "import", "in", "is", "lambda", "nonlocal", "not", "or",
    "pass", "raise", "return", "try", "while", "with", "yield"]

namespace ReadM

def peek : ReadM Placed := do
  return (← get).tokens.headD default

def failAt {α : Type} (message : String) (span : Span) : ReadM α :=
  throw ⟨"SyntaxError", message, span⟩

def fail {α : Type} (message : String) : ReadM α := do
  failAt message (← peek).span

def unexpected {α : Type} : ReadM α := do
  match (← peek).token with
  | .indent => throw ⟨"IndentationError", "unexpected indent", (← peek).span⟩
  | _ => fail "invalid syntax"

def skip : ReadM Unit :=
  modify fun s => { s with tokens := s.tokens.tail, last := (s.tokens.headD default).span }

/-- Leaves a token behind if it is next. -/
def acceptToken (token : Token) : ReadM Bool := do
  if (← peek).token = token then
    skip
    pure true
  else pure false

def accept (operator : String) : ReadM Bool :=
  acceptToken (.operator operator)

def acceptWord (word : String) : ReadM Bool :=
  acceptToken (.name word)

def expect (operator : String) : ReadM Unit := do
  if !(← accept operator) then
    if operator = ":" then fail "expected ':'" else unexpected

def isNext (operator : String) : ReadM Bool := do
  return (← peek).token = .operator operator

def isWordNext (word : String) : ReadM Bool := do
  return (← peek).token = .name word

def readName : ReadM String := do
  match (← peek).token with
  | .name text =>
    if keywords.contains text then unexpected
    skip
    pure text
  | _ => unexpected

/-- Where something stands that began at a place and was just read. -/
def since (start : Span) : ReadM Span := do
  return start.upTo (← get).last

def modifyScope (change : Names → Names) : ReadM Unit :=
  modify fun s => match s.scopes with
    | names :: outer => { s with scopes := change names :: outer }
    | [] => s

/-- Makes a name one of the function that is being read. -/
def bind (name : String) : ReadM Unit :=
  modifyScope fun names =>
    if names.own.contains name || names.program.contains name || names.outer.contains name then names
    else { names with own := names.own ++ [name] }

/-- Reads with names of its own, and gives these too. -/
def inScope {α : Type} (names : Names) (read : ReadM α) : ReadM (α × Names) := do
  let before ← get
  set { before with scopes := names :: before.scopes, loops := 0 }
  let result ← read
  let s ← get
  set { s with scopes := s.scopes.tail, loops := before.loops }
  pure (result, s.scopes.headD .empty)

/-- Reads what is in a loop. -/
def inLoop {α : Type} (read : ReadM α) : ReadM α := do
  modify fun s => { s with loops := s.loops + 1 }
  let result ← read
  modify fun s => { s with loops := s.loops - 1 }
  pure result

/-- The character that a number of digits in a base stand for, and what follows them. -/
def codeOf (base width : Nat) (cs : List Char) : Option (Char × List Char) :=
  let digits := (cs.take width).takeWhile (Text.isDigitIn base)
  if digits.isEmpty then none else some (Char.ofNat (Text.numberOf base digits), cs.drop digits.length)

/-- A text with its escapes carried out. -/
def carryOut (isBytes : Bool) : Nat → List Char → List Char
  | 0, cs => cs
  | _ + 1, [] => []
  | n + 1, '\\' :: c :: rest =>
    let named : List (Char × List Char) := [('\n', []), ('\\', ['\\']), ('\'', ['\'']), ('"', ['"']), ('a', ['\x07']),
      ('b', ['\x08']), ('f', ['\x0c']), ('n', ['\n']), ('r', ['\x0d']), ('t', ['\t']), ('v', ['\x0b'])]
    match named.find? (·.1 == c) with
    | some (_, meant) => meant ++ carryOut isBytes n rest
    | none =>
      let coded := if c = 'x' then codeOf 16 2 rest
        else if c = 'u' && !isBytes then codeOf 16 4 rest
        else if c = 'U' && !isBytes then codeOf 16 8 rest
        else codeOf 8 3 (c :: rest)
      match coded with
      | some (meant, rest) => meant :: carryOut isBytes n rest
      | none => '\\' :: c :: carryOut isBytes n rest
  | n + 1, c :: rest => c :: carryOut isBytes n rest

/-- What is quoted, with its escapes carried out where they are. -/
def meaningOf (q : QuotedText) (cs : List Char) : String :=
  String.ofList (if q.isRaw then cs else carryOut q.isBytes (cs.length + 1) cs)

/-- The number that a text of digits stands for. -/
def constantOf (text : String) : Constant :=
  let cs := text.toList.filter (· ≠ '_')
  match cs with
  | '0' :: c :: rest =>
    if c ∈ ['x', 'X'] then .whole (Text.numberOf 16 rest)
    else if c ∈ ['o', 'O'] then .whole (Text.numberOf 8 rest)
    else if c ∈ ['b', 'B'] then .whole (Text.numberOf 2 rest)
    else decimal cs
  | cs => decimal cs
where
  decimal (cs : List Char) : Constant :=
    if cs.all Char.isDigit then .whole (Text.numberOf 10 cs)
    else match Shell.Decimal.read? cs with
      | some (.finite isNegative f, _) =>
        .fraction (match f.toBinary? with
          | some f => .finite isNegative f
          | none => .infinite isNegative)
      | _ => .whole 0

/-- How much of a replacement in a template belongs to its expression. -/
def expressionLength : Nat → Nat → List Char → Nat
  | 0, _, _ => 0
  | _ + 1, _, [] => 0
  | n + 1, depth, c :: rest =>
    if c = '\'' || c = '"' then
      let inner := rest.takeWhile (· ≠ c)
      inner.length + 2 + expressionLength n depth (rest.drop (inner.length + 1))
    else if c = '(' || c = '[' || c = '\x7b' then 1 + expressionLength n (depth + 1) rest
    else if (c = ')' || c = ']' || c = '\x7d') && depth > 0 then 1 + expressionLength n (depth - 1) rest
    else if depth = 0 && (c = '\x7d' || c = ':') then 0
    else if depth = 0 && c = '!' && rest.head? ≠ some '=' then 0
    else if (c = '=' || c = '!' || c = '<' || c = '>') && rest.head? = some '=' then
      2 + expressionLength n depth rest.tail
    else 1 + expressionLength n depth rest

/-- Operators of one precedence, those that bind least first. -/
def binaryLevels : List (List (String × BinaryOperator)) :=
  [[("|", .bitOr)], [("^", .bitXor)], [("&", .bitAnd)], [("<<", .shiftLeft), (">>", .shiftRight)],
    [("+", .add), ("-", .subtract)],
    [("*", .multiply), ("/", .divide), ("//", .floorDivide), ("%", .remainder), ("@", .matrixMultiply)]]

/-- What is compared next, if something is. -/
def acceptComparison : ReadM (Option Comparison) := do
  let s ← get
  match s.tokens with
  | ⟨.operator o, _⟩ :: _ =>
    let signs : List (String × Comparison) := [("==", .equal), ("!=", .different), ("<", .less), ("<=", .lessEqual),
      (">", .greater), (">=", .greaterEqual)]
    match signs.find? (·.1 == o) with
    | some (_, c) =>
      skip
      pure (some c)
    | none => pure none
  | ⟨.name "in", _⟩ :: _ =>
    skip
    pure (some .isIn)
  | ⟨.name "not", _⟩ :: ⟨.name "in", _⟩ :: _ =>
    skip
    skip
    pure (some .isNotIn)
  | ⟨.name "is", _⟩ :: _ =>
    skip
    pure (some (if ← acceptWord "not" then .notSame else .same))
  | _ => pure none

/-- Whether an expression can start with the next token. -/
def startsExpression : ReadM Bool := do
  match (← peek).token with
  | .name text => pure (!keywords.contains text || text ∈ ["False", "None", "True", "not", "lambda", "yield", "await"])
  | .number _ | .quoted _ => pure true
  | .operator o => pure (o ∈ ["(", "[", "\x7b", "-", "+", "~", "...", "*", "**"])
  | _ => pure false

/-- Binds the names in what is assigned to. -/
def bindTargets : Nat → Expr → ReadM Unit
  | 0, _ => pure ()
  | n + 1, e =>
    match e with
    | .name _ name => bind name
    | .tuple items | .list items => items.forM (bindTargets n)
    | .starred e => bindTargets n e
    | _ => pure ()

/-- What cannot be assigned to, in words. -/
def whyNoTarget? : Expr → Option String
  | .constant .none => some "None"
  | .constant (.truth b) => some (if b then "True" else "False")
  | .constant .ellipsis => some "ellipsis"
  | .constant _ => some "literal"
  | .template _ => some "f-string expression"
  | .call .. => some "function call"
  | .binary .. | .unary .. | .both .. | .either .. => some "expression"
  | .compare .. => some "comparison"
  | .choice .. => some "conditional expression"
  | .lambda .. => some "lambda"
  | .set _ => some "set display"
  | .table _ => some "dict literal"
  | _ => none

mutual

/-- A value with no operators beside it. -/
def readAtom : Nat → ReadM Expr
  | 0 => unexpected
  | n + 1 => do
    let start := (← peek).span
    match (← peek).token with
    | .name "None" =>
      skip
      pure (.constant .none)
    | .name "True" =>
      skip
      pure (.constant (.truth true))
    | .name "False" =>
      skip
      pure (.constant (.truth false))
    | .name _ => return .name start (← readName)
    | .number text =>
      skip
      pure (.constant (constantOf text))
    | .quoted _ => readTexts n []
    | .operator "..." =>
      skip
      pure (.constant .ellipsis)
    | .operator "(" =>
      skip
      if ← accept ")" then pure (.tuple [])
      else if ← isWordNext "yield" then
        let e ← readYield n
        expect ")"
        pure e
      else
        let first ← readElement n
        if ← isClause then
          let clauses ← readClauses n
          expect ")"
          pure (.gather .generator first clauses)
        else if ← isNext "," then
          let items ← readMore n ")" [first]
          pure (.tuple items)
        else
          expect ")"
          pure first
    | .operator "[" =>
      skip
      if ← accept "]" then pure (.list [])
      else
        let first ← readElement n
        if ← isClause then
          let clauses ← readClauses n
          expect "]"
          pure (.gather .list first clauses)
        else return .list (← readMore n "]" [first])
    | .operator "\x7b" =>
      skip
      if ← accept "\x7d" then pure (.table [])
      else if ← isNext "**" then return .table (← readEntries n [])
      else
        let first ← readElement n
        if ← accept ":" then
          let value ← readExpression n
          if ← isClause then
            let clauses ← readClauses n
            expect "\x7d"
            pure (.gatherTable first value clauses)
          else
            if !(← accept ",") then
              expect "\x7d"
              pure (.table [(some first, value)])
            else return .table (← readEntries n [(some first, value)])
        else if ← isClause then
          let clauses ← readClauses n
          expect "\x7d"
          pure (.gather .set first clauses)
        else return .set (← readMore n "\x7d" [first])
    | _ => unexpected
where
  isClause : ReadM Bool := do
    return (← isWordNext "for") || (← isWordNext "async")

/-- The elements after those that were read, up to a bracket. -/
def readMore : Nat → String → List Expr → ReadM (List Expr)
  | 0, _, _ => unexpected
  | n + 1, closing, items => do
    if ← accept closing then pure items
    else
      if !(← accept ",") then
        fail (if items.isEmpty then "invalid syntax" else "invalid syntax. Perhaps you forgot a comma?")
      if ← accept closing then pure items
      else readMore n closing (items ++ [← readElement n])

/-- The entries of a table after those that were read. -/
def readEntries : Nat → List (Option Expr × Expr) → ReadM (List (Option Expr × Expr))
  | 0, _ => unexpected
  | n + 1, entries => do
    if ← accept "\x7d" then pure entries
    else
      let entry ← if ← accept "**" then do pure (none, ← readOperators n binaryLevels)
        else do
          let key ← readExpression n
          expect ":"
          pure (some key, ← readExpression n)
      if ← accept "," then readEntries n (entries ++ [entry])
      else
        expect "\x7d"
        pure (entries ++ [entry])

/-- An element of a list, which may be all elements of another one. -/
def readElement : Nat → ReadM Expr
  | 0 => unexpected
  | n + 1 => do
    if ← accept "*" then return .starred (← readOperators n binaryLevels) else readNamed n

/-- An expression that may be given a name. -/
def readNamed : Nat → ReadM Expr
  | 0 => unexpected
  | n + 1 => do
    match (← get).tokens with
    | ⟨.name name, _⟩ :: ⟨.operator ":=", _⟩ :: _ =>
      let name' ← readName
      skip
      bind name
      return .assigned name' (← readExpression n)
    | _ => readExpression n

/-- The parts of a comprehension after its element. -/
def readClauses : Nat → ReadM (List Clause)
  | 0 => unexpected
  | n + 1 => do
    if ← acceptWord "for" then
      let (target, _) ← inScope .empty (readTargets n)
      if !(← acceptWord "in") then unexpected
      let source ← readChoiceless n
      return .each target source :: (← readClauses n)
    else if ← acceptWord "if" then
      let test ← readChoiceless n
      return .only test :: (← readClauses n)
    else pure []

/-- An expression without a choice in it, as it stands in a comprehension. -/
def readChoiceless : Nat → ReadM Expr
  | 0 => unexpected
  | n + 1 => do
    if ← isWordNext "lambda" then readExpression n
    else
      match (← get).tokens with
      | ⟨.name _, _⟩ :: ⟨.operator ":=", _⟩ :: _ => readNamed n
      | _ => readEither n

/-- What is assigned to in a loop. -/
def readTargets : Nat → ReadM Expr
  | 0 => unexpected
  | n + 1 => do
    let one : ReadM Expr := do
      if ← accept "*" then return .starred (← readOperators n binaryLevels) else readOperators n binaryLevels
    let first ← one
    if ← isNext "," then
      let items ← moreTargets n [first]
      bindTargets n (.tuple items)
      pure (.tuple items)
    else
      bindTargets n first
      pure first

def moreTargets : Nat → List Expr → ReadM (List Expr)
  | 0, _ => unexpected
  | n + 1, items => do
    if ← accept "," then
      if ← isWordNext "in" then pure items
      else
        let isStarred ← accept "*"
        let e ← readOperators n binaryLevels
        moreTargets n (items ++ [if isStarred then .starred e else e])
    else pure items

/-- Texts that stand beside each other and make one. -/
def readTexts : Nat → List TemplatePart → ReadM Expr
  | 0, _ => unexpected
  | n + 1, parts => do
    match ← peek with
    | ⟨.quoted q, span⟩ =>
      skip
      if q.isBytes then
        readBytes n (String.ofList (meaningOf q q.body).toList)
      else
        let added ← if q.isTemplate then readTemplate n q span q.body else pure [.text (meaningOf q q.body)]
        readTexts n (parts ++ added)
    | _ =>
      if parts.all (fun p => p matches .text _) then
        pure (.constant (.text (String.join (parts.map fun | .text s => s | _ => ""))))
      else pure (.template parts)

def readBytes : Nat → String → ReadM Expr
  | 0, _ => unexpected
  | n + 1, read => do
    match (← peek).token with
    | .quoted q =>
      if !q.isBytes then fail "cannot mix bytes and nonbytes literals"
      skip
      readBytes n (read ++ meaningOf q q.body)
    | _ => pure (.constant (.bytes read))

/-- The parts of a template. -/
def readTemplate : Nat → QuotedText → Span → List Char → ReadM (List TemplatePart)
  | 0, _, _, _ => unexpected
  | _ + 1, _, _, [] => pure []
  | n + 1, q, span, '\x7b' :: '\x7b' :: rest => return .text "\x7b" :: (← readTemplate n q span rest)
  | n + 1, q, span, '\x7d' :: '\x7d' :: rest => return .text "\x7d" :: (← readTemplate n q span rest)
  | _ + 1, _, span, '\x7d' :: _ => failAt "f-string: single '\x7d' is not allowed" span
  | n + 1, q, span, '\x7b' :: rest => do
    let length := expressionLength (rest.length + 1) 0 rest
    let source := rest.take length
    let after := rest.drop length
    let trimmed := (source.reverse.dropWhile (· = ' '))
    let isShown := trimmed.head? = some '=' &&
      !(["==", "!=", "<=", ">="].any fun o => trimmed.take 2 = o.toList.reverse)
    let code := if isShown then trimmed.tail.reverse else source
    if code.all (· = ' ') then failAt "f-string: empty expression not allowed" span
    let outer ← get
    match Token.ofText code span.line span.column false with
    | .error fault => throw { fault with message := "f-string: " ++ fault.message, span }
    | .ok tokens =>
      set { outer with tokens }
      let e ← readAll n
      expect ")"
      modify fun s => { s with tokens := outer.tokens, last := outer.last }
      let (conversion?, after) := match after with
        | '!' :: c :: rest => (some c, rest)
        | after => (none, after)
      let (layout, after) ← match after with
        | ':' :: rest =>
          let length := layoutLength (rest.length + 1) 0 rest
          let layout ← readTemplate n q span (rest.take length)
          pure (layout, rest.drop length)
        | after => pure ([], after)
      match after with
      | '\x7d' :: rest =>
        let conversion? := if isShown && conversion?.isNone && layout.isEmpty then some 'r' else conversion?
        let value : TemplatePart := .value e conversion? layout
        let shown := if isShown then [.text (String.ofList source), value] else [value]
        return shown ++ (← readTemplate n q span rest)
      | _ => failAt "f-string: expecting '\x7d'" span
  | n + 1, q, span, cs => do
    let text := cs.takeWhile fun c => c ≠ '\x7b' && c ≠ '\x7d'
    return .text (meaningOf q text) :: (← readTemplate n q span (cs.drop text.length))
where
  /-- How much belongs to the layout of a value. -/
  layoutLength : Nat → Nat → List Char → Nat
    | 0, _, _ => 0
    | _ + 1, _, [] => 0
    | n + 1, depth, c :: rest =>
      if c = '\x7b' then 1 + layoutLength n (depth + 1) rest
      else if c = '\x7d' then if depth = 0 then 0 else 1 + layoutLength n (depth - 1) rest
      else 1 + layoutLength n depth rest

/-- A value with calls, attributes and indices after it. -/
def readPrimary : Nat → ReadM Expr
  | 0 => unexpected
  | n + 1 => do
    let start := (← peek).span
    let _ ← acceptWord "await"
    let e ← readAtom n
    readAfter n start e

def readAfter : Nat → Span → Expr → ReadM Expr
  | 0, _, e => pure e
  | n + 1, start, e => do
    if ← accept "." then
      let name ← readName
      readAfter n start (.attribute (← since start) e name)
    else if ← accept "(" then
      let arguments ← readArguments n []
      readAfter n start (.call (← since start) e arguments)
    else if ← isNext "[" then
      let opening := (← peek).span
      skip
      let first ← readIndex n
      let index ← if ← isNext "," then do pure (Expr.tuple (← readIndices n [first])) else pure first
      expect "]"
      readAfter n start (.item (← since start) (← since opening) e index)
    else pure e

def readIndices : Nat → List Expr → ReadM (List Expr)
  | 0, _ => unexpected
  | n + 1, items => do
    if ← accept "," then
      if ← isNext "]" then pure items else readIndices n (items ++ [← readIndex n])
    else pure items

/-- An index, or from where to where elements are meant. -/
def readIndex : Nat → ReadM Expr
  | 0 => unexpected
  | n + 1 => do
    let bound : ReadM (Option Expr) := do
      if (← isNext ":") || (← isNext "]") || (← isNext ",") then pure none else return some (← readNamed n)
    if ← isNext "*" then readElement n
    else
      let start ← bound
      if ← accept ":" then
        let stop ← bound
        let step ← if ← accept ":" then bound else pure none
        pure (.slice start stop step)
      else match start with
        | some e => pure e
        | none => unexpected

/-- The arguments of a call, up to its closing parenthesis. -/
def readArguments : Nat → List Argument → ReadM (List Argument)
  | 0, _ => unexpected
  | n + 1, arguments => do
    if ← isNext ")" then
      let late := arguments.dropWhile fun a => !(a matches .named .. | .allNamed _)
      if late.any fun a => a matches .plain _ then
        fail ("positional argument follows keyword argument" ++
          (if late.any fun a => a matches .allNamed _ then " unpacking" else ""))
      skip
      pure arguments
    else
      let argument : Argument ←
        if ← accept "**" then do pure (.allNamed (← readExpression n))
        else if ← accept "*" then do pure (.all (← readExpression n))
        else match (← get).tokens with
          | ⟨.name _, _⟩ :: ⟨.operator "=", _⟩ :: _ => do
            let name ← readName
            skip
            pure (.named name (← readExpression n))
          | _ => do
            let e ← readNamed n
            if (← isWordNext "for") || (← isWordNext "async") then
              pure (.plain (.gather .generator e (← readClauses n)))
            else pure (.plain e)
      if ← accept "," then readArguments n (arguments ++ [argument])
      else
        if !(← isNext ")") then
          if ← startsExpression then fail "invalid syntax. Perhaps you forgot a comma?" else unexpected
        readArguments n (arguments ++ [argument])

/-- A power, or a value with a sign. -/
def readFactor : Nat → ReadM Expr
  | 0 => unexpected
  | n + 1 => do
    let start := (← peek).span
    let next := (← peek).token
    let signs : List (String × UnaryOperator) := [("-", .negate), ("+", .keep), ("~", .invert)]
    match signs.find? fun (sign, _) => next = .operator sign with
    | some (_, op) =>
      skip
      let e ← readFactor n
      match op, e with
      | .negate, .constant (.whole k) => pure (.constant (.whole (-k)))
      | _, _ => return .unary (← since start) op e
    | none =>
      let e ← readPrimary n
      let sign := (← peek).span
      if ← accept "**" then
        let exponent ← readFactor n
        return .binary (← since start) sign .power e exponent
      else pure e

/-- Values with operators of some precedences between them. -/
def readOperators : Nat → List (List (String × BinaryOperator)) → ReadM Expr
  | 0, _ => unexpected
  | n + 1, [] => readFactor n
  | n + 1, level :: tighter => do
    let start := (← peek).span
    let first ← readOperators n tighter
    readOperatorsAfter n start level tighter first

def readOperatorsAfter : Nat → Span → List (String × BinaryOperator) → List (List (String × BinaryOperator)) → Expr →
    ReadM Expr
  | 0, _, _, _, _ => unexpected
  | n + 1, start, level, tighter, first => do
    let next ← peek
    match level.find? fun (sign, _) => next.token = .operator sign with
    | some (_, op) =>
      skip
      let second ← readOperators n tighter
      readOperatorsAfter n start level tighter (.binary (← since start) next.span op first second)
    | none => pure first

def readComparison : Nat → ReadM Expr
  | 0 => unexpected
  | n + 1 => do
    let start := (← peek).span
    let first ← readOperators n binaryLevels
    match ← readCompared n [] with
    | [] => pure first
    | rest => return .compare (← since start) first rest

def readCompared : Nat → List (Comparison × Expr) → ReadM (List (Comparison × Expr))
  | 0, _ => unexpected
  | n + 1, read => do
    match ← acceptComparison with
    | some c => readCompared n (read ++ [(c, ← readOperators n binaryLevels)])
    | none => pure read

def readNot : Nat → ReadM Expr
  | 0 => unexpected
  | n + 1 => do
    let start := (← peek).span
    if ← acceptWord "not" then
      let e ← readNot n
      return .unary (← since start) .not e
    else readComparison n

def readBoth : Nat → ReadM Expr
  | 0 => unexpected
  | n + 1 => do
    let first ← readNot n
    if ← acceptWord "and" then return .both first (← readBoth n) else pure first

def readEither : Nat → ReadM Expr
  | 0 => unexpected
  | n + 1 => do
    let first ← readBoth n
    if ← acceptWord "or" then return .either first (← readEither n) else pure first

/-- One expression. -/
def readExpression : Nat → ReadM Expr
  | 0 => unexpected
  | n + 1 => do
    if ← acceptWord "lambda" then
      let (parameters, names) ← readParameters n ":" false
      expect ":"
      let (body, _) ← inScope { Names.empty with own := names } (readExpression n)
      pure (.lambda parameters body)
    else if ← isWordNext "yield" then readYield n
    else
      let e ← readEither n
      if ← acceptWord "if" then
        let test ← readEither n
        if !(← acceptWord "else") then fail "expected 'else' after 'if' expression"
        return .choice test e (← readExpression n)
      else pure e

def readYield : Nat → ReadM Expr
  | 0 => unexpected
  | n + 1 => do
    skip
    modifyScope fun names => { names with yields := true }
    if ← acceptWord "from" then return .yieldAll (← readExpression n)
    else if ← startsExpression then return .yield (some (← readAll n))
    else pure (.yield none)

/-- An expression, or several that make a tuple. -/
def readAll : Nat → ReadM Expr
  | 0 => unexpected
  | n + 1 => do
    let first ← readElement n
    if ← isNext "," then return .tuple (← readRest n [first]) else pure first

def readRest : Nat → List Expr → ReadM (List Expr)
  | 0, _ => unexpected
  | n + 1, items => do
    if ← accept "," then
      if ← startsExpression then readRest n (items ++ [← readElement n]) else pure items
    else pure items

/-- Parameters up to a sign, which is left, and their names. -/
def readParameters : Nat → String → Bool → ReadM (Parameters × List String)
  | 0, _, _ => unexpected
  | n + 1, closing, annotated => readParametersAfter n closing annotated [] none [] none false

def readParametersAfter : Nat → String → Bool → List (String × Option Expr) → Option String →
    List (String × Option Expr) → Option String → Bool → ReadM (Parameters × List String)
  | 0, _, _, _, _, _, _, _ => unexpected
  | n + 1, closing, annotated, positional, rest?, named, namedRest?, isNamed => do
    let finish : ReadM (Parameters × List String) :=
      let names := positional.map (·.1) ++ rest?.toList ++ named.map (·.1) ++ namedRest?.toList
      pure (.mk positional rest? named namedRest?, names)
    let annotation : ReadM Unit := do
      if annotated then
        if ← accept ":" then
          let _ ← readExpression n
    if ← isNext closing then finish
    else
      let state ← if ← accept "**" then do
          let name ← readName
          annotation
          pure (positional, rest?, named, some name, isNamed)
        else if ← accept "*" then do
          if (← isNext ",") then pure (positional, rest?, named, namedRest?, true)
          else
            let name ← readName
            annotation
            pure (positional, some name, named, namedRest?, true)
        else if ← accept "/" then pure (positional, rest?, named, namedRest?, isNamed)
        else do
          let name ← readName
          annotation
          let value? ← if ← accept "=" then do pure (some (← readExpression n)) else pure none
          if isNamed then pure (positional, rest?, named ++ [(name, value?)], namedRest?, isNamed)
          else pure (positional ++ [(name, value?)], rest?, named, namedRest?, isNamed)
      let (positional, rest?, named, namedRest?, isNamed) := state
      if ← accept "," then readParametersAfter n closing annotated positional rest? named namedRest? isNamed
      else if ← isNext closing then
        readParametersAfter n closing annotated positional rest? named namedRest? isNamed
      else unexpected

end

end ReadM

end ReleaseMatrix.Indented
