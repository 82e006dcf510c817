import ReleaseMatrix.Indented.Reader

namespace ReleaseMatrix.Indented

namespace ReadM

/-- Operators that change what has a name. -/
def augmentations : List (String × BinaryOperator) :=
  [("+=", .add), ("-=", .subtract), ("*=", .multiply), ("/=", .divide), ("//=", .floorDivide), ("%=", .remainder),
    ("**=", .power), ("<<=", .shiftLeft), (">>=", .shiftRight), ("&=", .bitAnd), ("|=", .bitOr), ("^=", .bitXor),
    ("@=", .matrixMultiply)]

/-- Fails if something cannot be assigned to, and binds the names in it otherwise. -/
def checkTarget (n : Nat) (start : Span) (e : Expr) : ReadM Unit := do
  match whyNoTarget? e with
  | some kind =>
    let hint := if kind = "True" || kind = "False" || kind = "None" then ""
      else if kind = "literal" || kind = "expression" || kind = "function call" || kind = "comparison"
      then " here. Maybe you meant '==' instead of '='?" else ""
    failAt ("cannot assign to " ++ kind ++ hint) (← since start)
  | none => bindTargets n e

/-- The path of a module. -/
def readPath : Nat → ReadM String
  | 0 => unexpected
  | n + 1 => do
    let name ← readName
    if ← accept "." then return name ++ "." ++ (← readPath n) else pure name

/-- A name that is given to something, if one is. -/
def readAlias : ReadM (Option String) := do
  if ← acceptWord "as" then return some (← readName) else pure none

def readModules : Nat → ReadM (List (String × Option String))
  | 0 => unexpected
  | n + 1 => do
    let path ← readPath n
    let newName? ← readAlias
    bind (newName?.getD (String.ofList (path.toList.takeWhile (· ≠ '.'))))
    if ← accept "," then return (path, newName?) :: (← readModules n) else pure [(path, newName?)]

def readLoaded : Nat → ReadM (List (String × Option String))
  | 0 => unexpected
  | n + 1 => do
    if ← isNext ")" then pure []
    else
      let name ← readName
      let newName? ← readAlias
      bind (newName?.getD name)
      if ← accept "," then return (name, newName?) :: (← readLoaded n) else pure [(name, newName?)]

def readNames : Nat → ReadM (List String)
  | 0 => unexpected
  | n + 1 => do
    let name ← readName
    if ← accept "," then return name :: (← readNames n) else pure [name]

/-- Whether a statement ends here. -/
def isEndOfStatement : ReadM Bool := do
  match (← peek).token with
  | .newline | .ending | .operator ";" => pure true
  | _ => pure false

/-- What follows the first targets of an assignment. -/
def readAssigned (n : Nat) : Nat → Span → List Expr → Expr → ReadM Statement
  | 0, _, _, _ => unexpected
  | m + 1, start, targets, e => do
    if ← isNext "=" then
      checkTarget n start e
      skip
      let next := (← peek).span
      let value ← if ← isWordNext "yield" then readYield n else readAll n
      if ← isNext "=" then
        checkTarget n next value
        readAssigned n m start (targets ++ [e]) value
      else return .assign (← since start) (targets ++ [e]) value
    else return .assign (← since start) targets e

/-- A statement that starts with an expression. -/
def readSimpleExpression (n : Nat) : ReadM Statement := do
  let start := (← peek).span
  let e ← if ← isWordNext "yield" then readYield n else readAll n
  let next := (← peek).token
  match augmentations.find? fun (sign, _) => next = .operator sign with
  | some (_, op) =>
    checkTarget n start e
    skip
    let value ← if ← isWordNext "yield" then readYield n else readAll n
    return .augment (← since start) op e value
  | none =>
    if ← isNext "=" then readAssigned n n start [] e
    else if ← accept ":" then
      bindTargets n e
      let _ ← readExpression n
      if ← accept "=" then
        let value ← if ← isWordNext "yield" then readYield n else readAll n
        return .assign (← since start) [e] value
      else pure .skip
    else
      if !(← isEndOfStatement) then
        match e, ← startsExpression with
        | .name span name, true =>
          if name = "print" || name = "exec" then
            let rest := (← get).tokens.takeWhile fun t => !(t.token matches .newline | .ending)
            let stop := (rest.getLast?.map (·.span)).getD span
            failAt ("Missing parentheses in call to '" ++ name ++ "'. Did you mean " ++ name ++
              "(...)?") (span.upTo stop)
          else unexpected
        | _, _ => unexpected
      return .expression (← since start) e

def readDeleted (n : Nat) : Nat → ReadM (List Expr)
  | 0 => unexpected
  | m + 1 => do
    let e ← readPrimary n
    bindTargets n e
    if ← accept "," then
      if ← isEndOfStatement then pure [e] else return e :: (← readDeleted n m)
    else pure [e]

/-- A statement without a block. -/
def readSimple (n : Nat) : ReadM Statement := do
  let start := (← peek).span
  match (← peek).token with
  | .name "pass" =>
    skip
    pure .skip
  | .name "break" =>
    skip
    if (← get).loops = 0 then failAt "'break' outside loop" start
    pure .leave
  | .name "continue" =>
    skip
    if (← get).loops = 0 then failAt "'continue' not properly in loop" start
    pure .next
  | .name "return" =>
    skip
    let e? ← if ← isEndOfStatement then pure none else do pure (some (← readAll n))
    if (← get).scopes.length < 2 then failAt "'return' outside function" (← since start)
    return .giveBack (← since start) e?
  | .name "raise" =>
    skip
    if ← isEndOfStatement then return .raise (← since start) none none
    else
      let e ← readExpression n
      let cause? ← if ← acceptWord "from" then do pure (some (← readExpression n)) else pure none
      return .raise (← since start) (some e) cause?
  | .name "import" =>
    skip
    let modules ← readModules n
    return .load (← since start) modules
  | .name "from" =>
    skip
    let path ← if ← accept "." then pure "." else readPath n
    if !(← acceptWord "import") then unexpected
    let names ← if ← accept "*" then pure [("*", none)]
      else if ← accept "(" then do
        let names ← readLoaded n
        expect ")"
        pure names
      else readLoaded n
    return .loadFrom (← since start) path names
  | .name "assert" =>
    skip
    let place := (← peek).span
    let test ← readExpression n
    let place ← since place
    let message? ← if ← accept "," then do pure (some (← readExpression n)) else pure none
    return .require (← since start) place test message?
  | .name "del" =>
    skip
    let targets ← readDeleted n n
    return .delete (← since start) targets
  | .name "global" =>
    skip
    let names ← readNames n
    modifyScope fun s => { s with program := s.program ++ names, own := s.own.filter (!names.contains ·) }
    pure .skip
  | .name "nonlocal" =>
    skip
    let names ← readNames n
    modifyScope fun s => { s with outer := s.outer ++ names, own := s.own.filter (!names.contains ·) }
    pure .skip
  | _ => readSimpleExpression n

/-- The statements of one line. -/
def readLine (n : Nat) : Nat → ReadM (List Statement)
  | 0 => unexpected
  | m + 1 => do
    let statement ← readSimple n
    if ← accept ";" then
      if (← acceptToken .newline) || (← peek).token = .ending then pure [statement]
      else return statement :: (← readLine n m)
    else if (← acceptToken .newline) || (← peek).token = .ending then pure [statement]
    else unexpected

/-- What a statement with a block is called in complaints. -/
structure Opening where
  name : String
  line : Nat

/-- Whether anything else than a colon that ends the line of such a statement is called missing. -/
def Opening.isFixed (o : Opening) : Bool :=
  o.name ∈ ["'else' statement", "'try' statement", "'finally' statement", "function definition"]

/-- A value that decides what is done. One that looks like an assignment is refused. -/
def readTest (n : Nat) : ReadM Expr := do
  let start := (← peek).span
  let e ← readNamed n
  let place ← since start
  if ← isNext "=" then
    match e with
    | .name .. =>
      skip
      let _ ← readOperators n binaryLevels
      failAt "invalid syntax. Maybe you meant '==' or ':=' instead of '='?" (← since start)
    | .attribute .. => failAt "cannot assign to attribute here. Maybe you meant '==' instead of '='?" place
    | .item .. => failAt "cannot assign to subscript here. Maybe you meant '==' instead of '='?" place
    | .call .. => failAt "cannot assign to function call here. Maybe you meant '==' instead of '='?" place
    | _ => pure ()
  pure e

mutual

/-- The statements that belong to another one. -/
def readBlock : Nat → Opening → ReadM (List Statement)
  | 0, _ => unexpected
  | n + 1, opening => do
    if !(← accept ":") then
      if opening.isFixed || (← peek).token = .newline then fail "expected ':'" else unexpected
    if ← acceptToken .newline then
      if ← acceptToken .indent then readStatements n
      else
        throw ⟨"IndentationError", "expected an indented block after " ++ opening.name ++ " on line " ++
          toString opening.line, (← peek).span⟩
    else readLine n n

/-- The statements up to the end of a block. -/
def readStatements : Nat → ReadM (List Statement)
  | 0 => unexpected
  | n + 1 => do
    if (← acceptToken .dedent) || (← peek).token = .ending then pure []
    else
      let first ← readStatement n
      return first ++ (← readStatements n)

/-- What follows a branch whose test failed. -/
def readOtherwise : Nat → ReadM (List Statement)
  | 0 => unexpected
  | n + 1 => do
    let start := (← peek).span
    if ← acceptWord "elif" then
      let test ← readTest n
      let span ← since start
      let yes ← readBlock n ⟨"'elif' statement", start.line⟩
      return [.branch span test yes (← readOtherwise n)]
    else readElse n

def readElse : Nat → ReadM (List Statement)
  | 0 => unexpected
  | n + 1 => do
    let start := (← peek).span
    if ← acceptWord "else" then readBlock n ⟨"'else' statement", start.line⟩ else pure []

def readHandlers : Nat → ReadM (List Handler)
  | 0 => unexpected
  | n + 1 => do
    let start := (← peek).span
    if ← acceptWord "except" then
      let kind? ← if ← isNext ":" then pure none else do pure (some (← readAll n))
      let name? ← readAlias
      name?.forM bind
      let body ← readBlock n ⟨"'except' statement", start.line⟩
      return .mk start kind? name? body :: (← readHandlers n)
    else pure []

/-- The items that a block is run with. -/
def readWithin : Nat → ReadM (List (Expr × Option Expr))
  | 0 => unexpected
  | n + 1 => do
    let e ← readExpression n
    let target? ← if ← acceptWord "as" then do
        let target ← readPrimary n
        bindTargets n target
        pure (some target)
      else pure none
    if ← accept "," then
      if ← isNext ")" then pure [(e, target?)] else return (e, target?) :: (← readWithin n)
    else pure [(e, target?)]

/-- A definition, with what it is passed through. -/
def readDefinition : Nat → List Expr → ReadM Statement
  | 0, _ => unexpected
  | n + 1, decorators => do
    let start := (← peek).span
    if ← accept "@" then
      let e ← readNamed n
      if !(← acceptToken .newline) then unexpected
      readDefinition n (decorators ++ [e])
    else if ← acceptWord "class" then
      let name ← readName
      let bases ← if ← accept "(" then readArguments n [] else pure []
      let span ← since start
      let (body, _) ← inScope .empty (readBlock n ⟨"class definition", start.line⟩)
      bind name
      pure (.defineClass span name bases decorators body)
    else
      let _ ← acceptWord "async"
      if !(← acceptWord "def") then unexpected
      let name ← readName
      expect "("
      let (parameters, own) ← readParameters n ")" true
      expect ")"
      if ← accept "->" then
        let _ ← readExpression n
      let span ← since start
      let (body, names) ← inScope { Names.empty with own } (readBlock n ⟨"function definition", start.line⟩)
      bind name
      pure (.define span name parameters decorators names body)

/-- One statement with a block, or the statements of one line. -/
def readStatement : Nat → ReadM (List Statement)
  | 0 => unexpected
  | n + 1 => do
    let start := (← peek).span
    match (← peek).token with
    | .name "if" =>
      skip
      let test ← readTest n
      let span ← since start
      let yes ← readBlock n ⟨"'if' statement", start.line⟩
      return [.branch span test yes (← readOtherwise n)]
    | .name "while" =>
      skip
      let test ← readTest n
      let span ← since start
      let body ← inLoop (readBlock n ⟨"'while' statement", start.line⟩)
      return [.loop span test body (← readElse n)]
    | .name "for" =>
      skip
      let target ← readTargets n
      if !(← acceptWord "in") then unexpected
      let source ← readAll n
      let span ← since start
      let body ← inLoop (readBlock n ⟨"'for' statement", start.line⟩)
      return [.each span target source body (← readElse n)]
    | .name "try" =>
      skip
      let body ← readBlock n ⟨"'try' statement", start.line⟩
      let handlers ← readHandlers n
      let otherwise ← readElse n
      let after := (← peek).span
      let final ← if ← acceptWord "finally" then readBlock n ⟨"'finally' statement", after.line⟩ else do
        if handlers.isEmpty then fail "expected 'except' or 'finally' block"
        pure []
      pure [.attempt body handlers otherwise final]
    | .name "with" =>
      skip
      let s ← get
      let grouped : ReadM (List (Expr × Option Expr)) := do
        expect "("
        let items ← readWithin n
        expect ")"
        if !(← isNext ":") then unexpected
        pure items
      let items ← match if s.tokens.head?.any (·.token = .operator "(") then (grouped.run s).toOption else none with
        | some (items, after) =>
          set after
          pure items
        | none => readWithin n
      let span ← since start
      return [.within span items (← readBlock n ⟨"'with' statement", start.line⟩)]
    | .name "def" | .name "class" | .name "async" | .operator "@" => return [← readDefinition n []]
    | _ => readLine n n

end

end ReadM

/-- The statements of a program. -/
def Statement.ofText (text : String) : Except ReadFault (List Statement) := do
  let tokens ← Token.ofText text.toList 1 0 true
  let (statements, _) ← (ReadM.readStatements (40 * text.length + 1000)).run ⟨tokens, default, [.empty], 0⟩
  pure statements

end ReleaseMatrix.Indented
