import ReleaseMatrix.Shell.WordReader

namespace ReleaseMatrix.Shell

/-- What conditions are made of. -/
inductive ConditionToken
  | ending
  | newline
  /-- A sign that is no word. -/
  | sign (sign : String)
  | word (word : Word)

namespace ConditionReader

/-- The signs that stand before one word. -/
def unarySigns : List Char :=
  "abcdefghknoprstuvwxzGLNORS".toList

/-- The words that stand between two others. -/
def binarySigns : List String :=
  ["=", "==", "!=", "-nt", "-ot", "-ef", "-eq", "-ne", "-lt", "-le", "-gt", "-ge", "=~"]

def plainText? (word : Word) : Option String :=
  match word with
  | [.text chars false] => some (String.ofList chars)
  | _ => none

/-- Reads a token. A word is read in the given scope. -/
def readToken (outputs : OutputReader) (scope : Scope) : ReadM ConditionToken := do
  modify Source.skipBlanks
  let start := (← get).rest
  let token : ConditionToken ← match start with
    | [] => pure .ending
    | '\n' :: _ => do
      ReadM.skip
      pure .newline
    | c :: d :: _ =>
      let isWord := match scope with
        | .regex _ => c = '(' || c = '|'
        | _ => (c = '<' || c = '>') && d = '('
      if isMeta c && !isWord then do
        ReadM.skip
        if c = d && (c = '&' || c = '|') then
          ReadM.skip
          pure (.sign (String.ofList [c, c]))
        else pure (.sign (String.singleton c))
      else do pure (.word (← WordReader.readParts outputs (← WordReader.enough) scope []))
    | [c] =>
      if isMeta c then do
        ReadM.skip
        pure (.sign (String.singleton c))
      else do pure (.word (← WordReader.readParts outputs (← WordReader.enough) scope []))
  if !(token matches .newline) then
    modify fun s => { s with tokenText := start.take (start.length - s.rest.length) }
  pure token

/-- The token as complaints name it. Plain words have no name. -/
def describe? : ConditionToken → Option String
  | .ending => some "EOF"
  | .newline => some "newline"
  | .sign sign => some sign
  | .word word => if plainText? word = some "]]" then some "]]" else none

/-- Complains, and tells where. -/
def fail {α : Type} (t : ConditionToken) (message? : Option String) : ReadM α := do
  let s ← get
  let line := if t matches .newline then s.line - 1 else s.line
  let place := "syntax error near \x60" ++ String.ofList s.tokenText ++ "'"
  throw ⟨line, s.rest.length, message?.toList ++ [place], true, 2⟩

/-- A complaint that names a token where it has a name. -/
def naming (t : ConditionToken) (before after lone : String) : String :=
  match describe? t with
  | some name => before ++ "\x60" ++ name ++ "'" ++ after
  | none => lone

/-- Reads a token that is no line break. -/
def skipNewlines (outputs : OutputReader) : Nat → ReadM ConditionToken
  | 0 => pure .ending
  | n + 1 => do
    match ← readToken outputs .plain with
    | .newline => skipNewlines outputs n
    | t => pure t

def next (outputs : OutputReader) : ReadM ConditionToken := do
  skipNewlines outputs ((← get).rest.length + 2)

/-- Reads the word after a sign between two words. -/
def readSecond (outputs : OutputReader) (sign : String) : ReadM Word := do
  let hadGroups := (← get).hasGroups
  if sign ∈ ["=", "==", "!="] then modify fun s => { s with hasGroups := true }
  let t ← readToken outputs (if sign = "=~" then .regex 0 else .plain)
  modify fun s => { s with hasGroups := hadGroups }
  match t with
  | .word word =>
    if plainText? word = some "]]" then bad t else pure word
  | t => bad t
where
  bad {α : Type} (t : ConditionToken) : ReadM α :=
    fail t (some (naming t "unexpected argument " " to conditional binary operator"
      "unexpected argument to conditional binary operator"))

mutual

/-- Reads conditions of which one is enough, and the token after them. -/
def readEither (outputs : OutputReader) : Nat → ReadM (Condition × ConditionToken)
  | 0 => ReadM.fail ""
  | n + 1 => do
    let (first, t) ← readBoth outputs n
    match t with
    | .sign "||" => do
      let (second, t) ← readEither outputs n
      pure (.either first second, t)
    | t => pure (first, t)

def readBoth (outputs : OutputReader) : Nat → ReadM (Condition × ConditionToken)
  | 0 => ReadM.fail ""
  | n + 1 => do
    let (first, t) ← readTerm outputs n
    match t with
    | .sign "&&" => do
      let (second, t) ← readBoth outputs n
      pure (.both first second, t)
    | t => pure (first, t)

/-- Reads one test, and the token after it. -/
def readTerm (outputs : OutputReader) : Nat → ReadM (Condition × ConditionToken)
  | 0 => ReadM.fail ""
  | n + 1 => do
    match ← next outputs with
    | .sign "(" => do
      let (inner, t) ← readEither outputs n
      match t with
      | .sign ")" => do pure (inner, ← next outputs)
      | t => fail t (some (naming t "unexpected token " ", expected \x60)'" "expected \x60)'"))
    | .word word =>
      match plainText? word with
      | some "]]" => fail (.word word) none
      | some "!" => do
        let (inner, t) ← readTerm outputs n
        pure (.negation inner, t)
      | some sign =>
        match sign.toList with
        | ['-', c] => if unarySigns.contains c then readUnary outputs sign else readBinary outputs word
        | _ => readBinary outputs word
      | none => readBinary outputs word
    | t => fail t (some (naming t "unexpected token " " in conditional command" ""))

/-- Reads the word after a sign for one word. -/
def readUnary (outputs : OutputReader) (sign : String) : ReadM (Condition × ConditionToken) := do
  match ← readToken outputs .plain with
  | .word operand =>
    if plainText? operand = some "]]" then
      fail (.word operand) (some "unexpected argument \x60]]' to conditional unary operator")
    else pure (.unary sign operand, ← next outputs)
  | t =>
    fail t (some (naming t "unexpected argument " " to conditional unary operator"
      "unexpected argument to conditional unary operator"))

/-- Reads what follows a word. -/
def readBinary (outputs : OutputReader) (first : Word) : ReadM (Condition × ConditionToken) := do
  let alone (t : ConditionToken) : Condition × ConditionToken := (.unary "-n" first, t)
  let compared (sign : String) : ReadM (Condition × ConditionToken) := do
    let second ← readSecond outputs sign
    pure (.binary sign first second, ← next outputs)
  match ← readToken outputs .plain with
  | .sign sign =>
    if sign = "<" || sign = ">" then compared sign
    else if sign ∈ ["&&", "||", ")"] then pure (alone (.sign sign))
    else fail (.sign sign) (some ("unexpected token \x60" ++ sign ++ "', conditional binary operator expected"))
  | .word word =>
    match plainText? word with
    | some "]]" => pure (alone (.word word))
    | some sign =>
      if sign ∈ binarySigns then compared sign
      else fail (.word word) (some "conditional binary operator expected")
    | none => fail (.word word) (some "conditional binary operator expected")
  | t =>
    fail t (some (naming t "unexpected token " ", conditional binary operator expected"
      "conditional binary operator expected"))

end

/-- Reads a condition up to its closing brackets. -/
def readCondition (outputs : OutputReader) : ReadM Condition := do
  let (condition, t) ← readEither outputs (← WordReader.enough)
  match t with
  | .word word =>
    if plainText? word = some "]]" then pure condition
    else fail t (some "syntax error in conditional expression")
  | .ending => do
    let s ← get
    throw ⟨s.line, s.rest.length, ["unexpected EOF while looking for \x60]]'"], false, 2⟩
  | t => fail t (some (naming t "syntax error in conditional expression: unexpected token " ""
      "syntax error in conditional expression"))

end ConditionReader

end ReleaseMatrix.Shell
