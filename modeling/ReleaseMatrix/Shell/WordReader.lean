import ReleaseMatrix.Shell.Extended.AccessReader

namespace ReleaseMatrix.Shell

namespace WordReader

/-- Parts that are read so far, last one first, with one character more. Their texts are reversed too. -/
def push (c : Char) (isQuoted : Bool) (parts : List WordPart) : List WordPart :=
  match parts with
  | .text chars q :: before =>
    if q = isQuoted then .text (c :: chars) q :: before else .text [c] isQuoted :: parts
  | _ => .text [c] isQuoted :: parts

/-- The word of parts that were read last one first. -/
def finish (parts : List WordPart) : Word :=
  parts.reverse.map fun
    | .text chars isQuoted => .text chars.reverse isQuoted
    | part => part

/-- Parts that are read so far, last one first, with a word that is read already after them. -/
def pushWord (word : Word) (parts : List WordPart) : List WordPart :=
  word.foldl (fun parts part => match part with
    | .text chars isQuoted => .text chars.reverse isQuoted :: parts
    | part => part :: parts) parts

/-- Reads the end of a text in the script if it stands at the start of this line. -/
def readEnd (a : Announced) : ReadM Bool := do
  if a.dropsTabs then modify fun s => { s with rest := s.rest.dropWhile (· = '\t') }
  let rest := (← get).rest
  let line := rest.takeWhile (· ≠ '\n')
  if line = a.delimiter then
    modify fun s => { s with rest := rest.drop (line.length + 1), line := s.line + 1 }
    pure true
  else
    if rest.isEmpty then modify fun s =>
      let warning := "warning: here-document at line " ++ toString a.line ++
        " delimited by end-of-file (wanted \x60" ++ String.ofList a.delimiter ++ "')"
      { s with warnings := s.warnings ++ [(s.line - 1, warning)] }
    pure rest.isEmpty

/-- Reads the lines of a text that is not expanded. -/
def readLines (a : Announced) : Nat → List Char → ReadM (List Char)
  | 0, chars => pure chars
  | n + 1, chars => do
    if ← readEnd a then pure chars
    else
      let rest := (← get).rest
      let line := rest.takeWhile (· ≠ '\n')
      let whole := line ++ (rest.drop line.length).take 1
      modify fun s => { s with rest := rest.drop whole.length, line := s.line + 1 }
      readLines a n (chars ++ whole)

/-- Reads what single quotes cover. -/
def readSingle : ReadM (List Char) := do
  let rest := (← get).rest
  let chars := rest.takeWhile (· ≠ '\'')
  modify fun s => { s with rest := rest.drop chars.length, line := s.line + chars.count '\n' }
  if (← get).rest.isEmpty then
    if (← get).isExtended then ReadM.failOpen "'" else ReadM.fail "Unterminated quoted string"
  ReadM.skip
  pure chars

/-- Fails because the script ends between backquotes. -/
def failBackquoted {α : Type} : ReadM α := do
  if (← get).isExtended then ReadM.failOpen "\x60" else ReadM.fail "EOF in backquote substitution"

/-- The script between backquotes: the backslashes before signs that have a meaning there are gone. -/
def readBackquoted (inQuotes : Bool) : Nat → List Char → ReadM (List Char)
  | 0, chars => pure chars
  | n + 1, chars => do
    match ← ReadM.peek with
    | none => failBackquoted
    | some '\x60' =>
      ReadM.skip
      pure chars.reverse
    | some '\\' =>
      ReadM.skip
      match (← get).rest.head? with
      | none => failBackquoted
      | some c =>
        ReadM.skip
        let isProtected := c ∈ ['\\', '\x60', '$'] || (inQuotes && c = '"')
        readBackquoted inQuotes n (if isProtected then c :: chars else c :: '\\' :: chars)
    | some c =>
      ReadM.skip
      readBackquoted inQuotes n (c :: chars)

/-- The name of the parameter at the start of what stands in braces, whether its length is meant, and what
follows. There is no name if the braces hold none. -/
def splitName (cs : List Char) : Option String × Bool × List Char :=
  match cs with
  | '#' :: c :: rest =>
    if isNameChar c then (some (nameOf (c :: rest)), true, afterName (c :: rest))
    else if c = '\x7d' || rest.head? ≠ some '\x7d' then (some "#", false, c :: rest)
    else if isSpecialName c then (some (String.singleton c), true, rest)
    else (none, false, rest)
  | c :: rest =>
    if isNameChar c then (some (nameOf cs), false, afterName cs)
    else if c = '\x7d' then (none, false, cs)
    else if isSpecialName c then (some (String.singleton c), false, rest)
    else (none, false, rest)
  | [] => (none, false, [])
where
  belongs (cs : List Char) : Char → Bool :=
    if cs.head?.any Char.isDigit then Char.isDigit else isNameChar
  nameOf (cs : List Char) : String := String.ofList (cs.takeWhile (belongs cs))
  afterName (cs : List Char) : List Char := cs.dropWhile (belongs cs)

/-- Reads a sign that means no change. A line break there is not counted as one. -/
def skipSign : ReadM Unit :=
  modify fun s => { s with rest := s.rest.tail }

/-- Reads the sign of a change up to its word. The word stands in a scope of its own. -/
def readChange (scope : Scope) : ReadM ((Word → Change) × Scope) := do
  match ← ReadM.peek with
  | some ':' =>
    ReadM.skip
    let mark? ← ReadM.peek
    skipSign
    match mark? with
    | some c => pure (if c ∈ ['-', '=', '+', '?'] then .instead c true else fun _ => .bad "", scope.inBraces)
    | none => pure (fun _ => .bad "", scope.inBraces)
  | some c =>
    if c ∈ ['-', '=', '+', '?'] then
      ReadM.skip
      pure (.instead c false, scope.inBraces)
    else if c ∈ ['#', '%'] then
      ReadM.skip
      let isLongest ← ReadM.accept c
      pure (.strip (c = '%') isLongest, .braces)
    else
      skipSign
      pure (fun _ => .bad "", scope.inBraces)
  | none => pure (fun _ => .bad "", scope.inBraces)

/-- Whether the parts before a parenthesis, last one first, say that a list is assigned. -/
def isAssigned (parts : List WordPart) : Bool :=
  match parts with
  | [.text ('=' :: chars) false] =>
    let name := if chars.head? = some '+' then chars.tail else chars
    isName name.reverse
  | [.text sign false, .index _, .text _ false] => sign = ['='] || sign = ['=', '+']
  | _ => false

/-- Whether quotes that hold only these parts may stand for no field at all. -/
def mayVanish (isExtended : Bool) (quoted : Word) : Bool :=
  match quoted with
  | [.parameter (.name "@") .same _] => true
  | [.parameter _ .length _] => false
  | [.parameter subject _ _] => isExtended && subject.staysApart
  | _ => false

/-- What a character between parentheses does to the number of open ones. Nothing is left if it closes the one
that was opened before them. -/
def countParentheses (depth : Nat) (c : Char) : Option Nat :=
  if c = '(' then some (depth + 1)
  else if c = ')' then if depth = 0 then none else some (depth - 1)
  else some depth

/-- The operator at the start of a text whose first character is given. -/
def operatorIn (c : Char) (cs : List Char) : Octets :=
  let longer := ["<<<", "<<-", "&>>", ";;&", "&&", "||", ";;", ";&", "|&", "<<", ">>", "<&", ">&", "<>", ">|", "&>"]
  (longer.find? fun operator => operator.toList.isPrefixOf cs).getD (String.singleton c)

/-- Reads commands up to a closing parenthesis. -/
def readCommands (outputs : OutputReader) : ReadM (Option Command) := do
  let outer ← get
  set { outer with pushed? := none, announced := [] }
  let body? ← outputs.inParentheses
  modify fun s => { s with pushed? := none, announced := outer.announced }
  pure body?

mutual

/-- Reads the parts of a word or of a text up to where its scope ends. -/
def readParts (outputs : OutputReader) : Nat → Scope → List WordPart → ReadM Word
  | 0, _, parts => pure (finish parts)
  | n + 1, scope, parts => do
    let literally (c : Char) : ReadM Word := do
      ReadM.skip
      readParts outputs n scope (push c scope.isQuoted parts)
    let isExtended := (← get).isExtended
    match ← ReadM.peek with
    | none =>
      match scope.complaint? with
      | some message => if isExtended then ReadM.failOpen scope.closing else ReadM.fail message
      | none => pure (finish parts)
    | some '\\' =>
      ReadM.skip
      match (← get).rest.head? with
      | none => readParts outputs n scope (push '\\' true parts)
      | some c =>
        ReadM.skip
        let parts := if scope.isProtected c then parts else push '\\' true parts
        readParts outputs n scope (push c true parts)
    | some '\'' =>
      if scope.startsQuotes then
        let chars ← ReadM.opened do
          ReadM.skip
          readSingle
        readParts outputs n scope (.text chars.reverse true :: .mark :: parts)
      else literally '\''
    | some '"' =>
      match scope with
      | .quotes _ =>
        ReadM.skip
        pure (finish parts)
      | .quotedBraces isReopened inDocument =>
        ReadM.skip
        readParts outputs n (.quotedBraces (!isReopened) inDocument) parts
      | scope =>
        if scope.startsQuotes then
          let quoted ← ReadM.opened do
            ReadM.skip
            readParts outputs n (.quotes scope.expands) []
          let parts := if mayVanish isExtended quoted then parts else .mark :: parts
          readParts outputs n scope (pushWord quoted parts)
        else literally '"'
    | some '$' =>
      if !scope.expands then literally '$'
      else
        let start ← get
        ReadM.skip
        match scope, isExtended, (← get).rest with
        | .regex depth, true, c :: _ =>
          if isNameChar c || isSpecialName c || c = '\x7b' || c = '(' || c = '\'' || c = '"' then
            readParts outputs n (.regex depth) (← readDollar outputs n (.regex depth) parts)
          else
            set start
            literally '$'
        | scope, _, _ => readParts outputs n scope (← readDollar outputs n scope parts)
    | some '\x60' =>
      if !scope.expands then literally '\x60'
      else
        let script ← ReadM.opened do
          ReadM.skip
          readBackquoted scope.isQuoted ((← get).rest.length + 1) []
        let outer ← get
        set { outer with rest := script, line := 1, pushed? := none, announced := [], substitutions := [] }
        let body? ← outputs.whole
        modify fun s => { outer with documents := s.documents, documentCount := s.documentCount }
        readParts outputs n scope (.output body? scope.isQuoted :: parts)
    | some '\x7d' =>
      match scope with
      | .braces | .quotedBraces false _ =>
        ReadM.skip
        pure (finish parts)
      | .pattern | .offset 0 _ => pure (finish parts)
      | _ => literally '\x7d'
    | some '\n' =>
      match scope with
      | .plain | .delimiter | .regex 0 => pure (finish parts)
      | .document a =>
        ReadM.skip
        let parts := push '\n' true parts
        if ← readEnd a then pure (finish parts) else readParts outputs n scope parts
      | _ => literally '\n'
    | some c =>
      match scope with
      | .plain =>
        match ← if isExtended then readForm outputs n scope c parts else pure none with
        | some parts => readParts outputs n scope parts
        | none => if isMeta c then pure (finish parts) else literally c
      | .braces =>
        match ← if isExtended then readForm outputs n scope c parts else pure none with
        | some parts => readParts outputs n scope parts
        | none => literally c
      | .delimiter => if isMeta c then pure (finish parts) else literally c
      | .pattern => if c = '/' then pure (finish parts) else literally c
      | .offset parentheses questions =>
        if parentheses = 0 && questions = 0 && c = ':' then pure (finish parts)
        else
          let questions := if c = '?' then questions + 1 else if c = ':' then questions - 1 else questions
          let parentheses := (countParentheses parentheses c).getD 0
          ReadM.skip
          readParts outputs n (.offset parentheses questions) (push c true parts)
      | .index depth =>
        if c = ']' && depth = 0 then
          ReadM.skip
          pure (finish parts)
        else
          ReadM.skip
          let depth := if c = '[' then depth + 1 else if c = ']' then depth - 1 else depth
          readParts outputs n (.index depth) (push c false parts)
      | .group depth =>
        ReadM.skip
        match countParentheses depth c with
        | none => pure (finish parts)
        | some depth => readParts outputs n (.group depth) (push c false parts)
      | .regex depth =>
        if depth = 0 && (isMeta c && c ∉ ['|', '(', ')'] || c = ')') then pure (finish parts)
        else
          ReadM.skip
          readParts outputs n (.regex ((countParentheses depth c).getD 0)) (push c false parts)
      | .arithmetic depth =>
        if c = '(' then
          ReadM.skip
          readParts outputs n (.arithmetic (depth + 1)) (push c true parts)
        else if c = ')' then
          ReadM.skip
          if depth > 0 then readParts outputs n (.arithmetic (depth - 1)) (push c true parts)
          else if ← ReadM.accept ')' then pure (finish parts)
          else if isExtended then ReadM.fail "Missing '))'"
          else readParts outputs n scope (push c true parts)
        else literally c
      | .steering depth =>
        if depth = 0 && c = ';' then pure (finish parts)
        else match countParentheses depth c with
          | some depth =>
            ReadM.skip
            readParts outputs n (.steering depth) (push c true parts)
          | none => pure (finish parts)
      | _ => literally c

/-- Reads what a character starts in a word of the extended language besides itself, and adds it to the parts
before, last one first. Nothing is read if it starts nothing. -/
def readForm (outputs : OutputReader) : Nat → Scope → Char → List WordPart → ReadM (Option (List WordPart))
  | 0, _, _, _ => pure none
  | n + 1, scope, c, parts => do
    let s ← get
    let isOpening := s.rest.tail.head? = some '('
    if (c = '<' || c = '>') && isOpening && scope matches .plain then
      ReadM.opened do
        modify fun s => { s with rest := s.rest.drop 2 }
        let body? ← readCommands outputs
        pure (some (.pipePath (c = '<') body? :: parts))
    else if s.hasGroups && isOpening && c ∈ ['?', '*', '+', '@', '!'] then
      ReadM.opened do
        modify fun s => { s with rest := s.rest.drop 2 }
        let inner ← readParts outputs n (.group 0) []
        pure (some (push ')' false (pushWord inner (push '(' false (push c false parts)))))
    else match c, parts, scope with
      | '[', [.text name false], .plain =>
        if !isName name.reverse then pure none
        else
          let found? ← ReadM.attempt do
            ReadM.skip
            let index ← readParts outputs n (.index 0) []
            match (← get).rest with
            | '=' :: _ | '+' :: '=' :: _ => pure index
            | _ => ReadM.fail ""
          pure (found?.map fun index => .index index :: parts)
      | '(', parts, .plain =>
        if !isAssigned parts then pure none
        else
          ReadM.inList <| ReadM.opened do
            ReadM.skip
            let items ← readItems outputs n []
            let length := s.rest.length - (← get).rest.length
            pure (some (.elements items (String.ofList (s.rest.take length)) :: parts))
      | _, _, _ => pure none

/-- Reads the elements of a list up to its closing parenthesis. -/
def readItems (outputs : OutputReader) : Nat → List (Option Word × Bool × Word) →
    ReadM (List (Option Word × Bool × Word))
  | 0, items => pure items
  | n + 1, items => do
    modify Source.skipBlanks
    match ← ReadM.peek with
    | none => ReadM.failOpen ")"
    | some ')' =>
      ReadM.skip
      pure items
    | some '\n' =>
      ReadM.skip
      readItems outputs n items
    | some '[' =>
      let found? ← ReadM.attempt do
        ReadM.skip
        let index ← readParts outputs n (.index 0) []
        let appends ← ReadM.accept '+'
        if ← ReadM.accept '=' then pure (index, appends) else ReadM.fail ""
      let word ← readParts outputs n .plain []
      readItems outputs n (items ++ [match found? with
        | some (index, appends) => (some index, appends, word)
        | none => (none, false, word)])
    | some c =>
      let word ← readParts outputs n .plain []
      if word.isEmpty then
        let s ← get
        throw ⟨s.line, s.rest.length,
          ["syntax error near unexpected token \x60" ++ operatorIn c s.rest ++ "'"], true, 2⟩
      readItems outputs n (items ++ [(none, false, word)])

/-- Reads what follows a dollar, and adds it to the parts before. -/
def readDollar (outputs : OutputReader) : Nat → Scope → List WordPart → ReadM (List WordPart)
  | 0, _, parts => pure parts
  | n + 1, scope, parts => do
    let isExtended := (← get).isExtended
    let output : ReadM (List WordPart) := do
      let body? ← ReadM.opened (readCommands outputs)
      pure (.output body? scope.isQuoted :: parts)
    match ← ReadM.peek with
    | some '(' =>
      if isExtended then
        let inner? ← ReadM.attempt do
          if ← ReadM.acceptText "((" then readParts outputs n (.arithmetic 0) [] else ReadM.fail ""
        match inner? with
        | some inner => pure (.arithmetic inner scope.isQuoted :: parts)
        | none =>
          ReadM.skip
          output
      else
        ReadM.skip
        if ← ReadM.accept '(' then
          let inner ← readParts outputs n (.arithmetic 0) []
          pure (.arithmetic inner scope.isQuoted :: parts)
        else output
    | some '\x7b' =>
      if isExtended then
        let (subject, change) ← ReadM.opened do
          ReadM.skip
          AccessReader.readBraced (fun scope => readParts outputs n scope []) scope
        pure (.parameter subject change scope.isQuoted :: parts)
      else
        ReadM.skip
        let _ ← ReadM.peek
        readBraces outputs n scope parts
    | some c =>
      if isNameStart c then
        let name ← ReadM.takeWhile isNameChar
        pure (.parameter (.name (String.ofList name)) .same scope.isQuoted :: parts)
      else if isSpecialName c || c.isDigit then
        ReadM.skip
        pure (.parameter (.name (String.singleton c)) .same scope.isQuoted :: parts)
      else if isExtended && c = '\'' && scope.startsQuotes then
        let chars ← ReadM.opened do
          ReadM.skip
          AccessReader.readEscaped
        pure (.text chars.reverse true :: .mark :: parts)
      else if isExtended && c = '"' && scope.startsQuotes then pure parts
      else if isExtended && c = '[' then
        let inner ← ReadM.opened do
          ReadM.skip
          readParts outputs n (.index 0) []
        pure (.arithmetic inner scope.isQuoted :: parts)
      else pure (push '$' scope.isQuoted parts)
    | none => pure (push '$' scope.isQuoted parts)

/-- Reads an expansion in braces after its opening brace. -/
def readBraces (outputs : OutputReader) : Nat → Scope → List WordPart → ReadM (List WordPart)
  | 0, _, parts => pure parts
  | n + 1, scope, parts => do
    let (name?, isLength, rest) := splitName (← get).rest
    modify fun s => { s with rest }
    match name? with
    | none =>
      let _ ← readParts outputs n scope.inBraces []
      pure (.parameter (.name "") (.bad "") scope.isQuoted :: parts)
    | some name =>
      let changed (change : Change) : List WordPart := .parameter (.name name) change scope.isQuoted :: parts
      if isLength then
        let isWhole := (← ReadM.peek) = some '\x7d'
        let _ ← readParts outputs n scope.inBraces []
        pure (changed (if isWhole then .length else .bad ""))
      else if ← ReadM.accept '\x7d' then pure (changed .same)
      else if (← get).rest.take 2 = [':', '\x7d'] then
        modify fun s => { s with rest := s.rest.drop 2 }
        let word ← readParts outputs n scope.inBraces []
        pure (pushWord word (changed .same))
      else
        let (change, inner) ← readChange scope
        let word ← readParts outputs n inner []
        pure (changed (change word))

end

/-- How often a reader may go on with the script that is left. -/
def enough : ReadM Nat := do
  return 2 * (← get).rest.length + 8

/-- Reads one word. The word is empty if the next character ends one. -/
def readWord (outputs : OutputReader) : ReadM Word := do
  readParts outputs (← enough) .plain []

/-- Reads the word that ends a text in the script: its characters, and whether there are quotes in it. -/
def readDelimiter (outputs : OutputReader) : ReadM (List Char × Bool × Bool) := do
  let word ← readParts outputs (← enough) .delimiter []
  let chars := word.flatMap fun
    | .text chars _ => chars
    | _ => []
  let isQuoted := word.any fun
    | .text _ isQuoted => isQuoted
    | _ => true
  pure (chars, isQuoted, word.isEmpty)

/-- Reads the text that was announced. -/
def readDocument (outputs : OutputReader) (a : Announced) : ReadM Unit := do
  let text : Word ←
    if a.expands then
      if ← readEnd a then pure [] else readParts outputs (← enough) (.document a) []
    else pure [.text (← readLines a ((← get).rest.length + 1) []) true]
  modify fun s => { s with documents := (a.number, text) :: s.documents }

/-- Reads the texts that were announced, once a line ends. -/
def readDocuments (outputs : OutputReader) : ReadM Unit := do
  let announced := (← get).announced
  modify fun s => { s with announced := [] }
  announced.forM (readDocument outputs)

end WordReader

end ReleaseMatrix.Shell
