import ReleaseMatrix.Shell.Extended.Quoting
import ReleaseMatrix.Shell.Scope

namespace ReleaseMatrix.Shell

/-- Whether the fields of an expansion stay apart even within quotes. -/
def Subject.staysApart : Subject → Bool
  | name "@" | elements _ true | keys _ true | namesFrom _ true => true
  | _ => false

namespace AccessReader

/-- Reads the characters that belong here. -/
def takeWhile (belongs : Char → Bool) : ReadM (List Char) := do
  let cs := (← get).rest.takeWhile belongs
  modify fun s => { s with rest := s.rest.drop cs.length }
  pure cs

variable (read : Scope → ReadM Word)

/-- Reads an index or a sign for all elements, if one follows the name of a variable. -/
def readIndex (name : String) : ReadM Subject := do
  if (← ReadM.acceptText "[@]") then pure (.elements name true)
  else if (← ReadM.acceptText "[*]") then pure (.elements name false)
  else if (← ReadM.accept '[') then
    let index ← ReadM.opened (read (.index 0))
    pure (.element name index)
  else pure (.name name)

/-- Reads a name or a sign that stands for a parameter, if one is here. -/
def readSubject : ReadM (Option Subject) := do
  match (← get).rest with
  | c :: _ =>
    if isNameStart c then
      let name ← takeWhile isNameChar
      some <$> readIndex read (String.ofList name)
    else if c.isDigit then
      let digits ← takeWhile Char.isDigit
      pure (some (.name (String.ofList digits)))
    else if isSpecialName c then
      ReadM.skip
      pure (some (.name (String.singleton c)))
    else pure none
  | [] => pure none

/-- Whether what stands after a sign is a parameter that the sign applies to. -/
def appliesTo (cs : List Char) : Bool :=
  match cs with
  | c :: rest =>
    isNameChar c || c = '@' || c = '*' ||
      ((c = '#' || c = '?' || c = '-' || c = '$' || c = '!') && rest.head? = some '\x7d')
  | [] => false

/-- What follows the name of variables in the same way, and ends the expansion. -/
def namesEnd? (cs : List Char) : Option Bool :=
  match cs with
  | '@' :: '\x7d' :: _ => some true
  | '*' :: '\x7d' :: _ => some false
  | _ => none

/-- Reads what stands after an exclamation mark: a parameter that names another one, or the indices of a list. -/
def readNamed : ReadM (Option Subject) := do
  match ← readSubject read with
  | some (.name name) =>
    match namesEnd? (← get).rest with
    | some staysApart =>
      if isName name.toList then
        ReadM.skip
        pure (some (.namesFrom name staysApart))
      else pure (some (.named (.name name)))
    | none => pure (some (.named (.name name)))
  | some (.elements name staysApart) => pure (some (.keys name staysApart))
  | some subject => pure (some (.named subject))
  | none => pure none

/-- Reads a word up to the closing brace, which is read too. -/
def readWord (scope : Scope) : ReadM Word :=
  ReadM.opened (read scope)

/-- Reads a pattern and, if a slash follows it, the text that takes its place. -/
def readReplacement (place : MatchPlace) : ReadM Change := do
  let pattern ← ReadM.opened (read .pattern)
  if ← ReadM.accept '/' then pure (.replace place pattern (← readWord read .braces))
  else
    let _ ← ReadM.accept '\x7d'
    pure (.replace place pattern [])

/-- Reads what happens to a value, up to the closing brace. Nothing is given if there is no such change. -/
def readChange (scope : Scope) : ReadM (Option Change) := do
  match (← get).rest with
  | '\x7d' :: _ =>
    ReadM.skip
    pure (some .same)
  | ':' :: mark :: _ =>
    ReadM.skip
    if mark ∈ ['-', '=', '+', '?'] then
      ReadM.skip
      pure (some (.instead mark true (← readWord read scope.inBraces)))
    else if mark = '\x7d' then pure none
    else
      let offset ← ReadM.opened (read (.offset 0 0))
      if ← ReadM.accept ':' then
        let length ← ReadM.opened (read (.offset 0 0))
        let _ ← ReadM.accept '\x7d'
        pure (some (.part offset (some length)))
      else
        let _ ← ReadM.accept '\x7d'
        pure (some (.part offset none))
  | '@' :: letter :: '\x7d' :: _ =>
    modify fun s => { s with rest := s.rest.drop 3 }
    pure (if letter ∈ ['Q', 'E', 'P', 'A', 'K', 'a', 'k', 'U', 'u', 'L'] then some (.transform letter) else none)
  | '/' :: c :: _ =>
    ReadM.skip
    let place : MatchPlace := if c = '/' then .everywhere else if c = '#' then .atStart
      else if c = '%' then .atEnd else .first
    if place ≠ .first then ReadM.skip
    some <$> readReplacement read place
  | c :: d :: _ =>
    let recase? : Option LetterCase := if c = '^' then some .upper else if c = ',' then some .lower
      else if c = '~' then some .opposite else none
    ReadM.skip
    if c ∈ ['-', '=', '+', '?'] then pure (some (.instead c false (← readWord read scope.inBraces)))
    else
      let isDouble := c = d
      if isDouble && (c ∈ ['#', '%'] || recase?.isSome) then ReadM.skip
      match recase? with
      | some letters => pure (some (.recase letters isDouble (← readWord read .braces)))
      | none =>
        if c ∈ ['#', '%'] then pure (some (.strip (c = '%') isDouble (← readWord read .braces)))
        else pure none
  | _ => pure none

/-- Reads an expansion after its opening brace. -/
def readAccess (scope : Scope) : ReadM (Option (Subject × Change)) := do
  let withChange (subject? : Option Subject) : ReadM (Option (Subject × Change)) := do
    match subject? with
    | none => pure none
    | some subject => do pure ((← readChange read scope).map fun change => (subject, change))
  match (← get).rest with
  | '#' :: rest =>
    if appliesTo rest then
      let start ← get
      ReadM.skip
      let subject? ← readSubject read
      if ← ReadM.accept '\x7d' then pure (subject?.map fun subject => (subject, .length))
      else
        set { start with rest }
        withChange (some (.name "#"))
    else
      ReadM.skip
      withChange (some (.name "#"))
  | '!' :: rest =>
    ReadM.skip
    if appliesTo rest then withChange (← readNamed read) else withChange (some (.name "!"))
  | _ => withChange (← readSubject read)

/-- Reads an expansion after its opening brace. One that means nothing is kept as it is written. -/
def readBraced (scope : Scope) : ReadM (Subject × Change) := do
  let start ← get
  match ← readAccess read scope with
  | some found => pure found
  | none =>
    let _ ← ReadM.opened (read scope.inBraces)
    let length := start.rest.length - (← get).rest.length
    pure (.name "", .bad (String.ofList ('$' :: '\x7b' :: start.rest.take length)))

/-- Reads what stands in single quotes after a dollar, in which backslashes start escapes. -/
def readEscaped : ReadM (List Char) := do
  let s ← get
  match Escapes.quoted? (s.rest.length + 1) s.rest with
  | some (chars, rest) =>
    let count := s.rest.length - rest.length
    set { s with rest, line := s.line + (s.rest.take count).count '\n' }
    pure chars
  | none => ReadM.failOpen "'"

end AccessReader

end ReleaseMatrix.Shell
