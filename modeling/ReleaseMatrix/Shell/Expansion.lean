import ReleaseMatrix.Shell.Arithmetic
import ReleaseMatrix.Shell.CommandReader
import ReleaseMatrix.Shell.Extended.Braces
import ReleaseMatrix.Shell.Extended.Declaration
import ReleaseMatrix.Shell.Pattern

namespace ReleaseMatrix.Shell

/-- The directory that a tilde with a name stands for. -/
def Process.homeOf? (p : Process) (user : String) : Option Octets :=
  match user with
  | "" => p.valueOf? "HOME"
  | "root" => some "/root"
  | "+" => if p.isExtended then p.valueOf? "PWD" else none
  | "-" => if p.isExtended then p.valueOf? "OLDPWD" else none
  | _ => none

/-- How patterns are written. -/
def Process.patternStyle (p : Process) : PatternStyle :=
  ⟨p.isExtended, p.switches.contains "extglob"⟩

/-- Glyphs without a difference between large and small letters. -/
def lowered (glyphs : List Glyph) : List Glyph :=
  glyphs.map fun g => { g with char := g.char.toLower }

/-- Whether a pattern matches a text in the way that the process says. -/
def Process.matchesText (p : Process) (style : PatternStyle) (pattern : List Glyph) (text : Octets) : Bool :=
  if p.switches.contains "nocasematch" then
    matchesAll (patternWith style (lowered pattern)) text.toLower.toList
  else matchesAll (patternWith style pattern) text.toList

/-- How paths are found. -/
def Process.pathRules (p : Process) : PathPattern.PathRules :=
  if p.isExtended then
    ⟨p.patternStyle, p.switches.contains "dotglob", !p.switches.contains "globskipdots",
      p.switches.contains "globstar", p.switches.contains "nocaseglob"⟩
  else .plain

/-- How the commands in words are run. -/
structure CommandRunner where
  /-- Gives the output of commands. -/
  output : Option Command → ShellM Octets
  /-- Gives the path of a pipe that commands write to, so that it can be read, or the other way round. -/
  pipePath : Bool → Option Command → ShellM Octets

namespace Expansion

/-- The parts of a text at whose start a tilde may stand for a directory. It is the last text of its word, or
something else follows. -/
def tildePart (p : Process) (endsAtColon isLast : Bool) (chars : List Char) : Word :=
  match chars with
  | '~' :: rest =>
    let user := rest.takeWhile fun c => c ≠ '/' && !(endsAtColon && c = ':')
    let after := rest.drop user.length
    if after.isEmpty && !isLast then [.text chars false]
    else match p.homeOf? (String.ofList user) with
      | some home => [.text home.toList true, .text after false]
      | none => [.text chars false]
  | chars => [.text chars false]

/-- A word with directories in place of tildes. -/
def expandTildes (p : Process) (word : Word) : Word :=
  match word with
  | .text chars false :: more => tildePart p false more.isEmpty chars ++ more
  | word => word

/-- The value of an assignment with directories in place of tildes, also after colons. -/
def expandValueTildes (p : Process) (isFirst : Bool) : Word → Word
  | [] => []
  | .text chars false :: more =>
    let pieces := Text.splitChars ':' chars
    let expand (k : Nat) (piece : List Char) : Word :=
      let isLast := more.isEmpty || k + 1 < pieces.length
      (if k = 0 then [] else [.text [':'] false]) ++
        if k = 0 && !isFirst then [.text piece false] else tildePart p true isLast piece
    (pieces.mapIdx expand).flatten ++ expandValueTildes p false more
  | part :: more => part :: expandValueTildes p false more

/-- Values in one text, where they are not kept apart. -/
def joinValues (p : Process) (values : List Octets) : Octets :=
  match p.valueOf? "IFS" with
  | none => " ".intercalate values
  | some separators => (String.ofList (separators.toList.take 1)).intercalate values

/-- The pieces of several values, in a word that may be split. -/
def valuePieces (p : Process) (values : List Octets) (isQuoted staysApart : Bool) : List Piece :=
  if isQuoted && staysApart then
    let pieces := values.map fun a => a.toList.map fun c => Piece.glyph ⟨c, true⟩ false
    if pieces.isEmpty then [] else .start true :: List.intercalate [.boundary] pieces
  else if isQuoted then Piece.ofValue (joinValues p values) true
  else Piece.ofValue ((String.singleton '\x00').intercalate values) false

/-- What a parameter that must be set, but is not, is complained about with. -/
def missing (name : String) : Octets :=
  name ++ ": parameter not set"

/-- Evaluates an expression, and sets the variables that it changes. -/
def calculate (source : Octets) : ShellM Octets := do
  match evaluateArithmetic (← ShellM.self).valueOf? source.toList with
  | .error e => ShellM.fail (e.message source)
  | .ok (value, assigned) =>
    assigned.forM fun (name, n) => ShellM.assign name (toString n)
    pure (toString value)

/-- Complains, and ends the script. -/
def stop {α : Type} (message : Octets) : ShellM α := do
  ShellM.complain message
  ShellM.setStatus 1
  throw .exit

/-- Evaluates the offset or the length of a part of what has a name. -/
def offsetOf (name text : Octets) : ShellM Int := do
  match (← ShellM.self).calculate text with
  | .ok (value, p) =>
    ShellM.modifySelf fun _ => p
    pure value.toInt
  | .error (.unbound name) => stop (name ++ ": unbound variable")
  | .error fault => ShellM.dropLine (name ++ ": " ++ fault.message)

/-- The names of variables that start in one way. -/
def namesFrom (p : Process) (start : String) : List Octets :=
  let names := (p.bindings.filter fun (name, v) => v.content?.isSome && start.toList.isPrefixOf name.toList).map (·.1)
  names.mergeSort fun a b => a ≤ b

/-- What a subject finds, the name that complaints give it, and the slot that can be set. -/
structure Access where
  found : Found
  name : Octets
  target? : Option (Octets × Slot)

/-- Finds what a text names: a parameter, or one or all elements of a list or a table. -/
def accessTo (text : Octets) : ShellM (Option Access) := do
  let p ← ShellM.self
  match text, EvaluationM.splitPlace text.toList with
  | "@", _ => pure (some ⟨.many p.arguments true, "@", none⟩)
  | "*", _ => pure (some ⟨.many p.arguments false, "*", none⟩)
  | text, (name, none) =>
    if isName text.toList then pure (some ⟨.one (p.parameter? name), name, some (name, .whole)⟩)
    else if !text.isEmpty && (text.toList.all Char.isDigit || text.toList.all isSpecialName && text.length = 1) then
      pure (some ⟨.one (p.parameter? text), text, none⟩)
    else pure none
  | text, (name, some index) =>
    if !isName name.toList || text.back ≠ ']' then pure none
    else if index = ['@'] || index = ['*'] then
      pure (some ⟨.many ((p.content? name).elim [] Value.texts) (index = ['@']), text, none⟩)
    else match ← ShellM.slotOf name (String.ofList index) with
      | some slot => pure (some ⟨.one ((p.content? name).bind (·.get? slot)), text, some (name, slot)⟩)
      | none => pure (some ⟨.one none, text, none⟩)

/-- The part of what an access finds from an offset on. -/
def partOf (p : Process) (a : Access) (offset : Int) (length? : Option Int) : Except Int Found :=
  match a.found with
  | .one none => .ok (.one none)
  | .one (some text) => (Found.part offset length? text).map fun t => .one (some t)
  | .many values staysApart =>
    let isArguments := a.name = "@" || a.name = "*"
    let content? := p.content? (EvaluationM.splitPlace a.name.toList).1
    let positions : List (Nat × Octets) := match isArguments, content? with
      | true, _ => (p.name :: values).mapIdx fun i v => (i, v)
      | false, some (.list elements) => elements
      | false, _ => values.mapIdx fun i v => (i, v)
    let size : Nat := (positions.getLast?.map (·.1 + 1)).getD 0
    let start := if offset < 0 then (size : Int) + offset else offset
    (Found.slice start length? positions).map fun vs => .many vs staysApart

/-- What is found, with each value changed. -/
def mapFound (f : Octets → Octets) : Found → Found
  | .one value? => .one (value?.map f)
  | .many values staysApart => .many (values.map f) staysApart

/-- What a letter makes of what an access finds. -/
def transformed (p : Process) (a : Access) (letter : Char) : Found :=
  let (name, index?) := EvaluationM.splitPlace a.name.toList
  let holder? := p.binding? (p.follow name)
  match letter, a.found with
  | 'a', .one value? => .one (holder?.map Variable.letters <|> value?.map fun _ => "")
  | 'a', .many values staysApart =>
    .many (values.map fun _ => (holder?.map Variable.letters).getD "") staysApart
  | 'A', .one (some value) =>
    let letters := (holder?.map Variable.letters).getD ""
    .one (some ((if letters.isEmpty then "" else "declare -" ++ letters ++ " ") ++ name ++ "=" ++
      Quoting.reusable value))
  | 'A', .many values staysApart =>
    match holder?, index? with
    | some v, some _ => .one (some (String.ofList (Variable.declaration name v).toList.dropLast))
    | _, _ => .many ["set -- " ++ " ".intercalate (values.map Quoting.reusable)] staysApart
  | 'K', .many values staysApart =>
    match holder?.bind Variable.content? with
    | some v =>
      let pairs := (v.keys.zip v.texts).map fun (k, t) => k ++ " " ++ Quoting.asValue t
      .one (some (" ".intercalate pairs ++ if v matches .table _ then " " else ""))
    | none => .many (values.map Quoting.reusable) staysApart
  | 'k', .many _ staysApart =>
    match holder?.bind Variable.content? with
    | some v => .many ((v.keys.zip v.texts).flatMap fun (k, t) => [k, t]) staysApart
    | none => .many [] staysApart
  | 'K', .one value? | 'k', .one value? => .one (value?.map Quoting.reusable)
  | letter, found => mapFound (Found.transform letter) found

variable (runner : CommandRunner)

mutual

/-- Expands one part of a word that is split, or not. Where a word stands in for a parameter, its plain text is
split as well. -/
def expandPart : Nat → Bool → Bool → WordPart → ShellM (List Piece)
  | 0, _, _, _ => throw .exhausted
  | n + 1, splits, splitsText, part => do
    let isExtended := (← ShellM.self).isExtended
    match part with
    | .mark => pure [.mark]
    | .text chars isQuoted => pure (Piece.ofText chars isQuoted (splits && splitsText && !isQuoted))
    | .arithmetic inner isQuoted =>
      let source := textOf (Piece.glyphs (← expandParts n false false inner))
      if isExtended then
        pure (Piece.ofValue (toString (← ShellM.calculate (source.replace "\"" ""))) isQuoted)
      else pure (Piece.ofValue (← calculate source) isQuoted)
    | .output body? isQuoted => pure (Piece.ofValue (← runner.output body?) isQuoted)
    | .pipePath isRead body? => do
      pure (Piece.ofText (← runner.pipePath isRead body?).toList true false)
    | .index inner =>
      let bracket (c : Char) : List Piece := Piece.ofText [c] false (splits && splitsText)
      pure (bracket '[' ++ (← expandParts n splits splitsText inner) ++ bracket ']')
    | .elements .. => pure []
    | .parameter subject change isQuoted =>
      match isExtended, subject with
      | false, .name name => expandParameter n splits name change isQuoted
      | _, subject => expandAccess n splits subject change isQuoted

/-- Expands a parameter. -/
def expandParameter : Nat → Bool → String → Change → Bool → ShellM (List Piece)
  | 0, _, _, _, _ => throw .exhausted
  | n + 1, splits, name, change, isQuoted => do
    let p ← ShellM.self
    let isList := name = "@" || name = "*"
    let current? := if isList then some (joinValues p p.arguments) else p.parameter? name
    let value (text : Octets) : List Piece :=
      if isList && splits then valuePieces p p.arguments isQuoted (name = "@") else Piece.ofValue text isQuoted
    let checked : ShellM Octets := match current? with
      | some text => pure text
      | none => if p.hasOption 'u' then ShellM.fail (missing name) else pure ""
    match change with
    | .same => do pure (value (← checked))
    | .length => do pure (Piece.ofValue (toString (← checked).length) isQuoted)
    | .strip fromEnd longest pattern =>
      let text ← checked
      if current?.isNone then pure []
      else
        let glyphs := Piece.glyphs (← expandParts n false false (expandTildes p pattern))
        pure (Piece.ofValue (String.ofList (stripMatch fromEnd longest (patternOf glyphs) text.toList)) isQuoted)
    | .instead mark orEmpty word =>
      let isMissing := current?.all fun text => orEmpty && text.isEmpty
      let word' := expandTildes p word
      match mark with
      | '+' => if isMissing then pure [] else expandParts n splits true word'
      | '-' => if isMissing then expandParts n splits true word' else pure (value (current?.getD ""))
      | _ =>
        if !isMissing then pure (value (current?.getD ""))
        else
          let text := textOf (Piece.glyphs (← expandParts n false false word'))
          if mark = '=' then
            ShellM.assign name text
            pure (Piece.ofValue text isQuoted)
          else if !word.isEmpty then ShellM.fail (name ++ ": " ++ text)
          else ShellM.fail (missing name ++ if orEmpty then " or null" else "")
    | _ => ShellM.fail "Bad substitution"

/-- Finds what a subject of the extended language stands for. -/
def findSubject : Nat → Subject → ShellM Access
  | 0, _ => throw .exhausted
  | n + 1, subject => do
    let p ← ShellM.self
    match subject with
    | .name name =>
      pure ((← accessTo name).getD ⟨.one (p.parameter? name), name, none⟩)
    | .elements name staysApart =>
      pure ⟨.many ((p.content? name).elim [] Value.texts) staysApart, name ++ "[@]", none⟩
    | .keys name staysApart => pure ⟨.many ((p.content? name).elim [] Value.keys) staysApart, name, none⟩
    | .namesFrom start staysApart => pure ⟨.many (namesFrom p start) staysApart, start, none⟩
    | .element name index =>
      let text := textOf (Piece.glyphs (← expandParts n false false index))
      if p.isTable name then
        pure ⟨.one ((p.content? name).bind (·.get? (.key text))), name ++ "[" ++ text ++ "]", some (name, .key text)⟩
      else
        let value ← ShellM.calculate text
        let p ← ShellM.self
        match p.slotAt? name value.toInt with
        | some slot =>
          pure ⟨.one ((p.content? name).bind (·.get? slot)), name ++ "[" ++ text ++ "]", some (name, slot)⟩
        | none =>
          ShellM.complain (name ++ ": bad array subscript")
          pure ⟨.one none, name, none⟩
    | .named inner =>
      match inner with
      | .name name =>
        match p.binding? name with
        | some v =>
          if v.has 'n' then return ⟨.one v.value?, name, none⟩
        | none => pure ()
      | _ => pure ()
      let a ← findSubject n inner
      match a.found with
      | .one none => stop (a.name ++ ": invalid indirect expansion")
      | .one (some text) =>
        match ← accessTo text with
        | some a => pure a
        | none => ShellM.abandon (text ++ ": invalid variable name")
      | .many values _ =>
        match ← accessTo (" ".intercalate values) with
        | some a => pure a
        | none => ShellM.abandon (" ".intercalate values ++ ": invalid variable name")

/-- Expands what a subject of the extended language stands for. -/
def expandAccess : Nat → Bool → Subject → Change → Bool → ShellM (List Piece)
  | 0, _, _, _, _ => throw .exhausted
  | n + 1, splits, subject, change, isQuoted => do
    match change with
    | .bad source => ShellM.abandon (source ++ ": bad substitution")
    | _ => pure ()
    let a ← findSubject n subject
    let p ← ShellM.self
    let pieces (found : Found) : List Piece :=
      match found with
      | .one value? => Piece.ofValue (value?.getD "") isQuoted
      | .many values staysApart =>
        if splits then valuePieces p values isQuoted staysApart
        else if staysApart then Piece.ofValue (" ".intercalate values) isQuoted
        else Piece.ofValue (joinValues p values) isQuoted
    let check : ShellM Unit := do
      match a.found with
      | .one none =>
        let shown := if a.name.toList.all Char.isDigit then "$" ++ a.name else a.name
        if p.hasOption 'u' then stop (shown ++ ": unbound variable")
      | _ => pure ()
    let patternFrom (word : Word) : ShellM (List PatternStep) := do
      let pieces ← expandParts n false false (expandTildes p word)
      pure (patternWith p.patternStyle (Piece.glyphs pieces))
    let textFrom (word : Word) : ShellM Octets := do
      pure (textOf (Piece.glyphs (← expandParts n false false word)))
    match change with
    | .same | .bad _ =>
      check
      pure (pieces a.found)
    | .length =>
      match a.found with
      | .one value? =>
        check
        pure (Piece.ofValue (toString (value?.getD "").length) isQuoted)
      | .many values _ =>
        match subject with
        | .elements name _ =>
          if p.hasOption 'u' && (p.binding? (p.follow name)).isNone then stop (name ++ ": unbound variable")
        | _ => pure ()
        pure (Piece.ofValue (toString values.length) isQuoted)
    | .strip fromEnd longest pattern =>
      check
      let steps ← patternFrom pattern
      pure (pieces (mapFound (fun text => String.ofList (stripMatch fromEnd longest steps text.toList)) a.found))
    | .part offset length? =>
      check
      if a.found matches .one none then return pieces a.found
      let name := (EvaluationM.splitPlace a.name.toList).1
      let start ← offsetOf name (← textFrom offset)
      let lengthText? ← length?.mapM textFrom
      let size? ← lengthText?.mapM (offsetOf name)
      match partOf p a start size? with
      | .ok found => pure (pieces found)
      | .error _ => ShellM.dropLine (lengthText?.getD "" ++ ": substring expression < 0")
    | .replace place pattern word =>
      check
      let steps ← patternFrom pattern
      let glyphs := Piece.glyphs (← expandParts n false false (expandTildes p word))
      let text : List (Option Char) := glyphs.map fun g => if g.char = '&' && !g.isQuoted then none else some g.char
      pure (pieces (mapFound (Found.replace place steps text) a.found))
    | .recase letters all pattern =>
      check
      let steps ← patternFrom pattern
      pure (pieces (mapFound (Found.recase letters all steps) a.found))
    | .transform letter =>
      if letter ≠ 'a' && letter ≠ 'A' then check
      pure (pieces (transformed p a letter))
    | .instead mark orEmpty word =>
      let isMissing := match a.found with
        | .one value? => value?.all fun text => orEmpty && text.isEmpty
        | .many values _ => values.isEmpty || (orEmpty && values.all String.isEmpty)
      let word' := expandTildes p word
      match mark with
      | '+' => if isMissing then pure [] else expandParts n splits true word'
      | '-' => if isMissing then expandParts n splits true word' else pure (pieces a.found)
      | _ =>
        if !isMissing then pure (pieces a.found)
        else
          let text ← textFrom word'
          if mark = '=' then
            match a.target? with
            | some (name, slot) =>
              ShellM.assignSlot name slot false text
              pure (Piece.ofValue text isQuoted)
            | none => ShellM.abandon ("$" ++ a.name ++ ": cannot assign in this way")
          else if !word.isEmpty then stop (a.name ++ ": " ++ text)
          else stop (a.name ++ ": parameter " ++ (if orEmpty then "null or " else "") ++ "not set")

def expandParts : Nat → Bool → Bool → Word → ShellM (List Piece)
  | 0, _, _, _ => throw .exhausted
  | _ + 1, _, _, [] => pure []
  | n + 1, splits, splitsText, part :: parts => do
    let first ← expandPart n splits splitsText part
    pure (first ++ (← expandParts n splits splitsText parts))

end

/-- The paths that a field of the extended language stands for. -/
def pathsOf (s : State) (field : List Glyph) : ShellM (List Octets) := do
  let rules := s.self.pathRules
  if !isWild rules.style.hasGroups field then pure [textOf field]
  else match PathPattern.paths rules s.workspace field with
    | [] =>
      if s.self.switches.contains "failglob" then ShellM.abandon ("no match: " ++ textOf field)
      else if s.self.switches.contains "nullglob" then pure []
      else pure [textOf field]
    | paths => pure paths

/-- A word with directories in place of tildes. In the extended language, this holds also for what looks like the
value of an assignment. -/
def expandWordTildes (p : Process) (word : Word) : Word :=
  match word with
  | .text chars false :: more =>
    let name := chars.takeWhile (· ≠ '=')
    let value := chars.drop (name.length + 1)
    if p.isExtended && isName name && name.length < chars.length && (value.contains '~') then
      .text (name ++ ['=']) false :: expandValueTildes p true (.text value false :: more)
    else expandTildes p word
  | word => word

/-- Expands a word without lists in braces to fields, and these to the paths that they stand for. -/
def expandPlainFields (n : Nat) (word : Word) : ShellM (List Octets) := do
  let pieces ← expandParts runner n true false (expandWordTildes (← ShellM.self) word)
  let s ← get
  let fields := splitPieces s.self.separators pieces
  if s.self.hasOption 'f' then pure (fields.map textOf)
  else if s.self.isExtended then do pure (← fields.mapM (pathsOf s)).flatten
  else pure (fields.flatMap (matchingPaths s.workspace))

/-- Expands a word to fields. In the extended language, lists in braces give several words first. -/
def expandFields (n : Nat) (word : Word) : ShellM (List Octets) := do
  let p ← ShellM.self
  if p.isExtended && p.hasOption 'B' then
    let fields ← word.unfold.mapM (expandPlainFields runner n)
    pure fields.flatten
  else expandPlainFields runner n word

/-- Expands a word to one text. -/
def expandText (n : Nat) (word : Word) : ShellM Octets := do
  let pieces ← expandParts runner n false false (expandTildes (← ShellM.self) word)
  pure (textOf (Piece.glyphs pieces))

/-- Expands the value of an assignment. -/
def expandValue (n : Nat) (word : Word) : ShellM Octets := do
  let pieces ← expandParts runner n false false (expandValueTildes (← ShellM.self) true word)
  pure (textOf (Piece.glyphs pieces))

/-- Expands a text in the script, in which tildes mean nothing. -/
def expandDocument (n : Nat) (word : Word) : ShellM Octets := do
  pure (textOf (Piece.glyphs (← expandParts runner n false false word)))

/-- Expands a word to glyphs that may be a pattern. -/
def expandGlyphs (n : Nat) (word : Word) : ShellM (List Glyph) := do
  pure (Piece.glyphs (← expandParts runner n false false (expandTildes (← ShellM.self) word)))

/-- Expands the text of an expression, in which double quotes mean nothing. -/
def expandExpression (n : Nat) (word : Word) : ShellM Octets := do
  pure ((← expandDocument runner n word).replace "\"" "")

/-- The elements that words in parentheses stand for, each with its index or key if it has one, and whether it is
added to. -/
def expandItems (n : Nat) (isTable : Bool) : List (Option Word × Bool × Word) →
    ShellM (List (Option Octets × Bool × Octets))
  | [] => pure []
  | (index?, appends, word) :: items => do
    let found ← match index? with
      | some index => do
        let index ← expandText runner n index
        pure [(some index, appends, ← expandValue runner n word)]
      | none =>
        if isTable then do pure [(none, false, ← expandValue runner n word)]
        else do pure ((← expandFields runner n word).map fun text => (none, false, text))
    pure (found ++ (← expandItems n isTable items))

/-- Puts elements into a table. Those without keys are keys and values in turn. -/
def putPairs (name : Octets) : List (Option Octets × Bool × Octets) → ShellM Unit
  | [] => pure ()
  | (some key, appends, text) :: items => do
    ShellM.assignSlot name (.key key) appends text
    putPairs name items
  | (none, _, key) :: (none, _, text) :: items => do
    ShellM.assignSlot name (.key key) false text
    putPairs name items
  | (none, _, key) :: items => do
    ShellM.assignSlot name (.key key) false ""
    putPairs name items

/-- Puts elements into a list, from an index on. -/
def putItems (name : Octets) : Nat → List (Option Octets × Bool × Octets) → ShellM Unit
  | _, [] => pure ()
  | index, (index?, appends, text) :: items => do
    let slot? ← match index? with
      | some index => ShellM.slotOf name index
      | none => pure (some (.index index))
    match slot? with
    | some (.index i) =>
      ShellM.assignSlot name (.index i) appends text
      putItems name (i + 1) items
    | _ => putItems name index items

/-- Sets a variable to a list or a table, or adds elements to it. -/
def assignItems (n : Nat) (name : Octets) (appends : Bool) (items : List (Option Word × Bool × Word)) :
    ShellM Unit := do
  let p ← ShellM.self
  let name := p.follow name
  let isTable := p.isTable name
  let found ← expandItems runner n isTable items
  let p ← ShellM.self
  let v := (p.binding? name).getD ⟨none, p.hasOption 'a', false, []⟩
  if v.isReadOnly then ShellM.abandon (name ++ ": readonly variable")
  let content : Value := match appends, v.content? with
    | true, some (.text t) => .list [(0, t)]
    | true, some content => content
    | _, _ => if isTable then .table [] else .list []
  let traits := if isTable || v.has 'a' then v.traits else 'a' :: v.traits
  let isSimple := !isTable && !v.has 'i' && !v.has 'u' && !v.has 'l' && found.all fun e => e.1.isNone
  if isSimple && !appends then
    ShellM.modifySelf (·.put name { v with content? := some (.ofTexts (found.map (·.2.2))), traits })
  else
    ShellM.modifySelf (·.put name { v with content? := some content, traits })
    if isTable then putPairs name found else putItems name content.nextIndex found

/-- Carries out an assignment of the extended language, which is told before. -/
def assign (n : Nat) (tell : Octets → Octets → ShellM Unit) (a : Assignment) : ShellM Unit := do
  let sign := if a.appends then "+=" else "="
  match a.index?, a.value with
  | none, [.elements items source] =>
    tell (a.name ++ sign ++ source) ""
    assignItems runner n a.name a.appends items
  | some index, [.elements ..] =>
    let index ← expandText runner n index
    ShellM.abandon (a.name ++ "[" ++ index ++ "]: cannot assign list to array member")
  | none, word =>
    let text ← expandValue runner n word
    tell (a.name ++ sign) text
    ShellM.assignSlot a.name .whole a.appends text
  | some index, word =>
    let text ← expandValue runner n word
    let index ← expandText runner n index
    tell (a.name ++ "[" ++ index ++ "]" ++ sign) text
    (← ShellM.slotOf a.name index).forM fun slot => ShellM.assignSlot a.name slot a.appends text

/-- Expands a word of a command that declares variables. A list is assigned at once, so that only the name of its
variable is left. -/
def expandDeclared (n : Nat) (command : Octets) (words : List Octets) (a : Assignment) : ShellM Octets := do
  let sign := if a.appends then "+=" else "="
  match a.index?, a.value with
  | none, [.elements items _] =>
    Extended.prepareList command words a.name
    assignItems runner n a.name a.appends items
    pure a.name
  | some index, word =>
    let index ← expandText runner n index
    pure (a.name ++ "[" ++ index ++ "]" ++ sign ++ (← expandValue runner n word))
  | none, word => do pure (a.name ++ sign ++ (← expandValue runner n word))

/-- Expands the words of a command one by one, after others. Where assignments are taken as arguments, their values
are kept whole. -/
def expandWords (n : Nat) (takesAssignments : Bool) (command : Octets) (before : List Octets) :
    List Word → ShellM (List Octets)
  | [] => pure []
  | word :: words => do
    let isExtended := (← ShellM.self).isExtended
    let fields ← match if takesAssignments then CommandReader.assignment? isExtended word else none with
      | some a => do pure [← expandDeclared runner n command before a]
      | none => expandFields runner n word
    pure (fields ++ (← expandWords n takesAssignments command (before ++ fields) words))

end Expansion

end ReleaseMatrix.Shell
