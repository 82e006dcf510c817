import ReleaseMatrix.Shell.Expansion
import ReleaseMatrix.Regex.Reader
import ReleaseMatrix.Shell.Extended.Comparison

namespace ReleaseMatrix.Shell

namespace Trace

/-- The value of a variable as it is told before it is set. -/
def value (text : Octets) : Octets :=
  if text.isEmpty then "" else Quoting.asWord text

/-- Words as they are told before they are called. -/
def words (fields : List Octets) : Octets :=
  " ".intercalate (fields.map Quoting.asWord)

/-- A pattern as it is told, with backslashes before what is quoted. -/
def pattern (glyphs : List Glyph) : Octets :=
  String.ofList (glyphs.flatMap fun g => if g.isQuoted then ['\\', g.char] else [g.char])

/-- A text as it is told in a test. -/
def operand (text : Octets) : Octets :=
  if text.isEmpty then "''" else text

variable (runner : CommandRunner)

/-- What stands before what is told. Its first character is repeated for each text that runs within another. -/
def lead (n : Nat) : ShellM Octets := do
  let p ← ShellM.self
  ShellM.modifySelf fun p => { p with options := p.options.filter (· ≠ 'x') }
  let text ← match p.valueOf? "PS4" with
    | some text => Expansion.expandDocument runner n (textWord true text)
    | none => pure ""
  ShellM.modifySelf fun now =>
    { now with options := p.options, status := p.status, outputStatus := p.outputStatus }
  pure (match text.toList with
    | c :: rest => String.ofList (List.replicate (max 1 p.depth) c ++ rest)
    | [] => "")

/-- Tells what comes next, if that is asked for. -/
def tell (n : Nat) (text : Octets) : ShellM Unit := do
  if (← ShellM.self).hasOption 'x' then
    let start ← lead runner n
    let _ ← ShellM.write 2 (start ++ text ++ "\n")

end Trace

namespace Extended

open ShellM (self modifySelf)

/-- Evaluates an expression for something that has a name. Nothing is given if it has no value. -/
def calculateFor (name source : Octets) : ShellM (Option Int64) := do
  match (← self).calculate source with
  | .ok (value, p) =>
    modifySelf fun _ => p
    pure (some value)
  | .error (.unbound missing) =>
    ShellM.complain (EvaluationFault.message (.unbound missing))
    ShellM.setStatus 1
    throw .exit
  | .error fault =>
    ShellM.complain (name ++ ": " ++ fault.message)
    pure none

/-- The text of a regular expression. What is quoted stands for itself. -/
def regexText (glyphs : List Glyph) : List Char :=
  glyphs.flatMap fun g =>
    if g.isQuoted && ".[]\\*^$+?()\x7b|\x7d".contains g.char then ['\\', g.char] else [g.char]

/-- The status of the search for a regular expression in a text, whose match is remembered. -/
def searchRegex (text : Octets) (pattern : List Glyph) : ShellM Nat := do
  match Regex.read .extended (regexText pattern) with
  | .error _ => pure 2
  | .ok regex =>
    let chars := text.toList.toArray
    let foldsCase := (← self).switches.contains "nocasematch"
    let found? := regex.search ⟨chars, foldsCase, false, true, true, true⟩ 0
    let texts := match found? with
      | some m => (List.range (regex.groupCount + 1)).map fun k =>
        String.ofList ((m.groupText? chars k).getD [])
      | none => []
    modifySelf (·.put "BASH_REMATCH" ⟨some (.ofTexts texts), false, false, ['a']⟩)
    pure (if found?.isSome then 0 else 1)

variable (runner : CommandRunner)

/-- The status of a test between two words. -/
def compare (n : Nat) (isNegated : Bool) (sign : String) (first second : Word) : ShellM Nat := do
  let text := textOf (← Expansion.expandGlyphs runner n first)
  let glyphs ← Expansion.expandGlyphs runner n second
  let isPattern := sign ∈ ["=", "==", "!=", "=~"]
  let shown := if isPattern then Trace.pattern glyphs else textOf glyphs
  Trace.tell runner n ("[[ " ++ (if isNegated then "! " else "") ++ Trace.operand text ++ " " ++ sign ++ " " ++
    Trace.operand shown ++ " ]]")
  let p ← self
  let statusOf (result : Bool) : Nat := if result then 0 else 1
  if sign = "=~" then searchRegex text glyphs
  else if isPattern then
    let style : PatternStyle := ⟨true, true⟩
    pure (statusOf (p.matchesText style glyphs text != (sign = "!=")))
  else if sign ∈ numberSigns then
    match ← calculateFor "[[" text with
    | none => pure 1
    | some a =>
      match ← calculateFor "[[" (textOf glyphs) with
      | none => pure 1
      | some b => pure (statusOf (compareNumbers sign a b))
  else pure (statusOf (compareTexts (← get).workspace sign text (textOf glyphs)))

/-- The status of a condition: zero if it holds. -/
def conditionStatus : Nat → Bool → Condition → ShellM Nat
  | 0, _, _ => throw .exhausted
  | n + 1, isNegated, c => do
    match c with
    | .unary sign operand =>
      let text := textOf (← Expansion.expandGlyphs runner n operand)
      Trace.tell runner n ("[[ " ++ (if isNegated then "! " else "") ++ sign ++ " " ++ Trace.operand text ++ " ]]")
      pure (if ← applyUnary sign text then 0 else 1)
    | .binary sign first second => compare runner n isNegated sign first second
    | .negation inner =>
      let status ← conditionStatus n (!isNegated) inner
      pure (if status = 0 then 1 else 0)
    | .both first second =>
      let status ← conditionStatus n false first
      if status = 0 then conditionStatus n false second else pure status
    | .either first second =>
      let status ← conditionStatus n false first
      if status = 0 then pure 0 else conditionStatus n false second

end Extended

end ReleaseMatrix.Shell
