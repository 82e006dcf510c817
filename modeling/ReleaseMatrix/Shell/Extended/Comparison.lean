import ReleaseMatrix.Shell.Extended.Declaration
import ReleaseMatrix.Shell.Test

namespace ReleaseMatrix.Shell

namespace Extended

open ShellM (self)

/-- Whether a text names a variable or an element that holds something. -/
def isSet (text : Octets) : ShellM Bool := do
  let p ← self
  match EvaluationM.splitPlace text.toList with
  | (name, none) => pure (if isName text.toList then (p.content? name).any fun c => (c.get? .whole).isSome
      else (text.toNat?.filter fun n => n ≤ p.arguments.length).isSome)
  | (name, some index) =>
    match p.content? name with
    | none => pure false
    | some content =>
      if index = ['@'] || index = ['*'] then pure (!content.texts.isEmpty)
      else match ← ShellM.slotOf name (String.ofList index) with
        | some slot => pure (content.get? slot).isSome
        | none => pure false

/-- Applies a sign to one word. -/
def applyUnary (sign operand : Octets) : ShellM Bool := do
  let s ← get
  match sign with
  | "-a" => pure (TestM.entryOf? s.workspace operand).isSome
  | "-v" => isSet operand
  | "-R" => pure ((s.self.binding? operand).any fun v => v.has 'n' && v.content?.isSome)
  | "-o" => pure (hasNamedOption s.self operand)
  | "-N" | "-t" => pure false
  | sign => pure (((TestM.applyUnary s.workspace sign operand).run []).toOption.any (·.1))

def unarySigns : List String :=
  TestM.unarySigns ++ ["-a", "-v", "-R", "-o", "-N"]

def binarySigns : List String :=
  TestM.binarySigns ++ ["=="]

/-- The result of a comparison of numbers. -/
def compareNumbers (sign : Octets) (a b : Int64) : Bool :=
  match sign with
  | "-eq" => a = b
  | "-ne" => a ≠ b
  | "-ge" => b ≤ a
  | "-gt" => b < a
  | "-le" => a ≤ b
  | _ => a < b

def numberSigns : List String :=
  ["-eq", "-ne", "-ge", "-gt", "-le", "-lt"]

/-- Applies a sign other than those for numbers to two words. A file is newer than none. -/
def compareTexts (w : Workspace) (sign first second : Octets) : Bool :=
  let isThere (path : Octets) : Bool := (TestM.entryOf? w path).isSome
  match sign with
  | "-nt" => isThere first && !isThere second
  | "-ot" => isThere second && !isThere first
  | sign =>
    let sign := if sign = "==" then "=" else sign
    ((TestM.applyBinary w sign first second).run []).toOption.any (·.1)

/-- A test that is being evaluated: the words that are left, and a complaint if it means nothing. -/
abbrev WordTestM := StateT (List Octets) (ExceptT Octets ShellM)

namespace WordTestM

def fail {α : Type} (message : Octets) : WordTestM α :=
  throw message

def advance (n : Nat) : WordTestM Unit :=
  modify fun words => words.drop n

/-- Moves on to a word that must be there. -/
def advanceTo : WordTestM Unit := do
  advance 1
  if (← get).isEmpty then fail "argument expected"

def number (word : Octets) : WordTestM Int64 :=
  match integer? word with
  | some n => pure n
  | none => fail (word ++ ": integer expression expected")

def unary (sign operand : Octets) : WordTestM Bool := do
  if sign = "-t" && (integer? operand).isNone then fail (operand ++ ": integer expression expected")
  liftM (m := ShellM) (applyUnary sign operand)

def binary (first sign second : Octets) : WordTestM Bool := do
  if sign ∈ numberSigns then
    let a ← number first
    let b ← number second
    pure (compareNumbers sign a b)
  else do
    let s ← liftM (m := ShellM) (get : ShellM State)
    pure (compareTexts s.workspace sign first second)

mutual

def either : Nat → WordTestM Bool
  | 0 => fail "argument expected"
  | n + 1 => do
    let first ← both n
    if (← get).head? = some "-o" then
      advanceTo
      let second ← either n
      pure (first || second)
    else pure first

def both : Nat → WordTestM Bool
  | 0 => fail "argument expected"
  | n + 1 => do
    let first ← term n
    if (← get).head? = some "-a" then
      advanceTo
      let second ← both n
      pure (first && second)
    else pure first

def term : Nat → WordTestM Bool
  | 0 => fail "argument expected"
  | n + 1 => do
    match ← get with
    | [] => fail "argument expected"
    | "!" :: _ =>
      advanceTo
      pure !(← term n)
    | "(" :: _ =>
      advanceTo
      let result ← either n
      match ← get with
      | [] => fail "\x60)' expected"
      | ")" :: _ =>
        advance 1
        pure result
      | found :: _ => fail ("\x60)' expected, found " ++ found)
    | first :: rest =>
      match rest with
      | sign :: second :: _ =>
        if sign ∈ binarySigns then
          advance 3
          binary first sign second
        else if first ∈ unarySigns then
          advance 2
          unary first sign
        else
          advance 1
          pure (first ≠ "")
      | [operand] =>
        if first ∈ unarySigns then
          advance 2
          unary first operand
        else
          advance 1
          pure (first ≠ "")
      | [] =>
        advance 1
        pure (first ≠ "")

end

def ofTwo (first second : Octets) : WordTestM Bool :=
  if first = "!" then pure (second = "")
  else if first ∈ unarySigns then unary first second
  else fail (first ++ ": unary operator expected")

def ofThree (first second third : Octets) : WordTestM Bool := do
  if second ∈ binarySigns then binary first second third
  else if second = "-a" then pure (first ≠ "" && third ≠ "")
  else if second = "-o" then pure (first ≠ "" || third ≠ "")
  else if first = "!" then pure !(← ofTwo second third)
  else if first = "(" && third = ")" then pure (second ≠ "")
  else fail (second ++ ": binary operator expected")

/-- Evaluates words of any number as one expression. -/
def ofMany (words : List Octets) : WordTestM Bool := do
  set words
  let result ← either (4 * words.length + 4)
  match ← get with
  | [] => pure result
  | word :: _ =>
    if word.toList.head? = some '-' then fail ("syntax error: \x60" ++ word ++ "' unexpected")
    else fail "too many arguments"

def ofWords (words : List Octets) : WordTestM Bool :=
  match words with
  | [] => pure false
  | [word] => pure (word ≠ "")
  | [a, b] => ofTwo a b
  | [a, b, c] => ofThree a b c
  | [a, b, c, d] =>
    if a = "!" then do pure !(← ofThree b c d)
    else if a = "(" && d = ")" then ofTwo b c
    else ofMany words
  | words => ofMany words

end WordTestM

/-- Tests words. -/
def test (name : Octets) (words : List Octets) : ShellM Nat := do
  if name = "[" && words.getLast? ≠ some "]" then refuse "missing \x60]'" 2
  else
    let words := if name = "[" then words.dropLast else words
    match ← ((WordTestM.ofWords words).run words).run with
    | .ok (result, _) => pure (if result then 0 else 1)
    | .error message => refuse message 2

end Extended

end ReleaseMatrix.Shell
