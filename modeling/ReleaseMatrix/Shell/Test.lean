import ReleaseMatrix.Shell.Number
import ReleaseMatrix.Shell.Pattern

namespace ReleaseMatrix.Shell

/-- What a word means to a test. -/
inductive TestWord
  | ending
  | operand
  | unary
  | binary
  | not
  | both
  | either
  | opening
  | closing
deriving DecidableEq, Repr

/-- A test that is being evaluated: the words from the one that is looked at on. -/
abbrev TestM := StateT (List Octets) (Except Octets)

namespace TestM

def unarySigns : List String :=
  ["-r", "-w", "-x", "-e", "-f", "-d", "-c", "-b", "-p", "-u", "-g", "-k", "-s", "-t", "-z", "-n", "-h", "-L",
    "-O", "-G", "-S"]

def binarySigns : List String :=
  ["=", "!=", "<", ">", "-eq", "-ne", "-ge", "-gt", "-le", "-lt", "-nt", "-ot", "-ef"]

/-- What a word can mean. -/
def meaning (word : Octets) : TestWord :=
  if word ∈ unarySigns then .unary
  else if word ∈ binarySigns then .binary
  else match word with
    | "!" => .not
    | "-a" => .both
    | "-o" => .either
    | "(" => .opening
    | ")" => .closing
    | _ => .operand

/-- What the first of some words means where a test is read. A sign that has nothing to apply to, or that is the
first operand of another, stands for itself. -/
def wordAt (words : List Octets) : TestWord :=
  match words with
  | [] => .ending
  | word :: rest =>
    match meaning word, rest with
    | .unary, [] => .operand
    | .unary, [_] => .unary
    | .unary, next :: _ => if meaning next = .binary then .operand else .unary
    | .opening, [] => .operand
    | m, _ => m

def fail {α : Type} (message : Octets) : TestM α :=
  throw message

/-- Moves on by some words. -/
def advance (n : Nat) : TestM Unit :=
  modify fun words => words.drop n

def number (word : Octets) : TestM Int64 :=
  match integerOf? false word.toList with
  | some n => pure n
  | none => fail ("Illegal number: " ++ word)

/-- What a path leads to; empty paths lead nowhere. -/
def entryOf? (w : Workspace) (path : Octets) : Option Entry :=
  w.entry? (Octets.toPath path)

/-- Applies a sign to one operand. No descriptor is a terminal. -/
def applyUnary (w : Workspace) (sign operand : Octets) : TestM Bool := do
  match sign with
  | "-z" => pure operand.isEmpty
  | "-n" => pure !operand.isEmpty
  | "-t" => do
    let _ ← number operand
    pure false
  | "-f" => pure ((entryOf? w operand).any Entry.isFile)
  | "-d" => pure (entryOf? w operand = some .directory)
  | "-c" => pure (entryOf? w operand = some .void)
  | "-s" => pure ((entryOf? w operand).any fun e => e = .directory || e.content?.any (!·.isEmpty))
  | "-x" => pure ((entryOf? w operand).any fun e => e = .directory || e.isRunnable)
  | "-h" | "-L" =>
    pure (match w.locate (Octets.toPath operand) .entry with
      | .ok l => ((w.files.get? l) matches some (.link _) : Bool)
      | .error _ => false)
  | "-p" => pure ((entryOf? w operand) matches some (.queue _) : Bool)
  | "-b" | "-u" | "-g" | "-k" | "-S" => pure false
  | _ => pure (entryOf? w operand).isSome

/-- Whether two paths lead to the same place. -/
def isSamePlace (w : Workspace) (a b : Octets) : Bool :=
  match w.find (Octets.toPath a), w.find (Octets.toPath b) with
  | .ok (a, _), .ok (b, _) => a = b || (w.files.places a).contains b
  | _, _ => false

/-- Applies a sign to two operands. All files are equally old. -/
def applyBinary (w : Workspace) (sign first second : Octets) : TestM Bool := do
  match sign with
  | "=" => pure (first = second)
  | "!=" => pure (first ≠ second)
  | "<" => pure (first < second)
  | ">" => pure (second < first)
  | "-ef" => pure (isSamePlace w first second)
  | "-nt" | "-ot" => pure false
  | sign =>
    let a ← number first
    let b ← number second
    pure (match sign with
      | "-eq" => a = b
      | "-ne" => a ≠ b
      | "-ge" => b ≤ a
      | "-gt" => b < a
      | "-le" => a ≤ b
      | _ => a < b)

mutual

def eitherOf (w : Workspace) : Nat → TestWord → TestM Bool
  | 0, _ => fail "too long"
  | n + 1, word => do
    let first ← bothOf w n word
    if wordAt (← get).tail = .either then
      advance 2
      let second ← eitherOf w n (wordAt (← get))
      pure (first || second)
    else pure first

def bothOf (w : Workspace) : Nat → TestWord → TestM Bool
  | 0, _ => fail "too long"
  | n + 1, word => do
    let first ← negated w n word
    if wordAt (← get).tail = .both then
      advance 2
      let second ← bothOf w n (wordAt (← get))
      pure (first && second)
    else pure first

def negated (w : Workspace) : Nat → TestWord → TestM Bool
  | 0, _ => fail "too long"
  | n + 1, word => do
    if word = .not then
      let next := wordAt (← get).tail
      if next ≠ .ending then advance 1
      pure (!(← negated w n next))
    else primary w n word

/-- Evaluates what stands in parentheses, or a sign with its operands. The last word looked at is its last. -/
def primary (w : Workspace) : Nat → TestWord → TestM Bool
  | 0, _ => fail "too long"
  | n + 1, word => do
    match word with
    | .ending => pure false
    | .opening => do
      advance 1
      let next := wordAt (← get)
      if next = .closing then pure false
      else
        let result ← eitherOf w n next
        advance 1
        if wordAt (← get) = .closing then pure result else fail "closing paren expected"
    | .unary => do
      let sign := (← get).headD ""
      advance 1
      match ← get with
      | [] => fail (sign ++ ": argument expected")
      | operand :: _ => applyUnary w sign operand
    | _ => do
      match ← get with
      | first :: sign :: rest =>
        if wordAt (sign :: rest) = .binary then
          advance 2
          match rest with
          | [] => fail (sign ++ ": argument expected")
          | second :: _ => applyBinary w sign first second
        else pure (first ≠ "")
      | words => pure (words.headD "" ≠ "")

end

/-- The operands of a test of three or four words in parentheses, or after a negation. -/
def strip : Nat → Bool → List Octets → Bool × Bool × List Octets
  | 0, isNegated, words => (isNegated, false, words)
  | n + 1, isNegated, words =>
    let isBinary : Bool := words.length = 3 && words[1]?.any fun sign => meaning sign = .binary
    if isBinary then (isNegated, true, words)
    else if words.length = 3 || words.length = 4 then
      if words.head? = some "(" && words.getLast? = some ")" then (isNegated, false, words.tail.dropLast)
      else if words.head? = some "!" then strip n (!isNegated) words.tail
      else (isNegated, false, words)
    else (isNegated, false, words)

/-- Evaluates a test. A test without words fails. -/
def evaluate (w : Workspace) (words : List Octets) : Except Octets Bool :=
  let (isNegated, isBinary, words) := strip words.length false words
  if words.isEmpty then .ok isNegated
  else do
    let word := if isBinary then .operand else wordAt words
    let (result, left) ← (eitherOf w (8 * words.length + 8) word).run words
    match left with
    | operator :: _ :: _ => throw (if operator = "" then "unexpected operator"
        else operator ++ ": unexpected operator")
    | _ => pure (result != isNegated)

end TestM

end ReleaseMatrix.Shell
