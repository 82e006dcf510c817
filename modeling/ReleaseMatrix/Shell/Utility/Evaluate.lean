import ReleaseMatrix.Regex.Reader
import ReleaseMatrix.Shell.Utility.Basic

namespace ReleaseMatrix.Shell.Utility

/-- Words that are evaluated as an expression: the ones that are left, and the last one that was read. -/
structure Wording where
  rest : List Octets
  last : Octets

abbrev WordingM := StateT Wording (Except Octets)

namespace WordingM

def next? : WordingM (Option Octets) := do
  return (← get).rest.head?

/-- Reads a word if it is one of the given ones. -/
def accept? (words : List Octets) : WordingM (Option Octets) := do
  match (← get).rest with
  | word :: rest =>
    if words.contains word then
      set (⟨rest, word⟩ : Wording)
      pure (some word)
    else pure none
  | [] => pure none

/-- Reads a word, which must be there. -/
def take : WordingM Octets := do
  let s ← get
  match s.rest with
  | word :: rest =>
    set (⟨rest, word⟩ : Wording)
    pure word
  | [] => throw ("syntax error: missing argument after " ++ quoted s.last)

/-- A text as a whole number. -/
def integer? (text : Octets) : Option Int :=
  let (isNegative, digits) := match text.toList with
    | '-' :: cs => (true, cs)
    | cs => (false, cs)
  if digits.isEmpty || !digits.all Char.isDigit then none
  else
    let n : Int := Text.numberOf 10 digits
    some (if isNegative then -n else n)

/-- Whether a value counts as nothing: it is empty, or zero. -/
def isNull (text : Octets) : Bool :=
  text.isEmpty || integer? text = some 0

/-- Matches a pattern against the start of a text. The value is the first group, or else the length. -/
def matchStart (text pattern : Octets) : WordingM Octets := do
  match Regex.read .basic pattern.toList with
  | .error fault => throw fault.text
  | .ok regex =>
    let subject := Regex.Subject.ofLine regex false text.toList
    match Regex.matchAt subject regex 0 with
    | some m =>
      if regex.groupCount > 0 then pure (String.ofList ((m.groupText? subject.text 1).getD []))
      else pure (toString (m.stop - m.start))
    | none => pure (if regex.groupCount > 0 then "" else "0")

def numbers (first second : Octets) : WordingM (Int × Int) := do
  match integer? first, integer? second with
  | some a, some b => pure (a, b)
  | _, _ => throw "non-integer argument"

/-- The result of a sign between two values. -/
def operate (sign first second : Octets) : WordingM Octets := do
  let truth (b : Bool) : Octets := if b then "1" else "0"
  match sign with
  | "+" | "-" =>
    let (a, b) ← numbers first second
    pure (toString (if sign = "+" then a + b else a - b))
  | "*" | "/" | "%" =>
    let (a, b) ← numbers first second
    if sign = "*" then pure (toString (a * b))
    else if b = 0 then throw "division by zero"
    else pure (toString (if sign = "/" then a.tdiv b else a.tmod b))
  | ":" => matchStart first second
  | sign =>
    let order := match integer? first, integer? second with
      | some a, some b => compare a b
      | _, _ => compare first second
    pure (truth (match sign with
      | "<" => order = .lt
      | "<=" => order ≠ .gt
      | "=" | "==" => order = .eq
      | "!=" => order ≠ .eq
      | ">=" => order ≠ .lt
      | _ => order = .gt))

/-- The signs between two values, those that bind tightest last. -/
def levels : List (List Octets) :=
  [["<", "<=", "=", "==", "!=", ">=", ">"], ["+", "-"], ["*", "/", "%"], [":"]]

/-- The places of a text that hold one of some characters, the first one as a number from one on. -/
def firstOf (text chars : Octets) : Nat :=
  match text.toList.findIdx? chars.toList.contains with
  | some k => k + 1
  | none => 0

/-- A part of a text that starts at a place and has a length, both told as texts. -/
def part (text start length : Octets) : Octets :=
  match integer? start, integer? length with
  | some a, some n =>
    if a < 1 || n < 1 then "" else String.ofList ((text.toList.drop (a - 1).toNat).take n.toNat)
  | _, _ => ""

mutual

/-- Evaluates values of which the first one that counts is taken. What is not needed is read only. -/
def either : Nat → Bool → WordingM Octets
  | 0, _ => throw "syntax error"
  | n + 1, isMeant => do moreEither n isMeant (← both n isMeant)

def moreEither : Nat → Bool → Octets → WordingM Octets
  | 0, _, first => pure first
  | n + 1, isMeant, first => do
    match ← accept? ["|"] with
    | none => pure first
    | some _ =>
      let second ← both n (isMeant && isNull first)
      moreEither n isMeant (if !isNull first then first else if isNull second then "0" else second)

def both : Nat → Bool → WordingM Octets
  | 0, _ => throw "syntax error"
  | n + 1, isMeant => do moreBoth n isMeant (← operations n levels isMeant)

def moreBoth : Nat → Bool → Octets → WordingM Octets
  | 0, _, first => pure first
  | n + 1, isMeant, first => do
    match ← accept? ["&"] with
    | none => pure first
    | some _ =>
      let second ← operations n levels (isMeant && !isNull first)
      moreBoth n isMeant (if isNull first || isNull second then "0" else first)

def operations : Nat → List (List Octets) → Bool → WordingM Octets
  | 0, _, _ => throw "syntax error"
  | n + 1, [], isMeant => call n isMeant
  | n + 1, signs :: more, isMeant => do moreOperations n signs more isMeant (← operations n more isMeant)

def moreOperations : Nat → List Octets → List (List Octets) → Bool → Octets → WordingM Octets
  | 0, _, _, _, first => pure first
  | n + 1, signs, more, isMeant, first => do
    match ← accept? signs with
    | none => pure first
    | some sign =>
      let second ← operations n more isMeant
      let value ← if isMeant then operate sign first second else pure first
      moreOperations n signs more isMeant value

/-- Evaluates a word that is applied to others, or one that stands for itself. -/
def call : Nat → Bool → WordingM Octets
  | 0, _ => throw "syntax error"
  | n + 1, isMeant => do
    match ← accept? ["+", "length", "match", "index", "substr"] with
    | some "+" => take
    | some "length" => do
      let text ← call n isMeant
      pure (toString text.length)
    | some "match" => do
      let text ← call n isMeant
      let pattern ← call n isMeant
      if isMeant then matchStart text pattern else pure text
    | some "index" => do
      let text ← call n isMeant
      let chars ← call n isMeant
      pure (toString (firstOf text chars))
    | some _ => do
      let text ← call n isMeant
      let start ← call n isMeant
      let length ← call n isMeant
      pure (part text start length)
    | none => primary n isMeant

def primary : Nat → Bool → WordingM Octets
  | 0, _ => throw "syntax error"
  | n + 1, isMeant => do
    match ← take with
    | "(" =>
      let value ← either n isMeant
      match ← next? with
      | some ")" =>
        let _ ← take
        pure value
      | none => throw ("syntax error: expecting ')' after " ++ quoted (← get).last)
      | some word => throw ("syntax error: expecting ')' instead of " ++ quoted word)
    | ")" => throw "syntax error: unexpected ')'"
    | word => pure word

end

/-- The value of all words. -/
def whole (words : List Octets) : WordingM Octets := do
  let value ← either (8 * words.length + 16) true
  match ← next? with
  | some word => throw ("syntax error: unexpected argument " ++ quoted word)
  | none => pure value

end WordingM

/-- Prints the value of an expression. The status is 1 if it counts as nothing, and 2 if there is none. -/
def expr : Work := fun words => do
  let words := if words.head? = some "--" then words.tail else words
  if words.isEmpty then misuse "missing operand" 2
  else match (WordingM.whole words).run ⟨words, ""⟩ with
    | .error message =>
      warn message
      pure 2
    | .ok (value, _) =>
      let status ← print (value ++ "\n")
      if status ≠ 0 then pure 3 else pure (if WordingM.isNull value then 1 else 0)

end ReleaseMatrix.Shell.Utility
