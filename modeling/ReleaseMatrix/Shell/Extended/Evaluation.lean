import ReleaseMatrix.Shell.Number
import ReleaseMatrix.Shell.Scope

namespace ReleaseMatrix.Shell

/-- Why an expression has no value. -/
inductive EvaluationFault
  /-- Something is wrong with an expression where some of it is left. -/
  | wrong (source rest : List Char) (message : String)
  | unbound (name : Octets)
  | readOnly (name : Octets)
deriving DecidableEq, Repr

/-- What was read last in an expression. -/
inductive EvaluationToken
  | ending
  | number
  | name
  | sign (sign : String)
  /-- An assignment that applies an operator first. -/
  | change (operator : String)
  | stepBefore (step : Int64)
  | stepAfter (step : Int64)
deriving DecidableEq, Repr

/-- An expression that is being evaluated. -/
structure Evaluation where
  process : Process
  source : List Char
  rest : List Char
  /-- What was left before the last token. -/
  last : List Char
  token : EvaluationToken
  /-- The token before the last one. -/
  before : EvaluationToken
  value : Int64
  /-- The variable or the element that was read last, as it is written. -/
  place : List Char
  /-- The slot of it, once that is known. -/
  slot? : Option Slot
  /-- Whether what is read has no effect. -/
  isSkipped : Bool

abbrev EvaluationM := StateT Evaluation (Except EvaluationFault)

namespace EvaluationM

def fail {α : Type} (message : String) : EvaluationM α := do
  let c ← get
  throw (.wrong c.source c.last message)

def isBlank (c : Char) : Bool :=
  c = ' ' || c = '\t' || c = '\n' || c = '\r'

/-- The value of a digit, in which letters count on. -/
def digitValue (base : Nat) (c : Char) : Nat :=
  if c.isDigit then c.toNat - '0'.toNat
  else if c.isLower then c.toNat - 'a'.toNat + 10
  else if c.isUpper then c.toNat - 'A'.toNat + if base ≤ 36 then 10 else 36
  else if c = '@' then 62
  else 63

/-- Reads the digits of a number that may tell its base first. -/
def readDigits (base : Nat) (hasBase : Bool) : Int64 → List Char → EvaluationM Int64
  | value, [] => pure value
  | value, '#' :: rest => do
    if hasBase then fail "invalid number"
    if value < 2 || 64 < value then fail "invalid arithmetic base"
    if rest.isEmpty then fail "invalid integer constant"
    let base := value.toInt.toNat
    rest.foldlM (fun value c => do
      if c = '#' then fail "invalid number"
      let d := digitValue base c
      if d ≥ base then fail "value too great for base"
      pure (value * Int64.ofNat base + Int64.ofNat d)) 0
  | value, c :: rest => do
    let d := digitValue base c
    if d ≥ base then fail "value too great for base"
    readDigits base hasBase (value * Int64.ofNat base + Int64.ofNat d) rest

def readNumber (cs : List Char) : EvaluationM Int64 :=
  match cs with
  | ['0'] => pure 0
  | '0' :: x :: digits => if x = 'x' || x = 'X' then readDigits 16 true 0 digits else readDigits 8 true 0 (x :: digits)
  | cs => readDigits 10 false 0 cs

/-- How many characters an index has, its closing bracket included. -/
def indexLength? : Nat → List Char → Option Nat
  | _, [] => none
  | depth, '[' :: cs => (indexLength? (depth + 1) cs).map (· + 1)
  | 0, ']' :: _ => some 1
  | depth + 1, ']' :: cs => (indexLength? depth cs).map (· + 1)
  | depth, '\\' :: _ :: cs => (indexLength? depth cs).map (· + 2)
  | depth, _ :: cs => (indexLength? depth cs).map (· + 1)

/-- The name and the index in the text of a variable or an element. -/
def splitPlace (place : List Char) : String × Option (List Char) :=
  let name := place.takeWhile isNameChar
  match place.drop name.length with
  | '[' :: index => (String.ofList name, some index.dropLast)
  | _ => (String.ofList name, none)

/-- The signs with more than one character, longest first. -/
def longSigns : List String :=
  ["==", "!=", ">=", "<=", "<<", ">>", "&&", "||", "**"]

/-- Reads a sign. Which one two equal signs for a step make depends on what is around them. -/
def readSign (cs : List Char) : EvaluationM Unit := do
  let c ← get
  let take (token : EvaluationToken) (n : Nat) : EvaluationM Unit :=
    modify fun c => { c with before := c.token, token, rest := cs.drop n }
  let step (c : Char) : Int64 := if c = '+' then 1 else -1
  match cs with
  | '<' :: '<' :: '=' :: _ => take (.change "<<") 3
  | '>' :: '>' :: '=' :: _ => take (.change ">>") 3
  | a :: more =>
    let b := more.headD ' '
    match longSigns.find? (·.toList == [a, b]) with
    | some sign => take (.sign sign) 2
    | none =>
      if (a = '+' || a = '-') && a = b then
        let isStacked := match c.before with
          | .stepBefore _ => true
          | _ => false
        if c.token = .name then take (.stepAfter (step a)) 2
        else if c.token = .number && isStacked then
          fail (String.ofList [a, a] ++ ": assignment requires lvalue")
        else if (more.tail.dropWhile isBlank).head?.any isNameStart then take (.stepBefore (step a)) 2
        else take (.sign (String.singleton a)) 1
      else if b = '=' && "*/%+-&^|".contains a then take (.change (String.singleton a)) 2
      else if "=<>+-*/%!()&|^~?:,".contains a then take (.sign (String.singleton a)) 1
      else match c.token with
        | .name | .number => fail "syntax error: invalid arithmetic operator"
        | _ => fail "syntax error: operand expected"
  | [] => pure ()

/-- The result of an operator. -/
def operate (operator : String) (a b : Int64) : Int64 :=
  let truth (b : Bool) : Int64 := if b then 1 else 0
  match operator with
  | "*" => a * b
  | "/" => a / b
  | "%" => a % b
  | "+" => a + b
  | "-" => a - b
  | "<<" => a <<< b
  | ">>" => a >>> b
  | "<" => truth (a < b)
  | "<=" => truth (a ≤ b)
  | ">" => truth (b < a)
  | ">=" => truth (b ≤ a)
  | "==" => truth (a = b)
  | "!=" => truth (a ≠ b)
  | "&" => a &&& b
  | "^" => a ^^^ b
  | _ => a ||| b

/-- The operators on two numbers, those that bind tightest first. -/
def levels : List (List String) :=
  [["*", "/", "%"], ["+", "-"], ["<<", ">>"], ["<=", ">=", "<", ">"], ["==", "!="], ["&"], ["^"], ["|"]]

/-- A number to a power. -/
def power (a : Int64) : Nat → Int64
  | 0 => 1
  | n + 1 =>
    let half := power a ((n + 1) / 2)
    if (n + 1) % 2 = 0 then half * half else half * half * a
termination_by n => n

/-- Does work in which nothing has an effect if that is said. -/
def skipping {α : Type} (isSkipped : Bool) (work : EvaluationM α) : EvaluationM α := do
  let before := (← get).isSkipped
  modify fun c => { c with isSkipped := before || isSkipped }
  let result ← work
  modify fun c => { c with isSkipped := before }
  pure result

variable (inner : List Char → EvaluationM Int64)

/-- The slot that the text of a variable or an element means. -/
def slotOf (place : List Char) : EvaluationM (String × Slot) := do
  match splitPlace place with
  | (name, none) => pure (name, .whole)
  | (name, some index) =>
    if (← get).process.isTable name then pure (name, .key (String.ofList index))
    else
      let value ← inner index
      match (← get).process.slotAt? name value.toInt with
      | some slot => pure (name, slot)
      | none => throw (.wrong [] [] (name ++ ": bad array subscript"))

/-- The value of a variable or an element. What it holds may be an expression itself. -/
def evaluate (place : List Char) : EvaluationM Int64 := do
  let (name, slot) ← slotOf inner place
  let p := (← get).process
  match (p.content? name).bind (·.get? slot) with
  | some text =>
    modify fun c => { c with slot? := some slot }
    inner text.toList
  | none =>
    if p.hasOption 'u' && (p.content? name).isNone then throw (.unbound name)
    modify fun c => { c with slot? := some slot }
    pure 0

/-- Sets a variable or an element that was read, of which the slot may be known. -/
def bind (place : List Char) (slot? : Option Slot) (value : Int64) : EvaluationM Unit := do
  if !(← get).isSkipped then
    let (name, slot) ← match slot? with
      | some slot => pure ((splitPlace place).1, slot)
      | none => slotOf inner place
    let p := (← get).process
    if (p.binding? (p.follow name)).any Variable.isReadOnly then throw (.readOnly name)
    modify fun c => { c with process := p.store name slot (toString value) }

/-- Reads the next token. A variable is evaluated unless it is about to be set. -/
def readToken : EvaluationM Unit := do
  let cs := (← get).rest.dropWhile isBlank
  match cs with
  | [] => modify fun c => { c with before := c.token, token := .ending, rest := [] }
  | first :: _ =>
    modify fun c => { c with rest := cs, last := cs }
    if isNameStart first then
      let name := cs.takeWhile isNameChar
      let after := cs.drop name.length
      let length ← match after with
        | '[' :: index => match indexLength? 0 index with
          | some n => pure (n + 1)
          | none => fail "bad array subscript"
        | _ => pure 0
      let place := name ++ after.take length
      let rest := after.drop length
      modify fun c => { c with place, slot? := none }
      let c ← get
      let isSet := match rest.dropWhile isBlank with
        | '=' :: '=' :: _ => false
        | '=' :: _ => true
        | _ => false
      let value ← if c.isSkipped || isSet then pure 0 else evaluate inner place
      modify fun now => { c with
        process := now.process, slot? := now.slot?, value, rest, before := c.token, token := .name }
    else if first.isDigit then
      let digits := cs.takeWhile fun c => c.isAlphanum || c = '#' || c = '@' || c = '_'
      let value ← readNumber digits
      modify fun c => { c with
        value, rest := cs.drop digits.length, before := c.token, token := .number }
    else readSign cs

def isNext (sign : String) : EvaluationM Bool := do
  return (← get).token = .sign sign

mutual

/-- Expressions with commas between them. The value is that of the last one. -/
def sequence : Nat → EvaluationM Int64
  | 0 => fail "expression recursion level exceeded"
  | n + 1 => do
    let value ← assignment n
    moreSequence n value

def moreSequence : Nat → Int64 → EvaluationM Int64
  | 0, _ => fail "expression recursion level exceeded"
  | n + 1, value => do
    if ← isNext "," then
      readToken inner
      let value ← assignment n
      moreSequence n value
    else pure value

def assignment : Nat → EvaluationM Int64
  | 0 => fail "expression recursion level exceeded"
  | n + 1 => do
    let value ← choice n
    let c ← get
    let operator? ← match c.token with
      | .sign "=" => pure (some none)
      | .change operator => pure (some (some operator))
      | _ => pure none
    match operator? with
    | none => pure value
    | some operator? =>
      if c.before ≠ .name then fail "attempted assignment to non-variable"
      readToken inner
      let operand ← assignment n
      let result ← match operator? with
        | none => pure operand
        | some operator =>
          if (operator = "/" || operator = "%") && operand = 0 then
            if (← get).isSkipped then pure value else fail "division by 0"
          else pure (operate operator value operand)
      bind inner c.place c.slot? result
      pure result

def choice : Nat → EvaluationM Int64
  | 0 => fail "expression recursion level exceeded"
  | n + 1 => do
    let test ← either n
    if ← isNext "?" then
      let positive ← skipping (test = 0) do
        readToken inner
        if (← get).token = .ending || (← isNext ":") then fail "expression expected"
        sequence n
      if !(← isNext ":") then fail "\x60:' expected for conditional expression"
      let negative ← skipping (test ≠ 0) do
        readToken inner
        if (← get).token = .ending then fail "expression expected"
        choice n
      modify fun c => { c with before := .sign "?" }
      pure (if test ≠ 0 then positive else negative)
    else pure test

def either : Nat → EvaluationM Int64
  | 0 => fail "expression recursion level exceeded"
  | n + 1 => do
    let first ← both n
    moreEither n first

def moreEither : Nat → Int64 → EvaluationM Int64
  | 0, _ => fail "expression recursion level exceeded"
  | n + 1, first => do
    if ← isNext "||" then
      let second ← skipping (first ≠ 0) do
        readToken inner
        both n
      modify fun c => { c with before := .sign "||" }
      moreEither n (if first ≠ 0 || second ≠ 0 then 1 else 0)
    else pure first

def both : Nat → EvaluationM Int64
  | 0 => fail "expression recursion level exceeded"
  | n + 1 => do
    let first ← operations n levels.length
    moreBoth n first

def moreBoth : Nat → Int64 → EvaluationM Int64
  | 0, _ => fail "expression recursion level exceeded"
  | n + 1, first => do
    if ← isNext "&&" then
      let second ← skipping (first = 0) do
        readToken inner
        operations n levels.length
      modify fun c => { c with before := .sign "&&" }
      moreBoth n (if first ≠ 0 && second ≠ 0 then 1 else 0)
    else pure first

/-- Applies operators up to a level. -/
def operations : Nat → Nat → EvaluationM Int64
  | 0, _ => fail "expression recursion level exceeded"
  | n + 1, 0 => powers n
  | n + 1, level + 1 => do
    let first ← operations n level
    moreOperations n level first

/-- Applies the operators of one level from left to right. -/
def moreOperations : Nat → Nat → Int64 → EvaluationM Int64
  | 0, _, _ => fail "expression recursion level exceeded"
  | n + 1, level, first => do
    match (← get).token with
    | .sign sign =>
      if sign ∈ levels.getD level [] then
        let start := (← get).rest
        readToken inner
        let second ← operations n level
        let isDivision : Bool := (sign = "/" || sign = "%") && second = 0
        if isDivision && !(← get).isSkipped then
          modify fun c => { c with last := start.dropWhile isBlank }
          fail "division by 0"
        modify fun c => { c with before := .number }
        moreOperations n level (if isDivision then first else operate sign first second)
      else pure first
    | _ => pure first

/-- A number to the power of another, from right to left. -/
def powers : Nat → EvaluationM Int64
  | 0 => fail "expression recursion level exceeded"
  | n + 1 => do
    let first ← signed n
    if ← isNext "**" then
      readToken inner
      let second ← powers n
      modify fun c => { c with before := .number }
      if second < 0 then fail "exponent less than 0"
      pure (power first second.toInt.toNat)
    else pure first

def signed : Nat → EvaluationM Int64
  | 0 => fail "expression recursion level exceeded"
  | n + 1 => do
    let apply (f : Int64 → Int64) : EvaluationM Int64 := do
      readToken inner
      let value ← signed n
      modify fun c => { c with before := .number }
      pure (f value)
    match (← get).token with
    | .sign "!" => apply fun a => if a = 0 then 1 else 0
    | .sign "~" => apply fun a => ~~~a
    | .sign "-" => apply fun a => -a
    | .sign "+" => apply id
    | _ => operand n

/-- A number, a variable, what stands in parentheses, or a variable that is counted up or down. -/
def operand : Nat → EvaluationM Int64
  | 0 => fail "expression recursion level exceeded"
  | n + 1 => do
    match (← get).token with
    | .stepBefore step =>
      modify fun c => { c with before := c.token }
      readToken inner
      let c ← get
      if c.token ≠ .name then fail "identifier expected after pre-increment or pre-decrement"
      let value := c.value + step
      bind inner c.place c.slot? value
      modify fun c => { c with token := .number }
      readToken inner
      pure value
    | .sign "(" =>
      readToken inner
      let value ← sequence n
      if !(← isNext ")") then fail "missing \x60)'"
      readToken inner
      pure value
    | .number =>
      let value := (← get).value
      readToken inner
      pure value
    | .name =>
      let c ← get
      skipping true (readToken inner)
      match (← get).token with
      | .stepAfter step =>
        modify fun now => { now with place := c.place, slot? := c.slot?, before := .name }
        bind inner c.place c.slot? (c.value + step)
        modify fun now => { now with token := .number }
        readToken inner
      | _ =>
        set c
        readToken inner
        modify fun now => match now.token with
          | .sign "=" | .change _ => { now with place := c.place, slot? := c.slot? }
          | _ => now
      pure c.value
    | _ => fail "syntax error: operand expected"

end

end EvaluationM

namespace Evaluation

open EvaluationM in
/-- Evaluates an expression within another one. A number bounds how deep they go. -/
def evaluateWithin : Nat → List Char → EvaluationM Int64
  | 0, _ => EvaluationM.fail "expression recursion level exceeded"
  | depth + 1, source => do
    let rest := source.dropWhile isBlank
    if rest.isEmpty then pure 0
    else
      let outer ← get
      set { outer with source, rest := source, last := source, token := .ending, before := .ending }
      readToken (evaluateWithin depth)
      let value ← sequence (evaluateWithin depth) (32 * source.length + 64)
      if (← get).token ≠ .ending then EvaluationM.fail "syntax error in expression"
      modify fun c => { outer with process := c.process }
      pure value

/-- How deep expressions may stand within each other. -/
def depthLimit : Nat := 1024

end Evaluation

/-- The value of an expression, and the process once variables are set by it. -/
def Process.calculate (p : Process) (source : Octets) : Except EvaluationFault (Int64 × Process) :=
  let start : Evaluation := ⟨p, [], [], [], .ending, .ending, 0, [], none, false⟩
  ((Evaluation.evaluateWithin Evaluation.depthLimit source.toList).run start).map fun (value, c) =>
    (value, c.process)

/-- The complaint about an expression that has no value. -/
def EvaluationFault.message : EvaluationFault → Octets
  | wrong source rest message =>
    let source := String.ofList (source.dropWhile fun c => c = ' ' || c = '\t')
    if source.isEmpty then message
    else source ++ ": " ++ message ++ " (error token is \"" ++ String.ofList rest ++ "\")"
  | unbound name => name ++ ": unbound variable"
  | readOnly name => name ++ ": readonly variable"

end ReleaseMatrix.Shell
