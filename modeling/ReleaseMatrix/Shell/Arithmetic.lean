import ReleaseMatrix.Shell.Number
import ReleaseMatrix.Shell.Script

namespace ReleaseMatrix.Shell

/-- What arithmetic expressions are made of. -/
inductive Term
  | number (n : Int64)
  | name (name : String)
  | sign (sign : String)
  /-- A character that means nothing. -/
  | stray
deriving DecidableEq, Repr

/-- Why an expression has no value. -/
inductive ArithmeticError
  | expected (what : String)
  | divisionByZero
  | illegalNumber (text : String)
deriving DecidableEq, Repr

/-- The complaint about an expression that was written as given. -/
def ArithmeticError.message (source : String) : ArithmeticError → String
  | expected what => "arithmetic expression: expecting " ++ what ++ ": \"" ++ source ++ "\""
  | divisionByZero => "arithmetic expression: division by zero: \"" ++ source ++ "\""
  | illegalNumber text => "Illegal number: " ++ text

namespace Term

/-- The signs in expressions. A sign stands before the ones that it starts with. -/
def signs : List String :=
  ["<<=", ">>=", "<<", ">>", "<=", ">=", "==", "!=", "&&", "||", "+=", "-=", "*=", "/=", "%=", "&=", "^=",
    "|=", "+", "-", "*", "/", "%", "<", ">", "=", "!", "~", "?", ":", "&", "^", "|", "(", ")"]

/-- The terms of an expression of at most `n` characters. -/
def ofChars : Nat → List Char → List Term
  | 0, _ => []
  | _ + 1, [] => []
  | n + 1, c :: rest =>
    let cs := c :: rest
    if c = ' ' || c = '\t' || c = '\n' then ofChars n rest
    else if c.isDigit then
      match Numeral.read? true cs with
      | some numeral => number numeral.nearest :: ofChars n numeral.rest
      | none => [stray]
    else if isNameStart c then
      name (String.ofList (cs.takeWhile isNameChar)) :: ofChars n (cs.dropWhile isNameChar)
    else match signs.find? fun sign => sign.toList.isPrefixOf cs with
      | some found => sign found :: ofChars n (cs.drop found.length)
      | none => [stray]

end Term

/-- How tightly an operator on two numbers binds. The lowest level binds tightest. -/
def operatorLevel? (sign : String) : Option Nat :=
  match sign with
  | "*" | "/" | "%" => some 1
  | "+" | "-" => some 2
  | "<<" | ">>" => some 3
  | "<" | "<=" | ">" | ">=" => some 4
  | "==" | "!=" => some 5
  | "&" => some 6
  | "^" => some 7
  | "|" => some 8
  | _ => none

/-- The result of an operator on two numbers. -/
def operate (sign : String) (a b : Int64) : Except ArithmeticError Int64 :=
  let truth (b : Bool) : Int64 := if b then 1 else 0
  match sign with
  | "*" => pure (a * b)
  | "/" => if b = 0 then throw .divisionByZero else pure (a / b)
  | "%" => if b = 0 then throw .divisionByZero else pure (a % b)
  | "+" => pure (a + b)
  | "-" => pure (a - b)
  | "<<" => pure (a <<< b)
  | ">>" => pure (a >>> b)
  | "<" => pure (truth (a < b))
  | "<=" => pure (truth (a ≤ b))
  | ">" => pure (truth (b < a))
  | ">=" => pure (truth (b ≤ a))
  | "==" => pure (truth (a = b))
  | "!=" => pure (truth (a ≠ b))
  | "&" => pure (a &&& b)
  | "^" => pure (a ^^^ b)
  | _ => pure (a ||| b)

/-- An expression that is being evaluated: the terms that are left, and what variables got, latest first. -/
structure Calculation where
  terms : List Term
  assigned : List (String × Int64)

abbrev CalculationM := StateT Calculation (Except ArithmeticError)

namespace CalculationM

def next : CalculationM (Option Term) := do
  return (← get).terms.head?

def skip : CalculationM Unit :=
  modify fun c => { c with terms := c.terms.tail }

/-- Reads a sign that must stand here. -/
def expect (sign what : String) : CalculationM Unit := do
  if (← next) = some (.sign sign) then skip else throw (.expected what)

/-- The value of a variable: what it got in the expression, or what it holds as a number. -/
def lookUp (valueOf? : String → Option String) (name : String) : CalculationM Int64 := do
  match (← get).assigned.find? (·.1 == name) with
  | some (_, n) => pure n
  | none =>
    let text := (valueOf? name).getD ""
    match integerOf? true text.toList with
    | some n => pure n
    | none => throw (.illegalNumber text)

variable (valueOf? : String → Option String)

mutual

/-- Evaluates an assignment, or a choice. What is skipped has no effect. -/
def assignment : Nat → Bool → CalculationM Int64
  | 0, _ => throw (.expected "primary")
  | n + 1, isSkipped => do
    match (← get).terms with
    | .name name :: .sign sign :: rest =>
      if sign.back = '=' && sign ∉ ["==", "!=", "<=", ">="] then
        modify fun c => { c with terms := rest }
        let result ← assignment n isSkipped
        if isSkipped then pure result
        else
          let value ← if sign = "=" then pure result
            else do
              let old ← lookUp valueOf? name
              liftM (operate (String.ofList (sign.toList.take (sign.length - 1))) old result)
          modify fun c => { c with assigned := (name, value) :: c.assigned }
          pure value
      else choice n isSkipped
    | _ => choice n isSkipped

/-- Evaluates a condition, and one of two results if these follow. -/
def choice : Nat → Bool → CalculationM Int64
  | 0, _ => throw (.expected "primary")
  | n + 1, isSkipped => do
    let test ← either n isSkipped
    if (← next) = some (.sign "?") then
      skip
      let positive ← assignment n (isSkipped || test = 0)
      expect ":" "':'"
      let negative ← choice n (isSkipped || test ≠ 0)
      pure (if test ≠ 0 then positive else negative)
    else pure test

def either : Nat → Bool → CalculationM Int64
  | 0, _ => throw (.expected "primary")
  | n + 1, isSkipped => do
    let first ← both n isSkipped
    if (← next) = some (.sign "||") then
      skip
      let second ← either n (isSkipped || first ≠ 0)
      pure (if first ≠ 0 || second ≠ 0 then 1 else 0)
    else pure first

def both : Nat → Bool → CalculationM Int64
  | 0, _ => throw (.expected "primary")
  | n + 1, isSkipped => do
    let first ← operations n 8 isSkipped
    if (← next) = some (.sign "&&") then
      skip
      let second ← both n (isSkipped || first = 0)
      pure (if first ≠ 0 && second ≠ 0 then 1 else 0)
    else pure first

/-- Evaluates operators up to a level. -/
def operations : Nat → Nat → Bool → CalculationM Int64
  | 0, _, _ => throw (.expected "primary")
  | n + 1, 0, isSkipped => operand n isSkipped
  | n + 1, level + 1, isSkipped => do
    let first ← operations n level isSkipped
    moreOperations n (level + 1) isSkipped first

/-- Applies the operators of one level from left to right. -/
def moreOperations : Nat → Nat → Bool → Int64 → CalculationM Int64
  | 0, _, _, _ => throw (.expected "primary")
  | n + 1, level, isSkipped, first => do
    match ← next with
    | some (.sign sign) =>
      if operatorLevel? sign = some level then
        skip
        let second ← operations n (level - 1) isSkipped
        let result ← if isSkipped then pure second else liftM (operate sign first second)
        moreOperations n level isSkipped result
      else pure first
    | _ => pure first

/-- Evaluates a number, a variable, what a sign changes, or what stands in parentheses. -/
def operand : Nat → Bool → CalculationM Int64
  | 0, _ => throw (.expected "primary")
  | n + 1, isSkipped => do
    let term? ← next
    match term? with
    | some (.number value) =>
      skip
      pure value
    | some (.name name) =>
      skip
      if isSkipped then pure 0 else lookUp valueOf? name
    | some (.sign sign) =>
      match sign with
      | "(" =>
        skip
        let value ← assignment n isSkipped
        expect ")" "')'"
        pure value
      | "+" =>
        skip
        operand n isSkipped
      | "-" =>
        skip
        pure (-(← operand n isSkipped))
      | "!" =>
        skip
        pure (if (← operand n isSkipped) = 0 then 1 else 0)
      | "~" =>
        skip
        pure (~~~(← operand n isSkipped))
      | _ => throw (.expected "primary")
    | _ => throw (.expected "primary")

end

/-- Evaluates a whole expression. -/
def whole : CalculationM Int64 := do
  let value ← assignment valueOf? (16 * (← get).terms.length + 16) false
  match ← next with
  | none => pure value
  | some _ => throw (.expected "EOF")

end CalculationM

/-- The value of an expression, and what variables get by it, first one first. -/
def evaluateArithmetic (valueOf? : String → Option String) (source : List Char) :
    Except ArithmeticError (Int64 × List (String × Int64)) := do
  let (value, c) ← (CalculationM.whole valueOf?).run ⟨Term.ofChars (source.length + 1) source, []⟩
  pure (value, c.assigned.reverse)

end ReleaseMatrix.Shell
