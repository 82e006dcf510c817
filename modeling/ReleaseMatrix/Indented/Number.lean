import ReleaseMatrix.Indented.Value

namespace ReleaseMatrix.Indented

open Shell (Decimal Fraction)

/-- A number: a whole one of any size, or one with 53 binary digits. -/
inductive Number
  | whole (n : Int)
  | fraction (d : Decimal)
deriving DecidableEq, Repr

namespace Number

/-- The closest number with 53 binary digits to a ratio. -/
def ofRatio (numerator : Int) (denominator : Nat) : Decimal :=
  match (Fraction.mk numerator.natAbs denominator).toBinary? with
  | some f => .finite (numerator < 0) f
  | none => .infinite (numerator < 0)

/-- The ratio that a finite number is. -/
def ratio? : Decimal → Option (Int × Nat)
  | .finite isNegative f => some (if isNegative then -f.numerator else f.numerator, f.denominator)
  | _ => none

def toDecimal : Number → Decimal
  | .whole n => ofRatio n 1
  | .fraction d => d

def toValue : Number → Value
  | .whole n => .whole n
  | .fraction d => .fraction d

def isNegative : Decimal → Bool
  | .finite isNegative f => isNegative && f.numerator ≠ 0
  | .infinite isNegative => isNegative
  | .undefined => false

def isZero : Decimal → Bool
  | .finite _ f => f.numerator = 0
  | _ => false

/-- How two numbers compare, if they do. -/
def compare? (a b : Decimal) : Option Ordering :=
  match a, b with
  | .undefined, _ | _, .undefined => none
  | .infinite a, .infinite b => some (Ord.compare b a)
  | .infinite a, _ => some (if a then .lt else .gt)
  | _, .infinite b => some (if b then .gt else .lt)
  | a, b =>
    match ratio? a, ratio? b with
    | some (n, d), some (m, e) => some (Ord.compare (n * e) (m * d))
    | _, _ => none

/-- How two numbers compare. Whole numbers are compared as they are. -/
def order? (a b : Number) : Option Ordering :=
  match a, b with
  | .whole a, .whole b => some (Ord.compare a b)
  | .whole a, .fraction b =>
    match ratio? b with
    | some (n, d) => some (Ord.compare (a * d) n)
    | none => compare? (.finite false ⟨0, 1⟩) b
  | .fraction a, .whole b =>
    match ratio? a with
    | some (n, d) => some (Ord.compare n (b * d))
    | none => compare? a (.finite false ⟨0, 1⟩)
  | .fraction a, .fraction b => compare? a b

def negate : Decimal → Decimal
  | .finite isNegative f => .finite (!isNegative) f
  | .infinite isNegative => .infinite (!isNegative)
  | .undefined => .undefined

def add (a b : Decimal) : Decimal :=
  match a, b with
  | .undefined, _ | _, .undefined => .undefined
  | .infinite a, .infinite b => if a = b then .infinite a else .undefined
  | .infinite a, _ => .infinite a
  | _, .infinite b => .infinite b
  | .finite a f, .finite b g =>
    if f.numerator = 0 && g.numerator = 0 then .finite (a && b) f
    else
      let sign (isNegative : Bool) (n : Nat) : Int := if isNegative then -n else n
      ofRatio (sign a f.numerator * g.denominator + sign b g.numerator * f.denominator) (f.denominator * g.denominator)

def multiply (a b : Decimal) : Decimal :=
  let differs := sign a != sign b
  match a, b with
  | .finite _ f, .finite _ g =>
    match (Fraction.mk (f.numerator * g.numerator) (f.denominator * g.denominator)).toBinary? with
    | some h => .finite differs h
    | none => .infinite differs
  | .undefined, _ | _, .undefined => .undefined
  | a, b => if isZero a || isZero b then .undefined else .infinite differs
where
  sign : Decimal → Bool
    | .finite isNegative _ => isNegative
    | .infinite isNegative => isNegative
    | .undefined => false

/-- A number divided by one that is not zero. -/
def divide (a b : Decimal) : Decimal :=
  match a, b with
  | .undefined, _ | _, .undefined | .infinite _, .infinite _ => .undefined
  | a, .infinite _ => .finite (isNegative a != isNegative b) ⟨0, 1⟩
  | a, .finite isBelow g => multiply a (.finite isBelow ⟨g.denominator, g.numerator⟩)

/-- The largest whole number below the quotient of two numbers, and what is left. -/
def divideFloor (a b : Decimal) : Decimal × Decimal :=
  match ratio? a, ratio? b with
  | some (n, d), some (m, e) =>
    let quotient := (n * e).fdiv (m * d)
    let rest := n * e - quotient * (m * d)
    let rest := ofRatio rest (d * e)
    (ofRatio quotient 1, if isZero rest then .finite (isNegative b) ⟨0, 1⟩ else rest)
  | _, _ => (.undefined, .undefined)

/-- A number to the power of a whole one that is not negative. -/
def powerOf (a : Decimal) (n : Nat) : Decimal :=
  match ratio? a with
  | some (m, d) => ofRatio (m.pow n) (Nat.pow d n)
  | none => if n = 0 then .finite false ⟨1, 1⟩ else a

/-- A number without what is behind its point. -/
def truncate? (d : Decimal) : Option Int :=
  (ratio? d).map fun (n, e) => n.tdiv e

def floor? (d : Decimal) : Option Int :=
  (ratio? d).map fun (n, e) => n.fdiv e

def ceiling? (d : Decimal) : Option Int :=
  (ratio? d).map fun (n, e) => -((-n).fdiv e)

/-- The closest whole number, an even one if two are. -/
def round? (d : Decimal) : Option Int :=
  match d with
  | .finite isNegative f => some (if isNegative then -(f.round : Int) else f.round)
  | _ => none

/-- The fewest digits after the first one that are read back as the same fraction. -/
def precisionOf (f : Fraction) : Nat :=
  let isSame (p : Nat) : Bool :=
    match Decimal.read? (Decimal.scientific p false false f) with
    | some (.finite _ g, _) =>
      match g.toBinary? with
      | some g => g.numerator * f.denominator = f.numerator * g.denominator
      | none => false
    | _ => false
  ((List.range 17).find? isSame).getD 16

/-- The shortest text that is read back as the number. -/
def text : Decimal → String
  | .undefined => "nan"
  | .infinite isNegative => if isNegative then "-inf" else "inf"
  | .finite isNegative f =>
    let sign := if isNegative then "-" else ""
    if f.numerator = 0 then sign ++ "0.0"
    else
      let p := precisionOf f
      let e := Decimal.exponentOf p f
      sign ++ String.ofList (if e < -4 || e ≥ 16 then Decimal.scientific p false false f
        else
          let whole := Decimal.fixed (p - e).toNat false f
          if whole.contains '.' then whole else whole ++ ['.', '0'])

end Number

/-- The number that a value is. -/
def Value.number? : Value → Option Number
  | .truth b => some (.whole (if b then 1 else 0))
  | .whole n => some (.whole n)
  | .fraction d => some (.fraction d)
  | _ => .none

/-- The whole number that a value is. -/
def Value.whole? : Value → Option Int
  | .truth b => some (if b then 1 else 0)
  | .whole n => some n
  | _ => .none

end ReleaseMatrix.Indented
