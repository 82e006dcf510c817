import ReleaseMatrix.Text

namespace ReleaseMatrix.Shell

/-- White space before a number. -/
def isNumberSpace (c : Char) : Bool :=
  c = ' ' || (9 ≤ c.toNat && c.toNat ≤ 13)

/-- What a number at the start of a text looks like. -/
structure Numeral where
  isNegative : Bool
  magnitude : Nat
  /-- What follows the number. -/
  rest : List Char
deriving DecidableEq, Repr

namespace Numeral

/-- The base of the digits in a text, and the text without the sign of the base. -/
def splitBase (cs : List Char) : Nat × List Char :=
  match cs with
  | '0' :: x :: digit :: rest =>
    if (x = 'x' || x = 'X') && Text.isDigitIn 16 digit then (16, digit :: rest) else (8, cs)
  | '0' :: _ => (8, cs)
  | cs => (10, cs)

/-- The number at the start of a text, after white space. Its base may be told by how it starts. -/
def read? (findsBase : Bool) (cs : List Char) : Option Numeral :=
  let cs := cs.dropWhile isNumberSpace
  let (isNegative, cs) := match cs with
    | '-' :: rest => (true, rest)
    | '+' :: rest => (false, rest)
    | cs => (false, cs)
  let (base, cs) := if findsBase then splitBase cs else (10, cs)
  let digits := cs.takeWhile (Text.isDigitIn base)
  if digits.isEmpty then none
  else some ⟨isNegative, Text.numberOf base digits, cs.drop digits.length⟩

def value (n : Numeral) : Int :=
  if n.isNegative then -(n.magnitude : Int) else n.magnitude

/-- Whether the number has 64 bits at most. -/
def fits (n : Numeral) : Bool :=
  Int64.minValue.toInt ≤ n.value && n.value ≤ Int64.maxValue.toInt

/-- The number of 64 bits that is closest. -/
def nearest (n : Numeral) : Int64 :=
  if n.fits then Int64.ofInt n.value
  else if n.isNegative then Int64.minValue
  else Int64.maxValue

end Numeral

/-- The number that a whole text stands for. White space around it does not matter. An empty text is zero
where the number may be written in several bases. -/
def integerOf? (findsBase : Bool) (cs : List Char) : Option Int64 :=
  match Numeral.read? findsBase cs with
  | some n => if n.fits && n.rest.all isNumberSpace then some n.nearest else none
  | none => if findsBase && cs.all isNumberSpace then some 0 else none

/-- A count as commands take it: neither negative nor too large. -/
def countOf? (cs : List Char) : Option Nat := do
  let n ← integerOf? false cs
  if 0 ≤ n && n ≤ 2147483647 then some n.toInt.toNat else none

/-- A fraction that is not negative. -/
structure Fraction where
  numerator : Nat
  denominator : Nat
deriving DecidableEq, Repr

/-- A number as it is written with a point and a power of ten. -/
inductive Decimal
  | finite (isNegative : Bool) (value : Fraction)
  | infinite (isNegative : Bool)
  | undefined
deriving DecidableEq, Repr

namespace Fraction

def powerOfTen (n : Nat) : Nat :=
  Nat.pow 10 n

/-- The whole number closest to a fraction, an even one if two are. -/
def round (f : Fraction) : Nat :=
  let quotient := f.numerator / f.denominator
  let twice := 2 * (f.numerator % f.denominator)
  if twice > f.denominator || (twice = f.denominator && quotient % 2 = 1) then quotient + 1 else quotient

/-- The fraction times a power of two. -/
def shift (f : Fraction) (exponent : Int) : Fraction :=
  if exponent < 0 then ⟨f.numerator, f.denominator <<< exponent.natAbs⟩
  else ⟨f.numerator <<< exponent.natAbs, f.denominator⟩

/-- The fraction times a power of ten. -/
def scale (f : Fraction) (exponent : Int) : Fraction :=
  if exponent < 0 then ⟨f.numerator, f.denominator * powerOfTen exponent.natAbs⟩
  else ⟨f.numerator * powerOfTen exponent.natAbs, f.denominator⟩

/-- The exponent of the lowest of the 53 binary digits that are kept of a fraction. -/
def lowestBit (f : Fraction) : Int :=
  let guess : Int := (f.numerator.log2 : Int) - f.denominator.log2 - 53
  let fits (e : Int) : Bool := (f.shift (-e)).round < 9007199254740992
  max (-1074) (if fits guess then guess else if fits (guess + 1) then guess + 1 else guess + 2)

/-- The fraction with 53 binary digits at most, the closest one; nothing if it is too large. -/
def toBinary? (f : Fraction) : Option Fraction :=
  if f.numerator = 0 then some ⟨0, 1⟩
  else
    let e := f.lowestBit
    if e > 971 then none else some ((Fraction.mk (f.shift (-e)).round 1).shift e)

end Fraction

namespace Decimal

/-- The number at the start of a text, after white space, and what follows it. -/
def read? (cs : List Char) : Option (Decimal × List Char) :=
  let cs := cs.dropWhile isNumberSpace
  let (isNegative, cs) := match cs with
    | '-' :: rest => (true, rest)
    | '+' :: rest => (false, rest)
    | cs => (false, cs)
  let lower := cs.map Char.toLower
  let startsWith (word : String) : Bool := word.toList.isPrefixOf lower
  if startsWith "infinity" then some (infinite isNegative, cs.drop 8)
  else if startsWith "inf" then some (infinite isNegative, cs.drop 3)
  else if startsWith "nan" then some (undefined, cs.drop 3)
  else
    match Numeral.splitBase cs with
    | (16, digits) =>
      let whole := digits.takeWhile (Text.isDigitIn 16)
      some (finite isNegative ⟨Text.numberOf 16 whole, 1⟩, digits.drop whole.length)
    | _ =>
      let whole := cs.takeWhile Char.isDigit
      let rest := cs.drop whole.length
      let part := if rest.head? = some '.' then rest.tail.takeWhile Char.isDigit else []
      if whole.isEmpty && part.isEmpty then none
      else
        let rest := if rest.head? = some '.' then rest.drop (part.length + 1) else rest
        let value : Fraction := ⟨Text.numberOf 10 (whole ++ part), 1⟩
        let (exponent, rest) := readExponent rest
        some (finite isNegative (value.scale (exponent - part.length)), rest)
where
  /-- The power of ten after a number. Powers beyond what numbers can have do not differ. -/
  readExponent (cs : List Char) : Int × List Char :=
    match cs with
    | e :: rest =>
      match if e = 'e' || e = 'E' then Numeral.read? false rest else none with
      | some n =>
        if rest.head?.any isNumberSpace then (0, cs) else (max (-5000) (min 5000 n.value), n.rest)
      | none => (0, cs)
    | [] => (0, cs)

/-- The digits of a whole number, with zeros before them up to a width. -/
def digits (width n : Nat) : List Char :=
  let ds := (toString n).toList
  List.replicate (width - ds.length) '0' ++ ds

/-- A fraction with a number of digits after the point. -/
def fixed (precision : Nat) (keepsPoint : Bool) (f : Fraction) : List Char :=
  let ds := digits (precision + 1) (f.scale precision).round
  let whole := ds.take (ds.length - precision)
  let part := ds.drop (ds.length - precision)
  whole ++ if part.isEmpty && !keepsPoint then [] else '.' :: part

/-- The exponent of the first digit of a fraction that is rounded to a number of digits after that one. -/
def exponentOf (precision : Nat) (f : Fraction) : Int :=
  if f.numerator = 0 then 0
  else
    let guess : Int := ((toString f.numerator).length : Int) - (toString f.denominator).length
    let fits (e : Int) : Bool :=
      let n := (f.scale (precision - e)).round
      n < Fraction.powerOfTen (precision + 1)
    if fits (guess - 1) then guess - 1 else if fits guess then guess else guess + 1

/-- A fraction with one digit before the point and a power of ten. -/
def scientific (precision : Nat) (keepsPoint isUpper : Bool) (f : Fraction) : List Char :=
  let e := exponentOf precision f
  let mantissa := fixed precision keepsPoint ⟨(f.scale (precision - e)).round, Fraction.powerOfTen precision⟩
  let sign := if e < 0 then '-' else '+'
  mantissa ++ (if isUpper then 'E' else 'e') :: sign :: digits 2 e.natAbs

/-- A fraction in the shorter of the two ways, with a number of digits in all. -/
def general (precision : Nat) (keepsZeros isUpper : Bool) (f : Fraction) : List Char :=
  let precision := max 1 precision
  let e := exponentOf (precision - 1) f
  let dropZeros (cs : List Char) : List Char :=
    if cs.contains '.' && !keepsZeros then
      let kept := (cs.reverse.dropWhile (· = '0'))
      (if kept.head? = some '.' then kept.tail else kept).reverse
    else cs
  if e < -4 || e ≥ precision then
    let text := scientific (precision - 1) keepsZeros isUpper f
    let mantissa := text.takeWhile fun c => c ≠ 'e' && c ≠ 'E'
    dropZeros mantissa ++ text.drop mantissa.length
  else dropZeros (fixed (precision - 1 - e).toNat keepsZeros f)

end Decimal

end ReleaseMatrix.Shell
