import ReleaseMatrix.Toml.Table
import ReleaseMatrix.Text

namespace ReleaseMatrix.Toml

open Text (Found)

/-- Reads more digits. A single underscore may stand between two of them and is dropped. -/
def readMoreDigits (base : Nat) : List Char → Option (Found (List Char))
  | '_' :: c :: rest =>
    if Text.isDigitIn base c then (readMoreDigits base rest).map fun (digits, rest) => (c :: digits, rest)
    else none
  | c :: rest =>
    if Text.isDigitIn base c then (readMoreDigits base rest).map fun (digits, rest) => (c :: digits, rest)
    else if c = '_' then none
    else some ([], c :: rest)
  | [] => some ([], [])

/-- Reads one digit or more. -/
def readDigits (base : Nat) : List Char → Option (Found (List Char))
  | c :: rest =>
    if Text.isDigitIn base c then (readMoreDigits base rest).map fun (digits, rest) => (c :: digits, rest)
    else none
  | [] => none

/-- Reads a sign if there is one, and says whether it is a minus. -/
def readSign : List Char → Bool × List Char
  | '+' :: rest => (false, rest)
  | '-' :: rest => (true, rest)
  | cs => (false, cs)

/-- Reads the digits of a whole number. Only zero itself starts with a zero. -/
def readWhole : List Char → Option (Found (List Char))
  | '0' :: rest => some (['0'], rest)
  | cs => readDigits 10 cs

/-- Integers have 64 bits. -/
def integer? (isNegative : Bool) (digits : List Char) (base : Nat) : Option Toml :=
  let n := Text.numberOf base digits
  if isNegative then if n ≤ Nat.pow 2 63 then some (.integer (-n)) else none
  else if n < Nat.pow 2 63 then some (.integer n) else none

def readInteger (cs : List Char) : Option (Found Toml) :=
  match cs with
  | '0' :: 'x' :: rest => unsigned 16 rest
  | '0' :: 'o' :: rest => unsigned 8 rest
  | '0' :: 'b' :: rest => unsigned 2 rest
  | cs => do
    let (isNegative, cs) := readSign cs
    let (digits, rest) ← readWhole cs
    pure (← integer? isNegative digits 10, rest)
where
  unsigned (base : Nat) (cs : List Char) : Option (Found Toml) := do
    let (digits, rest) ← readDigits base cs
    pure (← integer? false digits base, rest)

/-- The least number that a float of 64 bits does not round to a finite value. -/
def floatBound : Nat := Nat.pow 2 1024 - Nat.pow 2 970

/-- Whether `mantissa · 10 ^ exponent` is so large that a float of 64 bits takes it for infinite. -/
def isHuge (mantissa : Nat) (exponent : Int) : Bool :=
  let width := (Nat.toDigits 10 mantissa).length
  if mantissa = 0 ∨ exponent + width < 300 then false
  else if exponent + width > 310 then true
  else if exponent < 0 then floatBound * Nat.pow 10 exponent.natAbs ≤ mantissa
  else floatBound ≤ mantissa * Nat.pow 10 exponent.toNat

/-- Reads the digits after a decimal point, if there is one. -/
def readFraction : List Char → Option (Found (List Char))
  | '.' :: rest => readDigits 10 rest
  | cs => some ([], cs)

/-- Reads an exponent, if there is one. -/
def readExponent : List Char → Option (Found (Option Int))
  | c :: rest =>
    if c = 'e' ∨ c = 'E' then do
      let (isNegative, rest) := readSign rest
      let (digits, rest) ← readDigits 10 rest
      let n : Int := Text.numberOf 10 digits
      pure (some (if isNegative then -n else n), rest)
    else some (none, c :: rest)
  | [] => some (none, [])

/-- What was read of `cs` when `rest` is left. -/
def written (cs rest : List Char) : String :=
  String.ofList (cs.take (cs.length - rest.length))

/-- Reads a number with a fraction or an exponent. Only a negative one may be too large for 64 bits. -/
def readDecimal (cs : List Char) : Option (Found Toml) := do
  let (isNegative, body) := readSign cs
  let (whole, body) ← readWhole body
  let (fraction, body) ← readFraction body
  let (exponent?, rest) ← readExponent body
  if fraction.isEmpty && exponent?.isNone then none
  else if !isNegative &&
      isHuge (Text.numberOf 10 (whole ++ fraction)) (exponent?.getD 0 - fraction.length) then none
  else pure (.float (written cs rest), rest)

/-- Reads a float that is no number, with or without a sign. -/
def readSpecial (cs : List Char) : Option (Found Toml) :=
  match (readSign cs).2 with
  | 'i' :: 'n' :: 'f' :: rest => some (.float (written cs rest), rest)
  | 'n' :: 'a' :: 'n' :: rest => some (.float (written cs rest), rest)
  | _ => none

end ReleaseMatrix.Toml

namespace ReleaseMatrix.Toml

open Text (Found)

/-- Reads a decimal number of `width` digits that lies between two bounds. -/
def readBetween (width low high : Nat) (cs : List Char) : Option (Found Nat) := do
  let (n, rest) ← Text.readDigits 10 width cs
  if low ≤ n ∧ n ≤ high then some (n, rest) else none

def readMark (mark : Char) : List Char → Option (List Char)
  | c :: rest => if c = mark then some rest else none
  | [] => none

def isLeapYear (year : Nat) : Bool :=
  year % 4 == 0 && (year % 100 != 0 || year % 400 == 0)

def daysInMonth (year month : Nat) : Nat :=
  if month = 2 then if isLeapYear year then 29 else 28
  else if month ∈ [4, 6, 9, 11] then 30
  else 31

/-- What follows a date. -/
def afterDate (cs : List Char) : Option (List Char) := do
  let (year, cs) ← Text.readDigits 10 4 cs
  let (month, cs) ← readBetween 2 1 12 (← readMark '-' cs)
  let (_, cs) ← readBetween 2 1 (daysInMonth year month) (← readMark '-' cs)
  pure cs

/-- What follows a time of day. A minute may have a leap second. -/
def afterTime (cs : List Char) : Option (List Char) := do
  let (_, cs) ← readBetween 2 0 23 cs
  let (_, cs) ← readBetween 2 0 59 (← readMark ':' cs)
  let (_, cs) ← readBetween 2 0 60 (← readMark ':' cs)
  match cs with
  | '.' :: rest =>
    if rest.head?.any Char.isDigit then pure (rest.dropWhile Char.isDigit) else pure cs
  | _ => pure cs

/-- What follows an offset from universal time. -/
def afterOffset (cs : List Char) : Option (List Char) := do
  let (_, cs) ← readBetween 2 0 23 cs
  let (_, cs) ← readBetween 2 0 59 (← readMark ':' cs)
  pure cs

/-- What follows a time of day with its offset, which may be missing. -/
def afterFullTime (cs : List Char) : Option (List Char) := do
  let rest ← afterTime cs
  match rest with
  | 'z' :: rest | 'Z' :: rest => pure rest
  | '+' :: zone | '-' :: zone => afterOffset zone
  | _ => pure rest

/-- Reads a date, a time of day, or both. -/
def readMoment (cs : List Char) : Option (Found Toml) := do
  let rest ← match afterDate cs with
    | some rest => match rest with
      | 'T' :: time | 't' :: time | ' ' :: time => some ((afterFullTime time).getD rest)
      | _ => some rest
    | none => afterTime cs
  pure (.moment (written cs rest), rest)

end ReleaseMatrix.Toml
