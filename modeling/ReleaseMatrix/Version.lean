import ReleaseMatrix.Text
import ReleaseMatrix.Text.Quoted

namespace ReleaseMatrix

/-- A semantic version. The two identifier lists are kept as written and are empty when absent. -/
structure Version where
  major : Nat
  minor : Nat
  patch : Nat
  preRelease : String
  build : String
deriving DecidableEq, Repr

namespace Version

/-- The parts of a version that an error can name. -/
inductive Part
  | major
  | minor
  | patch
  | preRelease
  | build
deriving DecidableEq, Repr

def Part.name : Part → String
  | major => "major version number"
  | minor => "minor version number"
  | patch => "patch version number"
  | preRelease => "pre-release identifier"
  | build => "build metadata"

/-- Why a text is no version. -/
inductive Fault
  | blank
  | endOfInput (part : Part)
  | unexpected (part : Part) (c : Char)
  | unexpectedAfter (part : Part) (c : Char)
  | leadingZero (part : Part)
  | overflow (part : Part)
  | emptyIdentifier (part : Part)
deriving DecidableEq, Repr

def Fault.message : Fault → String
  | blank => "empty string, expected a semver version"
  | endOfInput part => "unexpected end of input while parsing " ++ part.name
  | unexpected part c => "unexpected character " ++ Text.quoteChar c ++ " while parsing " ++ part.name
  | unexpectedAfter part c => "unexpected character " ++ Text.quoteChar c ++ " after " ++ part.name
  | leadingZero part => "invalid leading zero in " ++ part.name
  | overflow part => "value of " ++ part.name ++ " exceeds u64::MAX"
  | emptyIdentifier part => "empty identifier segment in " ++ part.name

/-- Each number of a version fits in 64 bits. -/
def numberBound : Nat := Nat.pow 2 64

/-- Reads the digits that follow a number's first digit. -/
def readDigits (part : Part) (value : Nat) : List Char → Except Fault (Nat × List Char)
  | [] => .ok (value, [])
  | c :: cs =>
    if c.isDigit then
      let next := value * 10 + (c.toNat - '0'.toNat)
      if value = 0 then .error (.leadingZero part)
      else if next < numberBound then readDigits part next cs
      else .error (.overflow part)
    else .ok (value, c :: cs)

def readNumber (part : Part) : List Char → Except Fault (Nat × List Char)
  | [] => .error (.endOfInput part)
  | c :: cs =>
    if c.isDigit then readDigits part (c.toNat - '0'.toNat) cs else .error (.unexpected part c)

def readDot (part : Part) : List Char → Except Fault (List Char)
  | [] => .error (.endOfInput part)
  | c :: cs => if c = '.' then .ok cs else .error (.unexpectedAfter part c)

def isIdentifierChar (c : Char) : Bool :=
  c.isAlphanum || c == '-'

/-- An identifier is not empty, and a number in a pre-release has no leading zero. -/
def checkIdentifier (part : Part) (identifier : List Char) : Except Fault Unit :=
  if identifier = [] then .error (.emptyIdentifier part)
  else if part = .preRelease && identifier.all Char.isDigit && identifier.length > 1
      && identifier.head? = some '0' then .error (.leadingZero part)
  else .ok ()

def checkIdentifiers (part : Part) : List (List Char) → Except Fault Unit
  | [] => .ok ()
  | identifier :: rest => do
    checkIdentifier part identifier
    checkIdentifiers part rest

/-- Reads identifiers with dots between them, as far as their characters go. -/
def readIdentifiers (part : Part) (cs : List Char) : Except Fault (String × List Char) := do
  let belongs (c : Char) := isIdentifierChar c || c == '.'
  let text := cs.takeWhile belongs
  checkIdentifiers part (Text.splitChars '.' text)
  pure (String.ofList text, cs.dropWhile belongs)

/-- Reads the identifiers that `mark` announces; without the mark there are none. -/
def readMarked (part : Part) (mark : Char) : List Char → Except Fault (String × List Char)
  | [] => .ok ("", [])
  | c :: cs => if c = mark then readIdentifiers part cs else .ok ("", c :: cs)

/-- What stands before a character that does not belong to the version. -/
def lastPart (preRelease build : String) : Part :=
  if build ≠ "" then .build else if preRelease ≠ "" then .preRelease else .patch

def parse (s : String) : Except Fault Version :=
  if s = "" then .error .blank
  else do
    let (major, cs) ← readNumber .major s.toList
    let cs ← readDot .major cs
    let (minor, cs) ← readNumber .minor cs
    let cs ← readDot .minor cs
    let (patch, cs) ← readNumber .patch cs
    let (preRelease, cs) ← readMarked .preRelease '-' cs
    let (build, cs) ← readMarked .build '+' cs
    match cs with
    | [] => pure ⟨major, minor, patch, preRelease, build⟩
    | c :: _ => .error (.unexpectedAfter (lastPart preRelease build) c)

def marked (mark identifiers : String) : String :=
  if identifiers = "" then "" else mark ++ identifiers

def render (v : Version) : String :=
  toString v.major ++ "." ++ toString v.minor ++ "." ++ toString v.patch
    ++ marked "-" v.preRelease ++ marked "+" v.build

end Version

end ReleaseMatrix
