import ReleaseMatrix.Shell.Number
import ReleaseMatrix.Shell.Extended.Quoting
import ReleaseMatrix.Shell.Utility.Calendar

namespace ReleaseMatrix.Shell

/-- Reads what a backslash starts: the character that is meant, and what follows it. -/
def readEscape (cs : List Char) : Text.Found Char :=
  match cs with
  | [] => ('\\', [])
  | c :: rest =>
    let named : List (Char × Nat) :=
      [('\\', 92), ('a', 7), ('b', 8), ('e', 27), ('f', 12), ('n', 10), ('r', 13), ('t', 9), ('v', 11)]
    match named.find? (·.1 == c) with
    | some (_, code) => (Char.ofNat code, rest)
    | none =>
      let digits := (cs.take 3).takeWhile (Text.isDigitIn 8)
      if digits.isEmpty then ('\\', cs)
      else (Char.ofNat (Text.numberOf 8 digits % 256), cs.drop digits.length)

/-- The text with its escapes carried out, and whether it ends all printing. -/
def carryOut : Nat → List Char → List Char → List Char × Bool
  | 0, read, _ => (read.reverse, false)
  | _ + 1, read, [] => (read.reverse, false)
  | n + 1, read, c :: rest =>
    if c ≠ '\\' then carryOut n (c :: read) rest
    else match rest with
      | 'c' :: _ => (read.reverse, true)
      | '0' :: d :: more =>
        let (c, rest) := readEscape (if Text.isDigitIn 8 d then d :: more else rest)
        carryOut n (c :: read) rest
      | rest =>
        let (c, rest) := readEscape rest
        carryOut n (c :: read) rest

/-- What is printed for words with an ending after them. -/
def joinCarriedOut (ending : List Char) : List Octets → List Char
  | [] => ending
  | word :: words =>
    let (chars, stops) := carryOut (word.length + 1) [] word.toList
    if stops then chars
    else chars ++ if words.isEmpty then ending else ' ' :: joinCarriedOut ending words

/-- What is printed for words. -/
def echoText (words : List Octets) : Octets :=
  String.ofList <| match words with
    | "-n" :: words => joinCarriedOut [] words
    | words => joinCarriedOut ['\n'] words

/-- What is printed according to a format, and what goes wrong meanwhile: each complaint, with how much was printed
before it. -/
structure Printout where
  output : Octets
  complaints : List (Nat × Octets)
  status : Nat
deriving DecidableEq, Repr

namespace Printout

/-- The parts of a printout that reaches its reader line by line: what is printed before each complaint, and the
rest. -/
def parts (p : Printout) : List (Octets × Octets) × Octets :=
  go p.output.toList 0 p.complaints
where
  go (left : List Char) (position : Nat) : List (Nat × Octets) → List (Octets × Octets) × Octets
    | [] => ([], String.ofList left)
    | (place, complaint) :: more =>
      let before := ((left.take (place - position)).reverse.dropWhile (· ≠ '\n')).reverse
      let (parts, rest) := go (left.drop before.length) (position + before.length) more
      ((String.ofList before, complaint) :: parts, rest)

end Printout

/-- How one value is printed. -/
structure Placement where
  flags : List Char
  width : Nat
  precision? : Option Nat
deriving DecidableEq, Repr

namespace Placement

def has (p : Placement) (flag : Char) : Bool :=
  p.flags.contains flag

/-- A text in its place. -/
def place (p : Placement) (text : List Char) : List Char :=
  let blanks := List.replicate (p.width - text.length) ' '
  if p.has '-' then text ++ blanks else blanks ++ text

/-- A number with what stands before its digits, in its place. -/
def placeNumber (p : Placement) (fills : Bool) (sign digits : List Char) : List Char :=
  if p.has '0' && !p.has '-' && fills then
    sign ++ List.replicate (p.width - sign.length - digits.length) '0' ++ digits
  else p.place (sign ++ digits)

/-- The sign of a number. -/
def sign (p : Placement) (isNegative : Bool) : List Char :=
  if isNegative then ['-'] else if p.has '+' then ['+'] else if p.has ' ' then [' '] else []

/-- The digits of a whole number, as many as are asked for. -/
def digits (p : Placement) (base : Nat) (n : Nat) : List Char :=
  let ds := if n = 0 && p.precision? = some 0 then [] else Nat.toDigits base n
  List.replicate (p.precision?.getD 1 - ds.length) '0' ++ ds

def integer (p : Placement) (n : Int64) : List Char :=
  p.placeNumber p.precision?.isNone (p.sign (n < 0)) (p.digits 10 n.toInt.natAbs)

def unsigned (p : Placement) (conversion : Char) (n : Nat) : List Char :=
  match conversion with
  | 'o' =>
    let ds := p.digits 8 n
    p.placeNumber p.precision?.isNone [] (if p.has '#' && ds.head? ≠ some '0' then '0' :: ds else ds)
  | 'x' => p.placeNumber p.precision?.isNone (if p.has '#' && n ≠ 0 then ['0', 'x'] else []) (p.digits 16 n)
  | 'X' =>
    p.placeNumber p.precision?.isNone (if p.has '#' && n ≠ 0 then ['0', 'X'] else [])
      ((p.digits 16 n).map Char.toUpper)
  | _ => p.placeNumber p.precision?.isNone [] (p.digits 10 n)

def text (p : Placement) (cs : List Char) : List Char :=
  p.place (match p.precision? with
    | some n => cs.take n
    | none => cs)

def decimal (p : Placement) (conversion : Char) (d : Decimal) : List Char :=
  let isUpper := conversion.isUpper
  let word (w : String) : List Char := (if isUpper then w.toUpper else w).toList
  let precision := p.precision?.getD 6
  match d with
  | .infinite isNegative => p.placeNumber false (p.sign isNegative) (word "inf")
  | .undefined => p.placeNumber false (p.sign false) (word "nan")
  | .finite isNegative f =>
    let ds := match conversion.toLower with
      | 'f' => Decimal.fixed precision (p.has '#') f
      | 'e' => Decimal.scientific precision (p.has '#') isUpper f
      | _ => Decimal.general precision (p.has '#') isUpper f
    p.placeNumber true (p.sign isNegative) ds

end Placement

/-- Printing that is under way: the words that are left, what is printed, latest character first, and the
complaints so far, latest first. -/
structure Print where
  words : List Octets
  output : List Char
  complaints : List (Nat × Octets)
  isFailed : Bool
  /-- Whether formats are those of the extended language. -/
  isExtended : Bool

/-- Why printing ends before its format does. -/
inductive PrintEnd
  | stopped
  | failed (complaint : Octets)

abbrev PrintM := ExceptT PrintEnd (StateM Print)

namespace PrintM

def emit (cs : List Char) : PrintM Unit :=
  modify fun p => { p with output := cs.reverse ++ p.output }

def nextWord? : PrintM (Option Octets) := do
  let p ← get
  set { p with words := p.words.tail }
  pure p.words.head?

def complain (message : Octets) : PrintM Unit :=
  modify fun p => { p with complaints := (p.output.length, message) :: p.complaints, isFailed := true }

/-- What is complained about a word of the extended language that is no number. -/
def numberComplaint (word : Octets) : Octets :=
  let kind := match word.toList with
    | '0' :: 'x' :: _ => "hex "
    | '0' :: c :: _ => if c.isDigit then "octal " else ""
    | _ => ""
  word ++ ": invalid " ++ kind ++ "number"

/-- Complains unless a number ends where its word ends. -/
def checkEnd (word : Octets) (rest : List Char) : PrintM Unit := do
  if !rest.isEmpty then
    if (← get).isExtended then complain (numberComplaint word)
    else
      complain (word ++ if rest.length = word.length then ": expected numeric value"
        else ": not completely converted")

/-- The code of the character after a quote, if a word starts with one. -/
def quotedCode? (word : Octets) : Option Nat :=
  match word.toList with
  | c :: rest => if c = '"' || c = '\'' then some ((rest.head?.map Char.toNat).getD 0) else none
  | [] => none

/-- Complains that a number is too large or too small. -/
def complainOfRange (word : Octets) : PrintM Unit := do
  let message := word ++ ": Numerical result out of range"
  if (← get).isExtended then
    modify fun p => { p with complaints := (p.output.length, "warning: " ++ message) :: p.complaints }
  else complain message

/-- The number that the next word stands for. -/
def nextNumeral : PrintM Numeral := do
  match ← nextWord? with
  | none => pure ⟨false, 0, []⟩
  | some word =>
    match quotedCode? word, Numeral.read? true word.toList with
    | some code, _ => pure ⟨false, code, []⟩
    | none, none => do
      checkEnd word word.toList
      pure ⟨false, 0, []⟩
    | none, some n => do
      checkEnd word n.rest
      pure n

def nextInteger : PrintM Int64 := do
  let word? := (← get).words.head?
  let n ← nextNumeral
  if !n.fits && n.rest.isEmpty then complainOfRange (word?.getD "")
  pure n.nearest

/-- The next number where signs are left out: a negative one counts down from the largest. -/
def nextUnsigned : PrintM Nat := do
  let word? := (← get).words.head?
  let n ← nextNumeral
  let size := 18446744073709551616
  if n.magnitude ≥ size then
    if n.rest.isEmpty then complainOfRange (word?.getD "")
    pure (size - 1)
  else pure (if n.isNegative then (size - n.magnitude) % size else n.magnitude)

def nextDecimal : PrintM Decimal := do
  match ← nextWord? with
  | none => pure (.finite false ⟨0, 1⟩)
  | some word =>
    match quotedCode? word, Decimal.read? word.toList with
    | some code, _ => pure (.finite false ⟨code, 1⟩)
    | none, none => do
      checkEnd word word.toList
      pure (.finite false ⟨0, 1⟩)
    | none, some (d, rest) => do
      checkEnd word rest
      match d with
      | .finite isNegative f =>
        match f.toBinary? with
        | none =>
          if rest.isEmpty then complainOfRange word
          pure (.infinite isNegative)
        | some binary =>
          if rest.isEmpty && f.numerator ≠ 0 && binary.numerator = 0 then complainOfRange word
          pure (.finite isNegative binary)
      | d => pure d

/-- A width or a precision in a format: digits, or a star for the next word. -/
def readSize (cs : List Char) : PrintM (Int × List Char) := do
  match cs with
  | '*' :: rest => do pure ((← nextInteger).toInt, rest)
  | cs =>
    let digits := cs.takeWhile Char.isDigit
    pure (Text.numberOf 10 digits, cs.drop digits.length)

/-- The layout of a moment that is told between parentheses, and what follows the letter after them. -/
def readLayout? (cs : List Char) : Option (String × List Char) :=
  match cs with
  | '(' :: rest =>
    let layout := rest.takeWhile (· ≠ ')')
    match rest.drop layout.length with
    | ')' :: 'T' :: rest => some (String.ofList layout, rest)
    | _ => none
  | _ => none

/-- The moment that the next word counts to in seconds. A negative count means now. -/
def nextMoment : PrintM Utility.Calendar := do
  let isGiven := !(← get).words.isEmpty
  let count := (← nextInteger).toInt
  pure (if isGiven && 0 ≤ count then .ofSeconds count 0 else .present)

/-- Prints what follows a percent sign in a format, and gives what follows that. -/
def convert (cs : List Char) : PrintM (List Char) := do
  let flags := cs.takeWhile fun c => c ∈ ['#', '-', '+', ' ', '0']
  let (width, rest) ← readSize (cs.drop flags.length)
  let flags := if width < 0 then '-' :: flags else flags
  let (precision?, rest) : Option Nat × List Char ← match rest with
    | '.' :: rest => do
      let (precision, rest) ← readSize rest
      pure (if precision < 0 then none else some precision.toNat, rest)
    | rest => pure (none, rest)
  let p : Placement := ⟨flags, width.natAbs, precision?⟩
  let isExtended := (← get).isExtended
  let rest := if isExtended then rest.dropWhile ("hlLjzt".contains ·) else rest
  match if isExtended then readLayout? rest else none, rest with
  | some (layout, rest), _ =>
    emit (p.text (String.toList ((← nextMoment).inLayout layout)))
    pure rest
  | none, [] => throw (.failed (if isExtended then "\x60%" ++ String.ofList cs ++ "': missing format character"
      else "missing format character"))
  | none, c :: rest =>
    if c = 'q' && isExtended then
      emit (p.text (Quoting.withBackslashes ((← nextWord?).getD "")).toList)
    else if c = 'b' then
      let word := ((← nextWord?).getD "").toList
      let (chars, stops) := if isExtended then Escapes.carryOut false (word.length + 1) word
        else carryOut (word.length + 1) [] word
      emit (p.text chars)
      if stops then throw .stopped
    else if c = 'c' then
      let word := ((← nextWord?).getD "").toList
      emit (p.place [word.headD '\x00'])
    else if c = 's' then emit (p.text ((← nextWord?).getD "").toList)
    else if c = 'd' || c = 'i' then emit (p.integer (← nextInteger))
    else if c ∈ ['o', 'u', 'x', 'X'] then emit (p.unsigned c (← nextUnsigned))
    else if c ∈ ['e', 'E', 'f', 'F', 'g', 'G'] then emit (p.decimal c (← nextDecimal))
    else
      throw (.failed (if isExtended then "\x60" ++ String.singleton c ++ "': invalid format character"
        else "%" ++ String.ofList (cs.take (cs.length - rest.length)) ++ ": invalid directive"))
    pure rest

/-- What a backslash in a format of the extended language stands for, and what follows it. -/
def readFormatEscape (cs : List Char) : List Char × List Char :=
  match Escapes.read? cs, cs with
  | some found, _ => found
  | none, c :: rest =>
    if c = '\'' || c = '"' || c = '?' then ([c], rest)
    else
      let (ds, after) := Escapes.digits 8 3 cs
      if ds.isEmpty then (['\\', c], rest) else ([Escapes.byte 8 ds], after)
  | none, [] => (['\\'], [])

/-- Prints a format once. -/
def printOnce : Nat → List Char → PrintM Unit
  | 0, _ => pure ()
  | _ + 1, [] => pure ()
  | n + 1, '\\' :: rest => do
    let (cs, rest) := if (← get).isExtended then readFormatEscape rest
      else
        let (c, rest) := readEscape rest
        ([c], rest)
    emit cs
    printOnce n rest
  | n + 1, '%' :: '%' :: rest => do
    emit ['%']
    printOnce n rest
  | n + 1, '%' :: rest => do printOnce n (← convert rest)
  | n + 1, c :: rest => do
    emit [c]
    printOnce n rest

/-- Prints a format as often as there are words for it. -/
def printAll (format : List Char) : Nat → PrintM Unit
  | 0 => pure ()
  | n + 1 => do
    let before := (← get).words.length
    printOnce (format.length + 1) format
    let left := (← get).words.length
    if 0 < left && left < before then printAll format n

end PrintM

/-- What is printed for words according to a format. -/
def formatText (isExtended : Bool) (format : Octets) (words : List Octets) : Printout :=
  let (result, p) := (PrintM.printAll format.toList (words.length + 1)).run.run ⟨words, [], [], false, isExtended⟩
  let output := String.ofList p.output.reverse
  match result with
  | .error (.failed complaint) => ⟨output, ((p.output.length, complaint) :: p.complaints).reverse, 2⟩
  | _ => ⟨output, p.complaints.reverse, if p.isFailed then 1 else 0⟩

end ReleaseMatrix.Shell
