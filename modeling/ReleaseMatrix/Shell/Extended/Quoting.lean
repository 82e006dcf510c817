import ReleaseMatrix.Shell.Value
import ReleaseMatrix.Text

namespace ReleaseMatrix.Shell

namespace Quoting

def isVisible (c : Char) : Bool :=
  ' ' ≤ c && c.toNat < 0x7F

/-- Whether a text has characters that only escapes can show. -/
def hasControls (text : Octets) : Bool :=
  text.toList.any (!isVisible ·)

/-- The text in single quotes. One that stands in it is put between quotes. -/
def single (text : Octets) : Octets :=
  if text = "'" then "\\'" else "'" ++ text.replace "'" "'\\''" ++ "'"

/-- A character as an escape shows it. -/
def escape (c : Char) : List Char :=
  let letters : List (Char × Char) :=
    [('\x1b', 'E'), ('\x07', 'a'), ('\x08', 'b'), ('\x0b', 'v'), ('\t', 't'), ('\n', 'n'), ('\x0c', 'f'),
      ('\r', 'r'), ('\\', '\\'), ('\'', '\'')]
  match letters.find? (·.1 == c) with
  | some (_, letter) => ['\\', letter]
  | none =>
    if isVisible c then [c]
    else
      let digits := Nat.toDigits 8 c.toNat
      '\\' :: (List.replicate (3 - digits.length) '0' ++ digits)

/-- The text in quotes in which backslashes start escapes. -/
def escaped (text : Octets) : Octets :=
  "$'" ++ String.ofList (text.toList.flatMap escape) ++ "'"

/-- The text in double quotes. -/
def double (text : Octets) : Octets :=
  let shown := text.toList.flatMap fun c => if c ∈ ['"', '$', '\x60', '\\'] then ['\\', c] else [c]
  "\"" ++ String.ofList shown ++ "\""

/-- The text with backslashes before what would have a meaning. -/
def withBackslashes (text : Octets) : Octets :=
  if text.isEmpty then "''"
  else if hasControls text then escaped text
  else
    let step (before? : Option Char) (c : Char) : List Char :=
      let isSpecial := " !\"$&'()*,;<>?[\\]^\x60\x7b|\x7d".contains c
      let isHome := c = '~' && before?.all fun b => b = ':' || b = '='
      if isSpecial || isHome || (c = '#' && before?.isNone) then ['\\', c] else [c]
    let cs := text.toList
    String.ofList ((none :: cs.map some).zipWith step cs).flatten

/-- Whether a word is not the same in a script without quotes. -/
def hasMeaning (text : Octets) : Bool :=
  let cs := text.toList
  let isSpecial (before? : Option Char) (c : Char) : Bool :=
    " \t\n'\"\\|&;()<>!\x7b\x7d*[?]^$\x60".contains c || (c = '#' && before?.isNone) ||
      (c = '~' && before?.all fun b => b = ':' || b = '=')
  ((none :: cs.map some).zipWith isSpecial cs).any id

/-- The text as it may stand in a script, in single quotes or with escapes. -/
def reusable (text : Octets) : Octets :=
  if hasControls text then escaped text else single text

/-- The text as it is told among the words of a command: with quotes where it needs them. -/
def asWord (text : Octets) : Octets :=
  if text.isEmpty then "''"
  else if hasMeaning text then single text
  else if hasControls text then escaped text
  else text

/-- The text as the value of a variable is told. -/
def asValue (text : Octets) : Octets :=
  if hasControls text then escaped text else double text

end Quoting

namespace Escapes

/-- The characters that letters after a backslash stand for. -/
def named : List (Char × Nat) :=
  [('a', 7), ('b', 8), ('e', 27), ('E', 27), ('f', 12), ('n', 10), ('r', 13), ('t', 9), ('v', 11), ('\\', 92)]

/-- A character that is told by its number, as far as one byte can tell it. -/
def numbered (size : Nat) (letter : Char) (n : Nat) : List Char :=
  if n < 128 then [Char.ofNat n]
  else
    let digits := (Nat.toDigits 16 n).map Char.toUpper
    let (letter, size) := if n < 65536 then ('u', 4) else (letter, size)
    '\\' :: letter :: (List.replicate (size - digits.length) '0' ++ digits)

/-- The digits at the start of a text, at most some of them, and what follows. -/
def digits (base size : Nat) (cs : List Char) : List Char × List Char :=
  let ds := (cs.take size).takeWhile (Text.isDigitIn base)
  (ds, cs.drop ds.length)

/-- The byte that some digits tell. -/
def byte (base : Nat) (ds : List Char) : Char :=
  Char.ofNat (Text.numberOf base ds % 256)

/-- What a backslash before a text stands for, and what follows, if the text starts an escape. -/
def read? (cs : List Char) : Option (List Char × List Char) :=
  match cs with
  | [] => none
  | c :: rest =>
    match named.find? (·.1 == c) with
    | some (_, code) => some ([Char.ofNat code], rest)
    | none =>
      let told (base size : Nat) (found : List Char → List Char) : Option (List Char × List Char) :=
        let (ds, after) := digits base size rest
        if ds.isEmpty then none else some (found ds, after)
      match c with
      | 'x' => told 16 2 fun ds => [byte 16 ds]
      | 'u' => told 16 4 fun ds => numbered 4 'u' (Text.numberOf 16 ds)
      | 'U' => told 16 8 fun ds => numbered 8 'U' (Text.numberOf 16 ds)
      | _ => none

/-- What stands up to a single quote, with its escapes carried out, and what follows the quote. -/
def quoted? : Nat → List Char → Option (List Char × List Char)
  | 0, _ => none
  | _ + 1, [] => none
  | _ + 1, '\'' :: rest => some ([], rest)
  | n + 1, '\\' :: cs =>
    let go (chars rest : List Char) : Option (List Char × List Char) :=
      (quoted? n rest).map fun (more, after) => (if chars = ['\x00'] then [] else chars ++ more, after)
    match read? cs, cs with
    | some (chars, rest), _ => go chars rest
    | none, 'c' :: c :: rest => go [Char.ofNat (c.toUpper.toNat % 32)] rest
    | none, c :: rest =>
      if c = '\'' || c = '"' || c = '?' then go [c] rest
      else
        let (ds, after) := digits 8 3 cs
        if ds.isEmpty then go ['\\', c] rest else go [byte 8 ds] after
    | none, [] => none
  | n + 1, c :: cs => (quoted? n cs).map fun (more, after) => (c :: more, after)

/-- A text with its escapes carried out, as far as one of them says that all ends. Digits in base eight may have
a zero before them, or must. -/
def carryOut (needsZero : Bool) : Nat → List Char → List Char × Bool
  | 0, _ => ([], false)
  | _ + 1, [] => ([], false)
  | n + 1, '\\' :: cs =>
    let go (chars rest : List Char) : List Char × Bool :=
      let (more, ends) := carryOut needsZero n rest
      (chars ++ more, ends)
    match read? cs, cs with
    | some (chars, rest), _ => go chars rest
    | none, 'c' :: _ => ([], true)
    | none, '0' :: rest =>
      let (ds, after) := digits 8 3 rest
      go [byte 8 ds] after
    | none, c :: rest =>
      let (ds, after) := digits 8 3 cs
      if ds.isEmpty || needsZero then go ['\\', c] rest else go [byte 8 ds] after
    | none, [] => (['\\'], false)
  | n + 1, c :: cs =>
    let (more, ends) := carryOut needsZero n cs
    (c :: more, ends)

end Escapes

end ReleaseMatrix.Shell
