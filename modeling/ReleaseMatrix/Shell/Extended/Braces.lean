import ReleaseMatrix.Shell.Script
import ReleaseMatrix.Text

namespace ReleaseMatrix.Shell

namespace Braces

/-- A piece of a word in which braces are looked for: one plain character, or a part in which there are none. -/
inductive Unit
  | char (c : Char)
  | part (part : WordPart)

namespace Unit

def isChar (c : Char) : Unit → Bool
  | char d => c = d
  | part _ => false

def char? : Unit → Option Char
  | char c => some c
  | part _ => none

/-- The pieces of a word. -/
def ofWord (word : Word) : List Unit :=
  word.flatMap fun
    | .text chars false => chars.map char
    | p => [part p]

/-- The word that pieces make. -/
def toWord : List Unit → Word
  | [] => []
  | part p :: units => p :: toWord units
  | char c :: units =>
    match toWord units with
    | .text chars false :: more => .text (c :: chars) false :: more
    | word => .text [c] false :: word

end Unit

/-- The pieces between an opening brace and its closing one, split at the commas that are in no other braces, and
what follows. -/
def alternatives : Nat → List Unit → Option (List (List Unit) × List Unit)
  | _, [] => none
  | depth, u :: units =>
    let go (depth : Nat) : Option (List (List Unit) × List Unit) := do
      match ← alternatives depth units with
      | (first :: more, rest) => some ((u :: first) :: more, rest)
      | ([], rest) => some ([[u]], rest)
    if u.isChar '\x7b' then go (depth + 1)
    else if u.isChar '\x7d' then if depth = 0 then some ([[]], units) else go (depth - 1)
    else if u.isChar ',' && depth = 0 then do
      let (others, rest) ← alternatives depth units
      some ([] :: others, rest)
    else go depth

/-- The whole number that a text is. -/
def integer? (cs : List Char) : Option Int :=
  let digits := if cs.head? = some '-' || cs.head? = some '+' then cs.tail else cs
  if digits.isEmpty || !digits.all Char.isDigit then none
  else
    let n : Int := Text.numberOf 10 digits
    some (if cs.head? = some '-' then -n else n)

/-- Whether a number is written with zeros before it. -/
def isPadded (cs : List Char) : Bool :=
  match cs with
  | '0' :: _ :: _ => true
  | '-' :: '0' :: _ :: _ => true
  | _ => false

/-- A whole number in some width. -/
def padded (width : Nat) (n : Int) : List Char :=
  let digits := (toString n.natAbs).toList
  if n < 0 then '-' :: List.replicate (width - 1 - digits.length) '0' ++ digits
  else List.replicate (width - digits.length) '0' ++ digits

/-- Numbers from a first one to a last one, with a step between them. -/
def steps (first last step : Int) : List Int :=
  let size := max 1 step.natAbs
  let count := (last - first).natAbs / size + 1
  (List.range count).map fun k => if first ≤ last then first + (k * size : Nat) else first - (k * size : Nat)

/-- The texts that a range stands for. -/
def range? (cs : List Char) : Option (List (List Char)) := do
  let fields := (String.ofList cs).splitOn ".."
  let (first, last, step) ← match fields with
    | [first, last] => some (first.toList, last.toList, 1)
    | [first, last, step] => (integer? step.toList).map fun step => (first.toList, last.toList, step)
    | _ => none
  match integer? first, integer? last with
  | some a, some b =>
    let width := if isPadded first || isPadded last then max first.length last.length else 0
    some ((steps a b step).map (padded width))
  | _, _ =>
    match first, last with
    | [a], [b] =>
      if a.isAlpha && b.isAlpha then
        some ((steps a.toNat b.toNat step).map fun n => [Char.ofNat n.toNat])
      else none
    | _, _ => none

/-- The words that pieces stand for, each list in braces giving several. -/
def expand : Nat → List Unit → List (List Unit)
  | 0, units => [units]
  | n + 1, units =>
    let before := units.takeWhile fun u => !u.isChar '\x7b'
    match units.drop before.length with
    | [] => [units]
    | brace :: inner =>
      let literally := (expand n inner).map fun rest => before ++ brace :: rest
      match alternatives 0 inner with
      | none => literally
      | some (choices, rest) =>
        let chars := (choices.headD []).filterMap Unit.char?
        let isPlain := chars.length = (choices.headD []).length
        let rests := expand n rest
        let each (texts : List (List Unit)) : List (List Unit) :=
          texts.flatMap fun text => rests.map fun rest => before ++ text ++ rest
        if choices.length > 1 then each (choices.flatMap (expand n))
        else match if isPlain then range? chars else none with
          | some texts => each (texts.map (·.map .char))
          | none => literally

end Braces

/-- The words that a word with lists in braces stands for. -/
def Word.unfold (word : Word) : List Word :=
  let units := Braces.Unit.ofWord word
  if units.any (·.isChar '\x7b') then (Braces.expand (units.length + 1) units).map Braces.Unit.toWord else [word]

end ReleaseMatrix.Shell
