import ReleaseMatrix.Shell.Extended.Quoting
import ReleaseMatrix.Shell.Scope
import ReleaseMatrix.Shell.Pattern

namespace ReleaseMatrix.Shell

/-- What an expansion finds before it is changed. -/
inductive Found
  | one (value? : Option Octets)
  | many (values : List Octets) (staysApart : Bool)

namespace Found

/-- The parts of a text that patterns may match: for each length, longest first. -/
def lengths (pattern : List PatternStep) (cs : List Char) : List Nat :=
  let isFixed := pattern.all fun
    | .anyText | .group .. => false
    | _ => true
  if isFixed then [pattern.length].filter (· ≤ cs.length) else (List.range (cs.length + 1)).reverse

/-- The length of the longest part at the start of a text that a pattern matches. -/
def matchLength? (pattern : List PatternStep) (cs : List Char) : Option Nat :=
  (lengths pattern cs).find? fun k => matchesAll pattern (cs.take k)

/-- What takes the place of a match: a text in which some characters stand for all that was matched. -/
def filledIn (text : List (Option Char)) (matched : List Char) : List Char :=
  text.flatMap fun c? => c?.elim matched ([·])

/-- A text in which others take the place of each part that a pattern matches, or of the first one. -/
def replaceEach (pattern : List PatternStep) (text : List (Option Char)) (isEverywhere : Bool) :
    Nat → List Char → List Char
  | 0, cs => cs
  | _ + 1, [] => []
  | n + 1, c :: cs =>
    match (matchLength? pattern (c :: cs)).filter (· > 0) with
    | none => c :: replaceEach pattern text isEverywhere n cs
    | some k =>
      let rest := (c :: cs).drop k
      filledIn text ((c :: cs).take k) ++
        if isEverywhere then replaceEach pattern text isEverywhere n rest else rest

/-- A text in which another takes the place of what a pattern matches. -/
def replace (place : MatchPlace) (pattern : List PatternStep) (text : List (Option Char)) (value : Octets) : Octets :=
  let cs := value.toList
  String.ofList <| match place with
    | .atStart =>
      match matchLength? pattern cs with
      | some k => filledIn text (cs.take k) ++ cs.drop k
      | none => cs
    | .atEnd =>
      match (lengths pattern cs).find? fun k => matchesAll pattern (cs.drop (cs.length - k)) with
      | some k => cs.take (cs.length - k) ++ filledIn text (cs.drop (cs.length - k))
      | none => cs
    | place =>
      if pattern.isEmpty then cs
      else if cs.isEmpty then if matchesAll pattern [] then filledIn text [] else []
      else replaceEach pattern text (place = .everywhere) (cs.length + 1) cs

def recaseChar (letters : LetterCase) (c : Char) : Char :=
  match letters with
  | .upper => c.toUpper
  | .lower => c.toLower
  | .opposite => if c.isUpper then c.toLower else c.toUpper

/-- A text with the letters changed that a pattern matches, or only the first one. -/
def recase (letters : LetterCase) (all : Bool) (pattern : List PatternStep) (value : Octets) : Octets :=
  let change (c : Char) : Char :=
    if pattern.isEmpty || matchesAll pattern [c] then recaseChar letters c else c
  String.ofList <| match value.toList with
    | [] => []
    | c :: cs => change c :: if all then cs.map change else cs

/-- The part of a text from an offset on. A negative length tells where it ends before the end of the text. -/
def part (offset : Int) (length? : Option Int) (value : Octets) : Except Int Octets :=
  let cs := value.toList
  let size : Int := cs.length
  let start := if offset < 0 then size + offset else offset
  if start < 0 || start > size then .ok ""
  else
    let stop := match length? with
      | none => size
      | some n => if n < 0 then size + n else start + n
    if stop < start then .error (length?.getD 0)
    else .ok (String.ofList ((cs.drop start.toNat).take (stop - start).toNat))

/-- Some of several values with their positions, from a position on. -/
def slice (start : Int) (length? : Option Int) (values : List (Nat × Octets)) : Except Int (List Octets) :=
  if start < 0 then .ok []
  else match length? with
    | some n =>
      if n < 0 then .error n
      else .ok (((values.filter fun v => start ≤ v.1).take n.toNat).map (·.2))
    | none => .ok ((values.filter fun v => start ≤ v.1).map (·.2))

/-- A value changed in a way that a letter tells. -/
def transform (letter : Char) (value : Octets) : Octets :=
  match letter with
  | 'Q' => Quoting.reusable value
  | 'U' => value.toUpper
  | 'u' => recase .upper false [] value
  | 'L' => value.toLower
  | 'E' => String.ofList (Escapes.carryOut false (value.length + 1) value.toList).1
  | _ => value

end Found

/-- The letters of the traits of a variable, in the order in which they are told. -/
def Variable.letters (v : Variable) : Octets :=
  let has (c : Char) : Bool := if c = 'r' then v.isReadOnly else if c = 'x' then v.isExported else v.has c
  String.ofList (['a', 'A', 'i', 'n', 'r', 'x', 'l', 'u'].filter has)

/-- What a variable holds, as a script sets it. -/
def Value.asAssigned (v : Value) : Octets :=
  let items (elements : List (Octets × Octets)) : Octets :=
    " ".intercalate (elements.map fun (key, t) => "[" ++ key ++ "]=" ++ Quoting.asValue t)
  match v with
  | .text t => Quoting.asValue t
  | .list elements => "(" ++ items (elements.map fun (i, t) => (toString i, t)) ++ ")"
  | .table elements =>
    let key (k : Octets) : Octets :=
      if Quoting.hasMeaning k || k.isEmpty then Quoting.asValue k else k
    "(" ++ items (elements.map fun (k, t) => (key k, t)) ++ (if elements.isEmpty then ")" else " )")

/-- A variable as a script declares it. -/
def Variable.declaration (name : Octets) (v : Variable) : Octets :=
  let letters := if v.letters.isEmpty then "-" else v.letters
  let value := match v.content? with
    | some content => "=" ++ content.asAssigned
    | none => ""
  "declare -" ++ letters ++ " " ++ name ++ value ++ "\n"

end ReleaseMatrix.Shell
