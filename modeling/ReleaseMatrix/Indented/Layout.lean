import ReleaseMatrix.Indented.Series

namespace ReleaseMatrix.Indented

open Shell (Decimal Octets)

/-- How a value is laid out. -/
structure Layout where
  fill : Char
  /-- Where the value stands in its field: at the left, at the right, in the middle, or with the field filled up after
  its sign. -/
  side? : Option Char
  sign? : Option Char
  isMarked : Bool
  width : Nat
  groups? : Option Char
  precision? : Option Nat
  form? : Option Char
deriving DecidableEq, Repr

namespace Layout

/-- Reads a layout, if the text is one. -/
def ofText? (text : String) : Option Layout :=
  let isSide (c : Char) : Bool := c = '<' || c = '>' || c = '^' || c = '='
  let cs := text.toList
  let (fill?, side?, cs) := match cs with
    | f :: s :: rest =>
      if isSide s then (some f, some s, rest) else if isSide f then (none, some f, s :: rest) else (none, none, cs)
    | [s] => if isSide s then (none, some s, []) else (none, none, cs)
    | [] => (none, none, [])
  let (sign?, cs) := match cs with
    | c :: rest => if c = '+' || c = '-' || c = ' ' then (some c, rest) else (none, cs)
    | [] => (none, [])
  let (isMarked, cs) := match cs with
    | '#' :: rest => (true, rest)
    | cs => (false, cs)
  let (isZero, cs) := match cs with
    | '0' :: rest => (true, rest)
    | cs => (false, cs)
  let width := cs.takeWhile Char.isDigit
  let cs := cs.drop width.length
  let (groups?, cs) := match cs with
    | c :: rest => if c = ',' || c = '_' then (some c, rest) else (none, cs)
    | [] => (none, [])
  let (precision?, cs) := match cs with
    | '.' :: rest =>
      let digits := rest.takeWhile Char.isDigit
      (some (Text.numberOf 10 digits), rest.drop digits.length)
    | cs => (none, cs)
  let layout (form? : Option Char) : Layout :=
    let fill := fill?.getD (if isZero && side?.isNone then '0' else ' ')
    let side? := if side?.isNone && isZero then some '=' else side?
    ⟨fill, side?, sign?, isMarked, Text.numberOf 10 width, groups?, precision?, form?⟩
  match cs with
  | [] => some (layout none)
  | [c] => some (layout (some c))
  | _ => none

/-- A text in its field. -/
def place (l : Layout) (usual : Char) (sign text : List Char) : String :=
  let missing := l.width - sign.length - text.length
  let fill (n : Nat) : List Char := List.replicate n l.fill
  String.ofList (match l.side?.getD usual with
    | '<' => sign ++ text ++ fill missing
    | '^' => fill (missing / 2) ++ sign ++ text ++ fill (missing - missing / 2)
    | '=' => sign ++ fill missing ++ text
    | _ => fill missing ++ sign ++ text)

/-- Digits with a sign between groups of so many, from the right. -/
def group (separator : Char) (size : Nat) (digits : List Char) : List Char :=
  (go digits.reverse 0).reverse
where
  go : List Char → Nat → List Char
    | [], _ => []
    | c :: rest, k => if k = size then separator :: c :: go rest 1 else c :: go rest (k + 1)

def signOf (l : Layout) (isNegative : Bool) : List Char :=
  if isNegative then ['-']
  else match l.sign? with
    | some '+' => ['+']
    | some ' ' => [' ']
    | _ => []

/-- A whole number in a base. -/
def wholeNumber (l : Layout) (n : Int) : String :=
  let (base, mark, isUpper) := match l.form? with
    | some 'b' => (2, "0b", false)
    | some 'o' => (8, "0o", false)
    | some 'x' => (16, "0x", false)
    | some 'X' => (16, "0X", true)
    | _ => (10, "", false)
  let digits := (Nat.toDigits base n.natAbs).map fun c => if isUpper then c.toUpper else c
  let digits := match l.groups? with
    | some separator => group separator (if base = 10 then 3 else 4) digits
    | none => digits
  l.place '>' (l.signOf (n < 0) ++ if l.isMarked then mark.toList else []) digits

/-- The digits of a fraction that is not negative. -/
def fractionDigits (form? : Option Char) (precision? : Option Nat) (isMarked : Bool) (d : Decimal) : List Char :=
  let precision := precision?.getD 6
  match d with
  | .undefined => ['n', 'a', 'n']
  | .infinite _ => ['i', 'n', 'f']
  | .finite _ f =>
    match form? with
    | some 'f' | some 'F' => Decimal.fixed precision isMarked f
    | some 'e' => Decimal.scientific precision isMarked false f
    | some 'E' => Decimal.scientific precision isMarked true f
    | some 'g' | some 'n' => Decimal.general precision isMarked false f
    | some 'G' => Decimal.general precision isMarked true f
    | some '%' => Decimal.fixed precision isMarked (f.scale 2) ++ ['%']
    | _ =>
      match precision? with
      | none => (Number.text (.finite false f)).toList
      | some p =>
        let shown := Decimal.general p isMarked false f
        if shown.all Char.isDigit then shown ++ ['.', '0'] else shown

def fractionNumber (l : Layout) (d : Decimal) : String :=
  let digits := fractionDigits l.form? l.precision? l.isMarked d
  let whole := digits.takeWhile Char.isDigit
  let digits := match l.groups? with
    | some separator => group separator 3 whole ++ digits.drop whole.length
    | none => digits
  let isNegative := match d with
    | .finite isNegative _ | .infinite isNegative => isNegative
    | .undefined => false
  l.place '>' (l.signOf isNegative) digits

end Layout

namespace RunM

variable (r : Runner)

/-- A value as a layout asks for it. -/
def laidOut (v : Value) (layout : String) : RunM String := do
  match ← special? v "__format__" with
  | some f => textOf r (← r.call f ⟨[v, .text layout], []⟩)
  | none =>
    if layout = "" then textOf r v
    else
      match Layout.ofText? layout with
      | none =>
        raise "ValueError" ("Invalid format specifier '" ++ layout ++ "' for object of type '" ++ (← kindName v) ++ "'")
      | some l => do
        let unknown : RunM String := do
          raise "ValueError" ("Unknown format code '" ++ String.singleton (l.form?.getD ' ') ++
            "' for object of type '" ++ (← kindName v) ++ "'")
        match v with
        | .text s =>
          if !(l.form?.all (· = 's')) then unknown
          else if l.side? = some '=' && !layout.startsWith "0" then
            raise "ValueError" "'=' alignment not allowed in string format specifier"
          else
            let l := if l.side? = some '=' then { l with side? := some '<' } else l
            pure (l.place '<' [] (match l.precision? with
              | some p => s.toList.take p
              | none => s.toList))
        | .whole _ | .truth _ =>
          let n := v.whole?.getD 0
          match l.form? with
          | none | some 'd' | some 'n' | some 'b' | some 'o' | some 'x' | some 'X' => pure (l.wholeNumber n)
          | some 'c' => pure (l.place '<' [] [Char.ofNat n.toNat])
          | some c =>
            if c ∈ ['e', 'E', 'f', 'F', 'g', 'G', '%'] then pure (l.fractionNumber (Number.ofRatio n 1)) else unknown
        | .fraction d =>
          match l.form? with
          | none => pure (l.fractionNumber d)
          | some c => if c ∈ ['e', 'E', 'f', 'F', 'g', 'G', 'n', '%'] then pure (l.fractionNumber d) else unknown
        | v => raise "TypeError" ("unsupported format string passed to " ++ (← kindName v) ++ ".__format__")

/-- What stands in place of an exclamation mark and a letter after a value. -/
def converted (v : Value) (conversion? : Option Char) : RunM Value := do
  match conversion? with
  | some 'r' | some 'a' => return .text (← reprOf r v)
  | some 's' => return .text (← textOf r v)
  | _ => pure v

/-- A text with values after percent signs in it. -/
def interpolate (isBytes : Bool) : Nat → List Char → List Value → Option Value → RunM (List Char)
  | 0, _, _, _ => pure []
  | _ + 1, [], values, table? => do
    if !values.isEmpty && table?.isNone then raise "TypeError" "not all arguments converted during string formatting"
    else pure []
  | n + 1, '%' :: '%' :: rest, values, table? => return '%' :: (← interpolate isBytes n rest values table?)
  | n + 1, '%' :: rest, values, table? => do
    let (key?, rest) := match rest with
      | '(' :: more =>
        let key := more.takeWhile (· ≠ ')')
        (some (String.ofList key), more.drop (key.length + 1))
      | rest => (none, rest)
    let flags := rest.takeWhile fun c => c ∈ ['-', '+', ' ', '#', '0']
    let rest := rest.drop flags.length
    let size (rest : List Char) (values : List Value) : RunM (Int × List Char × List Value) := do
      match rest, values with
      | '*' :: rest, v :: values => pure (v.whole?.getD 0, rest, values)
      | rest, values =>
        let digits := rest.takeWhile Char.isDigit
        pure (Text.numberOf 10 digits, rest.drop digits.length, values)
    let (width, rest, values) ← size rest values
    let (precision?, rest, values) ← match rest with
      | '.' :: rest => do
        let (p, rest, values) ← size rest values
        pure (some p.toNat, rest, values)
      | rest => pure (none, rest, values)
    let rest := rest.dropWhile fun c => c ∈ ['h', 'l', 'L']
    match rest with
    | [] => raise "ValueError" "incomplete format"
    | form :: rest =>
      let (v, values) ← match key?, table? with
        | some key, some table => do
          match ← itemOf r table (.text key) with
          | v => pure (v, values)
        | some _, none => raise "TypeError" "format requires a mapping"
        | none, _ =>
          match values with
          | v :: values => pure (v, values)
          | [] => raise "TypeError" "not enough arguments for format string"
      let side := if flags.contains '-' || width < 0 then '<' else if flags.contains '0' then '=' else '>'
      let layout (fill : Char) (form? : Option Char) : Layout :=
        let sign? := if flags.contains '+' then some '+' else if flags.contains ' ' then some ' ' else none
        ⟨fill, some (if side = '=' && fill = ' ' then '>' else side), sign?, flags.contains '#', width.natAbs, none,
          precision?, form?⟩
      let fill := if side = '=' then '0' else ' '
      let shown ← match form with
        | 's' => do
          let s ← match isBytes, v with
            | true, .bytes b => pure b
            | _, v => textOf r v
          pure ((layout ' ' none).place '>' [] (s.toList.take (precision?.getD s.length)))
        | 'r' | 'a' => do
          let s ← reprOf r v
          pure ((layout ' ' none).place '>' [] (s.toList.take (precision?.getD s.length)))
        | 'c' =>
          match v with
          | .text s => pure ((layout ' ' none).place '>' [] s.toList)
          | v => pure ((layout ' ' none).place '>' [] [Char.ofNat (v.whole?.getD 0).toNat])
        | c =>
          if c ∈ ['d', 'i', 'u', 'x', 'X', 'o'] then do
            let n? := match v with
              | .fraction d => if c ∈ ['d', 'i', 'u'] then Number.truncate? d else none
              | v => v.whole?
            match n? with
            | some n =>
              let l := layout fill (if c ∈ ['d', 'i', 'u'] then some 'd' else some c)
              let base := if c = 'o' then 8 else if c = 'x' || c = 'X' then 16 else 10
              let digits := (Nat.toDigits base n.natAbs).map fun d => if c = 'X' then d.toUpper else d
              let digits := List.replicate (precision?.getD 0 - digits.length) '0' ++ digits
              let mark := if !flags.contains '#' then "" else if c = 'o' then "0o" else if c = 'x' then "0x"
                else if c = 'X' then "0X" else ""
              pure (l.place '>' (l.signOf (n < 0) ++ mark.toList) digits)
            | none =>
              let wanted := if c ∈ ['d', 'i', 'u'] then "a real number" else "an integer"
              raise "TypeError" ("%" ++ String.singleton c ++ " format: " ++ wanted ++ " is required, not " ++
                (← kindName v))
          else if c ∈ ['e', 'E', 'f', 'F', 'g', 'G'] then do
            match v.number? with
            | some x => pure ((layout fill (some c)).fractionNumber x.toDecimal)
            | none => raise "TypeError" ("must be real number, not " ++ (← kindName v))
          else
            raise "ValueError" ("unsupported format character '" ++ String.singleton c ++ "' (0x" ++
              String.ofList (Nat.toDigits 16 c.toNat) ++ ")")
      return shown.toList ++ (← interpolate isBytes n rest values table?)
  | n + 1, c :: rest, values, table? => return c :: (← interpolate isBytes n rest values table?)

/-- A text with values in place of what follows percent signs. -/
def percentText (isBytes : Bool) (format : String) (v : Value) : RunM String := do
  let cs := format.toList
  match v with
  | .tuple items => return String.ofList (← interpolate r isBytes (cs.length + 1) cs items none)
  | v =>
    let table? := if (← kindName v) ∈ ["dict", "defaultdict", "OrderedDict", "Counter"] then some v else none
    return String.ofList (← interpolate r isBytes (cs.length + 1) cs [v] table?)

end RunM

end ReleaseMatrix.Indented
