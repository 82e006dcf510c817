import ReleaseMatrix.Shell.Value
import ReleaseMatrix.Shell.Utility.Text

namespace ReleaseMatrix.Shell.VersionOrder

/-- The rank of a character where texts with numbers are compared. The end comes before all but a tilde. -/
def rank : Option Char → Int
  | none => -1
  | some c =>
    if c.isDigit then 0
    else if c.isAlpha then c.toNat
    else if c = '~' then -2
    else c.toNat + 256

/-- Compares the characters before the next numbers. Gives what is left if there is no difference. -/
def compareLetters : Nat → List Char → List Char → Except Ordering (List Char × List Char)
  | 0, a, b => .ok (a, b)
  | n + 1, a, b =>
    let isDone (cs : List Char) : Bool := cs.head?.all Char.isDigit
    if isDone a && isDone b then .ok (a, b)
    else
      let order := compare (rank a.head?) (rank b.head?)
      if order = .eq then compareLetters n a.tail b.tail else .error order

/-- Compares texts in turns by letters and by the numbers between them. -/
def compareRuns : Nat → List Char → List Char → Ordering
  | 0, _, _ => .eq
  | n + 1, a, b =>
    if a.isEmpty && b.isEmpty then .eq
    else match compareLetters (a.length + b.length) a b with
      | .error order => order
      | .ok (a, b) =>
        let dropZeros (cs : List Char) : List Char := cs.dropWhile (· = '0')
        let x := (dropZeros a).takeWhile Char.isDigit
        let y := (dropZeros b).takeWhile Char.isDigit
        let order := (compare x.length y.length).then (compare (String.ofList x) (String.ofList y))
        if order = .eq then compareRuns n ((dropZeros a).drop x.length) ((dropZeros b).drop y.length) else order

/-- The text without endings: dots with letters, digits and tildes after them, the first of which is no digit. -/
def withoutEndings (cs : List Char) : List Char :=
  go cs.length cs.reverse []
where
  go : Nat → List Char → List Char → List Char
    | 0, _, ending => ending
    | n + 1, reversed, _ =>
      let piece := reversed.takeWhile fun c => c.isAlphanum || c = '~'
      match reversed.drop piece.length, piece.getLast? with
      | '.' :: c :: before, some first =>
        if first.isDigit then reversed.reverse else go n (c :: before) []
      | _, _ => reversed.reverse

/-- Compares two versions, such as the names of files end in. -/
def compare (a b : List Char) : Ordering :=
  let isHidden (cs : List Char) : Bool := cs.head? = some '.'
  match a.isEmpty, b.isEmpty with
  | true, true => .eq
  | true, false => .lt
  | false, true => .gt
  | false, false =>
    if isHidden a && !isHidden b then .lt
    else if isHidden b && !isHidden a then .gt
    else
      let n := a.length + b.length + 1
      (compareRuns n (withoutEndings a) (withoutEndings b)).then (compareRuns n a b)

end ReleaseMatrix.Shell.VersionOrder

namespace ReleaseMatrix.Shell.Utility

/-- A decimal number at the start of a text: its sign and its digits before and after the point. -/
structure PlainNumber where
  isNegative : Bool
  whole : List Char
  fraction : List Char

namespace PlainNumber

/-- Reads a number after blanks. What is no number counts as zero. -/
def ofStart (cs : List Char) : PlainNumber × List Char :=
  let cs := cs.dropWhile fun c => c = ' ' || c = '\t'
  let (isNegative, cs) := match cs with
    | '-' :: cs => (true, cs)
    | cs => (false, cs)
  let whole := cs.takeWhile Char.isDigit
  let rest := cs.drop whole.length
  match rest with
  | '.' :: rest =>
    let fraction := rest.takeWhile Char.isDigit
    (⟨isNegative, whole, fraction⟩, rest.drop fraction.length)
  | rest => (⟨isNegative, whole, []⟩, rest)

/-- The value in units of so many digits after the point. -/
def scaled (x : PlainNumber) (digits : Nat) : Int :=
  let n := Text.numberOf 10 (x.whole ++ x.fraction ++ List.replicate (digits - x.fraction.length) '0')
  if x.isNegative then -(n : Int) else n

def compare (x y : PlainNumber) : Ordering :=
  let digits := max x.fraction.length y.fraction.length
  Ord.compare (x.scaled digits) (y.scaled digits)

end PlainNumber

/-- One end of what a line is sorted by: a field, and a character of it. Zero is the end of the field. -/
structure KeyPlace where
  field : Nat
  char : Nat
  skipsBlanks : Bool

/-- What a line is sorted by. -/
structure SortKey where
  first : KeyPlace
  last? : Option KeyPlace
  letters : List Char

namespace SortKey

/-- What may be wrong with the text of a key. -/
def refusal (message text : Octets) : Octets :=
  message ++ quoted text

/-- Reads one end of a key. -/
def readPlace (whole : Octets) (isFirst : Bool) (cs : List Char) : Except Octets (Nat × Nat × List Char) := do
  let badCount (cs : List Char) : Octets :=
    refusal ((if isFirst then "invalid number at field start" else "invalid number after ','") ++
      ": invalid count at start of ") (String.ofList cs)
  let digits := cs.takeWhile Char.isDigit
  if digits.isEmpty then throw (badCount cs)
  let field := Text.numberOf 10 digits
  if field = 0 then throw (refusal "field number is zero: invalid field specification " whole)
  match cs.drop digits.length with
  | '.' :: rest =>
    let chars := rest.takeWhile Char.isDigit
    if chars.isEmpty then
      throw (refusal "invalid number after '.': invalid count at start of " (String.ofList rest))
    let char := Text.numberOf 10 chars
    if isFirst && char = 0 then
      throw (refusal "character offset is zero: invalid field specification " whole)
    pure (field, char, rest.drop chars.length)
  | rest => pure (field, if isFirst then 1 else 0, rest)

/-- The letters that say how a key is compared. -/
def letterSet : List Char :=
  ['b', 'd', 'f', 'g', 'h', 'i', 'M', 'n', 'R', 'r', 'V']

/-- Reads a key. -/
def ofText (text : Octets) : Except Octets SortKey := do
  let (field, char, rest) ← readPlace text true text.toList
  let letters := rest.takeWhile letterSet.contains
  let (last?, more, rest) ← match rest.drop letters.length with
    | ',' :: rest => do
      let (field, char, rest) ← readPlace text false rest
      let more := rest.takeWhile letterSet.contains
      pure (some (⟨field, char, more.contains 'b'⟩ : KeyPlace), more, rest.drop more.length)
    | rest => pure (none, [], rest)
  if !rest.isEmpty then throw (refusal "stray character in field spec: invalid field specification " text)
  pure ⟨⟨field, char, letters.contains 'b'⟩, last?, letters ++ more⟩

/-- The fields of a line. Without a separator, each field starts with the blanks before it. -/
def fieldsOf (separator? : Option Char) (line : List Char) : List (List Char) :=
  match separator? with
  | some c => Text.splitChars c line
  | none => go line.length line
where
  go : Nat → List Char → List (List Char)
    | 0, _ => []
    | _ + 1, [] => []
    | n + 1, cs =>
      let blanks := cs.takeWhile fun c => c = ' ' || c = '\t'
      let body := (cs.drop blanks.length).takeWhile fun c => c ≠ ' ' && c ≠ '\t'
      (blanks ++ body) :: go n (cs.drop (blanks.length + body.length))

/-- Where a field starts in a line, and how long it is. -/
def fieldAt (separator? : Option Char) (line : List Char) (field : Nat) : Nat × Nat :=
  let fields := fieldsOf separator? line
  let gap := if separator?.isSome then 1 else 0
  let start := (fields.take (field - 1)).foldl (· + ·.length + gap) 0
  (min start line.length, ((fields[field - 1]?).map List.length).getD 0)

/-- How many blanks stand at a place of a line. -/
def blanksAt (line : List Char) (position : Nat) : Nat :=
  ((line.drop position).takeWhile fun c => c = ' ' || c = '\t').length

/-- What a line is compared by. -/
def textOf (k : SortKey) (separator? : Option Char) (line : List Char) : List Char :=
  let place (p : KeyPlace) : Nat × Nat :=
    let (start, length) := fieldAt separator? line p.field
    let blanks := if p.skipsBlanks then blanksAt line start else 0
    (start + blanks, length - blanks)
  let (start, _) := place k.first
  let start := start + (k.first.char - 1)
  let stop := match k.last? with
    | none => line.length
    | some last =>
      let (lastStart, length) := place last
      if last.char = 0 then lastStart + length else lastStart + last.char
  (line.take stop).drop start

def monthNames : List String :=
  ["JAN", "FEB", "MAR", "APR", "MAY", "JUN", "JUL", "AUG", "SEP", "OCT", "NOV", "DEC"]

/-- The number of the month whose name starts a text, or zero. -/
def monthOf (cs : List Char) : Nat :=
  let name := String.ofList (((cs.dropWhile isNumberSpace).take 3).map Char.toUpper)
  ((monthNames.idxOf? name).map (· + 1)).getD 0

/-- The power that a unit after a number stands for. -/
def unitRank (rest : List Char) : Nat :=
  match rest with
  | c :: _ => ((['K', 'M', 'G', 'T', 'P', 'E', 'Z', 'Y'].idxOf? c.toUpper).map (· + 1)).getD 0
  | [] => 0

/-- Compares numbers with units after them: by the sign, then by the unit, then by the number. -/
def compareWithUnits (a b : List Char) : Ordering :=
  let (x, restX) := PlainNumber.ofStart a
  let (y, restY) := PlainNumber.ofStart b
  let sign (x : PlainNumber) : Int :=
    if (x.whole ++ x.fraction).all (· = '0') then 0 else if x.isNegative then -1 else 1
  let direction (o : Ordering) : Ordering := if sign x < 0 then o.swap else o
  (compare (sign x) (sign y)).then
    ((direction (compare (unitRank restX) (unitRank restY))).then (PlainNumber.compare x y))

/-- The general number at the start of a text. What is no number comes first. -/
def generalOf (cs : List Char) : Int × Fraction :=
  match Decimal.read? (cs.dropWhile isNumberSpace) with
  | some (.finite isNegative f, _) => (if f.numerator = 0 then 1 else if isNegative then 0 else 1, f)
  | some (.infinite isNegative, _) => (if isNegative then -1 else 2, ⟨0, 1⟩)
  | _ => (-2, ⟨0, 1⟩)

def compareGeneral (a b : List Char) : Ordering :=
  let (signA, x) := generalOf a
  let (signB, y) := generalOf b
  let order := compare (x.numerator * y.denominator) (y.numerator * x.denominator)
  (compare signA signB).then (if signA = 0 then order.swap else order)

/-- How two texts compare by the letters of a key. -/
def compareTexts (letters : List Char) (a b : List Char) : Ordering :=
  let order :=
    if letters.contains 'n' then PlainNumber.compare (PlainNumber.ofStart a).1 (PlainNumber.ofStart b).1
    else if letters.contains 'g' then compareGeneral a b
    else if letters.contains 'h' then compareWithUnits a b
    else if letters.contains 'M' then compare (monthOf a) (monthOf b)
    else if letters.contains 'V' then VersionOrder.compare a b
    else
      let isKept (c : Char) : Bool :=
        (!letters.contains 'd' || c = ' ' || c = '\t' || c.isAlphanum) && (!letters.contains 'i' || isPrintable c)
      let fold (cs : List Char) : List Char :=
        let kept := cs.filter isKept
        if letters.contains 'f' then kept.map Char.toUpper else kept
      compare (String.ofList (fold a)) (String.ofList (fold b))
  if letters.contains 'r' then order.swap else order

def compareLines (k : SortKey) (separator? : Option Char) (a b : Octets) : Ordering :=
  compareTexts k.letters (k.textOf separator? a.toList) (k.textOf separator? b.toList)

end SortKey

/-- Lists that are in order by themselves as one list: the least of their first elements comes first. -/
def mergeAll {α : Type} (isBefore : α → α → Bool) : Nat → List (List α) → List α
  | 0, _ => []
  | n + 1, lists =>
    let heads := lists.mapIdx fun k list => (list.head?.map fun a => (k, a))
    let best? := (heads.filterMap id).foldl (fun best? (k, a) => match best? with
      | some (j, b) => if isBefore b a then some (j, b) else some (k, a)
      | none => some (k, a)) none
    match best? with
    | none => []
    | some (k, a) => a :: mergeAll isBefore n (lists.mapIdx fun j list => if j = k then list.tail else list)

namespace Sorting

/-- How lines are put in order. -/
structure Plan where
  given : Given
  keys : List SortKey
  separator? : Option Char

def byKeys (s : Plan) (a b : Octets) : Ordering :=
  s.keys.foldl (fun order k => order.then (k.compareLines s.separator? a b)) .eq

/-- The order of lines, in which those that the keys do not tell apart are compared as a whole. -/
def order (s : Plan) (a b : Octets) : Ordering :=
  let first := byKeys s a b
  if s.given.has 'u' || s.given.has 's' then first
  else
    let whole := compare a b
    first.then (if s.given.has 'r' then whole.swap else whole)

def isBefore (s : Plan) (a b : Octets) : Bool :=
  order s a b ≠ .gt

/-- The first line that is out of order, with its number. -/
def disorder? (s : Plan) : Nat → List Octets → Option (Nat × Octets)
  | n, a :: b :: lines =>
    let order := order s a b
    if order = .gt || (s.given.has 'u' && order = .eq) then some (n + 1, b) else disorder? s (n + 1) (b :: lines)
  | _, _ => none

/-- Lines of which those that the keys do not tell apart are one. -/
def dropEqual (s : Plan) (lines : List Octets) : List Octets :=
  lines.foldl (fun (kept : List Octets) line => match kept with
    | last :: _ => if byKeys s last line = .eq then kept else line :: kept
    | [] => [line]) [] |>.reverse

def forms : List OptionForm :=
  Utility.forms "bcCdfghik:mMno:RrsS:t:T:uVz" [('b', "ignore-leading-blanks"), ('d', "dictionary-order"),
    ('f', "ignore-case"), ('g', "general-numeric-sort"), ('h', "human-numeric-sort"), ('i', "ignore-nonprinting"),
    ('k', "key"), ('m', "merge"), ('M', "month-sort"), ('n', "numeric-sort"), ('o', "output"), ('r', "reverse"),
    ('R', "random-sort"), ('s', "stable"), ('S', "buffer-size"), ('t', "field-separator"), ('u', "unique"),
    ('V', "version-sort"), ('z', "zero-terminated"), ('T', "temporary-directory"), ('π', "parallel="), ('σ', "sort="),
    ('ρ', "random-source=")] ++ [⟨'c', .optional, "check"⟩]

/-- The kinds of order that have names, with their letters. -/
def kinds : List (Octets × Char) :=
  [("general-numeric", 'g'), ("human-numeric", 'h'), ("month", 'M'), ("numeric", 'n'), ("random", 'R'),
    ("version", 'V')]

/-- The options with the letter of each kind of order that is named, or the name that is none. -/
def nameKinds (g : Given) : Except Octets Given := do
  let options ← g.options.mapM fun (letter, text) => do
    if letter = 'σ' then
      match choiceOf? (kinds.map (·.1)) text with
      | some name => pure (((kinds.find? (·.1 = name)).map (·.2)).getD 'n', "")
      | none => throw (noChoice "sort" (kinds.map fun kind => [kind.1]) text)
    else if letter = 'c' && text ≠ "" then
      match choiceOf? ["quiet", "silent", "diagnose-first"] text with
      | some "diagnose-first" => pure ('c', "")
      | some _ => pure ('C', "")
      | none => throw (noChoice "check" [["quiet", "silent"], ["diagnose-first"]] text)
    else pure (letter, text)
  pure { g with options := options }

/-- The keys that options tell, or why they make no sense. -/
def keysOf (g : Given) : Except Octets (List SortKey) := do
  let global := (g.options.map (·.1)).filter SortKey.letterSet.contains
  let given ← (g.options.filter (·.1 = 'k')).mapM fun o => SortKey.ofText o.2
  let keys := given.map fun k =>
    if k.letters.isEmpty then
      let skips := global.contains 'b'
      { k with
        letters := global
        first := { k.first with skipsBlanks := skips }
        last? := k.last?.map fun p => { p with skipsBlanks := skips } }
    else k
  let keys := if keys.isEmpty then [⟨⟨1, 1, global.contains 'b'⟩, none, global⟩] else keys
  keys.forM fun k =>
    let kinds := ['g', 'h', 'M', 'n'].filter k.letters.contains
    let isOther := ['d', 'i', 'R', 'V'].any k.letters.contains
    if kinds.length + isOther.toNat > 1 then
      let all := ['d', 'f', 'g', 'h', 'i', 'M', 'n', 'R', 'V'].filter k.letters.contains
      throw ("options '-" ++ String.ofList all ++ "' are incompatible")
    else pure ()
  pure keys

end Sorting

open Sorting in
/-- Prints the lines of files in order. -/
def sort : Work := fun words =>
  withGiven 2 Sorting.forms words fun g => do
    let refuse (message : Octets) : ShellM Nat := do
      warn message
      pure 2
    match nameKinds g with
    | .error message => misuse message 1
    | .ok g =>
    let tab? := (g.argument? 't').map fun text => if text = "\\0" then "\x00" else text
    match keysOf g with
    | .error message => refuse message
    | .ok keys =>
      if tab? = some "" then refuse "empty tab"
      else if tab?.any (·.length > 1) then refuse ("multi-character tab " ++ quoted (tab?.getD ""))
      else
        let s : Sorting.Plan := ⟨g, keys, tab?.bind fun text => text.toList.head?⟩
        let isCheck := g.has 'c' || g.has 'C'
        let inputs := inputsOf g.operands
        if isCheck && inputs.length > 1 then
          refuse ("extra operand " ++ quoted (inputs[1]?.getD "") ++ " not allowed with -" ++
            if g.has 'c' then "c" else "C")
        else
          let separator := if g.has 'z' then '\x00' else '\n'
          let readOne (state : List (List Octets) × Nat) (path : Octets) : ShellM (List (List Octets) × Nat) := do
            let (found, status) := state
            let failed (text : Octets) : ShellM (List (List Octets) × Nat) := do
              warn text
              pure (found, 2)
            let unread (fault : FileFault) : ShellM (List (List Octets) × Nat) :=
              failed ("cannot read: " ++ quotedIfOdd path ++ ": " ++ fault.text)
            if status ≠ 0 then pure state
            else withInput path unread fun descriptor => do
              match ← ShellM.readAll descriptor with
              | .ok text => pure (found ++ [recordsOf separator text], status)
              | .error fault => failed ("read failed: " ++ quotedIfOdd path ++ ": " ++ fault.text)
          let (found, status) ← inputs.foldlM readOne ([], 0)
          if status ≠ 0 then pure status
          else if isCheck then
            match disorder? s 1 found.flatten with
            | some (number, line) =>
              if g.has 'c' then
                warn (inputs.headD "-" ++ ":" ++ toString number ++ ": disorder: " ++ line)
              pure 1
            | none => pure 0
          else
            let all := found.flatten
            let sorted := if g.has 'm' then mergeAll (isBefore s) (all.length + 1) found
              else all.mergeSort (isBefore s)
            let kept := if g.has 'u' then dropEqual s sorted else sorted
            let text := String.join (kept.map fun line => line ++ String.singleton separator)
            match g.argument? 'o' with
            | none => print text
            | some path =>
              let status ← tryFiles ("open failed: " ++ quotedIfOdd path)
                (FileM.write (Octets.toPath path) (Octets.toBytes text))
              pure (if status = 0 then 0 else 2)

/-- Lines that follow each other and are alike, together. -/
def runsOf (isAlike : Octets → Octets → Bool) (lines : List Octets) : List (List Octets) :=
  (lines.foldl (fun (runs : List (List Octets)) line => match runs with
    | (first :: run) :: before =>
      if isAlike ((first :: run).getLastD first) line then (line :: first :: run) :: before
      else [line] :: (first :: run) :: before
    | runs => [line] :: runs) []).reverse.map List.reverse

/-- The part of a line that is compared after some fields and characters. -/
def comparedPart (g : Given) (line : Octets) : List Char :=
  let count (letter : Char) : Nat := ((g.argument? letter).bind String.toNat?).getD 0
  let isBlank (c : Char) : Bool := c = ' ' || c = '\t'
  let skipField (cs : List Char) (_ : Nat) : List Char := (cs.dropWhile isBlank).dropWhile (!isBlank ·)
  let rest := ((List.range (count 'f')).foldl skipField line.toList).drop (count 's')
  let part := if g.has 'w' then rest.take (count 'w') else rest
  if g.has 'i' then part.map Char.toUpper else part

namespace Runs

def forms : List OptionForm :=
  Utility.forms "cdDiuf:s:w:z" [('c', "count"), ('d', "repeated"), ('u', "unique"), ('i', "ignore-case"),
    ('f', "skip-fields"), ('s', "skip-chars"), ('w', "check-chars"), ('z', "zero-terminated")] ++
    [⟨'D', .optional, "all-repeated"⟩, ⟨'γ', .optional, "group"⟩]

/-- The ways to set runs of lines apart. -/
def methods : List (Char × Octets × List Octets) :=
  [('D', "all-repeated", ["none", "prepend", "separate"]), ('γ', "group", ["prepend", "append", "separate", "both"])]

/-- The lines of runs, with empty lines before, after or between them. -/
def separated (method : Octets) (runs : List (List Octets)) : List Octets :=
  let before := if method = "prepend" || method = "both" then [""] else []
  let after := if method = "append" || method = "both" then [""] else []
  if runs.isEmpty then []
  else if method = "none" then runs.flatten
  else if method = "append" then runs.flatMap (· ++ after)
  else if method = "prepend" then runs.flatMap (before ++ ·)
  else before ++ List.intercalate [""] runs ++ after

end Runs

/-- Prints lines that follow each other and are alike once. -/
def uniq : Work := fun words =>
  withGiven 1 Runs.forms words fun g => do
      let method (letter : Char) (preset : Octets) : Octets :=
        match g.argument? letter with
        | some "" | none => preset
        | some text => text
      let badMethod? := Runs.methods.findSome? fun (letter, name, choices) =>
        (g.argument? letter).bind fun text =>
          if text = "" || (choiceOf? choices text).isSome then none
          else some (noChoice name (choices.map ([·])) text)
      let checks : List (Char × String) :=
        [('f', "number of fields to skip"), ('s', "number of bytes to skip"), ('w', "number of bytes to compare")]
      let bad? := checks.find? fun (letter, _) => (g.argument? letter).any fun text => text.toNat?.isNone
      if let some (letter, what) := bad? then
        warn ((g.argument? letter).getD "" ++ ": invalid " ++ what)
        pure 1
      else if let some message := badMethod? then misuse message 1
      else if g.has 'γ' && ['c', 'd', 'D', 'u'].any g.has then
        misuse "--group is mutually exclusive with -c/-d/-D/-u" 1
      else if g.operands.length > 2 then misuse ("extra operand " ++ quoted (g.operands[2]?.getD "")) 1
      else if g.has 'c' && g.has 'D' then
        misuse "printing all duplicated lines and repeat counts is meaningless" 1
      else match ← readInputAs (fun path => "error reading " ++ quoted path) (g.operands.headD "-") with
        | none => pure 1
        | some text =>
          let isAlike (a b : Octets) : Bool := comparedPart g a = comparedPart g b
          let ending := if g.has 'z' then '\x00' else '\n'
          let runs := runsOf isAlike (recordsOf ending text)
          let chosen := runs.filter fun run =>
            (run.length > 1 || !(g.has 'd' || g.has 'D')) && (run.length = 1 || !g.has 'u')
          let shown := chosen.map fun run =>
            if g.has 'D' || g.has 'γ' then run
            else (run.take 1).map fun line => (if g.has 'c' then padded 7 run.length ++ " " else "") ++ line
          let gap := if g.has 'γ' then method 'γ' "separate" else if g.has 'D' then method 'D' "none" else "none"
          let lines := Runs.separated ((choiceOf? ["none", "separate", "prepend", "append", "both"] gap).getD gap) shown
          let output := String.join (lines.map (· ++ String.singleton ending))
          match g.operands with
          | [_, path] =>
            tryFiles (quotedIfOdd path) (FileM.write (Octets.toPath path) (Octets.toBytes output))
          | _ => print output

end ReleaseMatrix.Shell.Utility
