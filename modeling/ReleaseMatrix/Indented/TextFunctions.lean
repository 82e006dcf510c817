import ReleaseMatrix.Indented.Operation
import ReleaseMatrix.Text

namespace ReleaseMatrix.Indented

open Shell (Octets)

namespace TextPart

/-- Where a text stands first within another one. -/
def find? (part : List Char) : List Char → Option Nat
  | [] => if part.isEmpty then some 0 else none
  | c :: rest => if part.isPrefixOf (c :: rest) then some 0 else (find? part rest).map (· + 1)

/-- Where a text stands last within another one. -/
def findLast? (part whole : List Char) : Option Nat :=
  (find? part.reverse whole.reverse).map fun k => whole.length - k - part.length

/-- The pieces of a text between separators, at most so many of which are taken. -/
def splitBy (separator : List Char) : Nat → Option Nat → List Char → List (List Char)
  | 0, _, cs => [cs]
  | _ + 1, some 0, cs => [cs]
  | n + 1, limit?, cs =>
    match find? separator cs with
    | none => [cs]
    | some k => cs.take k :: splitBy separator n (limit?.map (· - 1)) (cs.drop (k + separator.length))

/-- The words of a text, with the rest as it is after so many. -/
def words : Nat → Option Nat → List Char → List (List Char)
  | 0, _, _ => []
  | n + 1, limit?, cs =>
    let cs := cs.dropWhile isSpace
    if cs.isEmpty then []
    else if limit? = some 0 then [(cs.reverse.dropWhile isSpace).reverse]
    else
      let word := cs.takeWhile (!isSpace ·)
      word :: words n (limit?.map (· - 1)) (cs.drop word.length)
where
  isSpace (c : Char) : Bool := Text.isBlank c || 0x1c ≤ c.toNat && c.toNat ≤ 0x1f

/-- The text with a part replaced wherever it stands, at most so often. -/
def replace (old new : List Char) (limit? : Option Nat) (cs : List Char) : List Char :=
  if old.isEmpty then
    let between := cs.flatMap fun c => new ++ [c]
    match limit? with
    | none => between ++ new
    | some k => (cs.take k).flatMap (fun c => new ++ [c]) ++ (if cs.length < k then new else []) ++ cs.drop k
  else new.intercalate (splitBy old (cs.length + 1) limit? cs)

/-- The lines of a text. -/
def lines (keepsEnds : Bool) : List Char → List Char → List (List Char)
  | [], line => if line.isEmpty then [] else [line.reverse]
  | '\x0d' :: '\n' :: rest, line => finish ['\n', '\x0d'] line :: lines keepsEnds rest []
  | c :: rest, line =>
    if c = '\n' || c = '\x0d' || c = '\x0b' || c = '\x0c' || c.toNat = 0x85 || c.toNat = 0x2028 || c.toNat = 0x2029 ||
        0x1c ≤ c.toNat && c.toNat ≤ 0x1e then finish [c] line :: lines keepsEnds rest []
    else lines keepsEnds rest (c :: line)
where
  finish (ending line : List Char) : List Char :=
    (if keepsEnds then ending ++ line else line).reverse

/-- A text without some characters at its start and at its end. -/
def strip (atStart atEnd : Bool) (isDropped : Char → Bool) (cs : List Char) : List Char :=
  let cs := if atStart then cs.dropWhile isDropped else cs
  if atEnd then (cs.reverse.dropWhile isDropped).reverse else cs

def isLetter (c : Char) : Bool := c.isAlpha || c.toNat > 127

/-- Each word with a large letter at its start. -/
def title : Bool → List Char → List Char
  | _, [] => []
  | isInside, c :: rest => (if isInside then c.toLower else c.toUpper) :: title (isLetter c) rest

/-- A text with blanks up to columns in place of tabs. -/
def expandTabs (size : Nat) : Nat → List Char → List Char
  | _, [] => []
  | column, '\t' :: rest =>
    let width := if size = 0 then 0 else size - column % size
    List.replicate width ' ' ++ expandTabs size (column + width) rest
  | column, c :: rest => c :: expandTabs size (if c = '\n' || c = '\x0d' then 0 else column + 1) rest

end TextPart

namespace RunM

variable (r : Runner)

/-- The text that an argument must be. -/
def textFor (function : String) (v? : Option Value) : RunM String := do
  match v? with
  | some (.text s) => pure s
  | some v => raise "TypeError" (function ++ "() argument must be str, not " ++ (← kindName v))
  | none => raise "TypeError" (function ++ "() missing a required argument")

/-- The whole number that an argument is, or the one that it stands for where it is missing. -/
def wholeFor (v? : Option Value) (usual : Int) : RunM Int := do
  match v? with
  | none | some .none => pure usual
  | some v =>
    match v.whole? with
    | some n => pure n
    | none => raise "TypeError" ("'" ++ (← kindName v) ++ "' object cannot be interpreted as an integer")

/-- The texts that are looked for: one, or several. -/
def textsFor (function : String) (v? : Option Value) : RunM (List String) := do
  match v? with
  | some (.tuple items) => items.mapM fun v => textFor function (some v)
  | some (.text s) => pure [s]
  | some v =>
    raise "TypeError" (function ++ " first arg must be str or a tuple of str, not " ++ (← kindName v))
  | none => raise "TypeError" (function ++ "() takes at least 1 argument (0 given)")

/-- What a function of a text gives, if texts have it. -/
def textFunction? (s : String) (name : String) (g : Given) : Option (RunM Value) :=
  let cs := s.toList
  let first? := g.plain.head?
  let give (cs : List Char) : RunM Value := pure (.text (String.ofList cs))
  let giveAll (all : List (List Char)) : RunM Value := makeList (all.map fun cs => .text (String.ofList cs))
  let test (isOne : Char → Bool) : RunM Value := pure (.truth (!cs.isEmpty && cs.all isOne))
  let strip (atStart atEnd : Bool) : RunM Value := do
    match first? with
    | none | some .none => give (TextPart.strip atStart atEnd TextPart.words.isSpace cs)
    | some v =>
      let dropped := (← textFor name (some v)).toList
      give (TextPart.strip atStart atEnd dropped.contains cs)
  let limit : RunM (Option Nat) := do
    let k ← wholeFor (g.argument? 1 "maxsplit") (-1)
    pure (if k < 0 then none else some k.toNat)
  /- the part that a search is limited to, and where it starts -/
  let part : RunM (List Char × Nat × Bool) := do
    let bound? (k : Nat) : RunM (Option Int) := do
      match g.plain[k]? with
      | none | some .none => pure none
      | some v => return some (← wholeFor (some v) 0)
    let start? ← bound? 1
    let stop? ← bound? 2
    let places := slicePlaces cs.length start? stop? 1
    let start := match start? with
      | some k => (if k < 0 then max 0 (k + cs.length) else k).toNat
      | none => 0
    pure ((cs.drop start).take places.length, start, start ≤ cs.length)
  let search (find : List Char → List Char → Option Nat) : RunM (Option Nat) := do
    let target ← textFor name first?
    let (within, start, isThere) ← part
    pure (if isThere then (find target.toList within).map (· + start) else none)
  let justify (side : Char) : RunM Value := do
    let width ← wholeFor first? 0
    let fill : Char := match (g.plain[1]? : Option Value) with
      | some (.text f) => f.toList.headD ' '
      | _ => ' '
    let missing := width.toNat - cs.length
    let left := if side = '^' then missing / 2 + (missing % 2) * (width.toNat % 2) else if side = '<' then 0
      else missing
    give (List.replicate left fill ++ cs ++ List.replicate (missing - left) fill)
  let ends (isEnd : List Char → List Char → Bool) : RunM Value := do
    let targets ← textsFor name first?
    let (within, _, isThere) ← part
    pure (.truth (isThere && targets.any fun t => isEnd t.toList within))
  match name with
  | "upper" => some (give (cs.map Char.toUpper))
  | "lower" | "casefold" => some (give (cs.map Char.toLower))
  | "swapcase" => some (give (cs.map fun c => if c.isUpper then c.toLower else c.toUpper))
  | "capitalize" => some (give (match cs with
    | c :: rest => c.toUpper :: rest.map Char.toLower
    | [] => []))
  | "title" => some (give (TextPart.title false cs))
  | "strip" => some (strip true true)
  | "lstrip" => some (strip true false)
  | "rstrip" => some (strip false true)
  | "split" => some do
    let limit? ← limit
    match g.argument? 0 "sep" with
    | none | some .none => giveAll (TextPart.words (cs.length + 1) limit? cs)
    | some v =>
      let separator ← textFor "split" (some v)
      if separator = "" then raise "ValueError" "empty separator"
      giveAll (TextPart.splitBy separator.toList (cs.length + 1) limit? cs)
  | "rsplit" => some do
    let limit? ← limit
    match g.argument? 0 "sep" with
    | none | some .none => giveAll ((TextPart.words (cs.length + 1) limit? cs.reverse).map List.reverse).reverse
    | some v =>
      let separator ← textFor "rsplit" (some v)
      if separator = "" then raise "ValueError" "empty separator"
      giveAll ((TextPart.splitBy separator.toList.reverse (cs.length + 1) limit? cs.reverse).map List.reverse).reverse
  | "splitlines" => some do
    let keeps ← match g.argument? 0 "keepends" with
      | some v => isTrue r v
      | none => pure false
    giveAll (TextPart.lines keeps cs [])
  | "join" => some do
    match first? with
    | none => raise "TypeError" "str.join() takes exactly one argument (0 given)"
    | some v =>
      let items ← tryCatch (itemsOf r v) fun
        | .raised error => do
          if ← isOfKind error (.kind "TypeError") then raise "TypeError" "can only join an iterable"
          else throw (.raised error)
        | stop => throw stop
      let texts ← items.zipIdx.mapM fun (item, k) => do
        match item with
        | .text t => pure t
        | v =>
          raise "TypeError" ("sequence item " ++ toString k ++ ": expected str instance, " ++ (← kindName v) ++
            " found")
      pure (.text (s.intercalate texts))
  | "replace" => some do
    let old ← textFor "replace" first?
    let new ← textFor "replace" g.plain[1]?
    let count ← wholeFor (g.plain[2]?) (-1)
    give (TextPart.replace old.toList new.toList (if count < 0 then none else some count.toNat) cs)
  | "startswith" => some (ends List.isPrefixOf)
  | "endswith" => some (ends List.isSuffixOf)
  | "removeprefix" => some do
    let lead ← textFor "removeprefix" first?
    give (if lead.toList.isPrefixOf cs then cs.drop lead.length else cs)
  | "removesuffix" => some do
    let tail ← textFor "removesuffix" first?
    give (if tail.toList.isSuffixOf cs then cs.take (cs.length - tail.length) else cs)
  | "find" => some do
    match ← search TextPart.find? with
    | some k => pure (.whole k)
    | none => pure (.whole (-1))
  | "rfind" => some do
    match ← search TextPart.findLast? with
    | some k => pure (.whole k)
    | none => pure (.whole (-1))
  | "index" => some do
    match ← search TextPart.find? with
    | some k => pure (.whole k)
    | none => raise "ValueError" "substring not found"
  | "rindex" => some do
    match ← search TextPart.findLast? with
    | some k => pure (.whole k)
    | none => raise "ValueError" "substring not found"
  | "count" => some do
    let target ← textFor "count" first?
    let (within, _, _) ← part
    pure (.whole (if target = "" then within.length + 1
      else (TextPart.splitBy target.toList (within.length + 1) none within).length - 1))
  | "partition" => some do
    let separator ← textFor "partition" first?
    match TextPart.find? separator.toList cs with
    | some k => parts (cs.take k) separator (cs.drop (k + separator.length))
    | none => parts cs "" []
  | "rpartition" => some do
    let separator ← textFor "rpartition" first?
    match TextPart.findLast? separator.toList cs with
    | some k => parts (cs.take k) separator (cs.drop (k + separator.length))
    | none => parts [] "" cs
  | "isdigit" | "isdecimal" | "isnumeric" => some (test Char.isDigit)
  | "isalpha" => some (test TextPart.isLetter)
  | "isalnum" => some (test fun c => TextPart.isLetter c || c.isDigit)
  | "isspace" => some (test TextPart.words.isSpace)
  | "isupper" => some (pure (.truth (cs.any Char.isUpper && !cs.any Char.isLower)))
  | "islower" => some (pure (.truth (cs.any Char.isLower && !cs.any Char.isUpper)))
  | "istitle" => some (pure (.truth (cs.any Char.isAlpha && TextPart.title false cs = cs)))
  | "isidentifier" => some (pure (.truth (ScanM.isNameStart (cs.headD '0') && cs.all ScanM.isNamePart)))
  | "isprintable" => some (pure (.truth (cs.all Display.isShown)))
  | "isascii" => some (pure (.truth (cs.all fun c => c.toNat < 128)))
  | "ljust" => some (justify '<')
  | "rjust" => some (justify '>')
  | "center" => some (justify '^')
  | "zfill" => some do
    let width ← wholeFor first? 0
    let (sign, digits) := match cs with
      | '-' :: ds => (['-'], ds)
      | '+' :: ds => (['+'], ds)
      | ds => ([], ds)
    give (sign ++ List.replicate (width.toNat - cs.length) '0' ++ digits)
  | "expandtabs" => some do
    let size ← wholeFor (g.argument? 0 "tabsize") 8
    give (TextPart.expandTabs size.toNat 0 cs)
  | _ => none
where
  parts (before : List Char) (separator : String) (after : List Char) : RunM Value :=
    pure (.tuple [.text (String.ofList before), .text separator, .text (String.ofList after)])

mutual

/-- A value with texts for the bytes in it, one character for each byte, or the other way. -/
def exchange (toBytes : Bool) : Nat → Value → RunM Value
  | 0, v => pure v
  | n + 1, v => do
    match v, toBytes with
    | .bytes s, false => pure (.text s)
    | .text s, true => pure (.bytes s)
    | .tuple items, _ => return .tuple (← items.mapM (exchange toBytes n))
    | .object i, _ =>
      match ← objectAt i with
      | .list items => return ← makeList (← items.toList.mapM (exchange toBytes n))
      | _ => pure v
    | v, _ => pure v

end

/-- What a function of bytes gives, if bytes have it. Most are those of texts. -/
def bytesFunction? (s : Octets) (name : String) (g : Given) : Option (RunM Value) :=
  match name with
  | "decode" => some do
    match g.argument? 0 "encoding", g.argument? 1 "errors" with
    | some (.text "latin-1"), _ | some (.text "latin1"), _ | some (.text "iso-8859-1"), _ => pure (.text s)
    | _, some (.text "replace") => pure (.text (Octets.toText s))
    | _, some (.text "ignore") =>
      pure (.text (String.ofList ((Octets.toText s).toList.filter (· ≠ Text.Utf8.replacement))))
    | _, _ => return .text (← decode s)
  | "hex" =>
    some (pure (.text (String.join (s.toList.map fun c => Display.hex 2 c.toNat))))
  | "format" | "encode" | "isidentifier" | "isprintable" | "isdecimal" | "isnumeric" | "casefold" => none
  | name =>
    match textFunction? r s name ⟨[], []⟩ with
    | none => none
    | some _ => some do
      let given ← g.plain.mapM (exchange false 4)
      match textFunction? r s name ⟨given, g.named⟩ with
      | some work => exchange true 4 (← work)
      | none => pure .none

end RunM

end ReleaseMatrix.Indented
