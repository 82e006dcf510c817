import ReleaseMatrix.Indented.TextFunctions
import ReleaseMatrix.Regex.Reader

namespace ReleaseMatrix.Indented

/-- A pattern of a program: groups can have names, and letters change what it means. -/
structure TextPattern where
  source : String
  letters : List Char
  regex : Regex
  names : List (String × Nat)

namespace TextPattern

/-- A pattern with the names of its groups taken off, and these with their numbers. -/
def takeNames : Nat → Nat → Bool → List Char → List Char × List (String × Nat)
  | 0, _, _, cs => (cs, [])
  | _ + 1, _, _, [] => ([], [])
  | n + 1, count, isInSet, '\\' :: c :: rest =>
    let (cs, names) := takeNames n count isInSet rest
    ('\\' :: c :: cs, names)
  | n + 1, count, false, '(' :: '?' :: 'P' :: '<' :: rest =>
    let name := String.ofList (rest.takeWhile (· ≠ '>'))
    let (cs, names) := takeNames n (count + 1) false ((rest.dropWhile (· ≠ '>')).drop 1)
    ('(' :: cs, (name, count + 1) :: names)
  | n + 1, count, false, '(' :: '?' :: rest =>
    let (cs, names) := takeNames n count false rest
    ('(' :: '?' :: cs, names)
  | n + 1, count, isInSet, c :: rest =>
    let count := if c = '(' && !isInSet then count + 1 else count
    let isInSet := if c = '[' then true else if c = ']' then false else isInSet
    let (cs, names) := takeNames n count isInSet rest
    (c :: cs, names)

/-- A pattern in which the end of a line is the end of the text too, before a last line break as well. -/
def withTextEnds : Regex → Regex
  | .lineEnd => .either .textEnd (.ahead true (.sequence (.char '\n') .textEnd))
  | .group index body => .group index (withTextEnds body)
  | .sequence first second => .sequence (withTextEnds first) (withTextEnds second)
  | .either first second => .either (withTextEnds first) (withTextEnds second)
  | .star isLazy body => .star isLazy (withTextEnds body)
  | .ahead isThere body => .ahead isThere (withTextEnds body)
  | .behind isThere body => .behind isThere (withTextEnds body)
  | r => r

def read (source : String) (letters : List Char) : Except Regex.Fault TextPattern := do
  let (letters, cs) := match source.toList with
    | '(' :: '?' :: rest =>
      let own := rest.takeWhile Char.isLower
      if !own.isEmpty && (rest.drop own.length).head? = some ')' then (letters ++ own, rest.drop (own.length + 1))
      else (letters, source.toList)
    | cs => (letters, cs)
  let (cs, names) := takeNames (cs.length + 1) 0 false cs
  let regex ← Regex.read ⟨true, true, true, true, true, false⟩ cs
  pure ⟨source, letters, if letters.contains 'm' then regex else withTextEnds regex, names⟩

def subject (p : TextPattern) (text : String) : Regex.Subject :=
  ⟨text.toList.toArray, p.letters.contains 'i', p.letters.contains 'm', p.letters.contains 's', false,
    p.regex.looksBack || p.regex.groupCount > 0⟩

/-- The matches in a text from a place on. One that is empty and where the last one was does not count. -/
def allFrom (p : TextPattern) (s : Regex.Subject) : Nat → Nat → Bool → List Regex.Match
  | 0, _, _ => []
  | n + 1, start, hasEmpty =>
    match p.regex.search s start with
    | none => []
    | some m =>
      if m.start = start && m.stop = start && hasEmpty then
        if start < s.text.size then allFrom p s n (start + 1) false else []
      else m :: allFrom p s n m.stop (m.start = m.stop)

def all (p : TextPattern) (text : String) : List Regex.Match :=
  allFrom p (p.subject text) (2 * text.length + 2) 0 false

end TextPattern

namespace RunM

variable (r : Runner)

/-- The letters that a number of flags stands for. -/
def patternLetters (flags : Nat) : List Char :=
  [(2, 'i'), (8, 'm'), (16, 's'), (64, 'x')].filterMap fun ((bit, c) : Nat × Char) =>
    if flags / bit % 2 = 1 then some c else none

def readPattern (source : String) (letters : List Char) : RunM TextPattern := do
  match TextPattern.read source letters with
  | .ok p => pure p
  | .error fault => raise "re.error" fault.text

/-- The pattern that a value is. -/
def patternOf (v : Value) (flags : Nat) : RunM TextPattern := do
  match v with
  | .text s => readPattern s (patternLetters flags)
  | .object i =>
    match ← objectAt i with
    | .instance (.kind "re.Pattern") [(_, .text source), (_, .whole flags)] =>
      readPattern source (patternLetters flags.toNat)
    | _ => raise "TypeError" "first argument must be string or compiled pattern"
  | _ => raise "TypeError" "first argument must be string or compiled pattern"

def searchedText (v? : Option Value) : RunM String := do
  match v? with
  | some (.text s) => pure s
  | some v => raise "TypeError" ("expected string or bytes-like object, got '" ++ (← kindName v) ++ "'")
  | none => raise "TypeError" "expected string or bytes-like object"

/-- The value of a match. -/
def makeMatch (p : TextPattern) (text : String) (m : Regex.Match) : RunM Value := do
  let spanOf (index : Nat) : Value :=
    if index = 0 then .tuple [.whole m.start, .whole m.stop]
    else match m.groups.find? (·.1 == index) with
      | some (_, start, stop) => .tuple [.whole start, .whole stop]
      | none => .none
  make (.instance (.kind "re.Match")
    [("string", .text text), ("spans", .tuple ((List.range (p.regex.groupCount + 1)).map spanOf)),
      ("names", .tuple (p.names.map fun (name, index) => .tuple [.text name, .whole index]))])

def matchOrNone (p : TextPattern) (text : String) (m? : Option Regex.Match) : RunM Value := do
  match m? with
  | some m => makeMatch p text m
  | none => pure .none

/-- A group of a match as it is told by functions that give texts. -/
def groupOf (text : Array Char) (m : Regex.Match) (index : Nat) : String :=
  String.ofList ((m.groupText? text index).getD [])

/-- The text that takes the place of a match. -/
def replacement (p : TextPattern) (text : Array Char) (m : Regex.Match) : Nat → List Char → List Char
  | 0, cs => cs
  | _ + 1, [] => []
  | n + 1, '\\' :: 'g' :: '<' :: rest =>
    let name := String.ofList (rest.takeWhile (· ≠ '>'))
    let index := (name.toNat?.orElse fun _ => (p.names.find? (·.1 == name)).map (·.2)).getD 0
    (groupOf text m index).toList ++ replacement p text m n ((rest.dropWhile (· ≠ '>')).drop 1)
  | n + 1, '\\' :: c :: rest =>
    if c.isDigit then
      let digits := c :: (rest.take 1).takeWhile Char.isDigit
      (groupOf text m (Text.numberOf 10 digits)).toList ++ replacement p text m n (rest.drop (digits.length - 1))
    else
      let meant := match c with
        | 'n' => ['\n']
        | 't' => ['\t']
        | 'r' => ['\x0d']
        | '\\' => ['\\']
        | c => ['\\', c]
      meant ++ replacement p text m n rest
  | n + 1, c :: rest => c :: replacement p text m n rest

/-- A text with its matches replaced, and how many were. -/
def substitute (p : TextPattern) (new : Value) (text : String) (most : Nat) : RunM (String × Nat) := do
  let chars := text.toList.toArray
  let found := p.all text
  let found := if most = 0 then found else found.take most
  let (parts, last) ← found.foldlM (fun ((parts, last) : List String × Nat) m => do
    let shown ← match new with
      | .text s => pure (String.ofList (replacement p chars m (s.length + 1) s.toList))
      | f => do textOf r (← r.call f ⟨[← makeMatch p text m], []⟩)
    pure (parts ++ [String.ofList (chars.extract last m.start).toList, shown], m.stop)) ([], 0)
  pure (String.join (parts ++ [String.ofList (chars.extract last chars.size).toList]), found.length)

/-- What a match gives to those who ask for all of them. -/
def foundValue (p : TextPattern) (text : Array Char) (m : Regex.Match) : Value :=
  match p.regex.groupCount with
  | 0 => .text (groupOf text m 0)
  | 1 => .text (groupOf text m 1)
  | k => .tuple ((List.range k).map fun (i : Nat) => .text (groupOf text m (i + 1)))

/-- The parts of a text between matches, with the groups of these. -/
def splitAtMatches (p : TextPattern) (text : String) (most : Nat) : List Value :=
  let chars := text.toList.toArray
  let found := p.all text
  let found := if most = 0 then found else found.take most
  let (parts, last) := found.foldl (fun ((parts, last) : List Value × Nat) m =>
    let groups := (List.range p.regex.groupCount).map fun (i : Nat) =>
      match m.groupText? chars (i + 1) with
      | some cs => Value.text (String.ofList cs)
      | none => .none
    (parts ++ [.text (String.ofList (chars.extract last m.start).toList)] ++ groups, m.stop)) ([], 0)
  parts ++ [.text (String.ofList (chars.extract last chars.size).toList)]

/-- What a function of patterns gives that takes a pattern first. -/
def patternFunction? (name : String) (p : RunM TextPattern) (g : Given) : Option (RunM Value) :=
  let subject (index : Nat) : RunM String := searchedText (g.argument? index "string")
  match name with
  | "search" => some do
    let p ← p
    let text ← subject 0
    matchOrNone p text (p.regex.search (p.subject text) 0)
  | "match" => some do
    let p ← p
    let text ← subject 0
    matchOrNone p text (p.regex.matchAt (p.subject text) 0)
  | "fullmatch" => some do
    let p ← p
    let text ← subject 0
    matchOrNone p text (Regex.matchAt (p.subject text) (.sequence p.regex .textEnd) 0)
  | "findall" => some do
    let p ← p
    let text ← subject 0
    makeList ((p.all text).map (foundValue p text.toList.toArray))
  | "finditer" => some do
    let p ← p
    let text ← subject 0
    make (.passage (.items (← (p.all text).mapM (makeMatch p text))))
  | "split" => some do
    let p ← p
    let text ← subject 0
    makeList (splitAtMatches p text (← wholeFor (g.argument? 1 "maxsplit") 0).toNat)
  | "sub" | "subn" => some do
    let p ← p
    let new := (g.argument? 0 "repl").getD .none
    let text ← subject 1
    let (result, count) ← substitute r p new text (← wholeFor (g.argument? 2 "count") 0).toNat
    pure (if name = "sub" then .text result else .tuple [.text result, .whole count])
  | _ => none

/-- What a function of the module of patterns gives. -/
def matchingFunction? (name : String) (g : Given) : Option (RunM Value) :=
  let first := g.plain.headD ((g.argument? 99 "pattern").getD .none)
  let flagsAt (index : Nat) : RunM Nat := return (← wholeFor (g.argument? index "flags") 0).toNat
  match name with
  | "compile" => some do
    let flags ← flagsAt 1
    match first with
    | .text source =>
      let _ ← readPattern source (patternLetters flags)
      make (.instance (.kind "re.Pattern") [("pattern", first), ("flags", .whole flags)])
    | v => pure v
  | "escape" => some do
    let text ← searchedText first
    pure (.text (String.ofList (text.toList.flatMap fun c =>
      if "()[]\x7b\x7d?*+-|^$\\.&~# \t\n\x0d\x0b\x0c".toList.contains c then ['\\', c] else [c])))
  | "purge" => some (pure .none)
  | name =>
    let place := if name ∈ ["split"] then 3 else if name ∈ ["sub", "subn"] then 4 else 2
    patternFunction? r name (do patternOf first (← flagsAt place)) { g with plain := g.plain.tail }

/-- What a function of a match gives, from the fields of the match. -/
def matchFunction? (fields : List (String × Value)) (name : String) (g : Given) : Option (RunM Value) :=
  let field (name : String) : Value := ((fields.find? (·.1 == name)).map (·.2)).getD .none
  let spans : List Value := match field "spans" with
    | .tuple spans => spans
    | _ => []
  let names : List (String × Nat) := match field "names" with
    | .tuple names => names.filterMap fun v => match v with
      | .tuple [.text name, .whole index] => some (name, index.toNat)
      | _ => none
    | _ => []
  let place (v : Value) : RunM Nat := do
    let index? : Option Nat := match v with
      | .whole k => if k < 0 then none else some k.toNat
      | .text s => (names.find? (·.1 == s)).map (·.2)
      | _ => none
    match index?.filter (· < spans.length) with
    | some k => pure k
    | none => raise "IndexError" "no such group"
  let spanAt (k : Nat) : Option (Int × Int) := match spans[k]? with
    | some (.tuple [.whole start, .whole stop]) => some (start, stop)
    | _ => none
  let textAt (otherwise : Value) (k : Nat) : Value := match spanAt k, field "string" with
    | some (start, stop), .text s => .text (String.ofList ((s.toList.take stop.toNat).drop start.toNat))
    | _, _ => otherwise
  let first := g.plain.headD (.whole 0)
  match name with
  | "group" => some do
    match g.plain with
    | [] => pure (textAt .none 0)
    | [v] => return textAt .none (← place v)
    | vs => return .tuple (← vs.mapM fun v => return textAt .none (← place v))
  | "__getitem__" => some do return textAt .none (← place first)
  | "groups" => some (pure (.tuple ((List.range (spans.length - 1)).map fun (k : Nat) =>
      textAt ((g.argument? 0 "default").getD .none) (k + 1))))
  | "groupdict" => some (makeTable (names.map fun (name, k) => (.text name, textAt .none k)))
  | "start" => some do return .whole (((spanAt (← place first)).map (·.1)).getD (-1))
  | "end" => some do return .whole (((spanAt (← place first)).map (·.2)).getD (-1))
  | "span" => some do
    let (start, stop) := (spanAt (← place first)).getD (-1, -1)
    pure (.tuple [.whole start, .whole stop])
  | _ => none

end RunM

end ReleaseMatrix.Indented
