import ReleaseMatrix.Regex
import ReleaseMatrix.Text

namespace ReleaseMatrix.Regex

open Shell (SetItem)

/-- Which signs mean something in a pattern. -/
structure Grammar where
  /-- Whether parentheses, bars and the like have a meaning without a backslash before them. -/
  isExtended : Bool
  /-- Whether letters after a backslash stand for control characters. -/
  hasEscapes : Bool
  /-- Whether a backslash means something within brackets. -/
  escapesInSets : Bool
  /-- Whether there are lazy repetitions, groups without numbers and more classes of characters. -/
  isRich : Bool
  /-- Whether a repetition of nothing is an error. -/
  refusesLone : Bool
  /-- Whether a closing parenthesis without an opening one stands for itself. -/
  keepsClosing : Bool

namespace Grammar

def basic : Grammar := ⟨false, false, false, false, false, false⟩
def extended : Grammar := ⟨true, false, false, false, false, true⟩

end Grammar

/-- What is wrong with a pattern. -/
inductive Fault
  | openBracket
  | emptySet
  | openParenthesis
  | closingParenthesis
  | unknownGroup
  | loneOperator
  | trailingBackslash
  | badInterval
  | openInterval
  | badRange
  | unknownClass
deriving DecidableEq, Repr

def Fault.text : Fault → String
  | emptySet => "Invalid regular expression"
  | openBracket => "Unmatched [, [^, [:, [., or [="
  | openParenthesis => "Unmatched ( or \\("
  | closingParenthesis => "Unmatched ) or \\)"
  | unknownGroup => "Invalid back reference"
  | loneOperator => "Invalid preceding regular expression"
  | trailingBackslash => "Trailing backslash"
  | badInterval => "Invalid content of \\\x7b\\\x7d"
  | openInterval => "Unmatched \\\x7b"
  | badRange => "Invalid range end"
  | unknownClass => "Invalid character class name"

/-- What patterns are made of. -/
inductive Token
  | atom (r : Regex)
  | opening
  /-- A group that is not counted. -/
  | plainOpening
  | aheadOpening (isThere : Bool)
  | behindOpening (isThere : Bool)
  | closing
  | bar
  | repetition (least : Nat) (most? : Option Nat) (isLazy : Bool)

/-- The names of classes of characters. -/
def classNames : List String :=
  ["alnum", "alpha", "blank", "cntrl", "digit", "graph", "lower", "print", "punct", "space", "upper", "xdigit"]

def wordItems : List SetItem := [.kind "alnum", .range '_' '_']

def spaceItems : List SetItem := [.kind "space"]

/-- The control character that a letter stands for. -/
def control? (c : Char) : Option Char :=
  [('n', '\n'), ('t', '\t'), ('r', '\r'), ('f', '\x0c'), ('v', '\x0b'), ('a', '\x07')].lookup c

/-- A class of characters in brackets within a set, and what follows it. -/
def readClass? : List Char → Option (Except Fault (List SetItem × List Char))
  | '[' :: ':' :: rest =>
    let name := rest.takeWhile Char.isAlpha
    match rest.drop name.length with
    | ':' :: ']' :: rest =>
      let name := String.ofList name
      some (if name ∈ classNames then .ok ([.kind name], rest) else .error .unknownClass)
    | _ => some (.error .openBracket)
  | '[' :: mark :: c :: mark' :: ']' :: rest =>
    if (mark = '.' || mark = '=') && mark = mark' then some (.ok ([.range c c], rest)) else none
  | _ => none

/-- A class of characters that a letter after a backslash stands for. -/
def letterItems? (c : Char) : Option (List SetItem) :=
  match c with
  | 'w' => some wordItems
  | 's' => some spaceItems
  | 'd' => some [.kind "digit"]
  | _ => none

/-- The items of a set up to its closing bracket, of at most `n` characters. -/
def readItems (g : Grammar) : Nat → Bool → List Char → Except Fault (List SetItem × List Char)
  | 0, _, _ => .error .openBracket
  | _ + 1, _, [] => .error .openBracket
  | n + 1, isFirst, c :: rest => do
    if c = ']' && !isFirst then pure ([], rest)
    else match readClass? (c :: rest) with
      | some found =>
        let (items, rest) ← found
        let (more, rest) ← readItems g n false rest
        pure (items ++ more, rest)
      | none =>
        match if g.isRich && c = '\\' then rest.head?.bind letterItems? else none with
        | some items =>
          let (more, rest) ← readItems g n false rest.tail
          pure (items ++ more, rest)
        | none =>
          let (low, rest) := single c rest
          match rest with
          | '-' :: high :: after =>
            if high = ']' then
              let (more, rest) ← readItems g n false rest
              pure (.range low low :: more, rest)
            else
              let (high, after) := match high, after with
                | '[', mark :: c :: mark' :: ']' :: after =>
                  if mark = '.' && mark' = '.' then (c, after) else ('[', mark :: c :: mark' :: ']' :: after)
                | high, after => single high after
              if high < low then throw .badRange
              let (more, rest) ← readItems g n false after
              pure (.range low high :: more, rest)
          | rest =>
            let (more, rest) ← readItems g n false rest
            pure (.range low low :: more, rest)
where
  /-- A single character, which may stand after a backslash. -/
  single (c : Char) (rest : List Char) : Char × List Char :=
    match c, rest with
    | '\\', next :: rest =>
      if g.escapesInSets then ((control? next).getD next, rest)
      else if g.hasEscapes then
        match control? next with
        | some c => (c, rest)
        | none => ('\\', next :: rest)
      else ('\\', next :: rest)
    | c, rest => (c, rest)

/-- A set after its opening bracket, and what follows it. -/
def readSet (g : Grammar) (cs : List Char) : Except Fault (Regex × List Char) := do
  let (isNegated, cs) := match cs with
    | '^' :: cs => (true, cs)
    | cs => (false, cs)
  if cs.isEmpty then throw .emptySet
  let (items, rest) ← readItems g (cs.length + 1) true cs
  pure (.oneOf isNegated items, rest)

/-- The bounds between braces, if that is what follows the opening one, and what comes after. -/
def readInterval? (closing : List Char) (cs : List Char) : Option (Nat × Option Nat × List Char) := do
  let number (cs : List Char) : Option Nat := if cs.isEmpty then none else some (Text.numberOf 10 cs)
  let low := cs.takeWhile Char.isDigit
  let rest := cs.drop low.length
  let (high, rest) := match rest with
    | ',' :: rest =>
      let high := rest.takeWhile Char.isDigit
      (some high, rest.drop high.length)
    | rest => (none, rest)
  guard (closing.isPrefixOf rest && (high.isSome || !low.isEmpty))
  let least := (number low).getD 0
  pure (least, match high with
    | none => some least
    | some high => number high, rest.drop closing.length)

/-- What a character after a backslash stands for, if it is no sign of the grammar. -/
def readEscape (g : Grammar) (c : Char) : Regex :=
  match c with
  | 'w' => .oneOf false wordItems
  | 'W' => .oneOf true wordItems
  | 's' => .oneOf false spaceItems
  | 'S' => .oneOf true spaceItems
  | 'b' => .boundary true
  | 'B' => .boundary false
  | '<' => .wordStart
  | '>' => .wordEnd
  | '\x60' => .textStart
  | '\'' => .textEnd
  | c =>
    if g.isRich && c = 'd' then .oneOf false [.kind "digit"]
    else if g.isRich && c = 'D' then .oneOf true [.kind "digit"]
    else if g.isRich && c = 'A' then .textStart
    else if g.isRich && (c = 'Z' || c = 'z') then .textEnd
    else if '1' ≤ c && c ≤ '9' then .again (c.toNat - '0'.toNat)
    else if g.hasEscapes then .char ((control? c).getD c)
    else .char c

/-- The character whose number follows a letter after a backslash, and what follows that. -/
def readNumbered? (g : Grammar) (c : Char) (rest : List Char) : Option (Char × List Char) := do
  let (base, width) ← if c = 'x' then some (16, 2) else if c = 'o' then some (8, 3)
    else if c = 'd' && !g.isRich then some (10, 3) else none
  let ds := (rest.take width).takeWhile (Text.isDigitIn base)
  guard !ds.isEmpty
  pure (Char.ofNat (Text.numberOf base ds), rest.drop ds.length)

/-- Takes the sign of a lazy repetition off what follows. -/
def takeLazy (g : Grammar) (rest : List Char) : Bool × List Char :=
  match rest with
  | '?' :: rest => if g.isRich then (true, rest) else (false, '?' :: rest)
  | rest => (false, rest)

/-- The tokens of a pattern of at most `n` characters. It matters whether the last token lets a part start. -/
def tokens (g : Grammar) : Nat → Bool → List Char → Except Fault (List Token)
  | 0, _, _ => pure []
  | _ + 1, _, [] => pure []
  | n + 1, atStart, c :: rest => do
    let add (t : Token) (atStart : Bool) (rest : List Char) : Except Fault (List Token) := do
      pure (t :: (← tokens g n atStart rest))
    let literal (c : Char) : Except Fault (List Token) := add (.atom (.char c)) false rest
    let repeated (least : Nat) (most? : Option Nat) (rest : List Char) : Except Fault (List Token) := do
      if atStart && g.refusesLone then throw .loneOperator
      let (isLazy, rest) := takeLazy g rest
      add (.repetition least most? isLazy) false rest
    match c with
    | '\\' =>
      match rest with
      | [] => throw .trailingBackslash
      | c :: rest =>
        if !g.isExtended && c = '(' then add .opening true rest
        else if !g.isExtended && c = ')' then add .closing false rest
        else if !g.isExtended && c = '|' then add .bar true rest
        else if !g.isExtended && c = '+' && !atStart then repeated 1 none rest
        else if !g.isExtended && c = '?' && !atStart then repeated 0 (some 1) rest
        else if !g.isExtended && c = '\x7b' then
          if atStart then throw .loneOperator
          else match readInterval? ['\\', '\x7d'] rest with
            | some (least, most?, rest) => repeated least most? rest
            | none => throw (if rest.all fun c => c.isDigit || c = ',' then .openInterval else .badInterval)
        else match if g.hasEscapes then readNumbered? g c rest else none with
          | some (d, rest) => add (.atom (.char d)) false rest
          | none => add (.atom (readEscape g c)) false rest
    | '[' =>
      let (set, rest) ← readSet g rest
      add (.atom set) false rest
    | '.' => add (.atom .any) false rest
    | '*' =>
      if atStart && !g.isExtended then literal '*'
      else if g.refusesLone && rest.head? = some '*' then throw .loneOperator
      else repeated 0 none rest
    | '^' => if g.isExtended || atStart then add (.atom .lineStart) true rest else literal '^'
    | '$' =>
      if g.isExtended || endsHere rest then add (.atom .lineEnd) false rest else literal '$'
    | c =>
      if !g.isExtended then literal c
      else match c with
        | '(' =>
          match if g.isRich then rest else [] with
          | '?' :: ':' :: rest => add .plainOpening true rest
          | '?' :: '=' :: rest => add (.aheadOpening true) true rest
          | '?' :: '!' :: rest => add (.aheadOpening false) true rest
          | '?' :: '<' :: '=' :: rest => add (.behindOpening true) true rest
          | '?' :: '<' :: '!' :: rest => add (.behindOpening false) true rest
          | _ => add .opening true rest
        | ')' => add .closing false rest
        | '|' => add .bar true rest
        | '+' => repeated 1 none rest
        | '?' => repeated 0 (some 1) rest
        | '\x7b' =>
          match if atStart then none else readInterval? ['\x7d'] rest with
          | some (least, most?, rest) => repeated least most? rest
          | none => literal '\x7b'
        | c => literal c
where
  /-- Whether a dollar before this stands at the end of a part. -/
  endsHere (rest : List Char) : Bool :=
    match rest with
    | [] => true
    | '\\' :: c :: _ => c = ')' || c = '|'
    | _ => false

/-- A pattern a number of times. -/
def times (least : Nat) (most? : Option Nat) (isLazy : Bool) (r : Regex) : Regex :=
  let ending := match most? with
    | none => .star isLazy r
    | some most =>
      (List.range (most - least)).foldl (fun ending _ =>
        let more := match ending with
          | .empty => r
          | ending => .sequence r ending
        if isLazy then .either .empty more else .either more .empty) .empty
  (List.range least).foldl (fun ending _ => match ending with
    | .empty => r
    | ending => .sequence r ending) ending

/-- Applies the repetitions after a part. -/
def repeatPart (part : Regex) : List Token → Regex × List Token
  | .repetition least most? isLazy :: rest => repeatPart (times least most? isLazy part) rest
  | rest => (part, rest)

mutual

/-- Reads parts with bars between them. Gives what is left, and the number of the last group. -/
def readEither : Nat → Nat → List Token → Except Fault (Regex × List Token × Nat)
  | 0, _, _ => .error .openParenthesis
  | n + 1, count, ts => do
    let (first, rest, count) ← readSequence n count ts
    match rest with
    | .bar :: rest =>
      let (second, rest, count) ← readEither n count rest
      pure (.either first second, rest, count)
    | rest => pure (first, rest, count)

/-- Reads parts that follow each other. -/
def readSequence : Nat → Nat → List Token → Except Fault (Regex × List Token × Nat)
  | 0, _, _ => .error .openParenthesis
  | n + 1, count, ts => do
    let (part?, rest, count) ← readPart n count ts
    match part? with
    | none => pure (.empty, rest, count)
    | some part =>
      let (part, rest) := repeatPart part rest
      let (after, rest, count) ← readSequence n count rest
      pure (match after with
        | .empty => part
        | after => .sequence part after, rest, count)

/-- Reads one part, if there is one. -/
def readPart : Nat → Nat → List Token → Except Fault (Option Regex × List Token × Nat)
  | 0, _, _ => .error .openParenthesis
  | n + 1, count, ts => do
    let enclosed (count : Nat) (wrap : Regex → Regex) (ts : List Token) :
        Except Fault (Option Regex × List Token × Nat) := do
      let (body, rest, count) ← readEither n count ts
      match rest with
      | .closing :: rest => pure (some (wrap body), rest, count)
      | _ => throw .openParenthesis
    match ts with
    | .atom (.again index) :: rest =>
      if index > count then throw .unknownGroup else pure (some (.again index), rest, count)
    | .atom r :: rest => pure (some r, rest, count)
    | .opening :: rest =>
      let (body, rest, most) ← readEither n (count + 1) rest
      if body.asksFor (count + 1) then throw .unknownGroup
      match rest with
      | .closing :: rest => pure (some (.group (count + 1) body), rest, most)
      | _ => throw .openParenthesis
    | .plainOpening :: rest => enclosed count id rest
    | .aheadOpening isThere :: rest => enclosed count (.ahead isThere) rest
    | .behindOpening isThere :: rest => enclosed count (.behind isThere) rest
    | .repetition .. :: rest => pure (some .empty, rest, count)
    | ts => pure (none, ts, count)

end

/-- Tokens in which closing parentheses without opening ones stand for themselves. -/
def keepLoneClosings : Nat → List Token → List Token
  | _, [] => []
  | 0, .closing :: ts => .atom (.char ')') :: keepLoneClosings 0 ts
  | depth + 1, .closing :: ts => .closing :: keepLoneClosings depth ts
  | depth, t :: ts =>
    let isOpening := match t with
      | .opening | .plainOpening | .aheadOpening _ | .behindOpening _ => true
      | _ => false
    t :: keepLoneClosings (if isOpening then depth + 1 else depth) ts

/-- Reads a pattern. -/
def read (g : Grammar) (cs : List Char) : Except Fault Regex := do
  let ts ← tokens g (cs.length + 1) true cs
  let ts := if g.keepsClosing then keepLoneClosings 0 ts else ts
  match ← readEither (3 * ts.length + 8) 0 ts with
  | (r, [], _) => pure r
  | _ => throw .closingParenthesis

/-- The pattern that matches only the given characters. -/
def ofChars (cs : List Char) : Regex :=
  cs.foldr (fun c r => match r with
    | .empty => .char c
    | r => .sequence (.char c) r) .empty

/-- Lines that are searched in the way of the standard. -/
def Subject.ofLine (r : Regex) (foldsCase : Bool) (cs : List Char) : Subject :=
  ⟨cs.toArray, foldsCase, false, true, true, r.looksBack⟩

end ReleaseMatrix.Regex
