import ReleaseMatrix.Shell.Pattern

namespace ReleaseMatrix

open Shell (SetItem)

/-- A pattern for parts of texts. -/
inductive Regex
  | empty
  | char (c : Char)
  | any
  | oneOf (isNegated : Bool) (items : List SetItem)
  | lineStart
  | lineEnd
  | textStart
  | textEnd
  | wordStart
  | wordEnd
  /-- A place before which there is no character of a word. -/
  | afterNoWord
  /-- A place where a word starts or ends, or one where none does. -/
  | boundary (isThere : Bool)
  | group (index : Nat) (body : Regex)
  /-- What a group matched before. -/
  | again (index : Nat)
  | sequence (first second : Regex)
  | either (first second : Regex)
  /-- Any number of matches in a row, rather many than few unless it is lazy. -/
  | star (isLazy : Bool) (body : Regex)
  /-- A place where something matches, or does not, without being passed. -/
  | ahead (isThere : Bool) (body : Regex)
  /-- A place where a match ends, or where none does. -/
  | behind (isThere : Bool) (body : Regex)
deriving Repr

namespace Regex

/-- What one way to match comes to: how far it got, and what its groups matched. -/
structure Reach where
  position : Nat
  groups : List (Nat × Nat × Nat)
deriving DecidableEq, Repr

/-- A text that is searched, and how. -/
structure Subject where
  text : Array Char
  foldsCase : Bool
  /-- Whether lines within the text have starts and ends. -/
  hasLines : Bool
  /-- Whether a dot passes over line breaks. -/
  dotCrossesLines : Bool
  /-- Whether the longest match is taken, rather than the one that is found first. -/
  prefersLong : Bool
  /-- Whether matches that get equally far are kept apart by their groups. -/
  keepsGroups : Bool

def isWordChar (c : Char) : Bool :=
  c.isAlphanum || c == '_'

namespace Subject

def same (s : Subject) (a b : Char) : Bool :=
  a = b || (s.foldsCase && a.toLower = b.toLower)

def contains (s : Subject) (items : List SetItem) (c : Char) : Bool :=
  items.any (·.contains c) || (s.foldsCase && items.any fun i => i.contains c.toLower || i.contains c.toUpper)

def isWordAt (s : Subject) (position : Nat) : Bool :=
  s.text[position]?.any isWordChar

def isWordBefore (s : Subject) (position : Nat) : Bool :=
  position > 0 && s.isWordAt (position - 1)

/-- The first ones of ways that get equally far. -/
def distinct (s : Subject) (reaches : List Reach) : List Reach :=
  if s.keepsGroups then reaches.eraseDups
  else (reaches.foldl (fun (seen, kept) r =>
    if seen.testBit r.position then (seen, kept) else (seen ||| (1 <<< r.position), r :: kept))
    ((0 : Nat), ([] : List Reach))).2.reverse

/-- Ways in the order in which they are preferred. -/
def order (s : Subject) (reaches : List Reach) : List Reach :=
  let kept := s.distinct reaches
  if s.prefersLong then kept.mergeSort fun a b => b.position ≤ a.position else kept

end Subject

/-- Goes on in steps from one reach as often as possible, and adds what is reached to what is found already, the
last one first. Places that were seen are not visited again. -/
def visit (step : Reach → List Reach) (isLazy : Bool) : Nat → List Reach × List Reach → Reach →
    List Reach × List Reach
  | 0, found, _ => found
  | n + 1, (seen, found), r =>
    let found := if isLazy then r :: found else found
    let (seen, found) := (step r).foldl (fun (seen, found) next =>
      if next.position > r.position && !seen.any (·.position = next.position) then
        visit step isLazy n (next :: seen, found) next
      else (seen, found)) (seen, found)
    (seen, if isLazy then found else r :: found)

/-- The same for steps that take one character and change no groups: it is enough to count them. -/
def visitChars (accepts : Char → Bool) (s : Subject) (isLazy : Bool) (r : Reach) : List Reach :=
  let rec count : Nat → Nat → Nat
    | 0, position => position
    | n + 1, position => if s.text[position]?.any accepts then count n (position + 1) else position
  let last := count (s.text.size - r.position) r.position
  let reaches := (List.range (last - r.position + 1)).map fun k => { r with position := r.position + k }
  if isLazy then reaches else reaches.reverse

/-- Whether a pattern is one character, and which. -/
def charTest? (s : Subject) : Regex → Option (Char → Bool)
  | char c => some (s.same c)
  | any => some fun c => s.dotCrossesLines || c ≠ '\n'
  | oneOf isNegated items => some fun c => isNegated != s.contains items c
  | _ => none

/-- The text of a group at another place. -/
def repeats (s : Subject) (start stop position : Nat) : Bool :=
  position + (stop - start) ≤ s.text.size &&
    (List.range (stop - start)).all fun k =>
      match s.text[start + k]?, s.text[position + k]? with
      | some a, some b => s.same a b
      | _, _ => false

/-- The ways in which a pattern matches from one reach on, the preferred ones first. -/
def reaches (s : Subject) : Regex → Reach → List Reach
  | empty, r => [r]
  | char c, r => if s.text[r.position]?.any (s.same c) then [{ r with position := r.position + 1 }] else []
  | any, r =>
    if s.text[r.position]?.any fun c => s.dotCrossesLines || c ≠ '\n' then [{ r with position := r.position + 1 }]
    else []
  | oneOf isNegated items, r =>
    if s.text[r.position]?.any fun c => isNegated != s.contains items c then
      [{ r with position := r.position + 1 }]
    else []
  | lineStart, r =>
    if r.position = 0 || (s.hasLines && s.text[r.position - 1]? = some '\n') then [r] else []
  | lineEnd, r =>
    if r.position = s.text.size || (s.hasLines && s.text[r.position]? = some '\n') then [r] else []
  | textStart, r => if r.position = 0 then [r] else []
  | textEnd, r => if r.position = s.text.size then [r] else []
  | wordStart, r => if s.isWordAt r.position && !s.isWordBefore r.position then [r] else []
  | wordEnd, r => if s.isWordBefore r.position && !s.isWordAt r.position then [r] else []
  | afterNoWord, r => if s.isWordBefore r.position then [] else [r]
  | boundary isThere, r => if (s.isWordBefore r.position != s.isWordAt r.position) = isThere then [r] else []
  | group index body, r =>
    (reaches s body r).map fun next =>
      { next with groups := (index, r.position, next.position) :: next.groups.filter (·.1 ≠ index) }
  | again index, r =>
    match r.groups.find? (·.1 == index) with
    | some (_, start, stop) =>
      if repeats s start stop r.position then [{ r with position := r.position + (stop - start) }] else []
    | none => []
  | sequence first second, r => s.order ((reaches s first r).flatMap (reaches s second))
  | either first second, r => s.order (reaches s first r ++ reaches s second r)
  | star isLazy body, r =>
    match charTest? s body with
    | some accepts => visitChars accepts s isLazy r
    | none => (visit (reaches s body) isLazy (s.text.size + 1) ([], []) r).2.reverse
  | ahead isThere body, r =>
    match reaches s body r with
    | found :: _ => if isThere then [{ r with groups := found.groups }] else []
    | [] => if isThere then [] else [r]
  | behind isThere body, r =>
    let endsHere (start : Nat) : Bool :=
      (reaches s body { r with position := start }).any (·.position = r.position)
    if (List.range (r.position + 1)).any endsHere = isThere then [r] else []

/-- A part of a text that matches: where it starts and stops, and the groups. -/
structure Match where
  start : Nat
  stop : Nat
  groups : List (Nat × Nat × Nat)
deriving DecidableEq, Repr

namespace Match

/-- What a group matched, and the whole match for zero. -/
def groupText? (m : Match) (text : Array Char) (index : Nat) : Option (List Char) :=
  if index = 0 then some (text.extract m.start m.stop).toList
  else (m.groups.find? (·.1 == index)).map fun (_, start, stop) => (text.extract start stop).toList

end Match

/-- The preferred match that starts at a place. -/
def matchAt (s : Subject) (r : Regex) (start : Nat) : Option Match :=
  let found := reaches s r ⟨start, []⟩
  let best? := if s.prefersLong then
      found.foldl (fun best? next => match best? with
        | some best => if next.position > best.position then some next else some best
        | none => some next) none
    else found.head?
  best?.map fun best => ⟨start, best.position, best.groups⟩

/-- The first match at a place or after it. -/
def search (s : Subject) (r : Regex) (start : Nat) : Option Match :=
  (List.range (s.text.size + 1 - start)).findSome? fun k => matchAt s r (start + k)

/-- Whether a pattern asks again for what a group matched. -/
def asksFor (index : Nat) : Regex → Bool
  | again other => other = index
  | group _ body | star _ body | ahead _ body | behind _ body => asksFor index body
  | sequence first second | either first second => asksFor index first || asksFor index second
  | _ => false

/-- Whether what a group matched is asked for again. -/
def looksBack : Regex → Bool
  | again _ => true
  | group _ body | star _ body | ahead _ body | behind _ body => looksBack body
  | sequence first second | either first second => looksBack first || looksBack second
  | _ => false

/-- The number of the last group. -/
def groupCount : Regex → Nat
  | group index body => max index (groupCount body)
  | star _ body | ahead _ body | behind _ body => groupCount body
  | sequence first second | either first second => max (groupCount first) (groupCount second)
  | _ => 0

/-- The matches in a text from a place on that do not overlap. An empty match right after another one does not
count. -/
def searchAll (s : Subject) (r : Regex) : Nat → Nat → Option Nat → List Match
  | 0, _, _ => []
  | n + 1, start, last? =>
    match search s r start with
    | none => []
    | some m =>
      if m.stop > m.start then m :: searchAll s r n m.stop (some m.stop)
      else if last? = some m.start then
        if m.start < s.text.size then searchAll s r n (m.start + 1) none else []
      else m :: (if m.start < s.text.size then searchAll s r n (m.start + 1) none else [])

/-- All matches in a text. -/
def matchesIn (s : Subject) (r : Regex) : List Match :=
  searchAll s r (2 * s.text.size + 2) 0 none

end Regex

end ReleaseMatrix
