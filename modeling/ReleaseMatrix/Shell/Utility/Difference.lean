import ReleaseMatrix.Shell.Utility.Text

namespace ReleaseMatrix.Shell.Utility

/-- A change of a text: so many lines from a place on make way for so many of another text. Places count from
zero. -/
structure Hunk where
  start : Nat
  removed : Nat
  otherStart : Nat
  added : Nat
deriving DecidableEq, Repr

namespace Difference

/-- The lengths of the longest common parts of the ends of two lists: a row for each end of the first one. -/
def lengths (as bs : List Octets) : List (List Nat) :=
  as.foldr (fun a rows =>
    let below := rows.headD []
    let row := (bs.zip (below.zip (below.drop 1))).foldr (fun (b, down, across) row =>
      (if a = b then across + 1 else max down (row.headD 0)) :: row) [0]
    row :: rows) [List.replicate (bs.length + 1) 0]

/-- Which lines of each list are not in the common part. -/
def changes : List Octets → List Octets → List (List Nat) → List Bool × List Bool
  | [], bs, _ => ([], bs.map fun _ => true)
  | as, [], _ => (as.map fun _ => true, [])
  | a :: as, b :: bs, rows =>
    if a = b then
      let (x, y) := changes as bs (rows.tail.map List.tail)
      (false :: x, false :: y)
    else
      let down := ((rows.drop 1).head?.bind List.head?).getD 0
      let across := ((rows.head?.map List.tail).bind List.head?).getD 0
      if down ≥ across then
        let (x, y) := changes as (b :: bs) rows.tail
        (true :: x, y)
      else
        let (x, y) := changes (a :: as) bs (rows.map List.tail)
        (x, true :: y)
termination_by as bs _ => as.length + bs.length

/-- Groups changed lines that stand together. -/
def hunksOf : Nat → Nat → Nat → List Bool → List Bool → List Hunk
  | 0, _, _, _, _ => []
  | n + 1, i, j, xs, ys =>
    let removed := (xs.takeWhile id).length
    let added := (ys.takeWhile id).length
    if removed = 0 && added = 0 then
      if xs.isEmpty || ys.isEmpty then [] else hunksOf n (i + 1) (j + 1) xs.tail ys.tail
    else ⟨i, removed, j, added⟩ :: hunksOf n (i + removed) (j + added) (xs.drop removed) (ys.drop added)

/-- Moves a group of lines of one side only as far down as it reads the same. -/
def slideDown (lines : Array Octets) : Nat → Nat → Nat → Nat
  | 0, start, _ => start
  | n + 1, start, count =>
    match lines[start]?, lines[start + count]? with
    | some a, some b => if a = b then slideDown lines n (start + 1) count else start
    | _, _ => start

/-- The changes that lead from one text to another. -/
def hunks (as bs : List Octets) : List Hunk :=
  let (xs, ys) := changes as bs (lengths as bs)
  let found := hunksOf (as.length + bs.length + 2) 0 0 xs ys
  let bound (h : Hunk) : Nat :=
    ((found.find? fun k => k.start > h.start || k.otherStart > h.otherStart).map fun k =>
      k.start - (h.start + h.removed)).getD (as.length + bs.length)
  found.map fun h =>
    if h.removed > 0 && h.added = 0 then
      let start := slideDown as.toArray (bound h) h.start h.removed
      { h with start, otherStart := h.otherStart + (start - h.start) }
    else if h.added > 0 && h.removed = 0 then
      let start := slideDown bs.toArray (bound h) h.otherStart h.added
      { h with start := h.start + (start - h.otherStart), otherStart := start }
    else h

/-- A range of lines as a change tells it. -/
def range (start count : Nat) : Octets :=
  if count = 0 then toString start
  else if count = 1 then toString (start + 1)
  else toString (start + 1) ++ "," ++ toString (start + count)

/-- Lines with a sign before each. A line that does not end is marked. -/
def marked (sign : String) (lines : List Octets) : Octets :=
  String.join (lines.map fun line =>
    sign ++ line ++ if line.toList.getLast? = some '\n' then "" else "\n\\ No newline at end of file\n")

def plain (as bs : List Octets) (h : Hunk) : Octets :=
  let letter := if h.removed = 0 then "a" else if h.added = 0 then "d" else "c"
  range h.start h.removed ++ letter ++ range h.otherStart h.added ++ "\n" ++
    marked "< " ((as.drop h.start).take h.removed) ++
    (if h.removed > 0 && h.added > 0 then "---\n" else "") ++
    marked "> " ((bs.drop h.otherStart).take h.added)

/-- The change as a command of a line editor. Changes told so are carried out from the last one to the first. -/
def command (bs : List Octets) (h : Hunk) : Octets :=
  let letter := if h.removed = 0 then "a" else if h.added = 0 then "d" else "c"
  let added := (bs.drop h.otherStart).take h.added
  range h.start h.removed ++ letter ++ "\n" ++ String.join added ++ if added.isEmpty then "" else ".\n"

/-- The change as numbers of lines to drop and to add. -/
def counted (bs : List Octets) (h : Hunk) : Octets :=
  let told (letter : Octets) (line count : Nat) : Octets :=
    if count = 0 then "" else letter ++ toString line ++ " " ++ toString count ++ "\n"
  told "d" (h.start + 1) h.removed ++ told "a" (h.start + h.removed) h.added ++
    String.join ((bs.drop h.otherStart).take h.added)

/-- A range of lines as a group of changes with lines around it tells it. -/
def unifiedRange (start count : Nat) : Octets :=
  if count = 1 then toString (start + 1)
  else toString (if count = 0 then start else start + 1) ++ "," ++ toString count

/-- Groups changes that are so close that the lines around them meet. -/
def cluster (context : Nat) (hs : List Hunk) : List (List Hunk) :=
  (hs.foldl (fun (groups : List (List Hunk)) h => match groups with
    | (last :: group) :: before =>
      if h.start - (last.start + last.removed) ≤ 2 * context then (h :: last :: group) :: before
      else [h] :: (last :: group) :: before
    | groups => [h] :: groups) []).reverse.map List.reverse

/-- A group of changes with lines around it. -/
def unified (context : Nat) (as bs : List Octets) (group : List Hunk) : Octets :=
  match group.head?, group.getLast? with
  | some first, some last =>
    let start := first.start - min first.start context
    let stop := min as.length (last.start + last.removed + context)
    let otherStart := first.otherStart - (first.start - start)
    let otherStop := last.otherStart + last.added + (stop - (last.start + last.removed))
    let (body, at') := group.foldl (fun (body, at') h =>
      (body ++ marked " " ((as.take h.start).drop at') ++ marked "-" ((as.drop h.start).take h.removed) ++
        marked "+" ((bs.drop h.otherStart).take h.added), h.start + h.removed)) (("" : Octets), start)
    "@@ -" ++ unifiedRange start (stop - start) ++ " +" ++ unifiedRange otherStart (otherStop - otherStart) ++
      " @@\n" ++ body ++ marked " " ((as.take stop).drop at')
  | _, _ => ""

def forms : List OptionForm :=
  Utility.forms "abBiqrsuwyNcU:L:eEnx:0123456789" [('a', "text"), ('b', "ignore-space-change"),
    ('B', "ignore-blank-lines"), ('i', "ignore-case"), ('q', "brief"), ('r', "recursive"),
    ('s', "report-identical-files"), ('u', "u"), ('w', "ignore-all-space"), ('y', "side-by-side"),
    ('N', "new-file"), ('U', "unified"), ('L', "label"),
    ('e', "ed"), ('n', "rcs"), ('x', "exclude"), ('ν', "normal")] ++
    [⟨'υ', .optional, "unified"⟩, ⟨'χ', .optional, "color"⟩]

/-- A line as it is compared. -/
def compared (g : Given) (line : Octets) : Octets :=
  let cs := line.toList
  let isBlank (c : Char) : Bool := isNumberSpace c
  let cs := if g.has 'w' then cs.filter (!isBlank ·)
    else if g.has 'b' then squeezeBlanks cs
    else cs
  let text := String.ofList cs
  if g.has 'i' then text.toLower else text
where
  squeezeBlanks (cs : List Char) : List Char :=
    let isBlank (c : Char) : Bool := isNumberSpace c
    let trimmed := (cs.reverse.dropWhile isBlank).reverse
    (trimmed.foldl (fun (kept : List Char) c =>
      if isBlank c then if kept.head? = some ' ' then kept else ' ' :: kept else c :: kept) []).reverse

/-- Compares two texts, and prints how they differ. The status is 1 if they do. -/
def compareTexts (g : Given) (names : Octets × Octets) (header a b : Octets) : ShellM Nat := do
  let as := linesOf a
  let bs := linesOf b
  let alike := as.map (compared g) = bs.map (compared g)
  if a.contains '\x00' || b.contains '\x00' then
    if a = b then pure 0
    else
      let _ ← print (header ++ (if g.has 'q' then "Files " else "Binary files ") ++ names.1 ++ " and " ++ names.2 ++
        " differ\n")
      pure (if g.has 'q' then 1 else 2)
  else if alike then
    if g.has 's' then
      let _ ← print ("Files " ++ names.1 ++ " and " ++ names.2 ++ " are identical\n")
    pure 0
  else if g.has 'q' then
    let _ ← print ("Files " ++ names.1 ++ " and " ++ names.2 ++ " differ\n")
    pure 1
  else
    let found := hunks (as.map (compared g)) (bs.map (compared g))
    let isBlankOnly (h : Hunk) : Bool :=
      ((as.drop h.start).take h.removed ++ (bs.drop h.otherStart).take h.added).all (· = "\n")
    let found := if g.has 'B' then found.filter (!isBlankOnly ·) else found
    let labels := (g.options.filter (·.1 = 'L')).map (·.2)
    let stamp := "\t1970-01-01 00:00:00.000000000 +0000"
    if found.isEmpty then pure 0
    else
      let text := if g.has 'u' || g.has 'U' || g.has 'υ' then
          let digits := (g.options.map (·.1)).filter Char.isDigit
          let context := ((g.argument? 'U' <|> g.argument? 'υ').bind String.toNat?).getD
            (if digits.isEmpty then 3 else Text.numberOf 10 digits)
          "--- " ++ labels[0]?.getD (names.1 ++ stamp) ++ "\n+++ " ++ labels[1]?.getD (names.2 ++ stamp) ++ "\n" ++
            String.join ((cluster context found).map (unified context as bs))
        else if g.has 'e' then String.join (found.reverse.map (command bs))
        else if g.has 'n' then String.join (found.map (counted bs))
        else String.join (found.map (plain as bs))
      let _ ← print (header ++ text)
      pure 1

/-- The options as they are told before the comparison of files below directories. -/
def optionText (words : List Octets) : Octets :=
  String.join ((words.filter fun word => word.toList.head? = some '-' && word ≠ "-").map fun word =>
    " " ++ if word.contains '=' then quoted word else word)

/-- Compares what two paths lead to. -/
def comparePaths (g : Given) (words : List Octets) : Nat → Bool → Octets → Octets → ShellM Nat
  | 0, _, _, _ => pure 2
  | n + 1, isInside, first, second => do
    let w := (← get).workspace
    let place (path : Octets) : Option Location := match w.find (Octets.toPath path) with
      | .ok (l, .directory) => some l
      | _ => none
    match place first, place second with
    | some l, some k =>
      if isInside && !g.has 'r' then
        let _ ← print ("Common subdirectories: " ++ first ++ " and " ++ second ++ "\n")
        pure 0
      else
        let patterns := (g.options.filter (·.1 = 'x')).map fun o => patternOf (o.2.toList.map fun c => ⟨c, false⟩)
        let isLeftOut (name : String) : Bool := patterns.any (matchesAll · (Octets.ofText name).toList)
        let all := (w.files.names l ++ w.files.names k).eraseDups.mergeSort fun a b => a ≤ b
        let names := all.filter (!isLeftOut ·)
        names.foldlM (fun status name => do
          let name := Octets.ofText name
          let inFirst := (w.files.get? (l ++ [Octets.toText name])).isSome
          let inSecond := (w.files.get? (k ++ [Octets.toText name])).isSome
          if (inFirst && inSecond) || g.has 'N' then
            pure (max status (← comparePaths g words n true (under first name) (under second name)))
          else
            let _ ← print ("Only in " ++ (if inFirst then first else second) ++ ": " ++ name ++ "\n")
            pure (max status 1)) 0
    | some _, none =>
      if isInside || (second ≠ "-" && !(← look second).isOk) then compareFiles isInside first second
      else comparePaths g words n isInside (under first (baseName second)) second
    | none, some _ =>
      if isInside || (first ≠ "-" && !(← look first).isOk) then compareFiles isInside first second
      else comparePaths g words n isInside first (under second (baseName first))
    | none, none => compareFiles isInside first second
where
  compareFiles (isInside : Bool) (first second : Octets) : ShellM Nat := do
    let read (path : Octets) : ShellM (Option Octets) := do
      if g.has 'N' && path ≠ "-" && !(← look path).isOk then pure (some "")
      else withInput path (fun fault => do
        warn (path ++ ": " ++ fault.text)
        pure none) fun descriptor => do
          match ← ShellM.readAll descriptor with
          | .ok text => pure (some text)
          | .error fault =>
            warn (path ++ ": " ++ fault.text)
            pure none
    match ← read first, ← read second with
    | some a, some b =>
      let header := if isInside then "diff" ++ optionText words ++ " " ++ first ++ " " ++ second ++ "\n" else ""
      compareTexts g (first, second) (if g.has 'q' then "" else header) a b
    | _, _ => pure 2

end Difference

/-- Prints how files differ. -/
def diff : Work := fun words => do
  let complain (message : Octets) : ShellM Nat := do
    warn message
    let name := (← ShellM.self).name
    let _ ← ShellM.write 2 (name ++ ": " ++ hint name)
    pure 2
  match readGiven Difference.forms false (words.length + 1) words with
  | .error message => complain message
  | .ok g =>
    match g.operands with
    | [first, second] => Difference.comparePaths g words 64 false first second
    | [] => complain "missing operand after 'diff'"
    | [only] => complain ("missing operand after " ++ quoted only)
    | _ :: _ :: extra :: _ => complain ("extra operand " ++ quoted extra)

end ReleaseMatrix.Shell.Utility
