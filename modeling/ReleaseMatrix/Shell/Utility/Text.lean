import ReleaseMatrix.Shell.Pattern
import ReleaseMatrix.Shell.Printing
import ReleaseMatrix.Shell.Utility.Basic

namespace ReleaseMatrix.Shell.Utility

/-- The descriptor that programs of the machine itself read files with. -/
def inputDescriptor : Nat := 10

/-- Opens an input for some work. A dash stands for the standard input. -/
def withInput {α : Type} (path : Octets) (failed : FileFault → ShellM α) (work : Nat → ShellM α) : ShellM α := do
  if path = "-" then work 0
  else match ← ShellM.openPath path .read with
    | .error fault => failed fault
    | .ok index => do
      ShellM.connect inputDescriptor index
      let result ← work inputDescriptor
      ShellM.close inputDescriptor
      pure result

/-- What an input holds. If it can be opened but not read, that is told in words of its own. -/
def readInputAs (unreadable : Octets → Octets) (path : Octets) : ShellM (Option Octets) :=
  let failed (text : Octets) : ShellM (Option Octets) := do
    warn text
    pure none
  withInput path (fun fault => failed (quotedIfOdd path ++ ": " ++ fault.text)) fun descriptor => do
    match ← ShellM.readAll descriptor with
    | .ok text => pure (some text)
    | .error fault => failed (unreadable path ++ ": " ++ fault.text)

/-- What an input holds. Problems are told in the simplest way. -/
def readInput (path : Octets) : ShellM (Option Octets) :=
  readInputAs quotedIfOdd path

/-- The inputs that are meant by operands. -/
def inputsOf (operands : List Octets) : List Octets :=
  if operands.isEmpty then ["-"] else operands

/-- The lines of a text with their ends. The last one may have none. -/
def linesOf (text : Octets) : List Octets :=
  (go text.toList []).map String.ofList
where
  go : List Char → List Char → List (List Char)
    | [], line => if line.isEmpty then [] else [line.reverse]
    | '\n' :: cs, line => ('\n' :: line).reverse :: go cs []
    | c :: cs, line => go cs (c :: line)

/-- A line without its end. -/
def chomp (line : Octets) : Octets :=
  if line.toList.getLast? = some '\n' then String.ofList line.toList.dropLast else line

/-- The parts of a text that a character ends. The last one may lack it. -/
def recordsOf (ending : Char) (text : Octets) : List Octets :=
  let pieces := Text.splitChars ending text.toList
  (if pieces.getLast? = some [] then pieces.dropLast else pieces).map String.ofList

/-- The lines of several inputs without their ends, and the status of reading them. -/
def readLines (failure : Nat) (operands : List Octets) : ShellM (List Octets × Nat) :=
  (inputsOf operands).foldlM (fun (lines, status) path => do
    match ← readInput path with
    | some text => pure (lines ++ (linesOf text).map chomp, status)
    | none => pure (lines, failure)) ([], 0)

/-- A number in a field of blanks. -/
def padded (width n : Nat) : Octets :=
  let text := toString n
  String.ofList (List.replicate (width - text.length) ' ') ++ text

/-- How far lines are copied: the number of the next one, whether one was begun, and how many blank ones came last. -/
structure Copied where
  number : Nat
  isInLine : Bool
  blanks : Nat

/-- A byte with a visible form. -/
def visible (c : Char) : List Char :=
  let low (n : Nat) : List Char :=
    if n < 32 then ['^', Char.ofNat (n + 64)] else if n = 127 then ['^', '?'] else [Char.ofNat n]
  if c.toNat < 128 then low c.toNat else ['M', '-'] ++ low (c.toNat - 128)

/-- A line with a number and marks, as they are asked for. A line that only goes on has no number. -/
def markLine (g : Given) (s : Copied) (line : Octets) : Octets × Copied :=
  let isBlank := line = "\n" && !s.isInLine
  let blanks := if isBlank then s.blanks + 1 else 0
  if g.has 's' && blanks > 1 then ("", ⟨s.number, false, blanks⟩)
  else
    let isCounted := !s.isInLine && (g.has 'b' && !isBlank || g.has 'n' && !(g.has 'b'))
    let marksEnd := g.has 'E' || g.has 'A' || g.has 'e'
    let isWhole := line.toList.getLast? = some '\n'
    let body := (if isWhole then line.toList.dropLast else line.toList).flatMap fun c =>
      if c = '\t' then (if g.has 'T' || g.has 'A' || g.has 't' then ['^', 'I'] else [c])
      else if g.has 'v' || g.has 'A' || g.has 'e' || g.has 't' then visible c else [c]
    let body := if isWhole && marksEnd && body.getLast? = some '\x0d' then body.dropLast ++ ['^', 'M'] else body
    ((if isCounted then padded 6 s.number ++ "\t" else "") ++ String.ofList body ++
        (if isWhole then if marksEnd then "$\n" else "\n" else ""),
      ⟨if isCounted then s.number + 1 else s.number, !isWhole, blanks⟩)

def cat : Work := fun words =>
  withGiven 1 (forms "AbeEnstTuv" [('A', "show-all"), ('b', "number-nonblank"), ('E', "show-ends"),
    ('n', "number"), ('s', "squeeze-blank"), ('T', "show-tabs"), ('v', "show-nonprinting")]) words fun g =>
    let isPlain := g.options.all (·.1 = 'u')
    let copy (state : Copied × Nat) (path : Octets) : ShellM (Copied × Nat) := do
      let (copied, status) := state
      match ← readInput path with
      | none => pure (copied, 1)
      | some text =>
        let (text, copied) := if isPlain then (text, copied)
          else
            let (parts, copied) := (linesOf text).foldl (fun (parts, copied) line =>
              let (part, copied) := markLine g copied line
              (part :: parts, copied)) ([], copied)
            (String.join parts.reverse, copied)
        pure (copied, max status (← print text))
    return (← (inputsOf g.operands).foldlM copy (⟨1, false, 0⟩, 0)).2

/-- A number of lines or bytes, with a sign that says from where it counts. -/
structure Amount where
  sign? : Option Char
  number : Nat

/-- A number with a sign before it and a unit after it. -/
def Amount.ofText? (text : Octets) : Option Amount :=
  let (sign?, cs) := match text.toList with
    | '-' :: cs => (some '-', cs)
    | '+' :: cs => (some '+', cs)
    | cs => (none, cs)
  let digits := cs.takeWhile Char.isDigit
  let unit? : Option Nat := match cs.drop digits.length with
    | [] => some 1
    | ['b'] => some 512
    | ['k'] | ['K'] => some 1024
    | ['M'] => some 1048576
    | _ => none
  if digits.isEmpty then none else unit?.map fun unit => ⟨sign?, Text.numberOf 10 digits * unit⟩

/-- Words in which a count that follows a dash directly is the argument of an option. -/
def spellOutCount (words : List Octets) : List Octets :=
  match words with
  | word :: rest =>
    match word.toList with
    | '-' :: digits =>
      if !digits.isEmpty && digits.all Char.isDigit then "-n" :: String.ofList digits :: rest else words
    | _ => words
  | [] => []

/-- Prints one end of each input, with headers where there are several. -/
def showEnds (g : Given) (choose : Amount → Bool → List Char → List Char × List Char)
    (preset : Amount) : ShellM Nat := do
  let isBytes := g.has 'c'
  let text? := if isBytes then g.argument? 'c' else g.argument? 'n'
  match text?.map (fun text => (text, Amount.ofText? text)) with
  | some (text, none) =>
    warn ("invalid number of " ++ (if isBytes then "bytes" else "lines") ++ ": " ++ quoted text)
    pure 1
  | amount? =>
    let amount := (amount?.bind (·.2)).getD preset
    let inputs := inputsOf g.operands
    let hasHeaders := g.has 'v' || (inputs.length > 1 && !(g.has 'q'))
    let showOne (state : Bool × Nat) (path : Octets) : ShellM (Bool × Nat) := do
      let (isFirst, status) := state
      let failed (text : String) : ShellM (Bool × Nat) := do
        warn text
        pure (isFirst, 1)
      let header := if hasHeaders then
          (if isFirst then "" else "\n") ++ "==> " ++ (if path = "-" then "standard input" else path) ++ " <==\n"
        else ""
      withInput path (fun fault => failed ("cannot open " ++ quoted path ++ " for reading: " ++ fault.text))
        fun descriptor => do
          let printed ← print header
          match ← ShellM.peekAll descriptor with
          | .error fault => do
            warn ("error reading " ++ quoted path ++ ": " ++ fault.text)
            pure (false, 1)
          | .ok (chars, leave) => do
            let (chosen, rest) := choose amount isBytes chars
            leave rest
            pure (false, max (max status printed) (← print (String.ofList chosen)))
    return (← inputs.foldlM showOne (true, 0)).2

/-- The first lines of a text, and what follows them. -/
def splitLines : Nat → List Char → List Char × List Char
  | 0, cs => ([], cs)
  | n + 1, cs =>
    let line := cs.takeWhile (· ≠ '\n')
    let whole := line ++ (cs.drop line.length).take 1
    if whole.isEmpty then ([], [])
    else
      let (lines, rest) := splitLines n (cs.drop whole.length)
      (whole ++ lines, rest)

def countLines (cs : List Char) : Nat :=
  (linesOf (String.ofList cs)).length

def head : Work := fun words =>
  withGiven 1 (forms "c:n:qvz" [('c', "bytes"), ('n', "lines"), ('q', "quiet"), ('v', "verbose")])
    (spellOutCount words) fun g =>
      let choose (a : Amount) (isBytes : Bool) (cs : List Char) : List Char × List Char :=
        let n := if a.sign? = some '-' then (if isBytes then cs.length else countLines cs) - a.number
          else a.number
        if isBytes then (cs.take n, cs.drop n) else splitLines n cs
      showEnds g choose ⟨none, 10⟩

def tail : Work := fun words =>
  withGiven 1 (forms "c:fn:qvFs:z" [('c', "bytes"), ('n', "lines"), ('q', "quiet"), ('v', "verbose")])
    (spellOutCount words) fun g =>
      let choose (a : Amount) (isBytes : Bool) (cs : List Char) : List Char × List Char :=
        let total := if isBytes then cs.length else countLines cs
        let skipped := if a.sign? = some '+' then a.number - 1 else total - a.number
        ((if isBytes then cs.drop skipped else (splitLines skipped cs).2), [])
      showEnds g choose ⟨none, 10⟩

/-- What is counted in a text. -/
structure Counts where
  lines : Nat
  words : Nat
  bytes : Nat

def countsOf (text : Octets) : Counts :=
  let cs := text.toList
  let starts := (cs.zip (' ' :: cs)).filter fun (c, before) => !isNumberSpace c && isNumberSpace before
  ⟨cs.count '\n', starts.length, cs.length⟩

/-- Counts in one line, in columns of a width. -/
def showCounts (g : Given) (width : Nat) (c : Counts) (name : Octets) : Octets :=
  let isAll := !g.options.any fun o => o.1 ∈ ['l', 'w', 'c', 'm']
  let columns := (if isAll || g.has 'l' then [c.lines] else []) ++ (if isAll || g.has 'w' then [c.words] else []) ++
    (if g.has 'm' then [c.bytes] else []) ++ if isAll || g.has 'c' then [c.bytes] else []
  " ".intercalate (columns.map (padded width)) ++ (if name.isEmpty then "" else " " ++ name) ++ "\n"

/-- The width of the columns: that of the sizes of all files together, where these are known. -/
def countWidth (g : Given) : ShellM Nat := do
  let isSingle := (g.options.filter fun o => o.1 ∈ ['l', 'w', 'c', 'm']).length = 1
  let inputs := inputsOf g.operands
  if isSingle && inputs.length = 1 then pure 1
  else
    let sizes ← inputs.mapM fun path => do
      if path = "-" then
        match ← ShellM.opened? 0 with
        | some (_, ⟨.file l, _, _, _, _⟩) => pure (some (← ShellM.contentAt l).length)
        | _ => pure none
      else match ← look path with
        | .ok (_, e) => pure (if e.isFile then e.content?.map List.length else none)
        | .error _ => pure (some 0)
    let total := (sizes.filterMap id).foldl (· + ·) 0
    pure (max (if sizes.any Option.isNone then 7 else 1) (toString total).length)

def wc : Work := fun words =>
  withGiven 1 (forms "clLmw" [('c', "bytes"), ('l', "lines"), ('m', "chars"), ('w', "words")]) words fun g => do
    let width ← countWidth g
    let count (state : Counts × Nat) (path : Octets) : ShellM (Counts × Nat) := do
      let (total, status) := state
      let name := if g.operands.isEmpty then "" else quotedIfOdd path
      let isThere := path = "-" || (← look path).isOk || (ShellM.descriptorOf? path).isSome
      match ← readInput path with
      | none =>
        if isThere then
          let _ ← print (showCounts g width ⟨0, 0, 0⟩ name)
        pure (total, 1)
      | some text =>
        let c := countsOf text
        let printed ← print (showCounts g width c name)
        pure (⟨total.lines + c.lines, total.words + c.words, total.bytes + c.bytes⟩, max status printed)
    let (total, status) ← (inputsOf g.operands).foldlM count (⟨0, 0, 0⟩, 0)
    if g.operands.length > 1 then pure (max status (← print (showCounts g width total "total")))
    else pure status

/-- The characters that a set stands for. -/
def setOf : Nat → List Char → List Char
  | 0, _ => []
  | _ + 1, [] => []
  | n + 1, '[' :: ':' :: rest =>
    let name := rest.takeWhile Char.isAlpha
    match rest.drop name.length with
    | ':' :: ']' :: rest =>
      let kind := String.ofList name
      (((List.range 256).map Char.ofNat).filter (isOfKind kind)) ++ setOf n rest
    | _ => '[' :: setOf n (':' :: rest)
  | n + 1, c :: rest =>
    let (low, rest) := if c = '\\' then readEscape rest else (c, rest)
    match rest with
    | '-' :: high :: more =>
      let (high, more) := if high = '\\' then readEscape more else (high, more)
      ((List.range (high.toNat + 1)).drop low.toNat).map Char.ofNat ++ setOf n more
    | rest => low :: setOf n rest

/-- A text in which each run of a character of a set is one character. -/
def squeeze (set : Char → Bool) : Option Char → List Char → List Char
  | _, [] => []
  | before?, c :: cs => if before? = some c && set c then squeeze set before? cs else c :: squeeze set (some c) cs

def tr : Work := fun words =>
  withGiven 1 (forms "cCdst" [('c', "complement"), ('d', "delete"), ('s', "squeeze-repeats"),
    ('t', "truncate-set1")]) words fun g => do
    let isDeleting := g.has 'd'
    let most := if isDeleting && !(g.has 's') then 1 else 2
    match g.operands with
    | [] => misuse "missing operand" 1
    | first :: more =>
      if more.isEmpty && !isDeleting && !(g.has 's') then
        misuse ("missing operand after " ++ quoted first ++ "\nTwo strings must be given when translating.") 1
      else if g.operands.length > most then
        misuse ("extra operand " ++ quoted (g.operands[most]?.getD "") ++
          (if isDeleting then "\nOnly one string may be given when deleting without squeezing repeats." else "")) 1
      else
        let expand (text : Octets) : List Char := setOf (text.length + 1) text.toList
        let listed := expand first
        let isComplement := g.has 'c' || g.has 'C'
        let replaced := if isComplement then ((List.range 256).map Char.ofNat).filter (!listed.contains ·) else listed
        let onto := expand (more.headD "")
        let replace (c : Char) : Char :=
          match replaced.reverse.idxOf? c with
          | some k => (onto[replaced.length - 1 - k]? <|> onto.getLast?).getD c
          | none => c
        match ← ShellM.readAll 0 with
        | .error fault =>
          warn ("read error: " ++ fault.text)
          pure 1
        | .ok text =>
          let cs := text.toList
          let cs := if isDeleting then cs.filter (!replaced.contains ·)
            else if more.isEmpty then cs
            else cs.map replace
          let squeezed := if more.isEmpty then replaced else onto
          let cs := if g.has 's' then squeeze squeezed.contains none cs else cs
          print (String.ofList cs)

/-- The ranges in a list of numbers. The last one may have no end. -/
def rangesOf? (text : Octets) : Option (List (Nat × Option Nat)) :=
  (Text.splitChars ',' text.toList).mapM fun piece =>
    let first := piece.takeWhile Char.isDigit
    match piece.drop first.length with
    | [] => if first.isEmpty then none else some (Text.numberOf 10 first, some (Text.numberOf 10 first))
    | '-' :: last =>
      if (first.isEmpty && last.isEmpty) || !last.all Char.isDigit then none
      else some (if first.isEmpty then 1 else Text.numberOf 10 first,
        if last.isEmpty then none else some (Text.numberOf 10 last))
    | _ => none

/-- The elements of a list whose numbers, counted from one, are in ranges. -/
def pick {α : Type} (ranges : List (Nat × Option Nat)) (isComplement : Bool) (items : List α) : List α :=
  let isIn (n : Nat) : Bool := ranges.any fun (low, high?) => low ≤ n && high?.all (n ≤ ·)
  (items.mapIdx fun k item => (k + 1, item)).filterMap fun (n, item) =>
    if isIn n != isComplement then some item else none

def cut : Work := fun words =>
  withGiven 1 (forms "b:c:d:f:nsz" [('b', "bytes"), ('c', "characters"), ('d', "delimiter"), ('f', "fields"),
    ('s', "only-delimited"), ('γ', "complement")]) words fun g => do
    let list? := g.argument? 'f' <|> g.argument? 'c' <|> g.argument? 'b'
    let delimiter := g.argument? 'd'
    match list? with
    | none => misuse "you must specify a list of bytes, characters, or fields" 1
    | some list =>
      if delimiter.any (·.length > 1) then misuse "the delimiter must be a single character" 1
      else match rangesOf? list with
        | none => misuse "invalid field range" 1
        | some ranges =>
          if ranges.any (·.1 = 0) then
            misuse (if g.has 'f' then "fields are numbered from 1"
              else "byte/character positions are numbered from 1") 1
          else
            let (lines, status) ← readLines 1 g.operands
            let separator := (delimiter.bind fun text => text.toList.head?).getD '\t'
            let cutOne (line : Octets) : Option Octets :=
              let cs := line.toList
              if g.has 'f' then
                if cs.contains separator then
                  some (String.ofList (Text.joinChars separator (pick ranges false (Text.splitChars separator cs))))
                else if g.has 's' then none
                else some line
              else some (String.ofList (pick ranges false cs))
            let printed ← print (String.join ((lines.filterMap cutOne).map (· ++ "\n")))
            pure (max status printed)

def tee : Work := fun words =>
  withGiven 1 (forms "aip" [('a', "append"), ('i', "ignore-interrupts")]) words fun g => do
    let text ← match ← ShellM.readAll 0 with
      | .ok text => pure text
      | .error _ => pure ""
    let printed ← print text
    let status ← forEach g.operands fun path => do
      match ← ShellM.openPath path (if g.has 'a' then .append else .write) with
      | .error fault =>
        warn (quotedIfOdd path ++ ": " ++ fault.text)
        pure 1
      | .ok index => do
        ShellM.connect inputDescriptor index
        let _ ← ShellM.write inputDescriptor text
        ShellM.close inputDescriptor
        pure 0
    pure (max printed status)

def tac : Work := fun words =>
  withGiven 1 (forms "" []) words fun g => do
    let (lines, status) ← readLines 1 g.operands
    pure (max status (← print (String.join (lines.reverse.map (· ++ "\n")))))

def rev : Work := fun words =>
  withGiven 1 (forms "" []) words fun g => do
    let (lines, status) ← readLines 1 g.operands
    let turned := lines.map fun line => String.ofList line.toList.reverse ++ "\n"
    pure (max status (← print (String.join turned)))

def cmp : Work := fun words =>
  withGiven 2 (forms "ls" [('s', "silent"), ('l', "verbose")]) words fun g => do
    match g.operands with
    | first :: more =>
      let second := more.headD "-"
      match ← readInput first, ← readInput second with
      | some a, some b =>
        let same := (a.toList.zip b.toList).takeWhile fun (x, y) => x = y
        let lines := (same.map (·.1)).count '\n' + 1
        if a = b then pure 0
        else
          let shorter? := if same.length = a.length then some first else if same.length = b.length then some second
            else none
          if !(g.has 's') then
            match shorter? with
            | some path => warn ("EOF on " ++ quotedIfOdd path ++ " after byte " ++ toString same.length ++
                ", line " ++ toString lines)
            | none =>
              let _ ← print (first ++ " " ++ second ++ " differ: char " ++ toString (same.length + 1) ++
                ", line " ++ toString lines ++ "\n")
          pure 1
      | _, _ => pure 2
    | [] => misuse "missing operand after 'cmp'" 2

end ReleaseMatrix.Shell.Utility
