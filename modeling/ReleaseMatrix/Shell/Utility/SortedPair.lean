import ReleaseMatrix.Shell.Utility.Order

namespace ReleaseMatrix.Shell.Utility

/-- Two files that are read side by side, or what is said of the operands. -/
def readTwo (g : Given) : ShellM (Except Nat (List Octets × List Octets)) := do
  let ending := if g.has 'z' then '\x00' else '\n'
  match g.operands with
  | [first, second] =>
    if first = "-" && second = "-" then
      warn "-: Bad file descriptor"
      pure (.error 1)
    else match ← readInput first with
      | none => pure (.error 1)
      | some a =>
        match ← readInput second with
        | none => pure (.error 1)
        | some b => pure (.ok (recordsOf ending a, recordsOf ending b))
  | [] => return .error (← misuse "missing operand" 1)
  | [only] => return .error (← misuse ("missing operand after " ++ quoted only) 1)
  | _ :: _ :: extra :: _ =>
    return .error (← misuse ("extra operand " ++ quoted extra) 1)

/-- When lines that are out of order are told of. -/
inductive OrderCheck
  | always
  /-- Only once a line was found that is in one of the files alone. -/
  | whenUnpaired
  | never
deriving DecidableEq, Repr

def OrderCheck.ofGiven (g : Given) : OrderCheck :=
  match g.options.filter fun o => o.1 = 'ν' || o.1 = 'κ' with
  | [] => .whenUnpaired
  | options => if (options.getLast?.map (·.1)) = some 'κ' then .always else .never

/-- A sorted file while it is read: the lines that are left, how many were read, the last one, the one before it,
and whether it was told that they are out of order. -/
structure Feed where
  rest : List Octets
  count : Nat
  last? : Option Octets
  before? : Option Octets
  hasWarned : Bool

namespace Feed

def ofLines (lines : List Octets) : Feed :=
  ⟨lines, 0, none, none, false⟩

/-- Reads the next line. -/
def next (f : Feed) : Option Octets × Feed :=
  match f.rest with
  | [] => (none, f)
  | line :: rest => (some line, { f with rest := rest, count := f.count + 1, last? := some line, before? := f.last? })

/-- Whether the line that was read last should stand before the one before it. -/
def isDisordered (f : Feed) (isBefore : Octets → Octets → Bool) : Bool :=
  match f.before?, f.last? with
  | some before, some last => isBefore last before
  | _, _ => false

end Feed

/-- What is found out when two sorted files are read side by side: a line of the first, of the second or of both,
or that one of them is out of order. -/
inductive PairEvent
  | first (line : Octets)
  | second (line : Octets)
  | both (line : Octets)
  | disorder (number : Nat)

namespace PairEvent

/-- Goes through two files. Each has its next line at hand. -/
def list (check : OrderCheck) : Nat → Bool → Option Octets → Feed → Option Octets → Feed → List PairEvent
  | 0, _, _, _, _, _ => []
  | n + 1, hasUnpaired, a?, fa, b?, fb =>
    let advance (hasUnpaired isMoved : Bool) (number : Nat) (line? : Option Octets) (f : Feed) :
        Option Octets × Feed × List PairEvent :=
      if !isMoved then (line?, f, [])
      else
        let (line?, f) := f.next
        let checks := check = .always || (check = .whenUnpaired && hasUnpaired)
        if checks && !f.hasWarned && f.isDisordered (· < ·) then
          (line?, { f with hasWarned := true }, [.disorder number])
        else (line?, f, [])
    let go (event : PairEvent) (hasUnpaired movesA movesB : Bool) : List PairEvent :=
      let (a?, fa, toldA) := advance hasUnpaired movesA 1 a? fa
      let (b?, fb, toldB) := advance hasUnpaired movesB 2 b? fb
      event :: toldA ++ toldB ++ list check n hasUnpaired a? fa b? fb
    match a?, b? with
    | none, none => []
    | some a, none => go (.first a) true true false
    | none, some b => go (.second b) true false true
    | some a, some b =>
      if a = b then go (.both a) hasUnpaired true true
      else if a < b then go (.first a) true true false
      else go (.second b) true false true

end PairEvent

/-- Prints which lines of two sorted files are in the one, in the other and in both. -/
def comm : Work := fun words =>
  withGiven 1 (forms "123z" [('z', "zero-terminated"), ('δ', "output-delimiter="), ('τ', "total"),
    ('ν', "nocheck-order"), ('κ', "check-order")]) words fun g => do
      match ← readTwo g with
      | .error status => pure status
      | .ok (as, bs) =>
        let ending := if g.has 'z' then "\x00" else "\n"
        let gap := match g.argument? 'δ' with
          | some "" => "\x00"
          | some text => text
          | none => "\t"
        let check := OrderCheck.ofGiven g
        let (a?, fa) := (Feed.ofLines as).next
        let (b?, fb) := (Feed.ofLines bs).next
        let events := PairEvent.list check (as.length + bs.length + 1) false a? fa b? fb
        let second := if g.has '1' then 0 else 1
        let both := second + if g.has '2' then 0 else 1
        let write (isHidden : Bool) (column : Nat) (line : Octets) : ShellM Nat :=
          if isHidden then pure 0
          else print (String.join (List.replicate column gap) ++ line ++ ending)
        let rec tell : List PairEvent → Nat → ShellM (Option Nat)
          | [], status => pure (some status)
          | .first line :: rest, status => do tell rest (max status (← write (g.has '1') 0 line))
          | .second line :: rest, status => do tell rest (max status (← write (g.has '2') second line))
          | .both line :: rest, status => do tell rest (max status (← write (g.has '3') both line))
          | .disorder number :: rest, status => do
            warn ("file " ++ toString number ++ " is not in sorted order")
            if check = .always then pure none else tell rest status
        match ← tell events 0 with
        | none => pure 1
        | some status =>
          let count (isMeant : PairEvent → Bool) : Octets := toString (events.filter isMeant).length
          let counts := [count fun | .first _ => true | _ => false, count fun | .second _ => true | _ => false,
            count fun | .both _ => true | _ => false]
          let status ← if g.has 'τ' then do
              pure (max status (← print (gap.intercalate (counts ++ ["total"]) ++ ending)))
            else pure status
          if events.any fun | .disorder _ => true | _ => false then
            warn "input is not in sorted order"
            pure 1
          else pure status

/-- What a column of joined lines shows. -/
inductive JoinCell
  | key
  | first (field : Nat)
  | second (field : Nat)

/-- How lines are joined. -/
structure Joining where
  given : Given
  fieldA : Nat
  fieldB : Nat
  separator? : Option Char
  /-- The columns, or nothing for all. -/
  cells? : Option (List JoinCell)
  names : Octets × Octets

namespace Joining

def fieldsOf (j : Joining) (line : Octets) : List Octets :=
  match j.separator? with
  | some c => (Text.splitChars c line.toList).map String.ofList
  | none => ((SortKey.fieldsOf none line.toList).map fun f =>
      String.ofList (f.dropWhile fun c => c = ' ' || c = '\t')).filter (· ≠ "")

/-- What a line is joined by. -/
def keyOf (j : Joining) (field : Nat) (line : Octets) : Octets :=
  let key := (j.fieldsOf line)[field - 1]?.getD ""
  if j.given.has 'i' then key.toUpper else key

/-- The line that two lines give, or one alone. -/
def joined (j : Joining) (a? b? : Option Octets) : Octets :=
  let a? := a?.map j.fieldsOf
  let b? := b?.map j.fieldsOf
  let filler := (j.given.argument? 'e').getD ""
  let fill (text? : Option Octets) : Octets := match text? with
    | some "" | none => filler
    | some text => text
  let others (field : Nat) (fields : List Octets) : List Octets :=
    fields.take (field - 1) ++ fields.drop field
  let key := match a?, b? with
    | some a, _ => a[j.fieldA - 1]?.getD ""
    | none, some b => b[j.fieldB - 1]?.getD ""
    | none, none => ""
  let cells := match j.cells? with
    | some cells => cells.map fun cell => match cell with
      | .key => fill (some key)
      | .first field => fill (a?.bind fun a => a[field - 1]?)
      | .second field => fill (b?.bind fun b => b[field - 1]?)
    | none => fill (some key) :: ((a?.map (others j.fieldA)).getD [] ++ (b?.map (others j.fieldB)).getD [])
  ((j.separator?.map String.singleton).getD " ").intercalate cells ++ if j.given.has 'z' then "\x00" else "\n"

def asksFor (j : Joining) (letter : Char) (number : Octets) : Bool :=
  j.given.options.any fun o => o = (letter, number)

/-- The columns that a text asks for. -/
def cellsOf (text : Octets) : Except Octets (List JoinCell) :=
  let words := Text.splitChars ' ' (text.toList.map fun c => if c = ',' || c = '\t' then ' ' else c)
  (words.filter (!·.isEmpty)).mapM fun word => do
    let field (digits : List Char) : Except Octets Nat :=
      if !digits.isEmpty && digits.all Char.isDigit && Text.numberOf 10 digits ≠ 0 then pure (Text.numberOf 10 digits)
      else throw ("invalid field number: " ++ quoted (String.ofList digits))
    match word with
    | ['0'] => pure .key
    | '0' :: _ => throw ("invalid field specifier: " ++ quoted (String.ofList word))
    | '1' :: '.' :: digits => return .first (← field digits)
    | '2' :: '.' :: digits => return .second (← field digits)
    | '1' :: _ | '2' :: _ => throw ("invalid field specifier: " ++ quoted (String.ofList word))
    | word => throw ("invalid file number in field spec: " ++ quoted (String.ofList word))

/-- Whether a text names columns. -/
def isCells (text : Octets) : Bool :=
  (text.toList.head?.any fun c => c ∈ ['0', '1', '2']) && (cellsOf text).isOk &&
    text.toList.all fun c => c.isDigit || c = '.' || c = ','

/-- What is known while two files are joined. -/
structure Progress where
  feedA : Feed
  feedB : Feed
  hasUnpaired : Bool
  /-- Whether the work was given up because of the order of lines. -/
  isStopped : Bool

/-- Reads the next line of one of the files. -/
def read (j : Joining) (isFirst : Bool) : StateT Progress ShellM (Option Octets) := do
  let s ← get
  let (line?, f) := (if isFirst then s.feedA else s.feedB).next
  let field := if isFirst then j.fieldA else j.fieldB
  let check := OrderCheck.ofGiven j.given
  let checks := check = .always || (check = .whenUnpaired && s.hasUnpaired)
  let isBad := line?.isSome && checks && !f.hasWarned && f.isDisordered fun a b => j.keyOf field a < j.keyOf field b
  if isBad then
    warn ((if isFirst then j.names.1 else j.names.2) ++ ":" ++ toString f.count ++ ": is not sorted: " ++ line?.getD "")
  let f := { f with hasWarned := f.hasWarned || isBad }
  let s := { s with isStopped := s.isStopped || (isBad && check = OrderCheck.always) }
  set (if isFirst then { s with feedA := f } else { s with feedB := f })
  if (← get).isStopped then pure none else pure line?

def show' (text : Octets) : StateT Progress ShellM Unit := do
  if !(← get).isStopped then
    let _ ← (print text : ShellM Nat)

/-- Reads lines of a file as long as they have a key. Gives them and the line that follows. -/
def readAlike (j : Joining) (isFirst : Bool) (key : Octets) : Nat → StateT Progress ShellM (List Octets × Option Octets)
  | 0 => pure ([], none)
  | n + 1 => do
    match ← j.read isFirst with
    | none => pure ([], none)
    | some line =>
      if j.keyOf (if isFirst then j.fieldA else j.fieldB) line = key then
        let (lines, next?) ← readAlike j isFirst key n
        pure (line :: lines, next?)
      else pure ([], some line)

/-- What stands at the end of one file when the other has no more lines. -/
def finish (j : Joining) (isFirst : Bool) : Nat → Option Octets → StateT Progress ShellM Unit
  | 0, _ | _, none => pure ()
  | n + 1, some line => do
    let number := if isFirst then "1" else "2"
    if j.asksFor 'a' number || j.asksFor 'v' number then
      show' (if isFirst then j.joined (some line) none else j.joined none (some line))
    finish j isFirst n (← j.read isFirst)

/-- Joins two files, each of which has its next line at hand. -/
def run (j : Joining) : Nat → Option Octets → Option Octets → StateT Progress ShellM Unit
  | 0, _, _ => pure ()
  | n + 1, a?, b? => do
    let unpaired : StateT Progress ShellM Unit := modify fun s => { s with hasUnpaired := true }
    match a?, b? with
    | some a, some b =>
      let keyA := j.keyOf j.fieldA a
      let keyB := j.keyOf j.fieldB b
      if keyA < keyB then
        if j.asksFor 'a' "1" || j.asksFor 'v' "1" then show' (j.joined (some a) none)
        let next? ← j.read true
        unpaired
        run j n next? b?
      else if keyB < keyA then
        if j.asksFor 'a' "2" || j.asksFor 'v' "2" then show' (j.joined none (some b))
        let next? ← j.read false
        unpaired
        run j n a? next?
      else
        let (as, nextA?) ← j.readAlike true keyB n
        let (bs, nextB?) ← j.readAlike false keyA n
        if !j.given.has 'v' then
          (a :: as).forM fun a => (b :: bs).forM fun b => show' (j.joined (some a) (some b))
        run j n nextA? nextB?
    | a?, b? =>
      j.finish true (n + 1) a?
      j.finish false (n + 1) b?

end Joining

/-- Puts lines of two sorted files together that have a field in common. -/
def join : Work := fun words =>
  let words := spread words
  withGiven 1 (forms "a:e:ij:1:2:o:t:v:z" [('i', "ignore-case"), ('z', "zero-terminated"), ('ν', "nocheck-order"),
    ('κ', "check-order"), ('η', "header")]) words fun g => do
      let refuse (message : Octets) : ShellM Nat := do
        warn message
        pure 1
      let field (letter : Char) : Nat := ((g.argument? letter <|> g.argument? 'j').bind String.toNat?).getD 1
      let isField (text : Octets) : Bool := text.toNat?.any (· ≠ 0)
      let bad? := ['1', '2', 'j'].find? fun letter => (g.argument? letter).any (!isField ·)
      let badFile? := ((g.options.filter fun o => o.1 = 'a' || o.1 = 'v').map (·.2)).find? fun text =>
        text ≠ "1" && text ≠ "2"
      let isAuto := g.argument? 'o' = some "auto"
      let cells := if isAuto then .ok [] else Joining.cellsOf ((g.argument? 'o').getD "")
      if let some letter := bad? then refuse ("invalid field number: " ++ quoted ((g.argument? letter).getD ""))
      else if let some text := badFile? then refuse ("invalid field number: " ++ quoted text)
      else if (g.argument? 't').any (·.length > 1) then
        refuse ("multi-character tab " ++ quoted ((g.argument? 't').getD ""))
      else match cells with
      | .error message => refuse message
      | .ok cells =>
        match ← readTwo g with
        | .error status => pure status
        | .ok (as, bs) =>
          let j : Joining := ⟨g, field '1', field '2', (g.argument? 't').bind fun text => text.toList.head?,
            if (g.argument? 'o').isSome && !isAuto then some cells else none,
            (g.operands.headD "", g.operands.getLastD "")⟩
          let width (lines : List Octets) : Nat := (lines.head?.map fun line => (j.fieldsOf line).length).getD 0
          let all (field width : Nat) (cell : Nat → JoinCell) : List JoinCell :=
            (((List.range width).map (· + 1)).filter (· ≠ field)).map cell
          let j := if isAuto then
              { j with cells? := some (.key :: all j.fieldA (width as) .first ++ all j.fieldB (width bs) .second) }
            else j
          let size := as.length + bs.length + 2
          let work : StateT Joining.Progress ShellM Unit := do
            if g.has 'η' then
              let a? ← j.read true
              let b? ← j.read false
              if a?.isSome || b?.isSome then Joining.show' (j.joined a? b?)
              modify fun s =>
                { s with
                  feedA := { s.feedA with last? := none }
                  feedB := { s.feedB with last? := none } }
            let a? ← j.read true
            let b? ← j.read false
            j.run size a? b?
          let ((), s) ← work.run ⟨.ofLines as, .ofLines bs, false, false⟩
          if s.isStopped then pure 1
          else if s.feedA.hasWarned || s.feedB.hasWarned then refuse "input is not in sorted order"
          else pure 0
where
  /-- Puts the words that go on with the list of columns into the word of that list. -/
  spread : List Octets → List Octets
    | "-o" :: text :: rest =>
      let more := if text = "auto" then [] else rest.takeWhile Joining.isCells
      "-o" :: " ".intercalate (text :: more) :: rest.drop more.length
    | word :: rest => word :: spread rest
    | [] => []

end ReleaseMatrix.Shell.Utility
