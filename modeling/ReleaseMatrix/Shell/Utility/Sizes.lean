import ReleaseMatrix.Shell.Number
import ReleaseMatrix.Shell.Utility.Basic

namespace ReleaseMatrix.Shell.Utility

/-- How many bytes a letter and what follows it stand for. -/
def unitOf? (suffix : List Char) : Option Nat :=
  let power (base : Nat) (letter : Char) : Option Nat :=
    (("KMGTPEZYRQ".toList.idxOf? letter.toUpper).map fun k => Nat.pow base (k + 1)).filter
      fun _ => letter.isUpper || letter = 'k' || letter = 'g' || letter = 'm' || letter = 't'
  match suffix with
  | [] => some 1
  | ['b'] => some 512
  | ['c'] => some 1
  | ['w'] => some 2
  | [letter] => power 1024 letter
  | [letter, 'i', 'B'] => power 1024 letter
  | [letter, 'B'] => power 1000 letter
  | _ => none

/-- A number with a unit. -/
def sizeOf? (text : Octets) : Option Nat :=
  let digits := text.toList.takeWhile Char.isDigit
  if digits.isEmpty then none
  else (unitOf? (text.toList.drop digits.length)).map (Text.numberOf 10 digits * ·)

/-- How a size follows from another one. -/
inductive Resize
  | exactly
  | by (isLess : Bool)
  | atMost
  | atLeast
  | downTo
  | upTo
deriving DecidableEq, Repr

namespace Resize

/-- Reads a change of a size. -/
def ofText? (text : Octets) : Option (Resize × Nat) :=
  let cs := text.toList.dropWhile isNumberSpace
  let (change, rest) : Resize × List Char := match cs with
    | '<' :: rest => (.atMost, rest)
    | '>' :: rest => (.atLeast, rest)
    | '/' :: rest => (.downTo, rest)
    | '%' :: rest => (.upTo, rest)
    | rest => (.exactly, rest)
  let rest := if change = .exactly then rest else rest.dropWhile isNumberSpace
  let (change, rest) : Resize × List Char := match rest, change with
    | '+' :: rest, .exactly => (.by false, rest)
    | '-' :: rest, .exactly => (.by true, rest)
    | rest, change => (change, rest)
  let suffix := rest.dropWhile Char.isDigit
  match suffix with
  | ['c'] | ['w'] | ['b'] => none
  | _ => (sizeOf? (String.ofList rest)).map fun n => (change, n)

/-- The size that follows from one. -/
def apply (change : Resize) (amount size : Nat) : Nat :=
  match change with
  | exactly => amount
  | .by isLess => if isLess then size - amount else size + amount
  | atMost => min size amount
  | atLeast => max size amount
  | downTo => size / amount * amount
  | upTo => (size + amount - 1) / amount * amount

end Resize

/-- Cuts files off, or fills them up with zeros. -/
def truncate : Work := fun words =>
  withGiven 1 (forms "cor:s:" [('c', "no-create"), ('o', "io-blocks"), ('r', "reference"), ('s', "size")]) words
    fun g => do
      let refuse (message : Octets) : ShellM Nat := do
        warn message
        pure 1
      match g.argument? 's', g.argument? 'r' with
      | none, none => misuse "you must specify either '--size' or '--reference'" 1
      | size?, reference? =>
        let change? := size?.map Resize.ofText?
        if change? = some none then refuse ("Invalid number: " ++ quoted (size?.getD ""))
        else
          let (change, amount) := (change?.bind id).getD (.exactly, 0)
          let amount := if g.has 'o' then amount * 4096 else amount
          let isRelative := change ≠ .exactly
          if reference?.isSome && size?.isSome && !isRelative then
            misuse "you must specify a relative '--size' with '--reference'" 1
          else if g.has 'o' && size?.isNone then misuse "'--io-blocks' was specified but '--size' was not" 1
          else if (change = .downTo || change = .upTo) && amount = 0 then refuse "division by zero"
          else if g.operands.isEmpty then misuse "missing file operand" 1
          else
            let base? : Except (Octets × FileFault) (Option Nat) ← match reference? with
              | none => pure (.ok none)
              | some path =>
                match ← look path with
                | .ok (_, e) => pure (.ok (some (e.content?.getD []).length))
                | .error fault => pure (.error (path, fault))
            match base? with
            | .error (path, fault) => refuse ("cannot stat " ++ quoted path ++ ": " ++ fault.text)
            | .ok base? =>
              forEach g.operands fun path => do
                let found ← look path
                if g.has 'c' && !found.isOk then pure 0
                else
                  let content := (found.toOption.bind fun f => f.2.content?).getD []
                  let size := if size?.isNone then base?.getD 0 else change.apply amount (base?.getD content.length)
                  let content := content.take size ++ List.replicate (size - content.length) 0
                  tryFiles ("cannot open " ++ quoted path ++ " for writing") (FileM.write (Octets.toPath path) content)

/-- A size with a unit, rounded up, as people read it. -/
def readable (base : Nat) (size : Nat) : Octets :=
  go 10 0 size 1
where
  /-- Goes to larger units until few digits are enough. -/
  go : Nat → Nat → Nat → Nat → Octets
    | 0, _, size, _ => toString size
    | n + 1, rank, size, unit =>
      let letter := (["", "K", "M", "G", "T", "P", "E", "Z", "Y"][rank]?.getD "")
      if rank = 0 then if size < base then toString size else go n 1 size base
      else
        let tenths := (10 * size + unit - 1) / unit
        if tenths < 100 then toString (tenths / 10) ++ "." ++ toString (tenths % 10) ++ letter
        else
          let whole := (size + unit - 1) / unit
          if whole < base then toString whole ++ letter else go n (rank + 1) size (unit * base)

/-- What is counted of files. -/
structure Usage where
  given : Given
  /-- How deep directories are listed. -/
  depth : Nat

namespace Usage

/-- The bytes that an entry itself takes. -/
def sizeOf (u : Usage) (e : Entry) : Nat :=
  let isApparent := u.given.has 'b' || u.given.has 'α'
  match e with
  | .directory => if isApparent then 0 else 4096
  | .link target => if isApparent then target.text.utf8ByteSize else 0
  | e =>
    let length := (e.content?.getD []).length
    if isApparent then length else (length + 4095) / 4096 * 4096

def told (u : Usage) (size : Nat) (name : Octets) : Octets :=
  let g := u.given
  let unit? := (g.argument? 'B').bind sizeOf?
  let up (unit : Nat) : Octets := toString ((size + unit - 1) / unit)
  let number := if g.has 'h' then readable 1024 size
    else if g.has 'H' then readable 1000 size
    else if g.has 'm' then up 1048576
    else if let some unit := unit? then up (max 1 unit)
    else if g.has 'b' && !g.has 'k' then toString size
    else up 1024
  number ++ "\t" ++ name ++ "\n"

/-- Counts what is at a place and below it. Gives the size, the lines to print, and the places of files. -/
def count (u : Usage) (w : Workspace) : Nat → Nat → Octets → Location → Entry → List Location →
    Nat × List Octets × List Location
  | 0, _, _, _, _, seen => (0, [], seen)
  | n + 1, level, path, l, e, seen =>
    let isTop := level = 0
    match e with
    | .directory =>
      let (below, lines, seen) := (w.files.names l).foldl (fun (size, lines, seen) name =>
        let inner := l ++ [name]
        match w.files.get? inner with
        | none => (size, lines, seen)
        | some e =>
          let (more, told, seen) := count u w n (level + 1) (under path (Octets.ofText name)) inner e seen
          let counts := !(u.given.has 'S' && e = .directory)
          (if counts then size + more else size, lines ++ told, seen)) (u.sizeOf e, ([] : List Octets), seen)
      (below, if level ≤ u.depth then lines ++ [u.told below path] else lines, seen)
    | e =>
      let isSeen := !u.given.has 'l' && (w.files.places l).any seen.contains
      let size := if isSeen then 0 else u.sizeOf e
      let isTold := !isSeen && (isTop || (u.given.has 'a' && level ≤ u.depth))
      (size, if isTold then [u.told size path] else [], l :: seen)

end Usage

/-- Prints how much space files take. -/
def du : Work := fun words =>
  withGiven 1 (forms "0abcd:DhHklLmPsSt:xB:X:" [('a', "all"), ('b', "bytes"), ('c', "total"), ('d', "max-depth"),
    ('h', "human-readable"), ('H', "si"), ('s', "summarize"), ('S', "separate-dirs"), ('B', "block-size"),
    ('α', "apparent-size"), ('ε', "exclude="), ('L', "dereference"), ('l', "count-links"), ('0', "null")]) words
    fun g => do
      let depth? := (g.argument? 'd').map String.toNat?
      if depth? = some none then misuse ("invalid maximum depth " ++ quoted ((g.argument? 'd').getD "")) 1
      else if g.has 's' && g.has 'a' then misuse "cannot both summarize and show all entries" 1
      else
        let u : Usage := ⟨g, if g.has 's' then 0 else (depth?.bind id).getD 64⟩
        let paths := if g.operands.isEmpty then ["."] else g.operands
        let (total, _, status) ← paths.foldlM (fun (total, seen, status) path => do
          match ← (if g.has 'L' then look path else lookAt path) with
          | .error fault =>
            warn ("cannot access " ++ quoted path ++ ": " ++ fault.text)
            pure (total, seen, 1)
          | .ok (l, e) =>
            if seen.contains l then pure (total, seen, status)
            else
              let (size, lines, seen) := u.count (← get).workspace 64 0 path l e seen
              let printed ← print (String.join lines)
              pure (total + size, l :: seen, max status printed)) (0, ([] : List Location), 0)
        if g.has 'c' then pure (max status (← print (u.told total "total"))) else pure status

end ReleaseMatrix.Shell.Utility
