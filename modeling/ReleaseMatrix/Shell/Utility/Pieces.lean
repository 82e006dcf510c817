import ReleaseMatrix.Shell.Utility.Sizes
import ReleaseMatrix.Shell.Utility.Text

namespace ReleaseMatrix.Shell.Utility

/-- Lists of at most so many elements that make up a list. -/
def chunks {α : Type} (size : Nat) : Nat → List α → List (List α)
  | 0, _ | _, [] => []
  | n + 1, items => items.take size :: chunks size n (items.drop size)

/-- Lines put together as long as they stay within a size. Longer lines are cut. -/
def packLines (size : Nat) (lines : List Octets) : List Octets :=
  (lines.foldl (fun (packs : List Octets) line => match packs with
    | pack :: before => if pack.length + line.length ≤ size then (pack ++ line) :: before else line :: pack :: before
    | [] => [line]) []).reverse

/-- A number as letters, or as digits, of a width. -/
def suffixOf (digits : List Char) (width n : Nat) : Octets :=
  let base := digits.length
  String.ofList ((List.range width).reverse.map fun k => digits.getD (n / Nat.pow base k % base) 'a')

/-- Lines with the number of the pack that each belongs to, which follows from where it starts. -/
def packsOf (place : Nat → Nat) : Nat → List Octets → List (Nat × Octets)
  | _, [] => []
  | start, line :: lines => (place start, line) :: packsOf place (start + line.length) lines

/-- The packs by their numbers. -/
def packsInOrder (count : Nat) (lines : List (Nat × Octets)) : List Octets :=
  (List.range count).map fun k => String.join ((lines.filter (·.1 = k)).map (·.2))

/-- Cuts a file in pieces that are files of their own. -/
def split : Work := fun words =>
  let words := words.map fun word => match word.toList with
    | '-' :: c :: cs => if (c :: cs).all Char.isDigit then String.ofList ('-' :: 'l' :: c :: cs) else word
    | _ => word
  withGiven 1 (forms "a:b:C:del:n:t:ux" [('a', "suffix-length"), ('b', "bytes"), ('C', "line-bytes"), ('l', "lines"),
    ('n', "number"), ('e', "elide-empty-files"), ('σ', "additional-suffix="), ('ν', "verbose")] ++
      [⟨'d', .optional, "numeric-suffixes"⟩, ⟨'x', .optional, "hex-suffixes"⟩]) words fun g => do
    match g.operands with
    | _ :: _ :: extra :: _ => misuse ("extra operand " ++ quoted extra) 1
    | operands =>
      let path := operands.headD "-"
      let lead := operands[1]?.getD "x"
      let bad? := [('l', "lines"), ('b', "bytes"), ('C', "bytes")].find? fun (letter, _) =>
        (g.argument? letter).any fun text => (sizeOf? text).all (· = 0)
      if let some (letter, what) := bad? then
        warn ("invalid number of " ++ what ++ ": " ++ quoted ((g.argument? letter).getD ""))
        pure 1
      else
        let opened ← withInput path (fun fault => do
          warn ("cannot open " ++ quoted path ++ " for reading: " ++ fault.text)
          pure none) fun descriptor => do
            match ← ShellM.readAll descriptor with
            | .ok text => pure (some text)
            | .error fault =>
              warn (path ++ ": " ++ fault.text)
              pure none
        match opened with
        | none => pure 1
        | some text =>
          let cs := text.toList
          let byBytes (size : Nat) : List Octets := (chunks size (cs.length + 1) cs).map String.ofList
          let pieces := match (g.argument? 'b').bind sizeOf?, (g.argument? 'C').bind sizeOf?, g.argument? 'n' with
            | some size, _, _ => byBytes size
            | none, some size, _ => packLines size (linesOf text)
            | none, none, some count =>
              match count.toList with
              | 'l' :: '/' :: digits =>
                let parts := max 1 (Text.numberOf 10 digits)
                let share := cs.length / parts
                let place (start : Nat) : Nat := min (parts - 1) (if share = 0 then 0 else start / share)
                packsInOrder parts (packsOf place 0 (linesOf text))
              | digits =>
                let parts := max 1 (Text.numberOf 10 digits)
                let share := cs.length / parts
                let extra := cs.length % parts
                (List.range parts).map fun k =>
                  let start := k * share + min k extra
                  String.ofList ((cs.drop start).take (share + if k < extra then 1 else 0))
            | none, none, none =>
              let size := ((g.argument? 'l').bind sizeOf?).getD 1000
              let lines := linesOf text
              (chunks size (lines.length + 1) lines).map String.join
          let digits := if g.has 'd' then "0123456789".toList else if g.has 'x' then "0123456789abcdef".toList
            else "abcdefghijklmnopqrstuvwxyz".toList
          let width := ((g.argument? 'a').bind String.toNat?).getD 2
          let first := ((g.argument? 'd' <|> g.argument? 'x').bind String.toNat?).getD 0
          let named := pieces.mapIdx fun k piece =>
            (lead ++ suffixOf digits width (k + first) ++ (g.argument? 'σ').getD "", piece)
          let named := if g.has 'e' then named.filter (·.2 ≠ "") else named
          named.foldlM (fun status (name, piece) => do
            if status ≠ 0 then pure status
            else
              if g.has 'ν' then
                let _ ← print ("creating file " ++ quoted name ++ "\n")
              tryFiles (quotedIfOdd name) (FileM.write (Octets.toPath name) (Octets.toBytes piece))) 0

namespace BlockCopy

/-- The value of an operand that is a name, a sign and a value. -/
def value? (words : List Octets) (name : Octets) : Option Octets :=
  (words.reverse.find? fun word => (name ++ "=").toList.isPrefixOf word.toList).map fun word =>
    String.ofList (word.toList.drop (name.length + 1))

def names : List Octets :=
  ["if", "of", "bs", "ibs", "obs", "cbs", "count", "skip", "seek", "iseek", "oseek", "conv", "iflag", "oflag", "status"]

def conversions : List Octets :=
  ["ascii", "ebcdic", "ibm", "block", "unblock", "lcase", "ucase", "sparse", "swab", "sync", "excl", "nocreat",
    "notrunc", "noerror", "fdatasync", "fsync"]

/-- A number whose factors stand with signs between them. -/
def number? (text : Octets) : Option Nat :=
  ((Text.splitChars 'x' text.toList).mapM fun piece => sizeOf? (String.ofList piece)).map fun ns => ns.foldl (· * ·) 1

/-- Bytes of which those in pairs change places. -/
def swapped : List Char → List Char
  | a :: b :: rest => b :: a :: swapped rest
  | rest => rest

/-- How many blocks of a size there are, and how many that are too short. -/
def blocks (size length : Nat) : Octets :=
  toString (length / size) ++ "+" ++ (if length % size = 0 then "0" else "1")

end BlockCopy

open BlockCopy in
/-- Copies blocks of bytes. -/
def dd : Work := fun words => do
  let refuse (message : Octets) : ShellM Nat := do
    warn message
    pure 1
  let nameOf (word : Octets) : Octets := String.ofList (word.toList.takeWhile (· ≠ '='))
  let numbers := ["bs", "ibs", "obs", "count", "skip", "seek", "iseek", "oseek"]
  let badNumber? := numbers.findSome? fun name =>
    (value? words name).bind fun text =>
      let isSize := name ∈ ["bs", "ibs", "obs"]
      let plain := if text.toList.getLast? = some 'B' && !isSize then String.ofList text.toList.dropLast else text
      match number? plain with
      | none => some text
      | some n => if isSize && n = 0 then some text else none
  let converted := ((value? words "conv").map fun text => (Text.splitChars ',' text.toList).map String.ofList).getD []
  let status := (value? words "status").getD ""
  if let some word := words.find? fun word => !(word.contains '=' && names.contains (nameOf word)) then
    misuse ("unrecognized operand " ++ quoted word) 1
  else if let some name := converted.find? (!conversions.contains ·) then
    misuse ("invalid conversion: " ++ quoted name) 1
  else if status ∉ ["", "none", "noxfer", "progress"] then misuse ("invalid status level: " ++ quoted status) 1
  else if let some text := badNumber? then refuse ("invalid number: " ++ quoted text)
  else
    let number (name : Octets) (preset : Nat) : Nat := ((value? words name).bind number?).getD preset
    let whole := number "bs" 512
    let inSize := if (value? words "bs").isSome then whole else number "ibs" 512
    let outSize := if (value? words "bs").isSome then whole else number "obs" 512
    let input := (value? words "if").getD "-"
    let read ← withInput input (fun fault => do
      warn ("failed to open " ++ quoted input ++ ": " ++ fault.text)
      pure none) fun descriptor => do
        match ← ShellM.peekAll descriptor with
        | .error fault =>
          warn ("error reading " ++ quoted input ++ ": " ++ fault.text)
          pure none
        | .ok (chars, leave) =>
          let skipped := number "skip" (number "iseek" 0) * inSize
          let rest := chars.drop skipped
          let taken := match (value? words "count").bind number? with
            | some count => rest.take (count * inSize)
            | none => rest
          leave (rest.drop taken.length)
          pure (some taken)
    match read with
    | none => pure 1
    | some taken =>
      let has (name : Octets) : Bool := converted.contains name
      let data := if has "ucase" then taken.map Char.toUpper else if has "lcase" then taken.map Char.toLower else taken
      let data := if has "swab" then swapped data else data
      let data := if has "sync" && data.length % inSize ≠ 0 then
          data ++ List.replicate (inSize - data.length % inSize) '\x00' else data
      let written ← match value? words "of" with
        | none => print (String.ofList data)
        | some path =>
          let found ← look path
          let before := (found.toOption.bind fun f => f.2.content?).getD []
          let start := number "seek" (number "oseek" 0) * outSize
          if has "nocreat" && !found.isOk then do
            refuse ("failed to open " ++ quoted path ++ ": No such file or directory")
          else if has "excl" && found.isOk then refuse ("failed to open " ++ quoted path ++ ": File exists")
          else
            let kept := before.take start ++ List.replicate (start - before.length) 0
            let bytes := Octets.toBytes (String.ofList data)
            let after := if has "notrunc" then before.drop (start + bytes.length) else []
            tryFiles ("failed to open " ++ quoted path) (FileM.write (Octets.toPath path) (kept ++ bytes ++ after))
      if written ≠ 0 then pure written
      else
        if status ≠ "none" then
          let _ ← ShellM.write 2 (blocks inSize taken.length ++ " records in\n" ++ blocks outSize data.length ++
            " records out\n")
          if status ≠ "noxfer" then
            let size := toString data.length ++ (if data.length = 1 then " byte" else " bytes")
            let _ ← ShellM.write 2 (size ++ " copied, 0.0001 s, 1.0 MB/s\n")
        pure 0

namespace TemporaryName

/-- The letters that stand in for signs, for the tries one after the other. -/
def letters (count k : Nat) : List Char :=
  let all := "abcdefghijklmnopqrstuvwxyzABCDEFGHIJKLMNOPQRSTUVWXYZ0123456789".toList
  (List.range count).map fun i => all.getD ((k / Nat.pow 62 i + 7 * i + 3) % 62) 'a'

/-- The first name of some that nothing has. -/
def firstFree (w : Workspace) (before after : Octets) (count : Nat) : Nat → Nat → Octets
  | 0, k => before ++ String.ofList (letters count k) ++ after
  | n + 1, k =>
    let path := before ++ String.ofList (letters count k) ++ after
    if w.exists? (Octets.toPath path) then firstFree w before after count n (k + 1) else path

end TemporaryName

/-- Makes a file or a directory with a name that nothing has. -/
def mktemp : Work := fun words =>
  withGiven 1 (forms "dp:qtu" [('d', "directory"), ('q', "quiet"), ('u', "dry-run"), ('σ', "suffix=")] ++
    [⟨'θ', .optional, "tmpdir"⟩]) words fun g => do
      match g.operands with
      | _ :: _ :: _ => misuse "too many templates" 1
      | operands =>
        let temporary := (← ShellM.self).valueOf? "TMPDIR"
        let standard := match temporary with
          | some dir => if dir.isEmpty then "/tmp" else dir
          | none => "/tmp"
        let asked? := (g.argument? 'p' <|> g.argument? 'θ').map fun dir => if dir.isEmpty then standard else dir
        let directory? := match operands with
          | [] => some (asked?.getD standard)
          | _ => if g.has 't' then some (temporary.getD (asked?.getD "/tmp")) else asked?
        let template := operands.headD "tmp.XXXXXXXXXX"
        let whole := template ++ (g.argument? 'σ').getD ""
        let cs := template.toList.reverse
        let after := if (g.argument? 'σ').isSome then [] else cs.takeWhile (· ≠ 'X')
        let count := ((cs.drop after.length).takeWhile (· = 'X')).length
        let say (text : Octets) : ShellM Nat := do
          if !g.has 'q' then warn text
          pure 1
        if (g.argument? 'σ').isSome && template.toList.getLast? ≠ some 'X' then
          warn ("with --suffix, template " ++ quoted template ++ " must end in X")
          pure 1
        else if count < 3 then
          warn ("too few X's in template " ++ quoted whole)
          pure 1
        else
          let place (name : Octets) : Octets := match directory? with
            | some dir => under dir name
            | none => name
          let before := place (String.ofList (cs.drop (after.length + count)).reverse)
          let ending := String.ofList after.reverse ++ (g.argument? 'σ').getD ""
          let path := TemporaryName.firstFree (← get).workspace before ending count 100 0
          if g.has 'u' then print (path ++ "\n")
          else
            let made ← ShellM.onFiles (if g.has 'd' then FileM.makeDirectory (Octets.toPath path)
              else FileM.write (Octets.toPath path) [])
            match made with
            | .ok () => print (path ++ "\n")
            | .error fault =>
              say ("failed to create " ++ (if g.has 'd' then "directory" else "file") ++ " via template " ++
                quoted (place whole) ++ ": " ++ fault.text)

end ReleaseMatrix.Shell.Utility
