import ReleaseMatrix.Shell.Utility.Sizes
import ReleaseMatrix.Shell.Utility.Text

namespace ReleaseMatrix.Shell.Utility

/-- How numbers are shown. -/
inductive Radix
  | named
  | char
  | signed
  | unsigned
  | octal
  | hexadecimal
deriving DecidableEq, Repr

/-- How the bytes of a line are shown: in groups of a size, with or without their characters at the end. -/
structure DumpForm where
  radix : Radix
  size : Nat
  showsText : Bool
deriving DecidableEq, Repr

namespace DumpForm

/-- How many characters a group takes. -/
def width (f : DumpForm) : Nat :=
  match f.radix with
  | .named | .char => 3
  | .signed => [0, 4, 6, 0, 11, 0, 0, 0, 20][f.size]?.getD 20
  | .unsigned => [0, 3, 5, 0, 10, 0, 0, 0, 20][f.size]?.getD 20
  | .octal => [0, 3, 6, 0, 11, 0, 0, 0, 22][f.size]?.getD 22
  | .hexadecimal => 2 * f.size

def namesOfControls : List String :=
  ["nul", "soh", "stx", "etx", "eot", "enq", "ack", "bel", "bs", "ht", "nl", "vt", "ff", "cr", "so", "si", "dle",
    "dc1", "dc2", "dc3", "dc4", "nak", "syn", "etb", "can", "em", "sub", "esc", "fs", "gs", "rs", "us", "sp"]

/-- A number in a base, with zeros before it. -/
def inBase (base width n : Nat) : String :=
  let ds := Nat.toDigits base n
  String.ofList (List.replicate (width - ds.length) '0' ++ ds)

/-- The text for a group of bytes, the least significant one first. -/
def textOf (f : DumpForm) (group : List Nat) : String :=
  let n := group.foldr (fun b n => n * 256 + b) 0
  match f.radix with
  | .named =>
    let b := n % 128
    if b = 127 then "del" else (namesOfControls[b]?).getD (String.singleton (Char.ofNat b))
  | .char =>
    let named : List (Nat × String) :=
      [(0, "\\0"), (7, "\\a"), (8, "\\b"), (9, "\\t"), (10, "\\n"), (11, "\\v"), (12, "\\f"), (13, "\\r")]
    match named.find? (·.1 == n) with
    | some (_, text) => text
    | none => if isPrintable (Char.ofNat n) then String.singleton (Char.ofNat n) else inBase 8 3 n
  | .signed =>
    let limit := Nat.pow 256 f.size
    if 2 * n ≥ limit then "-" ++ toString (limit - n) else toString n
  | .unsigned => toString n
  | .octal => inBase 8 f.width n
  | .hexadecimal => inBase 16 f.width n

/-- Reads the form that letters and a size tell, and what follows. -/
def read? : Nat → List Char → Option (List DumpForm)
  | 0, _ => none
  | _ + 1, [] => some []
  | n + 1, letter :: cs => do
    let radix ← match letter with
      | 'a' => some Radix.named
      | 'c' => some .char
      | 'd' => some .signed
      | 'u' => some .unsigned
      | 'o' => some .octal
      | 'x' => some .hexadecimal
      | _ => none
    let (size, rest) ← if radix = .named || radix = .char then some (1, cs)
      else match cs with
        | 'C' :: rest => some (1, rest)
        | 'S' :: rest => some (2, rest)
        | 'I' :: rest => some (4, rest)
        | 'L' :: rest => some (8, rest)
        | cs =>
          let digits := cs.takeWhile Char.isDigit
          if digits.isEmpty then some (4, cs)
          else
            let size := Text.numberOf 10 digits
            if size ∈ [1, 2, 4, 8] then some (size, cs.drop digits.length) else none
    let (showsText, rest) := match rest with
      | 'z' :: rest => (true, rest)
      | rest => (false, rest)
    return ⟨radix, size, showsText⟩ :: (← read? n rest)

/-- The forms that options with letters of their own stand for. -/
def ofLetter? (letter : Char) : Option DumpForm :=
  match letter with
  | 'a' => some ⟨.named, 1, false⟩
  | 'b' => some ⟨.octal, 1, false⟩
  | 'c' => some ⟨.char, 1, false⟩
  | 'd' => some ⟨.unsigned, 2, false⟩
  | 'i' => some ⟨.signed, 4, false⟩
  | 'l' => some ⟨.signed, 8, false⟩
  | 'o' => some ⟨.octal, 2, false⟩
  | 's' => some ⟨.signed, 2, false⟩
  | 'x' => some ⟨.hexadecimal, 2, false⟩
  | _ => none

end DumpForm

/-- Bytes in groups. The last one is filled up with zeros. -/
def groupsOf (size : Nat) : Nat → List Nat → List (List Nat)
  | 0, _ | _, [] => []
  | n + 1, bytes =>
    let group := bytes.take size
    (group ++ List.replicate (size - group.length) 0) :: groupsOf size n (bytes.drop size)

/-- One line of bytes in one form. Groups are spread so that those of all forms stand below each other. -/
def dumpLine (forms : List DumpForm) (lineWidth : Nat) (f : DumpForm) (bytes : List Nat) : Octets :=
  let perLine (f : DumpForm) : Nat := (lineWidth / f.size) * (f.width + 1)
  let most := (forms.map perLine).foldl max 0
  let count := lineWidth / max 1 f.size
  let groups := groupsOf f.size (bytes.length + 1) bytes
  let field (k : Nat) : Nat := (most * (k + 1)) / max 1 count - (most * k) / max 1 count
  let body := String.join (groups.mapIdx fun k group =>
    let text := f.textOf group
    String.ofList (List.replicate (field k - text.length) ' ') ++ text)
  if f.showsText then
    let shown := bytes.map fun b => let c := Char.ofNat b; if isPrintable c then c else '.'
    body ++ String.ofList (List.replicate (most - body.length) ' ') ++ "  >" ++ String.ofList shown ++ "<"
  else body

/-- Prints what files hold as numbers. -/
def od : Work := fun words =>
  withGiven 1 (forms "abcdfilosxA:j:N:S:t:vw::" [('A', "address-radix"), ('j', "skip-bytes"), ('N', "read-bytes"),
    ('t', "format"), ('v', "output-duplicates"), ('w', "width"), ('S', "strings")]) words fun g => do
      let asked := g.options.filterMap fun (letter, text) =>
        if letter = 't' then some (DumpForm.read? (text.length + 1) text.toList, text)
        else (DumpForm.ofLetter? letter).map fun f => (some [f], "")
      match asked.find? fun a => a.1.isNone with
      | some (_, text) =>
        let letter := text.toList.take 1
        if letter.any (· ∈ ['d', 'u', 'o', 'x']) then
          warn ("invalid type string " ++ quoted text ++ ";\nthis system doesn't provide a " ++
            String.ofList ((text.toList.drop 1).takeWhile Char.isDigit) ++ "-byte integral type")
        else warn ("invalid character " ++ quoted (String.ofList letter) ++ " in type string " ++ quoted text)
        pure 1
      | none =>
        let found := asked.flatMap fun a => a.1.getD []
        let dumps : List DumpForm := if found.isEmpty then [⟨.octal, 2, false⟩] else found
        let lineWidth := match g.argument? 'w' with
          | none => 16
          | some "" => 32
          | some text => text.toNat?.getD 16
        let lineWidth := max 1 lineWidth
        let radix := (g.argument? 'A').getD "o"
        let address (n : Nat) : Octets := match radix with
          | "n" => ""
          | "d" => DumpForm.inBase 10 7 n
          | "x" => DumpForm.inBase 16 6 n
          | _ => DumpForm.inBase 8 7 n
        let margin := (address 0).length
        let readOne (state : List Char × Nat) (path : Octets) : ShellM (List Char × Nat) := do
          match ← readInput path with
          | some text => pure (state.1 ++ text.toList, state.2)
          | none => pure (state.1, 1)
        let (chars, status) ← (inputsOf g.operands).foldlM readOne ([], 0)
        let skipped := ((g.argument? 'j').bind sizeOf?).getD 0
        let chars := chars.drop skipped
        let chars := match (g.argument? 'N').bind sizeOf? with
          | some n => chars.take n
          | none => chars
        if status ≠ 0 && chars.isEmpty then pure status
        else
          let rec lines : Nat → Nat → List Nat → Option (List Nat) → Bool → List Octets
            | 0, _, _, _, _ => []
            | n + 1, place, bytes, before?, isStarred =>
              if bytes.isEmpty then if radix = "n" then [] else [address place ++ "\n"]
              else
                let line := bytes.take lineWidth
                let rest := bytes.drop lineWidth
                if before? = some line && !g.has 'v' && line.length = lineWidth then
                  (if isStarred then [] else ["*\n"]) ++ lines n (place + line.length) rest before? true
                else
                  let told := dumps.mapIdx fun k f =>
                    (if k = 0 then address place else String.ofList (List.replicate margin ' ')) ++
                      dumpLine dumps lineWidth f line ++ "\n"
                  told ++ lines n (place + line.length) rest (some line) false
          let text := String.join (lines (chars.length + 2) skipped (chars.map Char.toNat) none false)
          pure (max status (← print text))

/-- A way to write bytes with few signs: each sign stands for some bits, and a group of signs for whole bytes. -/
structure Encoding where
  signs : List Char
  bits : Nat
  /-- How many signs a group has, and how many bytes. -/
  groupSigns : Nat
  groupBytes : Nat

namespace Encoding

def base64 : Encoding :=
  ⟨"ABCDEFGHIJKLMNOPQRSTUVWXYZabcdefghijklmnopqrstuvwxyz0123456789+/".toList, 6, 4, 3⟩

def base32 : Encoding :=
  ⟨"ABCDEFGHIJKLMNOPQRSTUVWXYZ234567".toList, 5, 8, 5⟩

/-- The signs for a number, the first ones of a group. -/
def signsOf (e : Encoding) (value count : Nat) : List Char :=
  (List.range count).map fun k =>
    e.signs.getD (value / Nat.pow 2 (e.bits * (e.groupSigns - 1 - k)) % Nat.pow 2 e.bits) '='

/-- The signs for one group of bytes, which may be too short. -/
def encodeGroup (e : Encoding) (bytes : List Nat) : List Char :=
  let value := (bytes ++ List.replicate (e.groupBytes - bytes.length) 0).foldl (fun v b => v * 256 + b) 0
  let count := (bytes.length * 8 + e.bits - 1) / e.bits
  e.signsOf value count ++ List.replicate (e.groupSigns - count) '='

/-- The signs for bytes, of which there are at most `n` groups. -/
def encode (e : Encoding) : Nat → List Nat → List Char
  | 0, _ | _, [] => []
  | n + 1, bytes => e.encodeGroup (bytes.take e.groupBytes) ++ encode e n (bytes.drop e.groupBytes)

/-- The bytes of one group of signs, and whether it is in order. -/
def decodeGroup (e : Encoding) (group : List Char) : List Nat × Bool :=
  let signs := group.takeWhile e.signs.contains
  let values := signs.filterMap e.signs.idxOf?
  let value := (values ++ List.replicate (e.groupSigns - values.length) 0).foldl (fun v k => v * Nat.pow 2 e.bits + k) 0
  let count := values.length * e.bits / 8
  let bytes := (List.range count).map fun k => value / Nat.pow 256 (e.groupBytes - 1 - k) % 256
  let isWhole := group.length = e.groupSigns && values.length = signs.length &&
    (group.drop signs.length).all (· = '=') && (values.length * e.bits - 8 * count < e.bits) && count > 0
  (bytes, isWhole)

/-- The bytes that signs stand for, up to the first group that is out of order, and whether there is none. -/
def decode (e : Encoding) : Nat → List Char → List Nat × Bool
  | 0, _ => ([], true)
  | n + 1, signs =>
    if signs.isEmpty then ([], true)
    else
      let (bytes, isWhole) := e.decodeGroup (signs.take e.groupSigns)
      if !isWhole then (bytes, false)
      else
        let (more, isWhole) := decode e n (signs.drop e.groupSigns)
        (bytes ++ more, isWhole)

end Encoding

/-- A text in lines of a width. Zero stands for no lines at all. -/
def wrapped (width : Nat) : Nat → List Char → List Char
  | 0, cs => cs
  | n + 1, cs =>
    if width = 0 || cs.isEmpty then cs
    else cs.take width ++ '\n' :: wrapped width n (cs.drop width)

/-- Writes what a file holds with few signs, or back. -/
def encoded (e : Encoding) : Work := fun words =>
  withGiven 1 (forms "diw:" [('d', "decode"), ('i', "ignore-garbage"), ('w', "wrap")]) words fun g => do
    let width? := match g.argument? 'w' with
      | none => some 76
      | some text => text.toNat?
    match width?, g.operands with
    | none, _ =>
      warn ("invalid wrap size: " ++ quoted ((g.argument? 'w').getD ""))
      pure 1
    | _, _ :: extra :: _ => misuse ("extra operand " ++ quoted extra) 1
    | some width, operands =>
      match ← readInputAs (fun _ => "read error") (operands.headD "-") with
      | none => pure 1
      | some text =>
        let cs := text.toList
        if g.has 'd' then
          let isSign (c : Char) : Bool := e.signs.contains c || c = '='
          let signs := if g.has 'i' then cs.filter isSign else cs.filter (· ≠ '\n')
          let (bytes, isWhole) := e.decode (signs.length + 1) signs
          let status ← print (String.ofList (bytes.map Char.ofNat))
          if isWhole then pure status
          else
            warn "invalid input"
            pure 1
        else
          let signs := e.encode (cs.length + 1) (cs.map Char.toNat)
          print (String.ofList (wrapped width (signs.length + 1) signs))

end ReleaseMatrix.Shell.Utility
