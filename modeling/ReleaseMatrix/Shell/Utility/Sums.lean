import ReleaseMatrix.Digest
import ReleaseMatrix.Shell.Utility.Text

namespace ReleaseMatrix.Shell.Utility

/-- A way to take the digest of a text. -/
structure DigestKind where
  /-- The program that is named for it. -/
  program : Octets
  /-- The name that stands before digests. -/
  name : Octets
  digest : Bytes → Bytes
  size : Nat

namespace DigestKind

def all : List DigestKind :=
  [⟨"md5sum", "MD5", Md5.digest, 16⟩, ⟨"sha1sum", "SHA1", Sha1.digest, 20⟩,
    ⟨"sha224sum", "SHA224", Sha256.shortDigest, 28⟩, ⟨"sha256sum", "SHA256", Sha256.digest, 32⟩,
    ⟨"sha384sum", "SHA384", Sha512.shortDigest, 48⟩, ⟨"sha512sum", "SHA512", Sha512.digest, 64⟩]

def textOf (k : DigestKind) (text : Octets) : Octets :=
  hex (k.digest (Octets.toBytes text))

/-- A name with signs in place of the characters that would end its line, and whether it has such characters. -/
def escapeName (name : Octets) : Octets × Bool :=
  let escaped := name.toList.flatMap fun c =>
    match c with
    | '\\' => ['\\', '\\']
    | '\n' => ['\\', 'n']
    | '\r' => ['\\', 'r']
    | c => [c]
  (String.ofList escaped, escaped.length ≠ name.length)

/-- The name that an escaped one stands for. -/
def unescapeName : List Char → List Char
  | '\\' :: 'n' :: cs => '\n' :: unescapeName cs
  | '\\' :: 'r' :: cs => '\r' :: unescapeName cs
  | '\\' :: '\\' :: cs => '\\' :: unescapeName cs
  | c :: cs => c :: unescapeName cs
  | [] => []

/-- A line that tells a digest of a file. -/
def line (k : DigestKind) (isTagged isBinary hasZero : Bool) (path digest : Octets) : Octets :=
  let (name, isEscaped) := if hasZero then (path, false) else escapeName path
  let lead := if isEscaped then "\\" else ""
  let ending := if hasZero then "\x00" else "\n"
  if isTagged then lead ++ k.name ++ " (" ++ name ++ ") = " ++ digest ++ ending
  else lead ++ digest ++ (if isBinary then " *" else "  ") ++ name ++ ending

/-- The digest and the name that a line tells. -/
def ofLine? (k : DigestKind) (line : Octets) : Option (Octets × Octets) :=
  let trimmed := line.toList.dropWhile fun c => c = ' ' || c = '\t'
  let (isEscaped, cs) := match trimmed with
    | '\\' :: cs => (true, cs)
    | cs => (false, cs)
  let isHex (c : Char) : Bool := isOfKind "xdigit" c
  let named (name : List Char) : Octets := String.ofList (if isEscaped then unescapeName name else name)
  let lead := (k.name ++ " (").toList
  if lead.isPrefixOf cs then
    let rest := cs.drop lead.length
    let digest := rest.drop (rest.length - 2 * k.size)
    let middle := (rest.take (rest.length - 2 * k.size)).reverse
    match middle with
    | ' ' :: '=' :: ' ' :: ')' :: name =>
      if digest.length = 2 * k.size && digest.all isHex then some (String.ofList digest, named name.reverse) else none
    | _ => none
  else
    let digest := cs.takeWhile isHex
    if digest.length ≠ 2 * k.size then none
    else match cs.drop digest.length with
      | ' ' :: ' ' :: name | ' ' :: '*' :: name | ' ' :: name =>
        if name.isEmpty then none else some (String.ofList digest, named name)
      | _ => none

end DigestKind

/-- What came out when files were compared with their digests. -/
structure Checked where
  matched : Nat
  mismatched : Nat
  unreadable : Nat
  misread : Nat

/-- A count with a word for one or for more of something. -/
def countOf (n : Nat) (one more : Octets) : Octets :=
  toString n ++ (if n = 1 then one else more)

/-- Compares files with the digests that are told in a file. -/
def checkDigests (k : DigestKind) (g : Given) (path : Octets) : ShellM Nat := do
  let shown := if path = "-" then "standard input" else path
  match ← readInputAs (fun path => quotedIfOdd path ++ ": read error") path with
  | none => pure 1
  | some text =>
    let lines := recordsOf '\n' text
    let isSilent := g.has 'σ'
    let checkLine (state : Checked × Nat) (line : Octets) : ShellM (Checked × Nat) := do
      let (c, number) := state
      if line.toList.head? = some '#' then pure (c, number + 1)
      else match k.ofLine? line with
        | none =>
          if g.has 'w' then
            warn (shown ++ ": " ++ toString number ++ ": improperly formatted " ++ k.name ++ " checksum line")
          pure ({ c with misread := c.misread + 1 }, number + 1)
        | some (digest, name) =>
          let (told, isEscaped) := DigestKind.escapeName name
          let tell (result : Octets) : ShellM Unit := do
            if !isSilent then
              let _ ← print ((if isEscaped then "\\" else "") ++ told ++ ": " ++ result ++ "\n")
          if g.has 'ι' && name ≠ "-" && !(← look name).isOk then pure (c, number + 1)
          else match ← readInput name with
            | none =>
              tell "FAILED open or read"
              pure ({ c with unreadable := c.unreadable + 1 }, number + 1)
            | some text =>
              if k.textOf text = digest.toLower then
                if !g.has 'θ' then tell "OK"
                pure ({ c with matched := c.matched + 1 }, number + 1)
              else
                tell "FAILED"
                pure ({ c with mismatched := c.mismatched + 1 }, number + 1)
    let (c, _) ← lines.foldlM checkLine (⟨0, 0, 0, 0⟩, 1)
    if c.matched + c.mismatched + c.unreadable + c.misread = lines.length && c.misread = lines.length ||
        (c.matched + c.mismatched + c.unreadable = 0 && !g.has 'ι') then
      warn (quotedIfOdd shown ++ ": no properly formatted checksum lines found")
      pure 1
    else
      if !isSilent then
        if c.misread > 0 then
          warn ("WARNING: " ++ countOf c.misread " line is" " lines are" ++ " improperly formatted")
        if c.unreadable > 0 then
          warn ("WARNING: " ++ countOf c.unreadable " listed file" " listed files" ++ " could not be read")
        if c.mismatched > 0 then
          warn ("WARNING: " ++ countOf c.mismatched " computed checksum" " computed checksums" ++ " did NOT match")
        if g.has 'ι' && c.matched = 0 then warn (quotedIfOdd shown ++ ": no file was verified")
      let isBad := c.mismatched + c.unreadable > 0 || (g.has 'ξ' && c.misread > 0) || (g.has 'ι' && c.matched = 0)
      pure (if isBad then 1 else 0)

/-- Prints the digests of files, or compares files with digests. -/
def digests (k : DigestKind) : Work := fun words =>
  withGiven 1 (forms "bctwz" [('b', "binary"), ('c', "check"), ('t', "text"), ('w', "warn"), ('z', "zero"),
    ('γ', "tag"), ('θ', "quiet"), ('σ', "status"), ('ξ', "strict"), ('ι', "ignore-missing")]) words fun g => do
      let isCheck := g.has 'c'
      let onlyChecks : List (Char × Octets) :=
        [('ι', "ignore-missing"), ('σ', "status"), ('w', "warn"), ('θ', "quiet"), ('ξ', "strict")]
      if g.has 'γ' && isCheck then
        misuse "the --tag option is meaningless when verifying checksums" 1
      else if let some (_, name) := if isCheck then none else onlyChecks.find? fun o => g.has o.1 then
        misuse ("the --" ++ name ++ " option is meaningful only when verifying checksums") 1
      else forEach (inputsOf g.operands) fun path => do
        if isCheck then checkDigests k g path
        else match ← readInput path with
          | none => pure 1
          | some text => print (k.line (g.has 'γ') (g.has 'b') (g.has 'z') path (k.textOf text))

/-- Divides one bit out, in the polynomial of checksums of single files. -/
def crcStep (r : UInt32) : UInt32 :=
  if r &&& 0x80000000 ≠ 0 then (r <<< 1) ^^^ 0x04C11DB7 else r <<< 1

def crcFeed (r : UInt32) (b : UInt8) : UInt32 :=
  (List.range 8).foldl (fun r _ => crcStep r) (r ^^^ (b.toUInt32 <<< 24))

/-- The bytes of a length, least significant first, without zeros at the end. -/
def lengthBytes : Nat → Nat → Bytes
  | 0, _ => []
  | fuel + 1, n => if n = 0 then [] else UInt8.ofNat (n % 256) :: lengthBytes fuel (n / 256)

/-- Prints checksums of files, with their lengths. -/
def cksum : Work := fun words =>
  let kind? (g : Given) : Option DigestKind :=
    DigestKind.all.find? fun k => g.argument? 'a' = some k.name.toLower
  withGiven 1 (forms "a:l:cwz" [('a', "algorithm"), ('γ', "tag"), ('υ', "untagged")]) words fun g =>
    match kind? g with
    | some k =>
      forEach (inputsOf g.operands) fun path => do
        match ← readInput path with
        | none => pure 1
        | some text => print (k.line (!g.has 'υ') false (g.has 'z') path (k.textOf text))
    | none =>
      forEach (inputsOf g.operands) fun path => do
        match ← readInput path with
        | none => pure 1
        | some text =>
          let bytes := Octets.toBytes text
          let crc := ~~~((bytes ++ lengthBytes 16 bytes.length).foldl crcFeed 0)
          let name := if g.operands.isEmpty then "" else " " ++ path
          print (toString crc ++ " " ++ toString bytes.length ++ name ++ "\n")

/-- Prints short checksums of files, with their sizes in blocks. -/
def sum : Work := fun words =>
  withGiven 1 (forms "rs" [('s', "sysv")]) words fun g =>
    forEach (inputsOf g.operands) fun path => do
      match ← readInput path with
      | none => pure 1
      | some text =>
        let bytes := Octets.toBytes text
        let name := if g.operands.isEmpty then "" else " " ++ path
        if g.has 's' then
          let total := bytes.foldl (· + ·.toNat) 0
          let folded := total % 65536 + total % 4294967296 / 65536
          print (toString (folded % 65536 + folded / 65536) ++ " " ++ toString ((bytes.length + 511) / 512) ++
            name ++ "\n")
        else
          let turned := bytes.foldl (fun (s : Nat) b => ((s / 2 + s % 2 * 32768) + b.toNat) % 65536) 0
          let digits := toString turned
          print (String.ofList (List.replicate (5 - digits.length) '0') ++ digits ++ " " ++
            padded 5 ((bytes.length + 1023) / 1024) ++ name ++ "\n")

end ReleaseMatrix.Shell.Utility
