import ReleaseMatrix.Shell.Printing
import ReleaseMatrix.Shell.Utility.Basic
import ReleaseMatrix.Shell.Utility.Text

namespace ReleaseMatrix.Shell.Utility

/-- The letters of rights, as lists show them. -/
def rightLetters (e : Entry) : Octets :=
  let kind := match e with
    | .directory => "d"
    | .link _ => "l"
    | .void => "c"
    | .queue _ => "p"
    | _ => "-"
  kind ++ match e with
    | .link _ => "rwxrwxrwx"
    | .void => "rw-rw-rw-"
    | e => if e = .directory || e.isRunnable then "rwxr-xr-x" else "rw-r--r--"

/-- What a letter of a layout tells of a file. -/
def factOf (w : Workspace) (path : Octets) (l : Location) (e : Entry) (letter : Char) : Octets :=
  let content := e.content?.getD []
  let size := match e with
    | .directory => 4096
    | .link target => target.text.utf8ByteSize
    | _ => content.length
  let rights := match e with
    | .link _ => "777"
    | .void => "666"
    | e => if e = .directory || e.isRunnable then "755" else "644"
  match letter with
  | 'n' => path
  | 'N' => match e with
    | .link target => quoted path ++ " -> " ++ quoted (Octets.ofText target.text)
    | _ => quoted path
  | 's' => toString size
  | 'F' => match e with
    | .directory => "directory"
    | .link _ => "symbolic link"
    | .void => "character special file"
    | .queue _ => "fifo"
    | _ => if content.isEmpty then "regular empty file" else "regular file"
  | 'a' => rights
  | 'A' => rightLetters e
  | 'h' =>
    let subdirectories := (w.files.names l).filter fun name => w.files.get? (l ++ [name]) = some .directory
    toString (if e = .directory then subdirectories.length + 2 else (w.files.places l).length)
  | 'U' | 'G' => "root"
  | 'u' | 'g' => "0"
  | 'b' => toString ((size + 4095) / 4096 * 8)
  | 'B' => "512"
  | 'o' => "4096"
  | 't' | 'T' => "0"
  | 'y' | 'x' | 'z' => "2023-11-14 22:13:20.000000000 +0000"
  | 'Y' | 'X' | 'Z' => "1700000000"
  | 'w' => "-"
  | 'W' => "0"
  | 'm' => "/"
  | c => if c = 'd' || c = 'i' || c = 'D' then "1" else String.ofList ['?', c]

/-- Fills a layout with facts. -/
def factsIn (carriesOut : Bool) (fact : Char → Octets) : Nat → List Char → Octets
  | 0, _ | _, [] => ""
  | n + 1, '%' :: cs =>
    let flags := cs.takeWhile fun c => c = '-' || c = '0' || c = '#' || c = '+' || c = ' '
    let width := (cs.drop flags.length).takeWhile fun c => c.isDigit || c = '.'
    match cs.drop (flags.length + width.length) with
    | [] => "%"
    | '%' :: rest => "%" ++ factsIn carriesOut fact n rest
    | letter :: rest =>
      let text := fact letter
      let missing := Text.numberOf 10 (width.takeWhile Char.isDigit) - text.length
      let filling (c : Char) : Octets := String.ofList (List.replicate missing c)
      (if flags.contains '-' then text ++ filling ' '
        else (if flags.contains '0' then filling '0' else filling ' ') ++ text) ++ factsIn carriesOut fact n rest
  | n + 1, '\\' :: cs =>
    if carriesOut then
      let (c, rest) := readEscape cs
      String.singleton c ++ factsIn carriesOut fact n rest
    else "\\" ++ factsIn carriesOut fact n cs
  | n + 1, c :: cs => String.singleton c ++ factsIn carriesOut fact n cs

/-- Prints facts about files. -/
def stat : Work := fun words =>
  withGiven 1 (forms "c:fLt" [('c', "format"), ('L', "dereference"), ('f', "file-system"), ('t', "terse"),
    ('π', "printf=")]) words fun g => do
      if g.operands.isEmpty then misuse "missing operand" 1
      else forEach g.operands fun path => do
        match ← if g.has 'L' then look path else lookAt path with
        | .error fault =>
          warn ("cannot statx " ++ quoted path ++ ": " ++ fault.text)
          pure 1
        | .ok (l, e) =>
          let fact := factOf (← get).workspace path l e
          match g.argument? 'π', g.argument? 'c' with
          | some layout, _ => print (factsIn true fact (layout.length + 1) layout.toList)
          | none, some layout => print (factsIn false fact (layout.length + 1) layout.toList ++ "\n")
          | none, none =>
            let layout := "  File: %N\n  Size: %-10s\tBlocks: %-10b IO Block: %-6o %F\n" ++
              "Device: %d\tInode: %-11i Links: %h\n" ++
              "Access: (0%a/%A)  Uid: (%5u/%8U)   Gid: (%5g/%8G)\nAccess: %x\nModify: %y\nChange: %z\n Birth: %w\n"
            print (factsIn false fact (layout.length + 1) layout.toList)

/-- Prints variables, or the values of those that are named. -/
def printenv : Work := fun words =>
  match readGiven (forms "0" [('0', "null")]) true (words.length + 1) words with
  | .error message => misuse message 2
  | .ok g => do
    let ending := if g.has '0' then "\x00" else "\n"
    let exported := (← ShellM.self).exported
    if g.operands.isEmpty then
      print (String.join (exported.map fun (name, value) => name ++ "=" ++ value ++ ending))
    else forEach g.operands fun name => do
      match exported.find? (·.1 == name) with
      | some (_, value) => print (value ++ ending)
      | none => pure 1

/-- A program without operands. -/
def alone (status : Nat) (work : ShellM Nat) : Work := fun words =>
  withGiven status (forms "s" [('s', "silent")]) words fun g =>
    match g.operands with
    | [] => work
    | extra :: _ => misuse ("extra operand " ++ quoted extra) status

/-- Names the terminal, which there is none. -/
def tty : Work := fun words =>
  withGiven 2 (forms "s" [('s', "silent"), ('σ', "quiet")]) words fun g =>
    match g.operands with
    | extra :: _ => misuse ("extra operand " ++ quoted extra) 2
    | [] => do
      if g.options.isEmpty then
        let _ ← print "not a tty\n"
      pure 1

def logname : Work :=
  alone 1 do
    warn "no login name"
    pure 1

def stty : Work := fun _ => do
  warn "'standard input': Inappropriate ioctl for device"
  pure 1

/-- Names the groups of users, of which only one is known. -/
def groups : Work := fun words =>
  withGiven 1 (forms "" []) words fun g =>
    if g.operands.isEmpty then print "root\n"
    else forEach g.operands fun user => do
      if user = "root" then print "root : root\n"
      else
        warn (quoted user ++ ": no such user")
        pure 1

/-- The least factor of a number that is no less than a candidate. -/
def leastFactor (n : Nat) : Nat → Nat → Nat
  | 0, _ => n
  | fuel + 1, k => if k * k > n then n else if n % k = 0 then k else leastFactor n fuel (k + if k = 2 then 1 else 2)

/-- The prime factors of a number, the least one first. -/
def factorsOf : Nat → Nat → List Nat
  | 0, _ => []
  | fuel + 1, n =>
    if n < 2 then []
    else
      let k := leastFactor n (min n 2000000) 2
      k :: factorsOf fuel (n / k)

/-- Prints the prime factors of numbers. -/
def factor : Work := fun words =>
  withGiven 1 (forms "h" [('h', "exponents")]) words fun g => do
    let inputs ← if g.operands.isEmpty then do
        match ← ShellM.readAll 0 with
        | .ok text => pure ((Text.splitChars '\n' (text.toList.map fun c => if isNumberSpace c then '\n' else c)).map
            String.ofList |>.filter (· ≠ ""))
        | .error _ => pure []
      else pure g.operands
    let told (status : Nat × Octets) (text : Octets) : ShellM (Nat × Octets) := do
      let digits := match text.toList.dropWhile isNumberSpace with
        | '+' :: cs => cs
        | cs => cs
      if digits.isEmpty || !digits.all Char.isDigit then
        warn (quoted text ++ " is not a valid positive integer")
        pure (1, status.2)
      else
        let n := Text.numberOf 10 digits
        pure (status.1,
          status.2 ++ toString n ++ ":" ++ String.join ((factorsOf 64 n).map fun k => " " ++ toString k) ++ "\n")
    let (status, lines) ← inputs.foldlM told (0, "")
    pure (max status (← print lines))

/-- Checks whether names can be used everywhere. -/
def pathchk : Work := fun words =>
  withGiven 1 (forms "pP" [('π', "portability")]) words fun g =>
    if g.operands.isEmpty then misuse "missing operand" 1
    else forEach g.operands fun path => do
      let isPortable (c : Char) : Bool := c.isAlphanum || c ∈ ['.', '_', '-', '/']
      let isStrict := g.has 'p' || g.has 'π'
      if path.isEmpty then
        warn (if isStrict || g.has 'P' then "empty file name" else "'': No such file or directory")
        pure 1
      else if let some c := if isStrict then path.toList.find? (!isPortable ·) else none then
        warn ("non-portable character " ++ quoted (String.singleton c) ++ " in file name " ++ quoted path)
        pure 1
      else pure 0

/-- The names that come after others: pairs tell which of two comes first. -/
structure Precedence where
  names : List Octets
  pairs : List (Octets × Octets)

/-- Puts names in an order in which nothing precedes what it must follow. Names of which nothing is left to wait
for come first, in the order of the alphabet at the start. -/
def arrange (o : Precedence) : Nat → List Octets → List Octets → List (Octets × Octets) → List Octets × List Octets
  | 0, _, done, _ => (done.reverse, [])
  | n + 1, ready, done, pairs =>
    match ready with
    | [] => (done.reverse, o.names.filter fun name => !done.contains name)
    | name :: ready =>
      let later := (pairs.filter (·.1 = name)).map (·.2)
      let pairs := pairs.filter (·.1 ≠ name)
      let free := (later.reverse.eraseDups.filter fun other => !pairs.any (·.2 = other))
      arrange o n (ready ++ free) (name :: done) pairs

/-- Prints names so that each stands before those that must follow it. -/
def tsort : Work := fun words =>
  withGiven 1 (forms "" []) words fun g => do
    let path := g.operands.headD "-"
    match g.operands with
    | _ :: extra :: _ => misuse ("extra operand " ++ quoted extra) 1
    | _ =>
      match ← readInput path with
      | none => pure 1
      | some text =>
        let names := (Text.splitChars '\n' (text.toList.map fun c => if isNumberSpace c then '\n' else c)).map
          String.ofList |>.filter (· ≠ "")
        if names.length % 2 = 1 then
          warn (path ++ ": input contains an odd number of tokens")
          pure 1
        else
          let rec pairUp : List Octets → List (Octets × Octets)
            | a :: b :: rest => if a = b then pairUp rest else (a, b) :: pairUp rest
            | _ => []
          let pairs := pairUp names
          let all := (names.eraseDups).mergeSort fun a b => a ≤ b
          let first := all.filter fun name => !pairs.any (·.2 = name)
          let (done, left) := arrange ⟨all, pairs⟩ (all.length + 1) first [] pairs
          let status ← print (String.join (done.map (· ++ "\n")))
          if left.isEmpty then pure status
          else
            warn (path ++ ": input contains a loop:")
            left.forM warn
            let _ ← print (String.join (left.map (· ++ "\n")))
            pure 1

/-- Prints the lines of a file, words or numbers in any order: here in the order in which they come. -/
def shuf : Work := fun words =>
  withGiven 1 (forms "ei:n:o:rz" [('e', "echo"), ('i', "input-range"), ('n', "head-count"), ('o', "output"),
    ('r', "repeat"), ('z', "zero-terminated"), ('ρ', "random-source=")]) words fun g => do
      let ending := if g.has 'z' then '\x00' else '\n'
      let range? := (g.argument? 'i').map fun text =>
        match Text.splitChars '-' text.toList with
        | [a, b] =>
          if !a.isEmpty && !b.isEmpty && a.all Char.isDigit && b.all Char.isDigit &&
              Text.numberOf 10 a ≤ Text.numberOf 10 b + 1 then some (Text.numberOf 10 a, Text.numberOf 10 b)
          else none
        | _ => none
      match range?, g.has 'e', g.operands with
      | some none, _, _ =>
        warn ("invalid input range: " ++ quoted ((g.argument? 'i').getD ""))
        pure 1
      | some (some _), _, extra :: _ => misuse ("extra operand " ++ quoted extra) 1
      | none, false, _ :: extra :: _ => misuse ("extra operand " ++ quoted extra) 1
      | range?, isEcho, operands =>
        let lines? ← match range? with
          | some (some (a, b)) => pure (some ((List.range (b + 1 - a)).map fun k => toString (a + k)))
          | _ =>
            if isEcho then pure (some operands)
            else pure ((← readInput (operands.headD "-")).map (recordsOf ending))
        match lines? with
        | none => pure 1
        | some lines =>
          let lines := match (g.argument? 'n').bind String.toNat? with
            | some n => lines.take n
            | none => lines
          let text := String.join (lines.map (· ++ String.singleton ending))
          match g.argument? 'o' with
          | none => print text
          | some path => tryFiles path (FileM.write (Octets.toPath path) (Octets.toBytes text))

end ReleaseMatrix.Shell.Utility
