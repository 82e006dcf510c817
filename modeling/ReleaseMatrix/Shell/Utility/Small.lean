import ReleaseMatrix.Program
import ReleaseMatrix.Shell.Utility.Transfer
import ReleaseMatrix.Shell.Printing
import ReleaseMatrix.Shell.Test
import ReleaseMatrix.Shell.Utility.Text

namespace ReleaseMatrix.Shell.Utility

/-- A name without an ending, unless it is all of it. -/
def dropEnding (ending name : Octets) : Octets :=
  if ending.toList.isSuffixOf name.toList && ending.length < name.length then
    String.ofList (name.toList.take (name.length - ending.length))
  else name

def basename : Work := fun words =>
  match readGiven (forms "as:z" [('a', "multiple"), ('s', "suffix"), ('z', "zero")]) true (words.length + 1) words with
  | .error message => misuse message 1
  | .ok g =>
    let show' (ending : Octets) (paths : List Octets) : ShellM Nat :=
      print (String.join (paths.map fun path => dropEnding ending (baseName path) ++ "\n"))
    match g.operands with
    | [] => misuse "missing operand" 1
    | paths =>
      if g.has 'a' || g.has 's' then show' ((g.argument? 's').getD "") paths
      else match paths with
        | [path] => show' "" [path]
        | [path, ending] => show' ending [path]
        | paths => misuse ("extra operand " ++ quoted (paths[2]?.getD "")) 1

/-- The path of the directory of what a path names. -/
def directoryName (path : Octets) : Octets :=
  let dropSlashes (cs : List Char) : List Char := cs.dropWhile (· = '/')
  let before := (dropSlashes path.toList.reverse).dropWhile (· ≠ '/')
  let kept := dropSlashes before
  if kept.isEmpty then if path.toList.head? = some '/' then "/" else "."
  else String.ofList kept.reverse

def dirname : Work := fun words =>
  withGiven 1 (forms "z" [('z', "zero")]) words fun g => do
    if g.operands.isEmpty then misuse "missing operand" 1
    else print (String.join (g.operands.map fun path => directoryName path ++ "\n"))

/-- Whether a text is a time to wait for. -/
def isInterval (text : Octets) : Bool :=
  match Decimal.read? text.toList with
  | some (.finite isNegative _, rest) => !isNegative && String.ofList rest ∈ ["", "s", "m", "h", "d"]
  | some (.infinite isNegative, rest) => !isNegative && rest.isEmpty
  | _ => false

/-- Waits, which takes no time here. -/
def sleep : Work := fun words =>
  withGiven 1 (forms "" []) words fun g => do
    match g.operands, g.operands.find? (!isInterval ·) with
    | [], _ => misuse "missing operand" 1
    | _, some text => misuse ("invalid time interval " ++ quoted text) 1
    | _, none => pure 0

/-- The numbers from one to another, as texts with some digits after the point. -/
def numbersBetween (digits : Nat) (first step last : Int) : Nat → List Octets
  | 0 => []
  | n + 1 =>
    if (step > 0 && first > last) || (step < 0 && first < last) then []
    else
      let sign := if first < 0 then "-" else ""
      let f : Fraction := ⟨first.natAbs, Fraction.powerOfTen digits⟩
      (sign ++ String.ofList (Decimal.fixed digits false f)) ::
        numbersBetween digits (first + step) step last n

/-- A number in units of the given number of digits after the point. -/
def scaled? (digits : Nat) (text : Octets) : Option Int :=
  match Decimal.read? text.toList with
  | some (.finite isNegative f, []) =>
    let n : Int := (f.scale digits).round
    some (if isNegative then -n else n)
  | _ => none

def seq : Work := fun words =>
  let isNumber (word : Octets) : Bool := (scaled? 0 word).isSome
  let (options, numbers) := words.partition fun word => word.toList.head? = some '-' && !isNumber word
  let (options, numbers) := match options, words with
    | ["-s"], "-s" :: separator :: numbers => (["-s" ++ separator], numbers)
    | options, _ => (options, numbers)
  withGiven 1 (forms "ws:f:" [('w', "equal-width"), ('s', "separator")]) options fun g => do
    match numbers.find? (!isNumber ·), numbers with
    | _, [] => misuse "missing operand" 1
    | some text, _ => misuse ("invalid floating point argument: " ++ quoted text) 1
    | none, numbers =>
      if numbers.length > 3 then misuse ("extra operand " ++ quoted (numbers[3]?.getD "")) 1
      else
        let digitsIn (text : Octets) : Nat := (text.toList.dropWhile (· ≠ '.')).length - 1
        let digits := (numbers.dropLast.map digitsIn).foldl max 0
        let value (k : Nat) : Int := (numbers[k]?.bind (scaled? digits)).getD 1
        let one : Int := Fraction.powerOfTen digits
        let (first, step, last) := match numbers.length with
          | 1 => (one, one, value 0)
          | 2 => (value 0, one, value 1)
          | _ => (value 0, value 1, value 2)
        if step = 0 then misuse ("invalid Zero increment value: " ++ quoted (numbers[1]?.getD "")) 1
        else
          let count := ((last - first) / step).toNat + 1
          let texts := numbersBetween digits first step last count
          let width := (texts.map String.length).foldl max 0
          let widen (text : Octets) : Octets :=
            if g.has 'w' then
              let (sign, body) := if text.toList.head? = some '-' then ("-", text.toList.tail) else ("", text.toList)
              sign ++ String.ofList (List.replicate (width - text.length) '0' ++ body)
            else text
          let separator := (g.argument? 's').getD "\n"
          if texts.isEmpty then pure 0 else print (separator.intercalate (texts.map widen) ++ "\n")

/-- Prints words. Options are only those words at the start that hold nothing but their letters. -/
def echo (words : List Octets) : ShellM Nat :=
  let isOption (word : Octets) : Bool :=
    word.length > 1 && word.toList.head? = some '-' && word.toList.tail.all fun c => c ∈ ['n', 'e', 'E']
  let options := words.takeWhile isOption
  let letters := options.flatMap fun word => word.toList.tail
  let ending := if letters.contains 'n' then [] else ['\n']
  let words := words.drop options.length
  let carriesOut := (letters.filter fun c => c = 'e' || c = 'E').getLast? = some 'e'
  if carriesOut then print (String.ofList (joinCarriedOut ending words))
  else print (" ".intercalate words ++ String.ofList ending)

def printf : Work := fun words => do
  match words with
  | [] => misuse "missing operand" 1
  | format :: words =>
    let printout := formatText false format words
    printout.complaints.forM fun (_, complaint) => warn complaint
    let status ← print printout.output
    pure (if printout.status = 0 then status else 1)

def test (isBracket : Bool) (words : List Octets) : ShellM Nat := do
  if isBracket && words.getLast? ≠ some "]" then
    warn "missing ']'"
    pure 2
  else match TestM.evaluate (← get).workspace (if isBracket then words.dropLast else words) with
    | .ok result => pure (if result then 0 else 1)
    | .error message =>
      warn message
      pure 2

/-- Tells where programs are. -/
def which (words : List Octets) : ShellM Nat := do
  let s ← get
  let directories := Program.directoriesOf none (Octets.toText ((s.self.valueOf? "PATH").getD ""))
  forEach (words.filter fun word => word.toList.head? ≠ some '-') fun name => do
    let p? := if name.contains '/' then
        if Program.isRunnable s.workspace (Octets.toPath name) then some (Octets.toPath name) else none
      else Program.search s.workspace directories (Octets.toText name)
    match p? with
    | some p => print (Octets.ofText p.text ++ "\n")
    | none => pure 1

/-- Prints the same line over and over. Who reads it does not need more than some. -/
def yes (words : List Octets) : ShellM Nat :=
  let line := (if words.isEmpty then "y" else " ".intercalate words) ++ "\n"
  print (String.join (List.replicate 4096 line))

def whoIs : Work := fun words =>
  withGiven 1 (forms "ugGnr" [('u', "user"), ('g', "group"), ('n', "name")]) words fun g =>
    if g.has 'n' then print "root\n"
    else if g.options.isEmpty then print "uid=0(root) gid=0(root) groups=0(root)\n"
    else print "0\n"

def uname : Work := fun words =>
  withGiven 1 (forms "asnrvmpio" [('s', "kernel-name"), ('m', "machine")]) words fun g =>
    let parts := (if g.has 's' || g.options.isEmpty then ["Linux"] else []) ++ if g.has 'm' then ["x86_64"] else []
    print (" ".intercalate parts ++ "\n")

/-- Makes directories, or copies files, with the rights of programs unless others are asked for. -/
def install : Work := fun words =>
  withGiven 1 (forms "bcCdDg:m:o:pst:TvZ" [('d', "directory"), ('m', "mode"), ('t', "target-directory"),
    ('T', "no-target-directory"), ('v', "verbose")]) words fun g => do
    if g.has 'd' then
      if g.operands.isEmpty then misuse "missing file operand" 1
      else forEach g.operands fun path => do
        tryFiles ("cannot create directory " ++ quoted path) (FileM.makeDirectories (Octets.toPath path))
    else
      if g.has 'D' then
        match g.argument? 't', g.operands with
        | some directory, _ => let _ ← ShellM.onFiles (FileM.makeDirectories (Octets.toPath directory))
        | none, [_, dest] =>
          let _ ← ShellM.onFiles (FileM.makeDirectories (Octets.toPath (directoryName dest)))
        | none, _ => pure ()
      carryOutPlan (← plan g) fun source dest => do
        match ← look source with
        | .error fault =>
          warn ("cannot stat " ++ quoted source ++ ": " ++ fault.text)
          pure 1
        | .ok (_, .directory) =>
          warn ("omitting directory " ++ quoted source)
          pure 1
        | .ok (_, e) => do
          if (← lookAt dest).isOk then
            let _ ← ShellM.onFiles (FileM.removeFile (Octets.toPath dest))
          let mode := (g.argument? 'm').getD "755"
          let isRunnable := !mode.toList.all Char.isDigit || Text.numberOf 8 mode.toList &&& 73 ≠ 0
          let status ← tryFiles ("cannot create regular file " ++ quoted dest)
            (FileM.write (Octets.toPath dest) (e.content?.getD []))
          if status = 0 then
            let _ ← ShellM.onFiles (FileM.setExecutable (Octets.toPath dest) isRunnable)
          pure status

end ReleaseMatrix.Shell.Utility
