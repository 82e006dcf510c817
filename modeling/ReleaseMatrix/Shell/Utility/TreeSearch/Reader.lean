import ReleaseMatrix.Regex.Reader
import ReleaseMatrix.Shell.Value
import ReleaseMatrix.Shell.Utility.Sizes
import ReleaseMatrix.Shell.Utility.TreeSearch

namespace ReleaseMatrix.Shell.Utility.TreeSearch

/-- A word of a search: a step, or a sign between steps. -/
inductive SearchToken
  | step (s : SearchStep) (isAction : Bool)
  | sign (text : Octets)

/-- What is read of a search so far. -/
structure Reading where
  tokens : List SearchToken
  least : Nat
  most? : Option Nat
  isDepthFirst : Bool
  follows : Bool
  grammar : Regex.Grammar
  batches : List (List Octets × Bool)

/-- How a number is compared. -/
def compareCount (sign? : Option Char) (wanted n : Nat) : Bool :=
  match sign? with
  | some '+' => n > wanted
  | some _ => n < wanted
  | none => n = wanted

/-- A number with a sign before it, and what follows. -/
def readCount (text : Octets) : Option Char × List Char × List Char :=
  let (sign?, cs) := match text.toList with
    | '+' :: cs => (some '+', cs)
    | '-' :: cs => (some '-', cs)
    | cs => (none, cs)
  let digits := cs.takeWhile Char.isDigit
  (sign?, digits, cs.drop digits.length)

/-- Whether a name matches a pattern. -/
def matchesName (foldsCase : Bool) (pattern : Octets) (name : Octets) : Bool :=
  let fold (text : Octets) : Octets := if foldsCase then text.toLower else text
  matchesAll (patternOf ((fold pattern).toList.map fun c => ⟨c, false⟩)) (fold name).toList

/-- The last name of a path without slashes at the end. -/
def nameOf (v : Visited) : Octets :=
  baseName v.path

/-- A test of a size. -/
def sizeTest (text : Octets) : Except Octets (Workspace → Visited → Bool) := do
  let (sign?, digits, rest) := readCount text
  let unit? : Option Nat := match rest with
    | [] | ['b'] => some 512
    | ['c'] => some 1
    | ['w'] => some 2
    | ['k'] => some 1024
    | ['M'] => some 1048576
    | ['G'] => some 1073741824
    | _ => none
  match unit? with
  | none => throw ("invalid -size type \x60" ++ String.ofList (rest.reverse.take 1) ++ "'")
  | some unit =>
    if digits.isEmpty then throw ("Invalid argument \x60" ++ text ++ "' to -size")
    else pure fun _ v => compareCount sign? (Text.numberOf 10 digits) ((sizeOf v.entry + unit - 1) / unit)

/-- A test of rights. -/
def rightsTest (text : Octets) : Except Octets (Workspace → Visited → Bool) := do
  let (kind, mode) := match text.toList with
    | '-' :: cs => ('-', String.ofList cs)
    | '/' :: cs => ('/', String.ofList cs)
    | _ => ('=', text)
  match changeRights mode false 0 0 with
  | none => throw ("invalid mode " ++ quoted text)
  | some wanted =>
    pure fun w v =>
      let rights := Text.numberOf 8 (factOf w v.path v.location v.entry 'a').toList
      match kind with
      | '-' => rights &&& wanted = wanted
      | '/' => wanted = 0 || rights &&& wanted ≠ 0
      | _ => rights = wanted

/-- A test of the kinds of entries. -/
def kindTest (text : Octets) : Except Octets (Workspace → Visited → Bool) := do
  if text.isEmpty then throw "Arguments to -type should contain at least one letter"
  let letters := Text.splitChars ',' text.toList
  let isKind (c : Char) : Bool := ['f', 'd', 'l', 'b', 'c', 'p', 's'].contains c
  let check (piece : List Char) : Except Octets Unit :=
    match piece with
    | [] => throw "Last file type in list argument to -type is missing, i.e., list is ending on: ','"
    | c :: more =>
      if !isKind c then throw ("Unknown argument to -type: " ++ String.singleton c)
      else if more.isEmpty then pure ()
      else throw "Must separate multiple arguments to -type using: ','"
  letters.forM check
  pure fun _ v => letters.any fun piece => String.ofList piece = kindOf v.entry

/-- A test of a whole path by a regular expression. -/
def pathTest (grammar : Regex.Grammar) (foldsCase : Bool) (text : Octets) :
    Except Octets (Workspace → Visited → Bool) :=
  match Regex.read grammar text.toList with
  | .error fault => throw ("failed to compile regular expression " ++ quoted text ++ ": " ++ fault.text)
  | .ok regex => pure fun _ v =>
    let subject := Regex.Subject.ofLine regex foldsCase v.path.toList
    (Regex.matchAt subject regex 0).any fun m => m.stop = v.path.length

/-- The words to run up to the sign that ends them, and whether they are run once. -/
def readCommand (option : Octets) (words : List Octets) : Except Octets (List Octets × Bool × List Octets) := do
  let missing := "missing argument to \x60" ++ option ++ "'"
  let rec go : List Octets → List Octets → Except Octets (List Octets × Bool × List Octets)
    | _, [] => throw missing
    | command, ";" :: rest => pure (command.reverse, false, rest)
    | "\x7b\x7d" :: command, "+" :: rest => pure (command.reverse, true, rest)
    | command, word :: rest => go (word :: command) rest
  let (command, isOnce, rest) ← go [] words
  if command.isEmpty then throw ("invalid argument \x60" ++ (words.headD "") ++ "' to \x60" ++ option ++ "'")
  else pure (command, isOnce, rest)

/-- Whether entries are as new as a number of units of time says, where all of them are made just now. -/
def ageTest (option text : Octets) : Except Octets (Workspace → Visited → Bool) := do
  let (sign?, digits, rest) := readCount text
  if digits.isEmpty || !rest.isEmpty then throw ("invalid argument \x60" ++ text ++ "' to \x60" ++ option ++ "'")
  else pure fun _ _ => compareCount sign? (Text.numberOf 10 digits) 0

/-- Whether an entry is a file or a directory with nothing in it. -/
def isEmptyEntry (w : Workspace) (v : Visited) : Bool :=
  match v.entry with
  | .directory => (w.files.names v.location).isEmpty
  | e => e.isFile && (e.content?.getD []).isEmpty

/-- Whether an entry may be run or, as a directory, be entered. -/
def isUsable (w : Workspace) (v : Visited) : Bool :=
  match w.find (Octets.toPath v.path) with
  | .ok (_, e) => e = .directory || e.isRunnable
  | .error _ => false

/-- Whether an entry is a link whose target matches a pattern. -/
def leadsTo (pattern : Octets) (v : Visited) : Bool :=
  match v.entry with
  | .link target => matchesName false pattern (Octets.ofText target.text)
  | _ => false

/-- A test of what a path leads to, which must be something. -/
def placeTest (w : Workspace) (path : Octets) (holds : Location → Workspace → Visited → Bool) :
    Except Octets (Workspace → Visited → Bool) :=
  match w.find (Octets.toPath path) with
  | .ok (l, _) => pure (holds l)
  | .error fault => throw (quoted path ++ ": " ++ fault.text)

/-- The grammar of patterns that a name stands for. -/
def grammarOf (name : Octets) : Regex.Grammar :=
  if ["posix-extended", "posix-egrep", "egrep", "awk", "posix-awk", "gnu-awk"].contains name then .extended
  else .basic

/-- Reads one word of a search and those that belong to it. -/
def readToken (w : Workspace) (r : Reading) (option : Octets) (words : List Octets) :
    Except Octets (Reading × List Octets) :=
  let push (s : SearchStep) (isAction : Bool) : Reading := { r with tokens := r.tokens ++ [.step s isAction] }
  let plain (holds : Workspace → Visited → Bool) : Except Octets (Reading × List Octets) :=
    pure (push (.test holds) false, words)
  let argument (work : Octets → Except Octets Reading) : Except Octets (Reading × List Octets) := do
    match words with
    | [] => throw ("missing argument to \x60" ++ option ++ "'")
    | word :: rest => return (← work word, rest)
  let tested (work : Octets → Except Octets (Workspace → Visited → Bool)) : Except Octets (Reading × List Octets) :=
    argument fun text => do return push (.test (← work text)) false
  let depth (text : Octets) : Except Octets Nat :=
    match text.toNat? with
    | some n => pure n
    | none => throw ("Expected a positive decimal integer argument to " ++ option ++ ", but got " ++ quoted text)
  let showPath (ending : Octets) (file? : Option Octets) : SearchStep := .show (fun v _ => v.path ++ ending) file?
  let owner (text : Octets) (what : Octets) : Except Octets (Workspace → Visited → Bool) :=
    if text = "root" || text = "0" then pure fun _ _ => true
    else if text.toNat?.isSome then pure fun _ _ => false
    else throw (quoted text ++ " is not the name of " ++ what)
  match option with
  | "(" | ")" | "!" | "," | "-a" | "-o" => pure ({ r with tokens := r.tokens ++ [.sign option] }, words)
  | "-not" => pure ({ r with tokens := r.tokens ++ [.sign "!"] }, words)
  | "-and" => pure ({ r with tokens := r.tokens ++ [.sign "-a"] }, words)
  | "-or" => pure ({ r with tokens := r.tokens ++ [.sign "-o"] }, words)
  | "-name" => tested fun p => pure fun _ v => matchesName false p (nameOf v)
  | "-iname" => tested fun p => pure fun _ v => matchesName true p (nameOf v)
  | "-path" | "-wholename" => tested fun p => pure fun _ v => matchesName false p v.path
  | "-ipath" | "-iwholename" => tested fun p => pure fun _ v => matchesName true p v.path
  | "-lname" => tested fun p => pure fun _ v => leadsTo p v
  | "-regex" => tested (pathTest r.grammar false)
  | "-iregex" => tested (pathTest r.grammar true)
  | "-regextype" => argument fun name => pure { r with grammar := grammarOf name }
  | "-type" | "-xtype" => tested kindTest
  | "-size" => tested sizeTest
  | "-perm" => tested rightsTest
  | "-empty" => plain isEmptyEntry
  | "-executable" => plain isUsable
  | "-readable" | "-writable" => plain fun w v => (w.find (Octets.toPath v.path)).isOk
  | "-true" | "-mount" | "-xdev" | "-daystart" | "-noleaf" | "-warn" | "-nowarn" | "-ignore_readdir_race" =>
    plain fun _ _ => true
  | "-false" | "-nouser" | "-nogroup" => plain fun _ _ => false
  | "-depth" | "-d" => pure ({ push (.test fun _ _ => true) false with isDepthFirst := true }, words)
  | "-follow" => pure ({ push (.test fun _ _ => true) false with follows := true }, words)
  | "-maxdepth" => argument fun text => do
    pure { push (.test fun _ _ => true) false with most? := some (← depth text) }
  | "-mindepth" => argument fun text => do
    pure { push (.test fun _ _ => true) false with least := ← depth text }
  | "-links" => tested fun text =>
    let (sign?, digits, _) := readCount text
    pure fun w v =>
      compareCount sign? (Text.numberOf 10 digits) ((factOf w v.path v.location v.entry 'h').toNat?.getD 1)
  | "-newer" | "-anewer" | "-cnewer" => tested fun path => placeTest w path fun _ _ _ => false
  | "-newermt" => tested fun _ => pure fun _ _ => true
  | "-samefile" => tested fun path => placeTest w path fun l w v =>
    v.location = l || (w.files.places l).contains v.location
  | "-mtime" | "-atime" | "-ctime" | "-mmin" | "-amin" | "-cmin" => tested (ageTest option)
  | "-user" => tested fun text => owner text "a known user"
  | "-uid" => tested fun text => owner text "a known user"
  | "-group" => tested fun text => owner text "an existing group"
  | "-gid" => tested fun text => owner text "an existing group"
  | "-print" => pure (push (showPath "\n" none) true, words)
  | "-print0" => pure (push (showPath "\x00" none) true, words)
  | "-fprint" => argument fun file => pure (push (showPath "\n" (some file)) true)
  | "-fprint0" => argument fun file => pure (push (showPath "\x00" (some file)) true)
  | "-printf" => argument fun layout =>
    pure (push (.show (fun v w => layOut w v (layout.length + 1) layout.toList) none) true)
  | "-ls" => pure (push (.show (fun v w =>
      layOut w v 99 "%9i %6k %M %3n %-8u %-8g %12s Nov 14 22:13 %p\\n".toList) none) true, words)
  | "-delete" => pure ({ push .delete true with isDepthFirst := true }, words)
  | "-prune" => pure (push .prune false, words)
  | "-quit" => pure (push .quit true, words)
  | "-exec" | "-execdir" | "-ok" | "-okdir" => do
    let isInside := option = "-execdir" || option = "-okdir"
    let (command, isOnce, rest) ← readCommand option words
    if isOnce then
      let step := SearchStep.runOnce r.batches.length command isInside
      pure ({ push step true with batches := r.batches ++ [(command, isInside)] }, rest)
    else pure (push (.run command isInside) true, rest)
  | option =>
    if option.toList.head? = some '-' && option.length > 1 then throw ("unknown predicate \x60" ++ option ++ "'")
    else throw ("paths must precede expression: \x60" ++ option ++ "'")

/-- Reads all words of a search. -/
def readTokens (w : Workspace) : Nat → Reading → List Octets → Except Octets Reading
  | 0, r, _ | _, r, [] => pure r
  | n + 1, r, word :: words => do
    let (r, rest) ← readToken w r word words
    readTokens w n r rest

abbrev TreeM := StateT (List SearchToken) (Except Octets)

def nextSign? : TreeM (Option Octets) := do
  match (← get).head? with
  | some (.sign text) => pure (some text)
  | _ => pure none

def skip : TreeM Unit :=
  modify List.tail

def noneBefore {α : Type} (sign : Octets) : TreeM α :=
  throw ("invalid expression; you have used a binary operator '" ++ sign ++ "' with nothing before it.")

mutual

/-- Reads steps with commas between them. -/
def readAll : Nat → Octets → TreeM SearchStep
  | 0, _ => throw "expression too long"
  | n + 1, before => do
    let first ← readEither n before
    if (← nextSign?) = some "," then
      skip
      return .then_ first (← readAll n ",")
    else pure first

def readEither : Nat → Octets → TreeM SearchStep
  | 0, _ => throw "expression too long"
  | n + 1, before => do
    let first ← readBoth n before
    if (← nextSign?) = some "-o" then
      skip
      return .either first (← readEither n "-o")
    else pure first

def readBoth : Nat → Octets → TreeM SearchStep
  | 0, _ => throw "expression too long"
  | n + 1, before => do
    let first ← readOne n before
    match (← get).head? with
    | some (.sign "-a") =>
      skip
      return .both first (← readBoth n "-a")
    | some (.step ..) | some (.sign "!") | some (.sign "(") => return .both first (← readBoth n "-a")
    | _ => pure first

/-- Reads one step. `before` is the sign that it follows. -/
def readOne : Nat → Octets → TreeM SearchStep
  | 0, _ => throw "expression too long"
  | n + 1, before => do
    match ← get with
    | [] =>
      if before = "" then pure (.test fun _ _ => true)
      else if before = "(" then throw "invalid expression; I was expecting to find a ')' somewhere but did not see one."
      else throw ("expected an expression after '" ++ before ++ "'")
    | .step s _ :: rest =>
      set rest
      pure s
    | .sign "!" :: rest =>
      set rest
      return .not (← readOne n "!")
    | .sign "(" :: rest =>
      set rest
      if rest.head? matches some (.sign ")") then throw "invalid expression; empty parentheses are not allowed."
      let inner ← readAll n "("
      if (← nextSign?) = some ")" then
        skip
        pure inner
      else throw "invalid expression; I was expecting to find a ')' somewhere but did not see one."
    | .sign ")" :: _ => throw "you have too many ')'"
    | .sign sign :: _ => noneBefore sign

end

/-- Reads the words of a search. -/
def ofWords (w : Workspace) (words : List Octets) : Except Octets TreeSearch := do
  let lead := words.takeWhile fun word =>
    word ∈ ["-H", "-L", "-P"] || (word.toList.take 2 = ['-', 'O'] && word.length > 2)
  let words := words.drop lead.length
  let words := if words.head? = some "--" then words.tail else words
  let isPath (word : Octets) : Bool := match word.toList with
    | '-' :: _ :: _ => false
    | ['('] | [')'] | ['!'] => false
    | _ => true
  let starts := words.takeWhile isPath
  let r ← readTokens w (words.length + 1) ⟨[], 0, none, false, false, .basic, []⟩ (words.drop starts.length)
  let (step, left) ← (readAll (4 * r.tokens.length + 8) "").run r.tokens
  match left with
  | .sign ")" :: _ => throw "you have too many ')'"
  | _ => pure ()
  let isAction (t : SearchToken) : Bool := match t with
    | .step _ isAction => isAction
    | .sign _ => false
  let quits (t : SearchToken) : Bool := match t with
    | .step .quit _ => true
    | _ => false
  let shows := !r.tokens.any fun t => isAction t && !quits t
  let step := if shows then .both step (.show (fun v _ => v.path ++ "\n") none) else step
  let follow := (lead.filter fun word => word ∈ ["-H", "-L", "-P"]).getLast?
  pure ⟨if starts.isEmpty then ["."] else starts, step, r.follows || follow = some "-L", follow = some "-H", r.least,
    r.most?, r.isDepthFirst, r.batches⟩

end ReleaseMatrix.Shell.Utility.TreeSearch
