import ReleaseMatrix.Shell.Utility.Facts

namespace ReleaseMatrix.Shell.Utility

/-- An entry that is visited by a search through directories. -/
structure Visited where
  path : Octets
  /-- The path that the search started from. -/
  start : Octets
  location : Location
  entry : Entry
  depth : Nat

/-- What a search does with each entry that it visits. -/
inductive SearchStep
  | test (holds : Workspace → Visited → Bool)
  /-- Prints to the standard output, or to a file. -/
  | show (layout : Visited → Workspace → Octets) (file? : Option Octets)
  | delete
  /-- Runs words in which a mark stands for the path, be it in the directory of the entry. -/
  | run (words : List Octets) (isInside : Bool)
  /-- Runs words once, with all paths after them. -/
  | runOnce (index : Nat) (words : List Octets) (isInside : Bool)
  | prune
  | quit
  | not (inner : SearchStep)
  | both (first second : SearchStep)
  | either (first second : SearchStep)
  | then_ (first second : SearchStep)

/-- A whole search. -/
structure TreeSearch where
  starts : List Octets
  step : SearchStep
  followsLinks : Bool
  followsStarts : Bool
  least : Nat
  most? : Option Nat
  /-- Whether directories come after what is in them. -/
  isDepthFirst : Bool
  /-- The words that are run once. -/
  batches : List (List Octets × Bool)

/-- What is known while a search goes on. -/
structure Searching where
  status : Nat
  isPruned : Bool
  hasQuit : Bool
  /-- The paths for words that are run once, by the numbers of these. -/
  collected : List (Nat × Octets)

namespace TreeSearch

/-- What runs words, in a directory if one is given. -/
abbrev Runner := List Octets → Option Octets → ShellM Nat

abbrev SearchM := StateT Searching ShellM

/-- A word with a path in place of each mark. -/
def fill (path word : Octets) : Octets :=
  word.replace "\x7b\x7d" path

def fail (message : Octets) : SearchM Unit := do
  (warn message : ShellM Unit)
  modify fun s => { s with status := 1 }

/-- Does with an entry what the steps say, and tells whether they hold. -/
def perform (runner : Runner) : SearchStep → Visited → SearchM Bool
  | .test holds, v => do return holds (← (get : ShellM State)).workspace v
  | .show layout file?, v => do
    let text := layout v (← (get : ShellM State)).workspace
    match file? with
    | none =>
      let _ ← (print text : ShellM Nat)
    | some file =>
      match ← (ShellM.openPath file .append : ShellM _) with
      | .ok index =>
        (ShellM.connect 10 index : ShellM Unit)
        let _ ← (ShellM.write 10 text : ShellM _)
        (ShellM.close 10 : ShellM Unit)
      | .error _ => pure ()
    pure true
  | .delete, v => do
    if v.path = "." then pure true
    else
      let remove := if v.entry = .directory then FileM.removeDirectory else FileM.removeFile
      match ← (ShellM.onFiles (remove (Octets.toPath v.path)) : ShellM _) with
      | .ok () => pure true
      | .error fault =>
        fail ("cannot delete " ++ quoted v.path ++ ": " ++ fault.text)
        pure false
  | .run words isInside, v => do
    if isInside then
      let name := "./" ++ baseName v.path
      return (← (runner (words.map (fill name)) (some (parentOf v.path)) : ShellM Nat)) = 0
    else return (← (runner (words.map (fill v.path)) none : ShellM Nat)) = 0
  | .runOnce index _ _, v => do
    modify fun s => { s with collected := s.collected ++ [(index, v.path)] }
    pure true
  | .prune, _ => do
    modify fun s => { s with isPruned := true }
    pure true
  | .quit, _ => do
    modify fun s => { s with hasQuit := true }
    pure true
  | .not inner, v => do return !(← perform runner inner v)
  | .both first second, v => do
    if ← perform runner first v then
      if (← get).hasQuit then pure true else perform runner second v
    else pure false
  | .either first second, v => do
    if ← perform runner first v then pure true else perform runner second v
  | .then_ first second, v => do
    let _ ← perform runner first v
    if (← get).hasQuit then pure true else perform runner second v
where
  parentOf (path : Octets) : Octets :=
    let before := path.toList.reverse.dropWhile (· ≠ '/')
    if before.isEmpty then "." else String.ofList before.reverse

/-- The entry that a path names, or leads to. -/
def entryAt (follows : Bool) (path : Octets) : ShellM (Except FileFault (Location × Entry)) := do
  if follows then
    match ← look path with
    | .ok found => pure (.ok found)
    | .error _ => lookAt path
  else lookAt path

/-- Visits an entry and what is below it. -/
def visit (t : TreeSearch) (runner : Runner) : Nat → Visited → SearchM Unit
  | 0, _ => pure ()
  | n + 1, v => do
    let isMeant := t.least ≤ v.depth
    modify fun s => { s with isPruned := false }
    if isMeant && !t.isDepthFirst then
      let _ ← perform runner t.step v
    let s ← get
    let goesOn := !s.hasQuit && !(s.isPruned && !t.isDepthFirst) && t.most?.all (v.depth < ·)
    if goesOn && v.entry = .directory then
      let names := (← (get : ShellM State)).workspace.files.names v.location
      names.forM fun name => do
        if !(← get).hasQuit then
          let path := under v.path (Octets.ofText name)
          match ← (entryAt t.followsLinks path : ShellM _) with
          | .ok (l, e) => visit t runner n ⟨path, v.start, l, e, v.depth + 1⟩
          | .error _ => pure ()
    if isMeant && t.isDepthFirst && !(← get).hasQuit then
      let _ ← perform runner t.step v

/-- Carries a search out, and gives its status. -/
def carryOut (t : TreeSearch) (runner : Runner) : ShellM Nat := do
  let work : SearchM Unit := do
    t.starts.forM fun start => do
      if !(← get).hasQuit then
        match ← (entryAt (t.followsLinks || t.followsStarts) start : ShellM _) with
        | .ok (l, e) => t.visit runner 64 ⟨start, start, l, e, 0⟩
        | .error fault => fail (quoted start ++ ": " ++ fault.text)
    let batches := t.batches.zipIdx
    batches.forM fun ((words, isInside), index) => do
      let paths := ((← get).collected.filter (·.1 = index)).map (·.2)
      if !paths.isEmpty then
        let paths := if isInside then paths.map fun path => "./" ++ baseName path else paths
        let status ← (runner (words ++ paths) none : ShellM Nat)
        if status ≠ 0 then modify fun s => { s with status := 1 }
  let ((), s) ← work.run ⟨0, false, false, []⟩
  pure s.status

end TreeSearch

end ReleaseMatrix.Shell.Utility

namespace ReleaseMatrix.Shell.Utility.TreeSearch

/-- The letter of the kind of an entry. -/
def kindOf (e : Entry) : Octets :=
  match e with
  | .directory => "d"
  | .link _ => "l"
  | .void => "c"
  | .queue _ => "p"
  | _ => "f"

/-- How many bytes an entry holds. -/
def sizeOf (e : Entry) : Nat :=
  match e with
  | .directory => 4096
  | .link target => target.text.utf8ByteSize
  | e => (e.content?.getD []).length

/-- The path of the directory that an entry is in. -/
def placeOf (path : Octets) : Octets :=
  let before := path.toList.reverse.dropWhile (· ≠ '/')
  if before.isEmpty then "." else String.ofList before.tail.reverse

/-- The path without the part that the search started from. -/
def below (v : Visited) : Octets :=
  String.ofList ((v.path.toList.drop v.start.length).dropWhile (· = '/'))

/-- What a letter of a layout tells of an entry. -/
def detail (w : Workspace) (v : Visited) (letter : Char) : Octets :=
  match letter with
  | 'p' => v.path
  | 'f' => baseName v.path
  | 'h' => placeOf v.path
  | 'H' => v.start
  | 'P' => below v
  | 'd' => toString v.depth
  | 's' => toString (sizeOf v.entry)
  | 'k' => toString ((sizeOf v.entry + 4095) / 4096 * 4)
  | 'y' => kindOf v.entry
  | 'Y' => match v.entry with
    | .link _ => match w.find (Octets.toPath v.path) with
      | .ok (_, e) => kindOf e
      | .error _ => "N"
    | e => kindOf e
  | 'm' => factOf w v.path v.location v.entry 'a'
  | 'M' => factOf w v.path v.location v.entry 'A'
  | 'n' => factOf w v.path v.location v.entry 'h'
  | 'b' => factOf w v.path v.location v.entry 'b'
  | 'u' | 'g' => "root"
  | 'U' | 'G' => "0"
  | 'i' => "1"
  | 'l' => match v.entry with
    | .link target => Octets.ofText target.text
    | _ => ""
  | 't' | 'a' | 'c' => "Tue Nov 14 22:13:20.0000000000 2023"
  | letter => String.ofList ['%', letter]

/-- A layout filled with what is known of an entry. -/
def layOut (w : Workspace) (v : Visited) : Nat → List Char → Octets
  | 0, _ | _, [] => ""
  | n + 1, '%' :: '%' :: cs => "%" ++ layOut w v n cs
  | n + 1, '%' :: cs =>
    let flags := cs.takeWhile fun c => c = '-' || c = '0' || c = '#' || c = '+' || c = ' '
    let width := (cs.drop flags.length).takeWhile Char.isDigit
    match cs.drop (flags.length + width.length) with
    | [] => "%"
    | letter :: rest =>
      let (text, rest) := match letter, rest with
        | 'T', _ :: rest | 'A', _ :: rest | 'C', _ :: rest => ("1700000000.0000000000", rest)
        | letter, rest => (detail w v letter, rest)
      let missing := Text.numberOf 10 width - text.length
      let filling := String.ofList (List.replicate missing (if flags.contains '0' then '0' else ' '))
      (if flags.contains '-' then text ++ filling else filling ++ text) ++ layOut w v n rest
  | _ + 1, '\\' :: 'c' :: _ => ""
  | n + 1, '\\' :: cs =>
    let (c, rest) := readEscape cs
    String.singleton c ++ layOut w v n rest
  | n + 1, c :: cs => String.singleton c ++ layOut w v n cs

end ReleaseMatrix.Shell.Utility.TreeSearch
