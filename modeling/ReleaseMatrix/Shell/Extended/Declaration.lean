import ReleaseMatrix.Shell.Extended.Found
import ReleaseMatrix.Shell.Extended.Options

namespace ReleaseMatrix.Shell

namespace Process

/-- Whether a function is running. -/
def isInFunction (p : Process) : Bool :=
  p.frames.any fun f => f.name ≠ "main" && f.name ≠ "source"

/-- The process with the variable changed that a name has outside of all functions. -/
def modifyOutermost (p : Process) (name : String) (change : Option Variable → Option Variable) : Process :=
  match p.locals.findIdx? fun frame => frame.any (·.1 == name) with
  | none => p.restore name (change (p.binding? name))
  | some _ =>
    let last := p.locals.length - 1 - (p.locals.reverse.findIdx fun frame => frame.any (·.1 == name))
    let update (frame : List (String × Option Variable)) : List (String × Option Variable) :=
      frame.map fun (n, v?) => if n = name then (n, change v?) else (n, v?)
    { p with locals := p.locals.mapIdx fun i frame => if i = last then update frame else frame }

end Process

namespace Extended

open ShellM (self modifySelf)

/-- What a word that declares a variable says: its name, its index, whether it adds to the variable, and a value. -/
structure Declared where
  name : Octets
  index? : Option Octets
  appends : Bool
  value? : Option Octets

/-- Reads a word that declares a variable. -/
def readDeclared (word : Octets) : Declared :=
  let (left, value?) := splitAssignment word
  let appends := value?.isSome && left.endsWith "+"
  let left := if appends then left.toList.dropLast else left.toList
  let name := left.takeWhile (· ≠ '[')
  match left.drop name.length with
  | '[' :: index =>
    if index.getLast? = some ']' then ⟨String.ofList name, some (String.ofList index.dropLast), appends, value?⟩
    else ⟨String.ofList left, none, appends, value?⟩
  | _ => ⟨String.ofList left, none, appends, value?⟩

/-- Makes a variable local to the function that runs, without a value, unless it is local already. -/
def makeFresh (name : Octets) : ShellM Unit := do
  let p ← self
  let isLocal : Bool := match p.locals with
    | frame :: _ => frame.any (·.1 == name)
    | [] => true
  if !isLocal then
    ShellM.saveLocally name
    let isExported := (p.binding? name).any Variable.isExported
    modifySelf (·.restore name none)
    if name = "OPTIND" then modifySelf fun p => { p with optionIndex := 1, optionOffset := 0 }
    if isExported then modifySelf (·.put name ⟨none, true, false, []⟩)

/-- The traits that letters give. -/
def traitLetters : List Char := ['a', 'A', 'i', 'l', 'u', 'n']

/-- A variable with the traits that options give and take, but for the one that keeps it from being changed. -/
def withTraits (g : Given) (v : Variable) : Variable :=
  let given := traitLetters.filter g.has
  let taken := traitLetters.filter fun c =>
    g.lacks c || (c = 'l' && g.has 'u') || (c = 'u' && g.has 'l')
  let traits := (v.traits ++ given).eraseDups.filter (!taken.contains ·)
  let content? := match v.content? with
    | some (.text t) =>
      if g.has 'a' then some (Value.list [(0, t)]) else if g.has 'A' then some (.table [("0", t)]) else some (.text t)
    | content? => content?
  { v with
    content?, traits
    isExported := (v.isExported || g.has 'x') && !g.lacks 'x' }

/-- Why options cannot be applied to a variable, if they cannot. -/
def conflict? (g : Given) (v : Variable) : Option Octets :=
  if (g.lacks 'a' && v.has 'a') || (g.lacks 'A' && v.has 'A') then some "cannot destroy array variables in this way"
  else if g.has 'a' && v.has 'A' then some "cannot convert associative to indexed array"
  else if g.has 'A' && v.has 'a' then some "cannot convert indexed to associative array"
  else if g.lacks 'r' && v.isReadOnly then some "readonly variable"
  else none

/-- Applies the traits that options say to a variable. Says whether that is possible. -/
def applyTraits (g : Given) (isGlobal : Bool) (name : Octets) : ShellM Bool := do
  let p ← self
  let name := if g.has 'n' || g.lacks 'n' then name else p.follow name
  let v := (p.binding? name).getD ⟨none, false, false, []⟩
  match conflict? g v with
  | some message =>
    ShellM.complain (name ++ ": " ++ message)
    pure false
  | none =>
    let change (v? : Option Variable) : Option Variable :=
      some (withTraits g (v?.getD ⟨none, p.hasOption 'a', false, []⟩))
    modifySelf fun p => if isGlobal then p.modifyOutermost name change else p.restore name (change (p.binding? name))
    pure true

def markReadOnly (isGlobal : Bool) (name : Octets) : ShellM Unit :=
  modifySelf fun p =>
    let name := p.follow name
    let change (v? : Option Variable) : Option Variable := v?.map fun v => { v with isReadOnly := true }
    if isGlobal then p.modifyOutermost name change else p.restore name (change (p.binding? name))

/-- Sets what a word declares, and says whether that is possible. -/
def setDeclared (g : Given) (isGlobal : Bool) (d : Declared) : ShellM Bool := do
  match d.value? with
  | none => pure true
  | some value =>
    let p ← self
    let name := if g.has 'n' then d.name else p.follow d.name
    if (p.binding? name).any Variable.isReadOnly then
      ShellM.complain (d.name ++ ": readonly variable")
      pure false
    else if g.has 'n' then
      if value = d.name then
        ShellM.complain (d.name ++ ": nameref variable self references not allowed")
        pure false
      else
        let named (v? : Option Variable) : Option Variable := v?.map fun v => { v with content? := some (.text value) }
        modifySelf fun p =>
          if isGlobal then p.modifyOutermost name named else p.restore name (named (p.binding? name))
        pure true
    else if isGlobal then
      let fitted (v : Variable) : Variable := { v with content? := some (Value.put v.content? .whole value) }
      modifySelf fun p => p.modifyOutermost name (·.map fitted)
      pure true
    else
      let slot? ← match d.index? with
        | some index => ShellM.slotOf name index
        | none => pure (some .whole)
      slot?.forM fun slot => ShellM.assignSlot name slot d.appends value
      pure slot?.isSome

/-- Whether variables are declared for all functions. -/
def isForAll (g : Given) (command : Octets) : ShellM Bool := do
  return (g.has 'g' || command = "export" || command = "readonly") && command ≠ "local"

/-- Declares one variable with the traits that options say. -/
def declareOne (command : Octets) (g : Given) (word : Octets) : ShellM Bool := do
  let d := readDeclared word
  if word = "-" && command = "local" then pure true
  else if !isName d.name.toList then
    ShellM.complain ("\x60" ++ word ++ "': not a valid identifier")
    pure false
  else
    let isPlain ← isForAll g command
    let isGlobal := g.has 'g' && (← self).isInFunction
    if !isPlain && (← self).isInFunction then makeFresh d.name
    let isTyped := if d.index?.isSome && !g.has 'A' && !(← self).isTable d.name then
      { g with options := ('-', 'a', "") :: g.options } else g
    if !(← applyTraits isTyped isGlobal d.name) then pure false
    else if !(← setDeclared g isGlobal d) then pure false
    else
      if g.has 'r' then markReadOnly isGlobal d.name
      pure true

/-- The command as options for declarations say it. -/
def declarationOptions (command : Octets) : String :=
  match command with
  | "export" => "fnp"
  | "readonly" => "aAfp"
  | _ => "aAfFgiIlnprtux"

/-- The options of a command with those that its name stands for. -/
def withMeaning (command : Octets) (g : Given) : Given :=
  match command with
  | "export" =>
    let sign := if g.has 'n' then '+' else '-'
    { g with options := (sign, 'x', "") :: g.options.filter fun o => o.2.1 ≠ 'n' }
  | "readonly" => { g with options := ('-', 'r', "") :: g.options }
  | _ => g

/-- Prepares a variable that a list is about to be assigned to by a command with some words. -/
def prepareList (command : Octets) (words : List Octets) (name : Octets) : ShellM Unit := do
  match readOptions (declarationOptions command).toList true (words.foldl (· + ·.length + 2) 2) words with
  | .error _ => pure ()
  | .ok g =>
    let g := withMeaning command { g with options := g.options.filter fun o => o.2.1 ≠ 'r' }
    let isPlain ← isForAll g command
    if !isPlain && (← self).isInFunction then makeFresh name
    let isTable := g.has 'A' || (← self).isTable name
    let g := if isTable then g else { g with options := ('-', 'a', "") :: g.options }
    let _ ← applyTraits { g with options := g.options.filter fun o => o.2.1 ≠ 'r' } false name
    pure ()

/-- Tells variables of a process. -/
def listDeclared (isMeant : Variable → Bool) : ShellM Nat := do
  let p ← self
  let meant := (p.bindings.filter fun (_, v) => isMeant v).mergeSort fun a b => a.1 ≤ b.1
  print (String.join (meant.map fun (name, v) => v.declaration name))

/-- Tells functions by their names. -/
def listFunctions (g : Given) : ShellM Nat := do
  let functions := (← self).functions
  if g.words.isEmpty then
    let names := (functions.map (·.1)).mergeSort fun a b => a ≤ b
    print (String.join (names.map fun name => "declare -f " ++ name ++ "\n"))
  else
    let isKnown (name : Octets) : Bool := functions.any (·.1 == name)
    let known := g.words.filter isKnown
    let status ← print (String.join (known.map (· ++ "\n")))
    pure (if g.words.all isKnown then status else 1)

/-- Tells the variables that words name. -/
def tellDeclared (words : List Octets) : ShellM Nat := do
  let p ← self
  words.foldlM (fun status name => do
    match p.binding? name with
    | some v =>
      let _ ← print (v.declaration name)
      pure status
    | none => refuse (name ++ ": not found") 1) 0

/-- The variables of a process with their values, as a script sets them. -/
def listValues : ShellM Nat := do
  let p ← self
  let shown := p.bindings.filter fun (_, v) => v.content?.isSome
  let line (name : Octets) (v : Variable) : Octets := match v.content? with
    | some (.text t) => name ++ "=" ++ (if Quoting.hasMeaning t || Quoting.hasControls t then
        Quoting.reusable t else t) ++ "\n"
    | some content => name ++ "=" ++ content.asAssigned ++ "\n"
    | none => ""
  print (String.join ((shown.mergeSort fun a b => a.1 ≤ b.1).map fun (name, v) => line name v))

/-- Declares variables, or tells about them. -/
def declare (command : Octets) (words : List Octets) : ShellM Nat := do
  if command = "local" && !(← self).isInFunction then refuse "can only be used in a function" 1
  else
    withOptions (declarationOptions command) (command ≠ "export" && command ≠ "readonly") words fun given => do
      let isFunction := given.has 'f' || given.has 'F'
      let g := withMeaning command given
      let letters := ['x', 'r', 'a', 'A', 'i', 'l', 'u', 'n'].filter g.has
      let isMeant (v : Variable) : Bool := letters.all fun c =>
        if c = 'x' then v.isExported else if c = 'r' then v.isReadOnly else v.has c
      if isFunction then
        if command = "export" || command = "readonly" then
          g.words.foldlM (fun status name => do
            if (← self).functions.any (·.1 == name) then pure status
            else refuse (name ++ ": not a function") 1) 0
        else listFunctions g
      else if g.words.isEmpty then
        if command = "local" then
          let names := ((← self).locals.headD []).map (·.1)
          let p ← self
          let mine := (names.eraseDups.mergeSort fun a b => a ≤ b).filterMap fun name =>
            (p.binding? name).map fun v => v.declaration name
          print (String.join mine)
        else if given.options.isEmpty && command ≠ "export" && command ≠ "readonly" then listValues
        else listDeclared isMeant
      else if given.has 'p' && command ≠ "export" && command ≠ "readonly" then tellDeclared g.words
      else
        let isDone ← g.words.mapM (declareOne command g)
        pure (if isDone.all id then 0 else 1)

/-- Takes variables, elements or functions away. -/
def unset (words : List Octets) : ShellM Nat := do
  withOptions "fvn" false words fun g => do
    g.words.foldlM (fun status word => do
      let p ← self
      let d := readDeclared word
      if g.has 'f' then
        modifySelf fun p => { p with functions := p.functions.filter (·.1 ≠ word) }
        pure status
      else if !isName d.name.toList then
        if g.has 'v' then refuse ("\x60" ++ word ++ "': not a valid identifier") 1
        else
          modifySelf fun p => { p with functions := p.functions.filter (·.1 ≠ word) }
          pure status
      else
        let name := if g.has 'n' then d.name else p.follow d.name
        match p.binding? name with
        | none =>
          if !g.has 'v' then modifySelf fun p => { p with functions := p.functions.filter (·.1 ≠ word) }
          pure status
        | some v =>
          if v.isReadOnly then refuse (name ++ ": cannot unset: readonly variable") 1
          else match d.index? with
            | none =>
              modifySelf (·.restore name none)
              pure status
            | some index =>
              if index = "@" || index = "*" then
                let emptied : Value := if v.has 'A' then .table [] else .list []
                modifySelf (·.put name { v with content? := some emptied })
                pure status
              else
                match ← ShellM.slotOf name index with
                | none => pure 1
                | some slot =>
                  modifySelf (·.put name { v with content? := v.content?.map (·.erase slot) })
                  pure status) 0

end Extended

end ReleaseMatrix.Shell
