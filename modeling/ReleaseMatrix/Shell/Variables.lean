import ReleaseMatrix.Shell.Extended.Evaluation
import ReleaseMatrix.Shell.Field
import ReleaseMatrix.Shell.Stream

namespace ReleaseMatrix.Shell

/-- The text in single quotes, as it may stand in a script. -/
def inQuotes (text : Octets) : Octets :=
  String.ofList (quoteRuns text.length text.toList)
where
  /-- Runs without single quotes stand in single quotes, and runs of these in double quotes. -/
  quoteRuns : Nat → List Char → List Char
    | 0, _ => ['\'', '\'']
    | n + 1, cs =>
      let plain := cs.takeWhile (· ≠ '\'')
      let marks := (cs.drop plain.length).takeWhile (· = '\'')
      let rest := cs.drop (plain.length + marks.length)
      let quoted := '\'' :: plain ++ ['\'']
      let quotedMarks := if marks.isEmpty then [] else '"' :: marks ++ ['"']
      quoted ++ quotedMarks ++ if rest.isEmpty then [] else quoteRuns n rest

/-- The name and the value in a text like an assignment. There is no value without the sign. -/
def splitAssignment (text : Octets) : Octets × Option Octets :=
  let name := text.toList.takeWhile (· ≠ '=')
  (String.ofList name,
    if name.length < text.length then some (String.ofList (text.toList.drop (name.length + 1))) else none)

/-- The characters between which fields are split. -/
def Process.separators (p : Process) : String :=
  (p.valueOf? "IFS").getD standardSeparators

namespace ShellM

/-- Evaluates an expression of the extended language, and sets the variables that it changes. -/
def calculate (source : Octets) : ShellM Int64 := do
  match (← self).calculate source with
  | .ok (value, p) =>
    modifySelf fun _ => p
    pure value
  | .error (.unbound name) =>
    complain (EvaluationFault.message (.unbound name))
    setStatus 1
    throw .exit
  | .error fault => dropLine fault.message

/-- The slot of a variable that an index means, once that is expanded, or a complaint. -/
def slotOf (name index : Octets) : ShellM (Option Slot) := do
  if (← self).isTable name then pure (some (.key index))
  else
    let value ← calculate index
    let slot? := (← self).slotAt? name value.toInt
    if slot?.isNone then
      complain (name ++ "[" ++ index ++ "]: bad array subscript")
      setStatus 1
    pure slot?

/-- What a text becomes in a variable with some traits. -/
def fitting (v : Variable) (old? : Option Octets) (appends : Bool) (text : Octets) : ShellM Octets := do
  if v.has 'i' then
    let added ← calculate text
    let old ← if appends then calculate (old?.getD "") else pure 0
    pure (toString (old + added))
  else
    let whole := if appends then old?.getD "" ++ text else text
    pure (if v.has 'u' then whole.toUpper else if v.has 'l' then whole.toLower else whole)

/-- Sets one slot of a variable of the extended language, or adds to it. -/
def assignSlot (name : Octets) (slot : Slot) (appends : Bool) (text : Octets) : ShellM Unit := do
  let p ← self
  let name := p.follow name
  let v := (p.binding? name).getD ⟨none, false, false, []⟩
  if v.isReadOnly then abandon (name ++ ": readonly variable")
  let text ← fitting v (v.content?.bind (·.get? slot)) appends text
  if name = "OPTIND" then
    modifySelf fun p => { p with optionIndex := max 1 (text.toNat?.getD 1), optionOffset := 0 }
  modifySelf (·.store name slot text)

/-- Sets a variable, or takes its value away, and marks it for programs where that is said. -/
def setVariable (name : Octets) (value? : Option Octets) (exports : Bool) : ShellM Unit := do
  if (← self).isExtended then
    match value? with
    | none => modifySelf fun p => p.restore (p.follow name) none
    | some value =>
      assignSlot name .whole false value
      if exports then
        modifySelf fun p =>
          let name := p.follow name
          p.restore name ((p.binding? name).map fun v => { v with isExported := true })
    return
  if !isName name.toList then fail (name ++ ": bad variable name")
  let p ← self
  let old? := p.binding? name
  if old?.any Variable.isReadOnly then fail (name ++ ": is read only")
  match value? with
  | none =>
    if exports then modifySelf (·.put name (.ofText? none true false)) else modifySelf (·.restore name none)
  | some value =>
    if name = "OPTIND" then
      let n ← count value
      modifySelf fun p => { p with optionIndex := max 1 n, optionOffset := 0 }
    let exports := exports || p.hasOption 'a' || old?.any Variable.isExported
    modifySelf (·.put name (.ofText? (some value) exports false))

def assign (name value : Octets) : ShellM Unit :=
  setVariable name (some value) false

/-- Remembers a variable so that it is restored once the current command or function ends. -/
def saveLocally (name : Octets) : ShellM Unit :=
  modifySelf fun p => match p.locals with
    | frame :: frames => { p with locals := ((name, p.binding? name) :: frame) :: frames }
    | [] => p

/-- Makes a variable local, with a new value if there is one. -/
def makeLocal (text : Octets) (exports : Bool) : ShellM Unit := do
  let (name, value?) := splitAssignment text
  if !isName name.toList && !(← self).isExtended then fail (name ++ ": bad variable name")
  saveLocally name
  match value? with
  | some value => setVariable name (some value) exports
  | none => pure ()

/-- Forgets local variables again: the ones that were made since the frames were those given. -/
def leaveLocals (depth : Nat) : ShellM Unit :=
  modifySelf fun p =>
    let left := p.locals.take (p.locals.length - depth)
    let restored := left.flatten.foldl (fun p (name, old?) => p.restore name old?) p
    { restored with locals := p.locals.drop (p.locals.length - depth) }

/-- Marks a variable for programs, or as one that never changes. -/
def markVariable (text : Octets) (mark : Variable → Variable) : ShellM Unit := do
  let (name, value?) := splitAssignment text
  match value? with
  | some value => setVariable name (some value) false
  | none =>
    if ((← self).binding? name).isNone then
      if !isName name.toList then fail (name ++ ": bad variable name")
      modifySelf (·.put name (.ofText? none false false))
  modifySelf fun p => p.restore name ((p.binding? name).map mark)

/-- Prints variables in the order of their names, each after a prefix, as a script could set them. -/
def listVariables (lead : Octets) (isMeant : Variable → Bool) : ShellM Unit := do
  let meant := (← self).bindings.filter fun (_, v) => isMeant v
  let lines := (meant.mergeSort fun a b => a.1 ≤ b.1).map fun (name, v) =>
    lead ++ name ++ (v.value?.map fun value => "=" ++ inQuotes value).getD "" ++ "\n"
  let _ ← write 1 (String.join lines)

end ShellM

end ReleaseMatrix.Shell
