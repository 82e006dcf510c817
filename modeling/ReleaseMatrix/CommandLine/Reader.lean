import ReleaseMatrix.CommandLine.Vocabulary
import ReleaseMatrix.Package.Spec
import ReleaseMatrix.Text

namespace ReleaseMatrix.CommandLine

/-- What is wrong with a command line. -/
inductive UsageError
  | unknownArgument
  | unknownSubcommand
  | repeatedArgument
  | unwantedValue
  | missingValue
  | invalidValue
deriving DecidableEq, Repr

def UsageError.message : UsageError → String
  | unknownArgument => "error: unexpected argument"
  | unknownSubcommand => "error: unrecognized subcommand"
  | repeatedArgument => "error: an argument is given more than once"
  | unwantedValue => "error: an argument has a value that it does not take"
  | missingValue => "error: an argument lacks its value"
  | invalidValue => "error: an argument has a value that is not valid"

/-- What help can be asked about. -/
inductive Topic
  | program
  | subcommand (c : Subcommand)
  /-- The asking itself. -/
  | help
deriving DecidableEq, Repr

/-- Why a command line is not carried out: it asks for help or for the version, or it is wrong. -/
inductive Halt
  | help (topic : Topic)
  | version (subcommand? : Option Subcommand)
  | misuse (error : UsageError)
deriving DecidableEq, Repr

/-- The largest number that is counted to. -/
def countLimit : Nat := 255

/-- The number that a value stands for: digits, with a plus in front or not, below 2⁶⁴. -/
def numberOf? (value : String) : Option Nat :=
  let digits := match value.toList with
    | '+' :: rest => rest
    | cs => cs
  if !digits.isEmpty && digits.all Char.isDigit && Text.numberOf 10 digits < Nat.pow 2 64 then
    some (Text.numberOf 10 digits)
  else none

/-- Checks the value of a setting. -/
def ValueKind.check (kind : ValueKind) (value : String) : Except UsageError Unit :=
  match kind with
  | text => .ok ()
  | path => if value.isEmpty then .error .missingValue else .ok ()
  | number => if (numberOf? value).isSome then .ok () else .error .invalidValue
  | packageFormat => if (PackageFormat.parse? value).isSome then .ok () else .error .invalidValue

/-- The settings that were given at one level of a command line, with their values, in order. -/
structure Given where
  entries : List (Setting × String)
  /-- A setting whose value may still come, and the value if it has come. -/
  pending? : Option (Setting × Option String)
deriving DecidableEq, Repr

namespace Given

def nothing : Given :=
  ⟨[], none⟩

def has (g : Given) (s : Setting) : Bool :=
  g.entries.any (·.1 == s)

def values (g : Given) (s : Setting) : List String :=
  (g.entries.filter (·.1 == s)).map (·.2)

def value? (g : Given) (s : Setting) : Option String :=
  (g.values s).head?

def count (g : Given) (s : Setting) : Nat :=
  min (g.values s).length countLimit

def add (g : Given) (s : Setting) (value : String) : Given :=
  { g with entries := g.entries ++ [(s, value)] }

/-- Takes in a setting with its value. -/
def enter (g : Given) (s : Setting) (value : String) : Except UsageError Given := do
  match s.manner with
  | .single kind =>
    if g.has s then throw .repeatedArgument
    kind.check value
    pure (g.add s value)
  | .repeated kind =>
    kind.check value
    pure (g.add s value)
  | .flag => if g.has s then throw .repeatedArgument else pure (g.add s value)
  | .counter | .halting => pure (g.add s value)

/-- Takes in the setting that waits for its value, if there is one. -/
def settle (g : Given) : Except UsageError Given :=
  match g.pending? with
  | none => .ok g
  | some (_, none) => .error .missingValue
  | some (s, some value) => { g with pending? := none }.enter s value

/-- Whether the next word is the value of the setting that waits. -/
def awaitsValue (g : Given) : Bool :=
  g.pending?.any (·.2.isNone)

end Given

/-- One level of a command line: the settings that can be given at it, and its subcommand if it has one. -/
structure Level where
  subcommand? : Option Subcommand
  settings : List Setting

namespace Level

def root : Level :=
  ⟨none, Setting.shared⟩

def ofSubcommand (c : Subcommand) : Level :=
  ⟨some c, Setting.own c ++ Setting.shared⟩

def findLong? (l : Level) (name : String) : Option Setting :=
  l.settings.find? (·.longName == name)

def findShort? (l : Level) (c : Char) : Option Setting :=
  l.settings.find? (·.shortName? == some c)

/-- Takes in a setting that has no value. -/
def takeFlag (l : Level) (g : Given) (s : Setting) : Except Halt Given := do
  let g ← g.settle.mapError .misuse
  match s with
  | .help => throw (.help (l.subcommand?.elim .program .subcommand))
  | .version => throw (.version l.subcommand?)
  | s => (g.enter s "").mapError .misuse

/-- Takes in a setting that has a value, which may be attached to it or come next. -/
def takeValued (g : Given) (s : Setting) (attached? : Option String) : Except Halt Given := do
  let g ← g.settle.mapError .misuse
  match attached? with
  | some value => (g.enter s value).mapError .misuse
  | none => pure { g with pending? := some (s, none) }

def isValued (s : Setting) : Bool :=
  match s.manner with
  | .single _ | .repeated _ => true
  | .flag | .counter | .halting => false

/-- Reads a setting by its long name, after the hyphens. -/
def readLong (l : Level) (g : Given) (body : List Char) : Except Halt Given :=
  let name := String.ofList (body.takeWhile (· ≠ '='))
  let attached? := match body.dropWhile (· ≠ '=') with
    | _ :: value => some (String.ofList value)
    | [] => none
  match l.findLong? name with
  | none => .error (.misuse .unknownArgument)
  | some s =>
    if isValued s then takeValued g s attached?
    else if attached?.isSome then .error (.misuse .unwantedValue)
    else l.takeFlag g s

/-- Reads settings by their short names, after the hyphen. The first one that has a value takes the rest. -/
def readShort (l : Level) (g : Given) : List Char → Except Halt Given
  | [] => .ok g
  | c :: rest =>
    match l.findShort? c with
    | none => .error (.misuse .unknownArgument)
    | some s =>
      if isValued s then
        takeValued g s <| match rest with
          | [] => none
          | '=' :: value => some (String.ofList value)
          | value => some (String.ofList value)
      else do l.readShort (← l.takeFlag g s) rest

/-- What is wrong with a word that is no setting. `isTrailing` says that it follows two hyphens alone. -/
def strayError (l : Level) (isTrailing : Bool) (word : String) : UsageError :=
  if l.subcommand?.isSome then .unknownArgument
  else if isTrailing && ((Subcommand.find? word).isSome || word = "help") then .unknownArgument
  else .unknownSubcommand

/-- What a request for help asks about. -/
def readHelp : List String → Halt
  | [] => .help .program
  | [word] =>
    if word = "help" then .help .help
    else match Subcommand.find? word with
      | some c => .help (.subcommand c)
      | none => .misuse .unknownSubcommand
  | _ => .misuse .unknownSubcommand

/-- Reads words up to the end, or up to a subcommand, which is given with the words after it. -/
def read (l : Level) : Given → List String → Except Halt (Given × Option (Subcommand × List String))
  | g, [] => do pure (← g.settle.mapError .misuse, none)
  | g, word :: rest => do
    if !g.awaitsValue && l.subcommand?.isNone then
      if word = "help" then throw (readHelp rest)
      if let some c := Subcommand.find? word then
        return (← g.settle.mapError .misuse, some (c, rest))
    match word.toList with
    | ['-', '-'] =>
      match rest with
      | [] => pure (← g.settle.mapError .misuse, none)
      | next :: _ => throw (.misuse (l.strayError true next))
    | '-' :: '-' :: body => l.read (← l.readLong g body) rest
    | '-' :: c :: body => l.read (← l.readShort g (c :: body)) rest
    | _ =>
      match g.pending? with
      | some (s, none) => l.read { g with pending? := some (s, some word) } rest
      | _ => throw (.misuse (l.strayError false word))

end Level

/-- Adds the values that variables of the machine give to settings that are not given. -/
def Given.addVariables (g : Given) (settings : List Setting) (valueOf? : String → Option String) :
    Except UsageError Given :=
  settings.foldlM (fun g s =>
    match s.standIn?.bind valueOf? with
    | some value => if g.has s then pure g else g.enter s value
    | none => pure g) g

/-- A command line that was read: what was given before the subcommand, and the subcommand with what was
given after it. -/
structure Reading where
  root : Given
  command? : Option (Subcommand × Given)

/-- Reads the words of a command line. -/
def Reading.ofWords (valueOf? : String → Option String) (words : List String) : Except Halt Reading := do
  let (root, command?) ← Level.root.read .nothing words
  match command? with
  | none => pure ⟨root, none⟩
  | some (c, rest) =>
    let level := Level.ofSubcommand c
    let (given, _) ← level.read .nothing rest
    let given ← (given.addVariables level.settings valueOf?).mapError .misuse
    pure ⟨root, some (c, given)⟩

end ReleaseMatrix.CommandLine
