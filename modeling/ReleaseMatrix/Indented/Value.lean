import ReleaseMatrix.Indented.Tree
import ReleaseMatrix.Shell.State

namespace ReleaseMatrix.Indented

open Shell (Octets Decimal)

/-- What expressions stand for. What can change is kept elsewhere, and has an index. -/
inductive Value
  | none
  | truth (b : Bool)
  | whole (n : Int)
  | fraction (d : Decimal)
  | text (s : String)
  | bytes (s : Octets)
  | tuple (items : List Value)
  | ellipsis
  | range (start stop step : Int)
  /-- A path as an object. -/
  | path (s : String)
  /-- A class that is always there. -/
  | kind (name : String)
  /-- A function that is always there, by its full name. -/
  | native (name : String)
  | module (name : String)
  /-- A function of a value that is always there. -/
  | bound (self : Value) (name : String)
  /-- A function that a program defines for the values of a class, with such a value. -/
  | method (self function : Value)
  | object (index : Nat)
deriving Inhabited

/-- A function of a program. Values that parameters have of themselves are found where it is defined. -/
structure Function where
  name : String
  parameters : Parameters
  defaults : List (String × Value)
  names : Names
  body : List Statement
  /-- What a short function gives. -/
  result? : Option Expr
  scope : Nat

/-- A class of a program. -/
structure Class where
  name : String
  bases : List Value
  members : List (String × Value)

/-- A call that is under way, and where it stands: what is worked at, and the sign or the brackets in it that this is
about. -/
structure Frame where
  name : String
  span : Span
  sign? : Option Span
  /-- The file of the call, if that is not the program. Its lines are not told. -/
  file? : Option String

/-- An error that was made. -/
structure Trouble where
  kind : Value
  arguments : List Value
  fields : List (String × Value)
  /-- The calls that were under way when it was raised, the outermost one first. -/
  trace : List Frame
  cause? : Option Value
  /-- The error that was being handled then. -/
  context? : Option Value

/-- An open file. -/
structure Stream where
  name : Value
  mode : String
  descriptor : Nat
  isBinary : Bool
  isClosed : Bool
  /-- What is written and not passed on yet, last part first, if writing waits. -/
  pending? : Option (List Octets)

/-- What is left to go through. -/
inductive Passage
  | items (rest : List Value)
  /-- The elements of something from an index on. -/
  | elements (source : Value) (index : Nat)
  | lines (stream : Value)
  /-- A function of a program whose results are gone through, and that was not started yet. -/
  | pending (function : Function) (bindings : List (String × Value))
  /-- An error after all else. -/
  | failing (rest : List Value) (error : Value)
  /-- A value of a class of a program that tells what comes next. -/
  | asked (source : Value)
  /-- The values that an expression has for what loops within each other go through: each loop with its tests, and
  what the loops that were entered still have, the innermost one first. -/
  | gathering (scope : Nat) (isNamed : Bool) (element : Expr) (loops : List (Expr × Expr × List Expr))
      (entered : List Value)

inductive Object
  | list (items : Array Value)
  /-- A table, the name of its class, and what makes values that are missing. -/
  | table (kind : String) (entries : List (Value × Value)) (missing : Value)
  | set (isFrozen : Bool) (items : List Value)
  | function (f : Function)
  | classOf (c : Class)
  | instance (kind : Value) (fields : List (String × Value))
  | trouble (t : Trouble)
  | stream (s : Stream)
  | passage (p : Passage)

instance : Inhabited Object := ⟨.list #[]⟩

/-- What the names in a part of a program belong to. -/
inductive ScopeKind
  | program
  | function
  | classBody
  | gathering
deriving DecidableEq, Repr

structure Scope where
  kind : ScopeKind
  names : Names
  values : List (String × Value)
  parent? : Option Nat

/-- Why a program does not go on with its next statement. -/
inductive Stop
  | raised (error : Value)
  | gaveBack (result : Value)
  | left
  | next
  | jumped (jump : Shell.Jump)

/-- A program that runs. -/
structure Machine where
  objects : Array Object
  scopes : Array Scope
  scope : Nat
  /-- The calls that are under way, the innermost one first. -/
  frames : List Frame
  /-- The errors that are being handled, the latest one first. -/
  handled : List Value
  /-- What functions gave to what goes through their results, the innermost one first. -/
  yielded : List (Array Value)
  /-- The name of the program, and its lines. -/
  file : String
  lines : List String
  arguments : List String
  nextDescriptor : Nat
  /-- What is done at the end. -/
  farewells : List (Value × List Value)

abbrev RunM := ExceptT Stop (StateT Machine (StateM Shell.State))

/-- The arguments of a call. -/
structure Given where
  plain : List Value
  named : List (String × Value)

/-- The argument of a call by its place or its name. -/
def Given.argument? (g : Given) (index : Nat) (name : String) : Option Value :=
  g.plain[index]? <|> (g.named.find? (·.1 == name)).map (·.2)

/-- What runs what stands within something. -/
structure Runner where
  /-- How often a loop may go round, and how deep a value may be. -/
  fuel : Nat
  eval : Expr → RunM Value
  run : List Statement → RunM Unit
  call : Value → Given → RunM Value
  /-- What a function gives to what goes through its results, and the error that it ends with, if it does. -/
  results : Function → List (String × Value) → RunM (List Value × Option Value)
  /-- The next value that an expression has, for loops at an index. -/
  advance : Nat → RunM (Option Value)
  /-- Runs a program of the machine with words, and gives how it ends. -/
  spawn : List Octets → Shell.ShellM (Except FileFault Shell.Ending)

namespace RunM

/-- Work of the process that the program runs in. -/
def onShell {α : Type} (work : Shell.ShellM α) : RunM α := do
  let s ← getThe Shell.State
  let (outcome, s) := work.run s
  set s
  match outcome with
  | .ok a => pure a
  | .error jump => throw (.jumped jump)

def machine : RunM Machine := getThe Machine

def modifyMachine (change : Machine → Machine) : RunM Unit :=
  modifyThe Machine change

/-- Keeps something that can change. -/
def make (o : Object) : RunM Value := do
  let m ← machine
  modifyMachine fun m => { m with objects := m.objects.push o }
  pure (.object m.objects.size)

def objectAt (index : Nat) : RunM Object := do
  return (← machine).objects[index]?.getD default

def setObject (index : Nat) (o : Object) : RunM Unit :=
  modifyMachine fun m => { m with objects := m.objects.setIfInBounds index o }

def makeList (items : List Value) : RunM Value :=
  make (.list items.toArray)

def makeTable (entries : List (Value × Value)) : RunM Value :=
  make (.table "dict" entries .none)

/-- Raises an error of a class with arguments and fields. -/
def raiseWith {α : Type} (kind : String) (arguments : List Value) (fields : List (String × Value)) : RunM α := do
  let m ← machine
  let error ← make (.trouble ⟨.kind kind, arguments, fields, m.frames.reverse, none, m.handled.head?⟩)
  throw (.raised error)

def raise {α : Type} (kind message : String) : RunM α :=
  raiseWith kind [.text message] []

/-- Raises an error about a file. -/
def raiseFault {α : Type} (fault : FileFault) (paths : List Value) : RunM α :=
  let kind := match fault with
    | .notFound => "FileNotFoundError"
    | .permissionDenied | .notPermitted => "PermissionError"
    | .alreadyExists => "FileExistsError"
    | .notADirectory => "NotADirectoryError"
    | .isADirectory => "IsADirectoryError"
    | _ => "OSError"
  let number : Value := .whole (fault.number?.getD 0)
  match fault with
  | .nulInName => raise "ValueError" "embedded null byte"
  | _ =>
    raiseWith kind [number, .text fault.text]
      ([("errno", number), ("strerror", .text fault.text), ("filename", paths.headD .none)] ++
        ((paths.drop 1).head?.map fun p => ("filename2", p)).toList)

/-- Work on files. What fails is told with the paths that are given. -/
def onFiles {α : Type} (paths : List Value) (work : FileM α) : RunM α := do
  match ← onShell (Shell.ShellM.onFiles work) with
  | .ok a => pure a
  | .error fault => raiseFault fault paths

/-- Work that stands at a place in the innermost call. -/
def standing {α : Type} (span : Span) (work : RunM α) : RunM α := do
  modifyMachine fun m => match m.frames with
    | frame :: outer => { m with frames := { frame with span, sign? := none } :: outer }
    | [] => m
  work

/-- Work of a function that is always there, at a line of its file. -/
def inLibrary {α : Type} (file name : String) (line : Nat) (work : RunM α) : RunM α := do
  let before := (← machine).frames
  let frame : Frame := ⟨name, { (default : Span) with line }, none, some file⟩
  modifyMachine fun m => { m with frames := frame :: before }
  let result ← tryCatch work fun stop => do
    modifyMachine fun m => { m with frames := before }
    throw stop
  modifyMachine fun m => { m with frames := before }
  pure result

/-- Work at a sign in something that stands at a place in the innermost call. -/
def standingAt {α : Type} (span sign : Span) (work : RunM α) : RunM α := do
  modifyMachine fun m => match m.frames with
    | frame :: outer => { m with frames := { frame with span, sign? := some sign } :: outer }
    | [] => m
  work

end RunM

namespace Value

mutual

/-- Whether two values are one and the same. What cannot change is so if it looks the same. -/
def isSame : Value → Value → Bool
  | .none, .none => true
  | .truth a, .truth b => a = b
  | .whole a, .whole b => a = b
  | .fraction a, .fraction b => a = b
  | .text a, .text b => a = b
  | .bytes a, .bytes b => a = b
  | .tuple as, .tuple bs => areSame as bs
  | .ellipsis, .ellipsis => true
  | .range a b c, .range d e f => a = d && b = e && c = f
  | .path a, .path b => a = b
  | .kind a, .kind b => a = b
  | .native a, .native b => a = b
  | .module a, .module b => a = b
  | .bound a m, .bound b n => isSame a b && m = n
  | .method a f, .method b g => isSame a b && isSame f g
  | .object a, .object b => a = b
  | _, _ => false

def areSame : List Value → List Value → Bool
  | [], [] => true
  | a :: as, b :: bs => isSame a b && areSame as bs
  | _, _ => false

end

end Value

namespace Kind

/-- Classes of errors, each with the one that it belongs to. -/
def troubles : List (String × String) :=
  [("BaseException", "object"), ("Exception", "BaseException"), ("SystemExit", "BaseException"),
    ("KeyboardInterrupt", "BaseException"), ("GeneratorExit", "BaseException"), ("ArithmeticError", "Exception"),
    ("ZeroDivisionError", "ArithmeticError"), ("OverflowError", "ArithmeticError"),
    ("FloatingPointError", "ArithmeticError"), ("AssertionError", "Exception"), ("AttributeError", "Exception"),
    ("BufferError", "Exception"), ("EOFError", "Exception"), ("ImportError", "Exception"),
    ("ModuleNotFoundError", "ImportError"), ("LookupError", "Exception"), ("IndexError", "LookupError"),
    ("KeyError", "LookupError"), ("MemoryError", "Exception"), ("NameError", "Exception"),
    ("UnboundLocalError", "NameError"), ("OSError", "Exception"), ("BlockingIOError", "OSError"),
    ("ChildProcessError", "OSError"), ("ConnectionError", "OSError"), ("BrokenPipeError", "ConnectionError"),
    ("FileExistsError", "OSError"), ("FileNotFoundError", "OSError"), ("InterruptedError", "OSError"),
    ("IsADirectoryError", "OSError"), ("NotADirectoryError", "OSError"), ("PermissionError", "OSError"),
    ("ProcessLookupError", "OSError"), ("TimeoutError", "OSError"), ("RuntimeError", "Exception"),
    ("NotImplementedError", "RuntimeError"), ("RecursionError", "RuntimeError"), ("StopIteration", "Exception"),
    ("SyntaxError", "Exception"), ("IndentationError", "SyntaxError"), ("TabError", "IndentationError"),
    ("SystemError", "Exception"), ("TypeError", "Exception"), ("ValueError", "Exception"),
    ("UnicodeError", "ValueError"), ("UnicodeDecodeError", "UnicodeError"), ("UnicodeEncodeError", "UnicodeError"),
    ("Warning", "Exception"), ("DeprecationWarning", "Warning"), ("RuntimeWarning", "Warning"),
    ("UserWarning", "Warning"), ("subprocess.SubprocessError", "Exception"),
    ("subprocess.CalledProcessError", "subprocess.SubprocessError"),
    ("subprocess.TimeoutExpired", "subprocess.SubprocessError"), ("shutil.Error", "OSError"),
    ("shutil.SameFileError", "shutil.Error"), ("json.decoder.JSONDecodeError", "ValueError"),
    ("io.UnsupportedOperation", "OSError"), ("argparse.ArgumentError", "Exception"), ("re.error", "Exception")]

/-- Classes of other values that belong to one besides that of all values. -/
def parents : List (String × String) :=
  troubles ++ [("bool", "int"), ("defaultdict", "dict"), ("OrderedDict", "dict"), ("Counter", "dict"),
    ("PosixPath", "Path"), ("Path", "PurePosixPath"), ("PurePosixPath", "PurePath"),
    ("_io.TextIOWrapper", "_io._TextIOBase")]

/-- The names of classes of values that programs can use without more. -/
def builtins : List String :=
  ["object", "type", "int", "bool", "float", "complex", "str", "bytes", "bytearray", "list", "tuple", "dict", "set",
    "frozenset", "range", "enumerate", "zip", "map", "filter", "reversed", "property", "staticmethod",
    "classmethod", "super", "slice"] ++ (troubles.map (·.1)).filter fun n => !n.contains '.'

/-- The name of a class without the module that it belongs to. -/
def shortName (name : String) : String :=
  (name.splitOn ".").getLastD name

def isTrouble (name : String) : Bool :=
  troubles.any (·.1 == name)

/-- The class of the errors of files that have a number. -/
def ofErrorNumber? : Nat → Option String
  | 1 | 13 => some "PermissionError"
  | 2 => some "FileNotFoundError"
  | 3 => some "ProcessLookupError"
  | 17 => some "FileExistsError"
  | 20 => some "NotADirectoryError"
  | 21 => some "IsADirectoryError"
  | 32 => some "BrokenPipeError"
  | 110 => some "TimeoutError"
  | _ => none

/-- A class that is always there and all that it belongs to. -/
def chain : Nat → String → List String
  | 0, name => [name]
  | n + 1, name =>
    match parents.find? (·.1 == name) with
    | some (_, parent) => name :: chain n parent
    | none => if name = "object" then [name] else [name, "object"]

end Kind

namespace RunM

/-- The class of a value. -/
def kindOf (v : Value) : RunM Value := do
  match v with
  | .none => pure (.kind "NoneType")
  | .truth _ => pure (.kind "bool")
  | .whole _ => pure (.kind "int")
  | .fraction _ => pure (.kind "float")
  | .text _ => pure (.kind "str")
  | .bytes _ => pure (.kind "bytes")
  | .tuple _ => pure (.kind "tuple")
  | .ellipsis => pure (.kind "ellipsis")
  | .range .. => pure (.kind "range")
  | .path _ => pure (.kind "PosixPath")
  | .kind _ => pure (.kind "type")
  | .native _ | .bound .. => pure (.kind "builtin_function_or_method")
  | .module _ => pure (.kind "module")
  | .method .. => pure (.kind "method")
  | .object i =>
    match ← objectAt i with
    | .list _ => pure (.kind "list")
    | .table kind .. => pure (.kind kind)
    | .set isFrozen _ => pure (.kind (if isFrozen then "frozenset" else "set"))
    | .function _ => pure (.kind "function")
    | .classOf _ => pure (.kind "type")
    | .instance kind _ => pure kind
    | .trouble t => pure t.kind
    | .stream s =>
      pure (.kind (if !s.isBinary then "_io.TextIOWrapper"
        else if s.mode.contains 'r' then "_io.BufferedReader" else "_io.BufferedWriter"))
    | .passage (.pending ..) | .passage (.items _) | .passage (.failing ..) | .passage (.gathering ..) =>
      pure (.kind "generator")
    | .passage _ => pure (.kind "list_iterator")

/-- The name of a class. -/
def nameOfKind (kind : Value) : RunM String := do
  match kind with
  | .kind name => pure name
  | .object i =>
    match ← objectAt i with
    | .classOf c => pure c.name
    | _ => pure "object"
  | _ => pure "object"

/-- The name of the class of a value. -/
def kindName (v : Value) : RunM String := do
  nameOfKind (← kindOf v)

/-- A class and all that it belongs to, the closest ones first. -/
def ancestors : Nat → Value → RunM (List Value)
  | 0, kind => pure [kind]
  | n + 1, kind => do
    match kind with
    | .kind name => pure ((Kind.chain 8 name).map .kind)
    | .object i =>
      match ← objectAt i with
      | .classOf c =>
        let above ← c.bases.mapM (ancestors n)
        let all := kind :: above.flatten
        -- what stands more than once counts where it stands last
        pure (all.foldr (fun k kept => if kept.any k.isSame then kept else k :: kept) [])
      | _ => pure [kind]
    | _ => pure [kind]

def isOfKind (v kind : Value) : RunM Bool := do
  return (← ancestors 16 (← kindOf v)).any kind.isSame

/-- What a class of a program gives its values under a name. -/
def member? (kind : Value) (name : String) : RunM (Option Value) := do
  match kind with
  | .kind _ => pure none
  | _ =>
    (← ancestors 16 kind).findSomeM? fun k => do
      match k with
      | .object i =>
        match ← objectAt i with
        | .classOf c => pure ((c.members.find? (·.1 == name)).map (·.2))
        | _ => pure none
      | _ => pure none

/-- What the class of a value gives it under a name, if the class belongs to a program. -/
def special? (v : Value) (name : String) : RunM (Option Value) := do
  match v with
  | .object i =>
    match ← objectAt i with
    | .instance kind _ => member? kind name
    | .trouble t => member? t.kind name
    | _ => pure none
  | _ => pure none

end RunM

end ReleaseMatrix.Indented
