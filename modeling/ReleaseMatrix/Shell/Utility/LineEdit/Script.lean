import ReleaseMatrix.Regex.Reader
import ReleaseMatrix.Shell.Value

namespace ReleaseMatrix.Shell.LineEdit

/-- A pattern as a script gives it. Without one, the pattern that was used last is meant. -/
structure Pattern where
  regex? : Option Regex
  foldsCase : Bool
  hasLines : Bool

/-- What says which lines a command is for. -/
inductive Address
  | line (number : Nat)
  | last
  | pattern (p : Pattern)
  /-- Every so manieth line from a first one on. -/
  | steps (first step : Nat)
  /-- So many lines after the start of a range. -/
  | plus (count : Nat)
  /-- The next line whose number is a multiple. -/
  | multiple (of : Nat)

/-- How letters are changed that take the place of others. -/
inductive Casing
  | upper
  | lower
  | upperNext
  | lowerNext
  | plain
deriving DecidableEq, Repr

/-- What takes the place of a match: texts, groups of the match, and changes of letters. -/
inductive Part
  | text (chars : List Char)
  | group (index : Nat)
  | casing (c : Casing)

structure Substitution where
  pattern : Pattern
  parts : List Part
  /-- Whether all matches are replaced, from the one with the number on. -/
  isGlobal : Bool
  number : Nat
  prints : Bool
  writesTo? : Option Octets

inductive Action
  | nothing
  /-- The commands up to the end of the block are for the same lines. -/
  | openBlock
  | closeBlock
  | label (name : String)
  | jump (name : String)
  /-- A jump if something was replaced since the last line was read, or if nothing was. -/
  | jumpIf (wasReplaced : Bool) (name : String)
  | append (text : List Char)
  | insert (text : List Char)
  | change (text : List Char)
  | delete
  | deleteLine
  | print
  | printLine
  | next
  | appendNext
  | hold
  | appendHold
  | get
  | appendGet
  | exchange
  | quit (prints : Bool) (status : Nat)
  | showNumber
  | showName
  | showVisibly (width? : Option Nat)
  | clear
  | substitute (s : Substitution)
  | mapChars (pairs : List (Char × Char))
  | readFile (path : Octets)
  | readLine (path : Octets)
  | writeFile (path : Octets)
  | writeLine (path : Octets)

structure Command where
  first? : Option Address
  second? : Option Address
  isNegated : Bool
  action : Action

/-- A script is read as a list of texts: the words of options, or files. -/
inductive Origin
  | word (number : Nat)
  | file (path : Octets)

/-- What is wrong with a script. The characters read, or the line reached, are told unless only the message is. -/
structure Fault where
  origin : Origin
  read : Nat
  line : Nat
  message : String
  isBare : Bool

/-- The complaint about a script. -/
def Fault.text (f : Fault) : Octets :=
  if f.isBare then f.message
  else match f.origin with
    | .word number => "-e expression #" ++ toString number ++ ", char " ++ toString f.read ++ ": " ++ f.message
    | .file path => "file " ++ path ++ " line " ++ toString f.line ++ ": " ++ f.message

/-- The paths that a script writes to. -/
def writtenPaths (commands : List Command) : List Octets :=
  (commands.filterMap fun c => match c.action with
    | .substitute s => s.writesTo?
    | .writeFile path | .writeLine path => some path
    | _ => none).eraseDups

end ReleaseMatrix.Shell.LineEdit
