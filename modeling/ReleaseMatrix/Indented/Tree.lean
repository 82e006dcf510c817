import ReleaseMatrix.Indented.Token
import ReleaseMatrix.Shell.Number

namespace ReleaseMatrix.Indented

/-- A value that is written as such in a program. -/
inductive Constant
  | none
  | truth (b : Bool)
  | whole (n : Int)
  | fraction (d : Shell.Decimal)
  | text (s : String)
  /-- Bytes, one to a character. -/
  | bytes (s : String)
  | ellipsis
deriving DecidableEq, Repr

/-- What is done with one value. -/
inductive UnaryOperator
  | not
  | negate
  | keep
  | invert
deriving DecidableEq, Repr

/-- What is done with two values. -/
inductive BinaryOperator
  | add
  | subtract
  | multiply
  | divide
  | floorDivide
  | remainder
  | power
  | shiftLeft
  | shiftRight
  | bitAnd
  | bitOr
  | bitXor
  | matrixMultiply
deriving DecidableEq, Repr

def BinaryOperator.sign : BinaryOperator → String
  | add => "+"
  | subtract => "-"
  | multiply => "*"
  | divide => "/"
  | floorDivide => "//"
  | remainder => "%"
  | power => "** or pow()"
  | shiftLeft => "<<"
  | shiftRight => ">>"
  | bitAnd => "&"
  | bitOr => "|"
  | bitXor => "^"
  | matrixMultiply => "@"

/-- How two values are compared. -/
inductive Comparison
  | equal
  | different
  | less
  | lessEqual
  | greater
  | greaterEqual
  | isIn
  | isNotIn
  | same
  | notSame
deriving DecidableEq, Repr

/-- What a comprehension makes of its elements. -/
inductive Gathering
  | list
  | set
  | generator
deriving DecidableEq, Repr

mutual

inductive Expr
  | constant (c : Constant)
  | template (parts : List TemplatePart)
  | name (span : Span) (name : String)
  | tuple (items : List Expr)
  | list (items : List Expr)
  | set (items : List Expr)
  /-- A table. Where there is no key, the entries of another table are meant. -/
  | table (entries : List (Option Expr × Expr))
  | starred (e : Expr)
  | gather (kind : Gathering) (element : Expr) (clauses : List Clause)
  | gatherTable (key value : Expr) (clauses : List Clause)
  | unary (span : Span) (op : UnaryOperator) (e : Expr)
  /-- Two values with a sign between them, which stands somewhere too. -/
  | binary (span sign : Span) (op : BinaryOperator) (a b : Expr)
  | both (a b : Expr)
  | either (a b : Expr)
  | compare (span : Span) (first : Expr) (rest : List (Comparison × Expr))
  | choice (test yes no : Expr)
  | lambda (parameters : Parameters) (body : Expr)
  | call (span : Span) (callee : Expr) (arguments : List Argument)
  | attribute (span : Span) (e : Expr) (name : String)
  /-- An element under an index in brackets. -/
  | item (span brackets : Span) (e index : Expr)
  | slice (start stop step : Option Expr)
  | assigned (name : String) (e : Expr)
  /-- Gives a value to what goes through the results of a function. -/
  | yield (e : Option Expr)
  | yieldAll (e : Expr)

/-- A part of a text: one that stands for itself, or a value with how it is shown. -/
inductive TemplatePart
  | text (s : String)
  | value (e : Expr) (conversion? : Option Char) (layout : List TemplatePart)

/-- A part of a comprehension after its element. -/
inductive Clause
  | each (target source : Expr)
  | only (test : Expr)

inductive Argument
  | plain (e : Expr)
  | named (name : String) (e : Expr)
  | all (e : Expr)
  | allNamed (e : Expr)

/-- How a function takes its arguments. -/
inductive Parameters
  | mk (positional : List (String × Option Expr)) (rest? : Option String)
      (named : List (String × Option Expr)) (namedRest? : Option String)

end

instance : Inhabited Expr := ⟨.constant .none⟩

/-- The names that belong to a function itself, and the ones that belong to the program or to functions around it. -/
structure Names where
  own : List String
  program : List String
  outer : List String
  /-- Whether its results are gone through one by one. -/
  yields : Bool
deriving Inhabited

mutual

inductive Statement
  | expression (span : Span) (e : Expr)
  | assign (span : Span) (targets : List Expr) (value : Expr)
  | augment (span : Span) (op : BinaryOperator) (target value : Expr)
  /-- Modules by their paths, and the names that are given to them. -/
  | load (span : Span) (modules : List (String × Option String))
  | loadFrom (span : Span) (path : String) (names : List (String × Option String))
  | branch (span : Span) (test : Expr) (yes no : List Statement)
  | loop (span : Span) (test : Expr) (body otherwise : List Statement)
  | each (span : Span) (target source : Expr) (body otherwise : List Statement)
  | define (span : Span) (name : String) (parameters : Parameters) (decorators : List Expr) (names : Names)
      (body : List Statement)
  | defineClass (span : Span) (name : String) (bases : List Argument) (decorators : List Expr) (body : List Statement)
  | giveBack (span : Span) (e : Option Expr)
  | raise (span : Span) (e cause : Option Expr)
  | attempt (body : List Statement) (handlers : List Handler) (otherwise final : List Statement)
  | within (span : Span) (items : List (Expr × Option Expr)) (body : List Statement)
  | require (span place : Span) (test : Expr) (message? : Option Expr)
  | delete (span : Span) (targets : List Expr)
  | skip
  | leave
  | next

/-- What is done about errors of some classes. -/
inductive Handler
  | mk (span : Span) (kind : Option Expr) (name : Option String) (body : List Statement)

end

end ReleaseMatrix.Indented
