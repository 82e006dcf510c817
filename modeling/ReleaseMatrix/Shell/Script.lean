namespace ReleaseMatrix.Shell

def isNameStart (c : Char) : Bool :=
  c.isAlpha || c == '_'

def isNameChar (c : Char) : Bool :=
  c.isAlphanum || c == '_'

/-- Whether a text is the name of a variable. -/
def isName (cs : List Char) : Bool :=
  cs.head?.any isNameStart && cs.all isNameChar

/-- What a redirection does with its descriptor. -/
inductive RedirectionMode
  | read
  | write
  /-- Writing, even where files that are there are protected. -/
  | replace
  | append
  | readWrite
  /-- The descriptor becomes another name of an open one. -/
  | duplicate
  /-- The descriptor reads a text that stands in the script. -/
  | document (number : Nat)
  /-- The descriptor reads the target itself as a line. -/
  | line
  /-- What is written and what is complained about go to one file. -/
  | writeBoth
  | appendBoth
deriving DecidableEq, Repr

/-- Where a text may take the place of what a pattern matches. -/
inductive MatchPlace
  | first
  | everywhere
  | atStart
  | atEnd
deriving DecidableEq, Repr

/-- What becomes of letters. -/
inductive LetterCase
  | upper
  | lower
  | opposite
deriving DecidableEq, Repr

/-- How the commands of an arm end. -/
inductive ArmEnd
  | stop
  /-- The commands of the next arm follow. -/
  | fallThrough
  /-- The arms after it are tried too. -/
  | goOn
deriving DecidableEq, Repr

mutual

/-- A piece of a word. What is quoted is neither split nor matched against file names. -/
inductive WordPart
  | text (chars : List Char) (isQuoted : Bool)
  /-- Quotes were here, so that the word is a field even if it is empty. -/
  | mark
  | parameter (subject : Subject) (change : Change) (isQuoted : Bool)
  | output (body? : Option Command) (isQuoted : Bool)
  | arithmetic (inner : List WordPart) (isQuoted : Bool)
  /-- The path of a pipe that commands write to, or read from. -/
  | pipePath (isRead : Bool) (body? : Option Command)
  /-- The index of the element that is assigned to. -/
  | index (inner : List WordPart)
  /-- The elements of a list or a table, some of them with an index or a key, of which some are added to. They are
  told as they are written too. -/
  | elements (items : List (Option (List WordPart) × Bool × List WordPart)) (source : String)

/-- What an expansion takes its value from. -/
inductive Subject
  | name (name : String)
  /-- One element of a list or a table. -/
  | element (name : String) (index : List WordPart)
  /-- All elements of a list or a table, which stay apart even within quotes or do not. -/
  | elements (name : String) (staysApart : Bool)
  /-- The indices or keys of all elements. -/
  | keys (name : String) (staysApart : Bool)
  /-- The parameter that the value of another one names. -/
  | named (subject : Subject)
  /-- The names of all variables that start in the same way. -/
  | namesFrom (start : String) (staysApart : Bool)

/-- What happens to the value of a parameter before it takes the place of the parameter. -/
inductive Change
  | same
  | length
  /-- A word stands in, is assigned or is a complaint if the parameter is unset, or empty too. -/
  | instead (mark : Char) (orEmpty : Bool) (word : List WordPart)
  /-- What matches the pattern is taken off one end. -/
  | strip (fromEnd longest : Bool) (pattern : List WordPart)
  /-- The part from an offset on, of some length if that is told. -/
  | part (offset : List WordPart) (length? : Option (List WordPart))
  /-- A text takes the place of what the pattern matches. -/
  | replace (place : MatchPlace) (pattern text : List WordPart)
  /-- The letters that the pattern matches are changed, or only the first one. -/
  | recase (letters : LetterCase) (all : Bool) (pattern : List WordPart)
  /-- A change with a letter for its name. -/
  | transform (letter : Char)
  /-- There is no such change. The expansion is told as it was written. -/
  | bad (source : String)

/-- A redirection, with its target also as it is written. -/
inductive Redirection
  | mk (descriptor : Nat) (mode : RedirectionMode) (target : List WordPart) (source : String)

/-- A variable, or an element of one, and what it is set to. -/
inductive Assignment
  | mk (name : String) (index? : Option (List WordPart)) (appends : Bool) (value : List WordPart)

/-- A test of words. -/
inductive Condition
  | unary (sign : String) (operand : List WordPart)
  | binary (sign : String) (first second : List WordPart)
  | negation (condition : Condition)
  | both (first second : Condition)
  | either (first second : Condition)

/-- A command, with the line that it starts on where that is told in messages. -/
inductive Command
  | simple (line : Nat) (assignments : List Assignment) (words : List (List WordPart))
      (redirections : List Redirection)
  | sequence (first second : Command)
  | both (first second : Command)
  | either (first second : Command)
  | negation (body : Command)
  | pipe (parts : List Command)
  | background (body : Command)
  | branch (test positive : Command) (negative? : Option Command)
  | loop (isUntil : Bool) (test body : Command)
  /-- The words are missing if they are the arguments of the script. They are told as they are written too. -/
  | each (line : Nat) (name : String) (words? : Option (List (List WordPart))) (source : String) (body : Command)
  | choice (line : Nat) (subject : List WordPart) (source : String)
      (arms : List (List (List WordPart) × Option Command × ArmEnd))
  /-- One word after the other is chosen by what is read. -/
  | selection (line : Nat) (name : String) (words? : Option (List (List WordPart))) (source : String)
      (body : Command)
  /-- A loop that is steered by expressions. -/
  | counting (line : Nat) (start test step : List WordPart) (body : Command)
  | calculation (line : Nat) (expression : List WordPart)
  | condition (line : Nat) (condition : Condition)
  /-- The time that the command takes is told. -/
  | timed (isPlain : Bool) (body? : Option Command)
  | subshell (line : Nat) (body : Command) (redirections : List Redirection)
  | redirected (line : Nat) (body : Command) (redirections : List Redirection)
  | define (name : String) (body : Command)

end

abbrev Word := List WordPart

namespace Redirection

def descriptor : Redirection → Nat
  | mk descriptor .. => descriptor

def mode : Redirection → RedirectionMode
  | mk _ mode .. => mode

def target : Redirection → Word
  | mk _ _ target _ => target

def source : Redirection → String
  | mk _ _ _ source => source

end Redirection

namespace Assignment

def name : Assignment → String
  | mk name .. => name

def index? : Assignment → Option Word
  | mk _ index? _ _ => index?

def appends : Assignment → Bool
  | mk _ _ appends _ => appends

def value : Assignment → Word
  | mk _ _ _ value => value

end Assignment

end ReleaseMatrix.Shell
