import ReleaseMatrix.Shell.Value
import ReleaseMatrix.Shell.Script

namespace ReleaseMatrix.Shell

/-- What the grammar of commands is made of. -/
inductive Token
  | endOfInput
  | newline
  | semicolon
  | background
  | both
  | either
  /-- A bar, after which complaints may go through the pipe too. -/
  | pipe (isForAll : Bool)
  | opening
  | closing
  | endOfArm (ending : ArmEnd)
  | redirection (descriptor : Nat) (mode : RedirectionMode)
  /-- A redirection to a text in the script, which may lose the tabs at the start of its lines. -/
  | document (descriptor : Nat) (dropsTabs : Bool)
  | word (word : Word)
  | reserved (name : String)

namespace Token

/-- The words that mean something to the grammar where a command may start. -/
def reservedWords (isExtended : Bool) : List String :=
  ["!", "case", "do", "done", "elif", "else", "esac", "fi", "for", "if", "in", "then", "until", "while",
    "\x7b", "\x7d"] ++ if isExtended then ["function", "select", "time", "[[", "]]"] else []

/-- The token as complaints name it. -/
def describe : Token → String
  | endOfInput => "end of file"
  | newline => "newline"
  | semicolon => "\";\""
  | background => "\"&\""
  | both => "\"&&\""
  | either => "\"||\""
  | pipe _ => "\"|\""
  | opening => "\"(\""
  | closing => "\")\""
  | endOfArm _ => "\";;\""
  | redirection .. | document .. => "redirection"
  | word _ => "word"
  | reserved name => "\"" ++ name ++ "\""

/-- Whether the token ends a list of commands within another command. -/
def endsList : Token → Bool
  | endOfInput | closing | endOfArm _ => true
  | reserved name => name ∈ ["do", "done", "elif", "else", "esac", "fi", "then", "\x7d"]
  | _ => false

/-- The token that a word is where reserved words are looked for. -/
def orReserved (isExtended : Bool) : Token → Token
  | word [.text chars false] =>
    let name := String.ofList chars
    if name ∈ reservedWords isExtended then reserved name else word [.text chars false]
  | t => t

end Token

/-- A text in the script that is announced and still to come. -/
structure Announced where
  number : Nat
  delimiter : List Char
  dropsTabs : Bool
  /-- Whether the text is expanded. -/
  expands : Bool
  /-- The line on which it is announced. -/
  line : Nat

/-- A word that stands for others, which are being read in its place. -/
structure Substitution where
  word : List Char
  /-- How much of the script is left after them. -/
  left : Nat
  /-- Whether a blank ends them. The word after them may stand for others too then. -/
  endsInBlank : Bool

/-- A script that is being read. -/
structure Source where
  rest : List Char
  line : Nat
  /-- A token that was read and given back. -/
  pushed? : Option Token
  announced : List Announced
  /-- The texts that were read, by their numbers. -/
  documents : List (Nat × Word)
  /-- How many texts were announced so far. -/
  documentCount : Nat
  /-- What words stand for. -/
  aliases : List (String × Octets)
  substitutions : List Substitution
  /-- Whether the next word may stand for others wherever it is. -/
  isInviting : Bool
  /-- Whether the extended language is read. -/
  isExtended : Bool
  /-- Whether words may hold groups of patterns. -/
  hasGroups : Bool
  /-- The last token as it is written. -/
  tokenText : List Char
  /-- The lines on which what is being read was opened, the innermost one first. -/
  openings : List Nat
  /-- What is odd but not wrong, each with its line. -/
  warnings : List (Nat × Octets)

namespace Source

/-- A script before it is read. -/
def start (text : Octets) (line : Nat) : Source where
  rest := text.toList
  line
  pushed? := none
  announced := []
  documents := []
  documentCount := 0
  aliases := []
  substitutions := []
  isInviting := false
  isExtended := false
  hasGroups := false
  tokenText := []
  openings := []
  warnings := []

/-- The script without backslashes that continue the line here, and the line reached. -/
def joinLines : List Char → Nat → List Char × Nat
  | '\\' :: '\n' :: rest, line => joinLines rest (line + 1)
  | cs, line => (cs, line)

/-- The script without blanks and a comment here, and the line reached. -/
def dropBlanks : List Char → Nat → List Char × Nat
  | '\\' :: '\n' :: rest, line => dropBlanks rest (line + 1)
  | ' ' :: rest, line => dropBlanks rest line
  | '\t' :: rest, line => dropBlanks rest line
  | '#' :: rest, line => (rest.dropWhile (· ≠ '\n'), line)
  | cs, line => (cs, line)

def moveTo (s : Source) (place : List Char × Nat) : Source :=
  { s with rest := place.1, line := place.2 }

/-- The source where lines that are continued here are joined. -/
def settle (s : Source) : Source :=
  s.moveTo (joinLines s.rest s.line)

/-- The source after blanks here. -/
def skipBlanks (s : Source) : Source :=
  let next := s.moveTo (dropBlanks s.rest s.line)
  { next with isInviting := s.substitutions.any fun w =>
      w.endsInBlank && next.rest.length ≤ w.left && w.left < s.rest.length }

/-- What a word that was just read stands for, unless it is being read in its own place. -/
def meaningOf? (s : Source) (word : List Char) : Option (List Char) :=
  if s.substitutions.any fun w => w.word = word && w.left ≤ s.rest.length then none
  else (s.aliases.find? (·.1 == String.ofList word)).map (·.2.toList)

/-- The source where others are read in place of a word that was just read. -/
def substitute (s : Source) (word meaning : List Char) : Source :=
  let isBlank (c : Char) : Bool := c = ' ' || c = '\t'
  { s with
    rest := meaning ++ s.rest
    substitutions :=
      ⟨word, s.rest.length, meaning.getLast?.any isBlank⟩ ::
        s.substitutions.filter fun w => w.left ≤ s.rest.length }

end Source

/-- What is wrong with a script. -/
structure ReadError where
  /-- The line up to which it was read. -/
  line : Nat
  /-- How much of it was left then. -/
  left : Nat
  messages : List String
  /-- Whether the line is shown too. -/
  showsLine : Bool
  /-- The exit status of the script then. -/
  status : Nat
deriving DecidableEq, Repr

abbrev ReadM := StateT Source (Except ReadError)

namespace ReadM

def fail {α : Type} (message : String) : ReadM α := do
  let s ← get
  throw ⟨s.line, s.rest.length, [message], false, 2⟩

/-- Fails because what a sign opened has no end. -/
def failOpen {α : Type} (closing : String) : ReadM α := do
  let s ← get
  throw ⟨s.openings.headD s.line, s.rest.length,
    ["unexpected EOF while looking for matching \x60" ++ closing ++ "'"], false, 2⟩

/-- Reads the elements of a list. What is wrong with them fails as a command does, and not as a script. -/
def inList {α : Type} (read : ReadM α) : ReadM α :=
  tryCatch read fun e => throw { e with status := 1 }

/-- Reads what is opened on this line. -/
def opened {α : Type} (read : ReadM α) : ReadM α := do
  modify fun s => { s with openings := s.line :: s.openings }
  let result ← read
  modify fun s => { s with openings := s.openings.tail }
  pure result

/-- Reads something if that is possible here, or nothing. -/
def attempt {α : Type} (read : ReadM α) : ReadM (Option α) := fun s =>
  match read.run s with
  | .ok (result, s) => .ok (some result, s)
  | .error _ => .ok (none, s)

/-- Reads the given characters if they stand here. -/
def acceptText (text : String) : ReadM Bool := do
  let s ← get
  if text.toList.isPrefixOf s.rest then
    set { s with rest := s.rest.drop text.length }
    pure true
  else pure false

/-- The next character, which is not read yet. -/
def peek : ReadM (Option Char) := do
  modify Source.settle
  return (← get).rest.head?

/-- Reads a character. -/
def skip : ReadM Unit :=
  modify fun s => { s with
    rest := s.rest.tail
    line := if s.rest.head? = some '\n' then s.line + 1 else s.line }

/-- Reads a character if it is the given one. -/
def accept (c : Char) : ReadM Bool := do
  if (← peek) = some c then
    skip
    pure true
  else pure false

/-- Reads the characters up to the first one that does not belong. -/
def takeWhile (belongs : Char → Bool) : ReadM (List Char) := do
  let _ ← peek
  let cs := (← get).rest.takeWhile belongs
  modify fun s => { s with rest := s.rest.drop cs.length, line := s.line + cs.count '\n' }
  pure cs

end ReadM

end ReleaseMatrix.Shell
