import ReleaseMatrix.Shell.Source
import ReleaseMatrix.Shell.State

namespace ReleaseMatrix.Shell

/-- Whether a character ends a word. -/
def isMeta (c : Char) : Bool :=
  c ∈ [' ', '\t', '\n', ';', '&', '|', '<', '>', '(', ')']

/-- The signs that are names of parameters. -/
def isSpecialName (c : Char) : Bool :=
  c ∈ ['!', '#', '$', '*', '-', '?', '@']

/-- What the characters that are read stand in. -/
inductive Scope
  | plain
  /-- The word that ends a text in the script. -/
  | delimiter
  | braces
  /-- Double quotes, in which expansions are read unless they belong to a delimiter. -/
  | quotes (expands : Bool)
  /-- Braces within quotes or within a text, where quotes may be open again. -/
  | quotedBraces (isReopened inDocument : Bool)
  | arithmetic (depth : Nat)
  | document (announced : Announced)
  /-- A pattern in braces, up to a slash or to the closing brace. -/
  | pattern
  /-- An expression in braces, up to a colon or to the closing brace. Open parentheses and questions are counted. -/
  | offset (parentheses questions : Nat)
  /-- The index of an element. Open brackets are counted. -/
  | index (depth : Nat)
  /-- A group of patterns. Open parentheses are counted. -/
  | group (depth : Nat)
  /-- A regular expression, up to a blank that stands in no parentheses. -/
  | regex (depth : Nat)
  /-- An expression that steers a loop, up to a semicolon or to two parentheses. -/
  | steering (depth : Nat)

namespace Scope

/-- Whether quotes cover what stands here. -/
def isQuoted : Scope → Bool
  | plain | delimiter | braces | pattern | index _ | group _ | regex _ => false
  | _ => true

/-- Whether a single quote or a double one starts quotes here. -/
def startsQuotes : Scope → Bool
  | plain | delimiter | braces | pattern | index _ | group _ | regex _ => true
  | _ => false

/-- Whether the character after a backslash loses a meaning that it has here. -/
def isProtected (s : Scope) (c : Char) : Bool :=
  match s with
  | plain | delimiter | braces | pattern | index _ | group _ | regex _ => true
  | quotes _ => c ∈ ['\\', '\x60', '$', '"']
  | quotedBraces .. => c ∈ ['\\', '\x60', '$', '"', '\x7d']
  | arithmetic _ | offset .. | steering _ => c ∈ ['\\', '\x60', '$', '"']
  | document _ => c ∈ ['\\', '\x60', '$']

/-- Whether a dollar or a backquote starts an expansion here. -/
def expands : Scope → Bool
  | delimiter => false
  | quotes expands => expands
  | _ => true

/-- What is wrong if a script ends here. -/
def complaint? : Scope → Option String
  | plain | delimiter | document _ | regex _ => none
  | quotes _ => some "Unterminated quoted string"
  | quotedBraces _ inDocument =>
    some (if inDocument then "Missing '\x7d'" else "Unterminated quoted string")
  | arithmetic _ => some "Missing '))'"
  | _ => some "Missing '\x7d'"

/-- The sign that ends what stands here. -/
def closing : Scope → String
  | quotes _ => "\""
  | arithmetic _ | group _ | steering _ => ")"
  | index _ => "]"
  | _ => "\x7d"

/-- Where the word of a change stands. -/
def inBraces : Scope → Scope
  | plain | delimiter | braces | pattern | index _ | group _ | regex _ => braces
  | document _ => quotedBraces false true
  | quotedBraces _ inDocument => quotedBraces false inDocument
  | _ => quotedBraces false false

end Scope

/-- Readers of the commands whose output a word takes. -/
structure OutputReader where
  /-- Reads up to the closing parenthesis. -/
  inParentheses : ReadM (Option Command)
  /-- Reads all commands of a script. -/
  whole : ReadM (Option Command)

/-- The order in which the letters of options are told. -/
def optionOrder (isExtended : Bool) : List Char :=
  if isExtended then
    ['a', 'b', 'e', 'f', 'h', 'i', 'k', 'm', 'n', 'p', 't', 'u', 'v', 'x', 'B', 'C', 'E', 'H', 'P', 'T', 'c', 's']
  else ['e', 'f', 'I', 'i', 'm', 'n', 's', 'x', 'v', 'V', 'E', 'C', 'a', 'b', 'u', 'p'].reverse

namespace Process

/-- The name of the variable that a name leads to, through variables that name others. -/
def follow (p : Process) (name : String) : String :=
  go 8 name
where
  go : Nat → String → String
    | 0, name => name
    | n + 1, name =>
      match p.binding? name with
      | some v => if v.has 'n' then (v.value?.map (go n)).getD name else name
      | none => name

/-- What a name that the shell itself gives a meaning holds. -/
def ownContent? (p : Process) (name : String) : Option Value :=
  let running := p.frames.filter fun f => f.name ≠ ""
  match name with
  | "LINENO" => some (.text (toString p.line))
  | "SECONDS" => some (.text "0")
  | "RANDOM" => some (.text (toString (16807 * (p.id + p.line) % 32768)))
  | "BASHPID" => some (.text (toString p.id))
  | "BASH_SUBSHELL" => some (.text (toString p.subshells))
  | "PIPESTATUS" => some (.ofTexts (p.pipeStatuses.map toString))
  | "FUNCNAME" => if running.length < 2 then none else some (.ofTexts (running.map Frame.name))
  | "BASH_SOURCE" => some (.ofTexts (running.map Frame.file))
  | "BASH_LINENO" => some (.ofTexts (running.map fun f => toString f.line))
  | "SHELLOPTS" => some (.text (":".intercalate (Extended.optionsOn p)))
  | "BASHOPTS" => some (.text (":".intercalate (Extended.switchesOn p)))
  | "DIRSTACK" => some (.ofTexts (p.directory :: p.stacked))
  | _ => none

/-- What a variable holds, be it one that the shell itself keeps. -/
def content? (p : Process) (name : String) : Option Value :=
  if p.isExtended then
    let name := p.follow name
    p.ownContent? name <|> (p.binding? name).bind Variable.content?
  else (p.binding? name).bind Variable.content?

/-- The value of a parameter that is no list of arguments. -/
def parameter? (p : Process) (name : String) : Option Octets :=
  match name with
  | "#" => some (toString p.arguments.length)
  | "?" => some (toString p.status)
  | "$" => some (toString p.scriptId)
  | "!" => p.lastJob?.map toString
  | "-" => some (String.ofList ((optionOrder p.isExtended).filter p.hasOption))
  | name =>
    match name.toNat? with
    | some 0 => some p.name
    | some (n + 1) => p.arguments[n]?
    | none => (p.content? name).bind Value.text?

/-- The name by which complaints tell where a command stands. -/
def sourceName (p : Process) : Octets :=
  match p.frames with
  | f :: _ => if p.isExtended then f.file else p.name
  | [] => p.name

/-- The slot of a list that an index means. Negative ones count from the end. -/
def slotAt? (p : Process) (name : String) (index : Int) : Option Slot :=
  if 0 ≤ index then some (.index index.toNat)
  else
    let length := (p.content? name).elim 0 Value.nextIndex
    if index.natAbs ≤ length then some (.index (length - index.natAbs)) else none

/-- Whether the elements of a variable have keys. -/
def isTable (p : Process) (name : String) : Bool :=
  (p.binding? (p.follow name)).any fun v => v.has 'A'

/-- The process with one slot of a variable set. -/
def store (p : Process) (name : String) (slot : Slot) (text : Octets) : Process :=
  let name := p.follow name
  let v := (p.binding? name).getD ⟨none, false, false, []⟩
  let content := match slot, v.content? with
    | .whole, none =>
      if v.has 'A' then Value.table [("0", text)] else if v.has 'a' then Value.list [(0, text)] else .text text
    | slot, content? => Value.put content? slot text
  let traits := match slot with
    | .index _ => if v.has 'a' then v.traits else 'a' :: v.traits
    | _ => v.traits
  p.put name { v with content? := some content, traits, isExported := v.isExported || p.hasOption 'a' }

end Process

end ReleaseMatrix.Shell
