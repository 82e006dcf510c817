import ReleaseMatrix.Shell.Extended.ConditionReader

namespace ReleaseMatrix.Shell

/-- The commands that belong to the shell itself so much that no function takes their name. -/
def specialNames : List String :=
  [".", ":", "break", "continue", "eval", "exec", "exit", "export", "readonly", "return", "set", "shift",
    "times", "trap", "unset"]

/-- How a list of commands may look and end. -/
inductive ListKind
  /-- Up to the end of the line. -/
  | line
  /-- At least one command, up to a token that ends lists. -/
  | block
  /-- Any number of commands, up to a token that ends lists. -/
  | arm
deriving DecidableEq, Repr

namespace CommandReader

open WordReader (readWord readDelimiter readDocuments)

def pushBack (t : Token) : ReadM Unit :=
  modify fun s => { s with pushed? := some t }

/-- Complains about a token, and tells what should stand in its place where that is one token only. -/
def unexpected {α : Type} (t : Token) (expected? : Option Token) : ReadM α := do
  let s ← get
  if s.isExtended then
    let near (line : Nat) (text : String) : ReadM α :=
      throw ⟨line, s.rest.length, ["syntax error near unexpected token \x60" ++ text ++ "'"], true, 2⟩
    match t with
    | .endOfInput => ReadM.fail "syntax error: unexpected end of file"
    | .newline => near (s.line - 1) "newline"
    | _ => near s.line (String.ofList s.tokenText)
  else
    ReadM.fail (t.describe ++ " unexpected" ++
      (expected?.map fun e => " (expecting " ++ e.describe ++ ")").getD "")

/-- Reads the sign of a redirection. The descriptor is told before it, or follows from the sign. -/
def readRedirection (descriptor? : Option Nat) : ReadM Token := do
  if ← ReadM.accept '>' then
    let descriptor := descriptor?.getD 1
    if ← ReadM.accept '>' then pure (.redirection descriptor .append)
    else if ← ReadM.accept '|' then pure (.redirection descriptor .replace)
    else if ← ReadM.accept '&' then pure (.redirection descriptor .duplicate)
    else pure (.redirection descriptor .write)
  else
    ReadM.skip
    let descriptor := descriptor?.getD 0
    if (← get).isExtended && (← ReadM.acceptText "<<") then pure (.redirection descriptor .line)
    else if ← ReadM.accept '<' then pure (.document descriptor (← ReadM.accept '-'))
    else if ← ReadM.accept '&' then pure (.redirection descriptor .duplicate)
    else if ← ReadM.accept '>' then pure (.redirection descriptor .readWrite)
    else pure (.redirection descriptor .read)

/-- Reads a word, or a redirection with its descriptor. -/
def readWordToken (outputs : OutputReader) : ReadM Token := do
  let word ← readWord outputs
  let s ← get
  match word, s.rest.head? with
  | [], _ => readRedirection none
  | [.text ds false], some c =>
    if ds.all Char.isDigit && (ds.length = 1 || s.isExtended) && (c = '<' || c = '>') then
      readRedirection (some (Text.numberOf 10 ds))
    else pure (.word word)
  | _, _ => pure (.word word)

/-- Reads a sign that only the extended language has, if one is here. -/
def readExtendedSign : ReadM (Option Token) := do
  let signs : List (String × Token) :=
    [("&>>", .redirection 1 .appendBoth), ("&>", .redirection 1 .writeBoth), ("|&", .pipe true),
      (";;&", .endOfArm .goOn), (";&", .endOfArm .fallThrough)]
  let rest := (← get).rest
  match signs.find? fun (sign, _) => sign.toList.isPrefixOf rest with
  | some (sign, t) =>
    modify fun s => { s with rest := s.rest.drop sign.length }
    pure (some t)
  | none => pure none

/-- Reads a sign, a word or the end of a line. -/
def readSign (outputs : OutputReader) : ReadM Token := do
  match ← ReadM.peek with
  | none => pure .endOfInput
  | some '\n' =>
    ReadM.skip
    pure .newline
  | some '&' =>
    ReadM.skip
    pure (if ← ReadM.accept '&' then .both else .background)
  | some '|' =>
    ReadM.skip
    pure (if ← ReadM.accept '|' then .either else .pipe false)
  | some ';' =>
    ReadM.skip
    pure (if ← ReadM.accept ';' then .endOfArm .stop else .semicolon)
  | some '(' =>
    ReadM.skip
    pure .opening
  | some ')' =>
    ReadM.skip
    pure .closing
  | some _ => readWordToken outputs

/-- Reads a token from the script. -/
def readNewToken (outputs : OutputReader) : ReadM Token := do
  modify Source.skipBlanks
  let start := (← get).rest
  let t ← match ← if (← get).isExtended then readExtendedSign else pure none with
    | some t => pure t
    | none => readSign outputs
  modify fun s => { s with tokenText := start.take (start.length - s.rest.length) }
  pure t

/-- Reads the token that was given back, or one from the script. -/
def nextToken (outputs : OutputReader) : ReadM Token := do
  match (← get).pushed? with
  | some t =>
    modify fun s => { s with pushed? := none }
    pure t
  | none => readNewToken outputs

/-- Reads a token that is no line break, with the texts that were announced in the lines before. -/
def skipNewlines (outputs : OutputReader) : Nat → Token → ReadM Token
  | n + 1, .newline => do
    readDocuments outputs
    skipNewlines outputs n (← nextToken outputs)
  | _, t => pure t

/-- Reads a token. Lines may end before it, it may be a reserved word, and a word may stand for others, where that
is said. The number bounds how often words stand for others. -/
def readMeantToken (outputs : OutputReader) (afterNewlines findsReserved findsAliases : Bool) : Nat → ReadM Token
  | 0 => ReadM.fail ""
  | n + 1 => do
    let t ← nextToken outputs
    let t ← if afterNewlines then skipNewlines outputs ((← get).rest.length + 2) t else pure t
    let s ← get
    match if findsReserved then t.orReserved s.isExtended else t with
    | .word [.text chars false] =>
      match if findsAliases || s.isInviting then s.meaningOf? chars else none with
      | none => pure (.word [.text chars false])
      | some meaning =>
        set (s.substitute chars meaning)
        readMeantToken outputs afterNewlines findsReserved findsAliases n
    | t => pure t

/-- Reads a token. Lines may end before it, and it may be a reserved word, or stand for other words, where that is
said. -/
def readToken (outputs : OutputReader) (afterNewlines findsReserved : Bool) : ReadM Token := do
  let s ← get
  readMeantToken outputs afterNewlines findsReserved findsReserved ((s.rest.length + 1) * (s.aliases.length + 1) + 1)

/-- Reads a token among assignments, where a word may stand for others. -/
def readFirstToken (outputs : OutputReader) : ReadM Token := do
  let s ← get
  readMeantToken outputs false false true ((s.rest.length + 1) * (s.aliases.length + 1) + 1)

/-- Reads a token that must be the given reserved word. -/
def expectReserved (outputs : OutputReader) (afterNewlines : Bool) (name : String) : ReadM Unit := do
  match ← readToken outputs afterNewlines true with
  | .reserved found => if found ≠ name then unexpected (.reserved found) (some (.reserved name))
  | t => unexpected t (some (.reserved name))

/-- Reads the target of a redirection. -/
def readTarget (outputs : OutputReader) (sign : Token) : ReadM Redirection := do
  match sign with
  | .document descriptor dropsTabs =>
    modify Source.skipBlanks
    let (delimiter, isQuoted, isMissing) ← readDelimiter outputs
    if isMissing then unexpected (← nextToken outputs) none
    let s ← get
    let a : Announced := ⟨s.documentCount, delimiter, dropsTabs, !isQuoted, s.line⟩
    set { s with documentCount := s.documentCount + 1, announced := s.announced ++ [a] }
    pure (.mk descriptor (.document a.number) [] "")
  | .redirection descriptor mode =>
    match ← readToken outputs false false with
    | .word target => do pure (.mk descriptor mode target (String.ofList (← get).tokenText))
    | t => unexpected t none
  | t => unexpected t none

/-- Reads the redirections after a command that holds others. -/
def readRedirections (outputs : OutputReader) : Nat → List Redirection → ReadM (List Redirection)
  | 0, found => pure found
  | n + 1, found => do
    match ← readToken outputs false true with
    | .redirection descriptor mode =>
      readRedirections outputs n (found ++ [← readTarget outputs (.redirection descriptor mode)])
    | .document descriptor dropsTabs =>
      readRedirections outputs n (found ++ [← readTarget outputs (.document descriptor dropsTabs)])
    | t =>
      pushBack t
      pure found

/-- The assignment that a word is. Only the extended language has elements, and adds to what is there. -/
def assignment? (isExtended : Bool) (word : Word) : Option Assignment :=
  let withValue (name : List Char) (index? : Option Word) (cs : List Char) (parts : Word) : Option Assignment :=
    let valueOf (value : List Char) : Word := if value.isEmpty then parts else .text value false :: parts
    if !isName name then none
    else match cs with
      | '=' :: value => some (.mk (String.ofList name) index? false (valueOf value))
      | '+' :: '=' :: value =>
        if isExtended then some (.mk (String.ofList name) index? true (valueOf value)) else none
      | _ => none
  match word with
  | .text name false :: .index index :: .text cs false :: parts => withValue name (some index) cs parts
  | .text chars false :: parts =>
    withValue (chars.takeWhile isNameChar) none (chars.dropWhile isNameChar) parts
  | _ => none

/-- The commands whose arguments may be lists that are assigned. -/
def declarationNames : List String :=
  ["declare", "typeset", "local", "export", "readonly", "eval", "alias"]

/-- Whether a list stands among the parts of a word. -/
def hasElements (word : Word) : Bool :=
  word.any fun
    | .elements .. => true
    | _ => false

/-- Reads words up to another token, which is given too. The words are told as they are written too. -/
def readWords (outputs : OutputReader) : Nat → List Word → Octets → ReadM (List Word × Octets × Token)
  | 0, words, source => pure (words, source, .endOfInput)
  | n + 1, words, source => do
    match ← readToken outputs false false with
    | .word word => do
      let text := String.ofList (← get).tokenText
      readWords outputs n (words ++ [word]) (source ++ " " ++ text)
    | t => pure (words, source, t)

/-- Reads the patterns of an arm after its first token, and the token after them. -/
def readPatterns (outputs : OutputReader) : Nat → List Word → Token → ReadM (List Word × Token)
  | 0, patterns, t => pure (patterns, t)
  | n + 1, patterns, t => do
    let pattern : Word := match t with
      | .word word => word
      | .reserved name => [.text name.toList false]
      | _ => []
    let patterns := patterns ++ [pattern]
    match ← readToken outputs false false with
    | .pipe false => readPatterns outputs n patterns (← readToken outputs false false)
    | t => pure (patterns, t)

/-- The commands of a list that are read so far, and one more. -/
def after (before? : Option Command) (command : Command) : Command :=
  match before? with
  | some before => .sequence before command
  | none => command

/-- A command whose complaints go where its output goes. -/
def withErrors (command : Command) : Command :=
  let more : Redirection := .mk 2 .duplicate [.text ['1'] false] "1"
  match command with
  | .simple line assignments words redirections => .simple line assignments words (redirections ++ [more])
  | .subshell line body redirections => .subshell line body (redirections ++ [more])
  | .redirected line body redirections => .redirected line body (redirections ++ [more])
  | command => .redirected 0 command [more]

/-- Whether a token starts a command that holds others. -/
def startsCompound (t : Token) : Bool :=
  match t with
  | .opening => true
  | .reserved name => name ∈ ["if", "while", "until", "for", "case", "select", "\x7b", "[["]
  | _ => false

/-- Reads the three expressions that steer a loop. -/
def readSteering (outputs : OutputReader) : ReadM (Word × Word × Word) := do
  let start ← get
  let read : ReadM Word := do WordReader.readParts outputs (← WordReader.enough) (.steering 0) []
  let fail {α : Type} : ReadM α := do
    let s ← get
    let text := String.ofList (start.rest.take (start.rest.length - s.rest.length))
    throw ⟨s.line, s.rest.length, ["syntax error: arithmetic expression required",
      "syntax error: \x60((" ++ text ++ "'"], false, 2⟩
  let first ← ReadM.opened read
  if !(← ReadM.accept ';') then fail
  let test ← ReadM.opened read
  if !(← ReadM.accept ';') then fail
  let step ← ReadM.opened read
  if !(← ReadM.acceptText "))") then fail
  pure (first, test, step)

mutual

/-- The readers of the commands in words, which may go on for `n` steps. -/
def outputReader (n : Nat) : OutputReader :=
  match n with
  | 0 => ⟨ReadM.fail "", ReadM.fail ""⟩
  | n + 1 =>
    { inParentheses := do
        let body? ← readList n .arm none true
        match ← readToken (outputReader n) false false with
        | .closing => pure body?
        | .endOfInput => if (← get).isExtended then ReadM.failOpen ")" else unexpected .endOfInput (some .closing)
        | t => unexpected t (some .closing)
      whole := readList n .arm none true }

/-- Reads a list of commands after those that are read already. -/
def readList : Nat → ListKind → Option Command → Bool → ReadM (Option Command)
  | 0, _, _, _ => ReadM.fail ""
  | n + 1, kind, before?, isFirst => do
    match ← readToken (outputReader n) (kind ≠ .line) true with
    | .newline =>
      readDocuments (outputReader n)
      pure before?
    | .endOfInput =>
      readDocuments (outputReader n)
      pushBack .endOfInput
      pure before?
    | t =>
      pushBack t
      if t.endsList && (kind = .arm || (kind = .block && !isFirst)) then pure before?
      else
        let command ← readAndOr n
        match ← readToken (outputReader n) false false with
        | .background => readList n kind (after before? (.background command)) false
        | .semicolon => readList n kind (after before? command) false
        | .newline =>
          pushBack .newline
          readList n kind (after before? command) false
        | .endOfInput =>
          readDocuments (outputReader n)
          pushBack .endOfInput
          pure (after before? command)
        | t =>
          if kind = .line then unexpected t none
          else
            pushBack t
            pure (after before? command)

/-- Reads a list of commands that holds one at least. The given token is missing if the script ends before. -/
def readBlock : Nat → Token → ReadM Command
  | 0, _ => ReadM.fail ""
  | n + 1, ending => do
    match ← readList n .block none true with
    | some body => pure body
    | none => unexpected (← readToken (outputReader n) false false) (some ending)

/-- Reads pipelines that depend on each other. -/
def readAndOr : Nat → ReadM Command
  | 0 => ReadM.fail ""
  | n + 1 => do readMoreAndOr n (← readPipeline n false)

def readMoreAndOr : Nat → Command → ReadM Command
  | 0, _ => ReadM.fail ""
  | n + 1, first => do
    match ← readToken (outputReader n) false false with
    | .both => readMoreAndOr n (.both first (← readPipeline n true))
    | .either => readMoreAndOr n (.either first (← readPipeline n true))
    | t =>
      pushBack t
      pure first

/-- Reads commands with bars between them. -/
def readPipeline : Nat → Bool → ReadM Command
  | 0, _ => ReadM.fail ""
  | n + 1, afterNewlines => do
    let isExtended := (← get).isExtended
    match ← readToken (outputReader n) afterNewlines (afterNewlines || isExtended) with
    | .reserved "!" =>
      if isExtended then
        match ← readToken (outputReader n) false true with
        | .newline =>
          pushBack .newline
          pure (.negation (.simple (← get).line [] [] []))
        | t =>
          pushBack t
          pure (.negation (← readPipeline n false))
      else
        let first ← readCommand n false true
        pure (.negation (← readMorePipe n [first]))
    | .reserved "time" => readTimed n
    | t =>
      pushBack t
      let first ← readCommand n false false
      readMorePipe n [first]

/-- Reads what is timed. -/
def readTimed : Nat → ReadM Command
  | 0 => ReadM.fail ""
  | n + 1 => do
    match ← readToken (outputReader n) false true with
    | .word [.text ['-', 'p'] false] => pure (.timed true (some (← readPipeline n false)))
    | t =>
      pushBack t
      if t matches .newline || t matches .semicolon || t matches .endOfInput then pure (.timed false none)
      else pure (.timed false (some (← readPipeline n false)))

def readMorePipe : Nat → List Command → ReadM Command
  | 0, _ => ReadM.fail ""
  | n + 1, parts => do
    match ← readToken (outputReader n) false false with
    | .pipe isForAll =>
      let parts := if isForAll then parts.dropLast ++ (parts.getLast?.map withErrors).toList else parts
      readMorePipe n (parts ++ [← readCommand n true true])
    | t =>
      pushBack t
      match parts with
      | [part] => pure part
      | parts => pure (.pipe parts)

/-- Reads one command. -/
def readCommand : Nat → Bool → Bool → ReadM Command
  | 0, _, _ => ReadM.fail ""
  | n + 1, afterNewlines, findsReserved => do
    let line := (← get).line
    let outputs := outputReader n
    let t ← readToken outputs afterNewlines findsReserved
    let s ← get
    let line := if s.isExtended then s.line else line
    match t with
    | .reserved "if" => readRedirected n line (← readBranch n)
    | .reserved "while" => readRedirected n line (← readLoop n false)
    | .reserved "until" => readRedirected n line (← readLoop n true)
    | .reserved "for" => readRedirected n line (← readEach n line)
    | .reserved "case" => readRedirected n line (← readChoice n line)
    | .reserved "select" => readRedirected n line (← readSelection n line)
    | .reserved "function" => readFunction n
    | .reserved "[[" =>
      readRedirected n line (.condition line (← ConditionReader.readCondition outputs))
    | .reserved "\x7b" =>
      let body ← readBlock n (.reserved "\x7d")
      expectReserved outputs false "\x7d"
      readRedirected n line body
    | .opening =>
      let expression? ← if s.isExtended && s.rest.head? = some '(' then
          ReadM.attempt do
            ReadM.skip
            WordReader.readParts outputs (← WordReader.enough) (.arithmetic 0) []
        else pure none
      match expression? with
      | some expression => readRedirected n line (.calculation line expression)
      | none =>
        let body ← readBlock n .closing
        match ← readToken outputs false false with
        | .closing => pure (.subshell line body (← readRedirections outputs (← WordReader.enough) []))
        | t => unexpected t (some .closing)
    | .word word =>
      pushBack (.word word)
      readSimple n (← get).line [] [] []
    | .redirection descriptor mode =>
      pushBack (.redirection descriptor mode)
      readSimple n (← get).line [] [] []
    | .document descriptor dropsTabs =>
      pushBack (.document descriptor dropsTabs)
      readSimple n (← get).line [] [] []
    | t => unexpected t none

/-- Reads the commands of a function of the extended language after its name. -/
def readFunctionBody : Nat → String → ReadM Command
  | 0, _ => ReadM.fail ""
  | n + 1, name => do
    let t ← readToken (outputReader n) true true
    pushBack t
    if !startsCompound t then unexpected t none
    pure (.define name (← readCommand n true true))

/-- Reads a function after the word that announces it. -/
def readFunction : Nat → ReadM Command
  | 0 => ReadM.fail ""
  | n + 1 => do
    let outputs := outputReader n
    match ← readToken outputs false false with
    | .word [.text name false] =>
      match ← readToken outputs false false with
      | .opening =>
        match ← readToken outputs false false with
        | .closing => readFunctionBody n (String.ofList name)
        | t => unexpected t none
      | t =>
        pushBack t
        readFunctionBody n (String.ofList name)
    | t => unexpected t none

/-- Reads the redirections after a command. They take the place of those of a subshell that the command is. -/
def readRedirected : Nat → Nat → Command → ReadM Command
  | 0, _, _ => ReadM.fail ""
  | n + 1, line, body => do
    match ← readRedirections (outputReader n) (← WordReader.enough) [], body with
    | [], body => pure body
    | redirections, .subshell line body _ => pure (.subshell line body redirections)
    | redirections, body => pure (.redirected line body redirections)

/-- Reads a test, what follows if it passes, and what else there is up to the end of the conditional. -/
def readBranch : Nat → ReadM Command
  | 0 => ReadM.fail ""
  | n + 1 => do
    let outputs := outputReader n
    let test ← readBlock n (.reserved "then")
    expectReserved outputs false "then"
    let positive ← readBlock n (.reserved "fi")
    match ← readToken outputs false false with
    | .reserved "elif" => pure (.branch test positive (some (← readBranch n)))
    | .reserved "else" =>
      let negative ← readBlock n (.reserved "fi")
      expectReserved outputs false "fi"
      pure (.branch test positive (some negative))
    | t =>
      pushBack t
      expectReserved outputs false "fi"
      pure (.branch test positive none)

def readLoop : Nat → Bool → ReadM Command
  | 0, _ => ReadM.fail ""
  | n + 1, isUntil => do
    let test ← readBlock n (.reserved "do")
    expectReserved (outputReader n) false "do"
    let body ← readBlock n (.reserved "done")
    expectReserved (outputReader n) false "done"
    pure (.loop isUntil test body)

/-- Reads the words that a loop takes, if they are told. -/
def readLoopWords : Nat → ReadM (Option (List Word) × Octets)
  | 0 => ReadM.fail ""
  | n + 1 => do
    let outputs := outputReader n
    match ← readToken outputs true true with
    | .reserved "in" =>
      match ← readWords outputs (← WordReader.enough) [] "" with
      | (words, source, .newline) | (words, source, .semicolon) => pure (some words, source)
      | (_, _, t) => unexpected t none
    | .semicolon => pure (none, " \"$@\"")
    | t =>
      pushBack t
      pure (none, " \"$@\"")

/-- Reads the body of a loop. The extended language lets it stand in braces. -/
def readLoopBody : Nat → ReadM Command
  | 0 => ReadM.fail ""
  | n + 1 => do
    let outputs := outputReader n
    let isExtended := (← get).isExtended
    match ← readToken outputs true true with
    | .reserved "do" =>
      let body ← readBlock n (.reserved "done")
      expectReserved outputs false "done"
      pure body
    | .reserved "\x7b" =>
      if !isExtended then unexpected (.reserved "\x7b") (some (.reserved "do"))
      let body ← readBlock n (.reserved "\x7d")
      expectReserved outputs false "\x7d"
      pure body
    | t => unexpected t (some (.reserved "do"))

/-- Reads a loop over words, or one that is steered by expressions. -/
def readEach : Nat → Nat → ReadM Command
  | 0, _ => ReadM.fail ""
  | n + 1, line => do
    let outputs := outputReader n
    let isExtended := (← get).isExtended
    match ← readToken outputs false false with
    | .word [.text name false] =>
      if !isName name && !isExtended then ReadM.fail "Bad for loop variable"
      let (words?, source) ← readLoopWords n
      pure (.each line (String.ofList name) words? source (← readLoopBody n))
    | .opening =>
      if !isExtended then ReadM.fail "Bad for loop variable"
      if !(← ReadM.accept '(') then unexpected .opening none
      let (start, test, step) ← readSteering outputs
      match ← readToken outputs false true with
      | .semicolon => pure ()
      | t => pushBack t
      pure (.counting line start test step (← readLoopBody n))
    | t => if isExtended then unexpected t none else ReadM.fail "Bad for loop variable"

/-- Reads a loop over words that are chosen by what is read. -/
def readSelection : Nat → Nat → ReadM Command
  | 0, _ => ReadM.fail ""
  | n + 1, line => do
    match ← readToken (outputReader n) false false with
    | .word [.text name false] =>
      let (words?, source) ← readLoopWords n
      pure (.selection line (String.ofList name) words? source (← readLoopBody n))
    | t => unexpected t none

def readChoice : Nat → Nat → ReadM Command
  | 0, _ => ReadM.fail ""
  | n + 1, line => do
    let outputs := outputReader n
    match ← readToken outputs false false with
    | .word subject =>
      let source := String.ofList (← get).tokenText
      expectReserved outputs true "in"
      pure (.choice line subject source (← readArms n []))
    | t => unexpected t (some (.word []))

/-- Reads the arms of a case and its end. -/
def readArms : Nat → List (List Word × Option Command × ArmEnd) →
    ReadM (List (List Word × Option Command × ArmEnd))
  | 0, _ => ReadM.fail ""
  | n + 1, arms => do
    let outputs := outputReader n
    match ← readToken outputs true true with
    | .reserved "esac" => pure arms
    | t =>
      let first ← if t matches .opening then readToken outputs false false else pure t
      match ← readPatterns outputs (← WordReader.enough) [] first with
      | (patterns, .closing) =>
        let body? ← readList n .arm none true
        let endedBy (ending : ArmEnd) := arms ++ [(patterns, body?, ending)]
        match ← readToken outputs true true with
        | .reserved "esac" => pure (endedBy .stop)
        | .endOfArm ending => readArms n (endedBy ending)
        | t => unexpected t (some (.endOfArm .stop))
      | (_, t) => unexpected t (some .closing)

/-- Reads a command without commands inside, or the definition of a function. -/
def readSimple : Nat → Nat → List Assignment → List Word → List Redirection → ReadM Command
  | 0, _, _, _, _ => ReadM.fail ""
  | n + 1, line, assignments, words, redirections => do
    let outputs := outputReader n
    let isExtended := (← get).isExtended
    let t ← if words.isEmpty then readFirstToken outputs else readToken outputs false false
    let isSecond := words.length = 1 && assignments.isEmpty && redirections.isEmpty
    let reached := (← get).line - if t matches .newline then 1 else 0
    let line := if isExtended && isSecond then reached else line
    match t with
    | .word word =>
      match if words.isEmpty then assignment? isExtended word else none with
      | some a => readSimple n line (assignments ++ [a]) words redirections
      | none =>
        let isDeclaration := match words.head? with
          | some [.text name false] => String.ofList name ∈ declarationNames
          | _ => false
        if hasElements word && !isDeclaration then
          modify fun s => { s with tokenText := ['('] }
          unexpected .opening none
        readSimple n line assignments (words ++ [word]) redirections
    | .redirection descriptor mode =>
      let r ← readTarget outputs (.redirection descriptor mode)
      readSimple n line assignments words (redirections ++ [r])
    | .document descriptor dropsTabs =>
      let r ← readTarget outputs (.document descriptor dropsTabs)
      readSimple n line assignments words (redirections ++ [r])
    | .opening =>
      match assignments, words, redirections with
      | [], [word], [] =>
        match ← readToken outputs false false with
        | .closing =>
          match word with
          | [.text name false] =>
            if isExtended then readFunctionBody n (String.ofList name)
            else
              if !isName name || String.ofList name ∈ specialNames then ReadM.fail "Bad function name"
              pure (.define (String.ofList name) (← readCommand n true true))
          | _ => ReadM.fail "Bad function name"
        | t => unexpected t (some .closing)
      | _, _, _ =>
        pushBack .opening
        pure (.simple line assignments words redirections)
    | t =>
      pushBack t
      pure (.simple line assignments words redirections)

end

end CommandReader

/-- A text with the expansions in it. -/
def textWord (isExtended : Bool) (text : Octets) : Word :=
  let source := { Source.start text 1 with isExtended }
  let n := 16 * text.length + 64
  let scope : Scope := .document ⟨0, ['\n'], false, true, 1⟩
  match (WordReader.readParts (CommandReader.outputReader n) n scope []).run source with
  | .ok (word, _) => word
  | .error _ => [.text text.toList true]

/-- Reads the commands of the next line, and as many lines more as they need. Nothing is read at the end of
the script, which is told too. -/
def Source.readLine (s : Source) : Except ReadError (Option Command × Bool × Source) := do
  let n := 16 * s.rest.length + 64
  let (command?, s) ← (CommandReader.readList n .line none true).run { s with pushed? := none }
  pure (command?, s.pushed? matches some .endOfInput, { s with pushed? := none })

end ReleaseMatrix.Shell
