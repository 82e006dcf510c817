import ReleaseMatrix.Shell.Extended.Declaration
import ReleaseMatrix.Shell.Printing
import ReleaseMatrix.Shell.Extended.Flow
import ReleaseMatrix.Shell.Extended.Names
import ReleaseMatrix.Shell.Extended.Places
import ReleaseMatrix.Shell.Extended.Signals
import ReleaseMatrix.Shell.Extended.Switches

namespace ReleaseMatrix.Shell

namespace Extended

open ShellM (self modifySelf)

/-- How words are printed. -/
structure EchoStyle where
  endsLine : Bool
  carriesOut : Bool
deriving DecidableEq, Repr

/-- The style that the options at the start of words tell, and the words after them. A word with a letter that is
no option is printed. -/
def EchoStyle.ofWords : EchoStyle → List Octets → EchoStyle × List Octets
  | s, [] => (s, [])
  | s, word :: words =>
    match word.toList with
    | '-' :: c :: letters =>
      if (c :: letters).all ("neE".contains ·) then
        ofWords ⟨s.endsLine && !(c :: letters).contains 'n',
          (c :: letters).foldl (fun on c => if c = 'e' then true else if c = 'E' then false else on) s.carriesOut⟩
          words
      else (s, word :: words)
    | _ => (s, word :: words)

/-- What is printed for words. An escape may end all printing. -/
def EchoStyle.text (s : EchoStyle) (words : List Octets) : Octets :=
  let joined := " ".intercalate words
  let ending := if s.endsLine then "\n" else ""
  if s.carriesOut then
    let (chars, ends) := Escapes.carryOut true (joined.length + 1) joined.toList
    String.ofList chars ++ if ends then "" else ending
  else joined ++ ending

def echo (words : List Octets) : ShellM Nat := do
  let (style, words) := EchoStyle.ofWords ⟨true, (← self).switches.contains "xpg_echo"⟩ words
  print (style.text words)

/-- Prints words according to a format, or puts what is printed into a variable. -/
def printFormatted (words : List Octets) : ShellM Nat := do
  withOptions "v:" false words fun g => do
    let target? := (g.argument? 'v').map fun name => (name, readDeclared name)
    match target?.filter fun (_, d) => !isName d.name.toList, g.words with
    | some (name, _), _ => refuse ("\x60" ++ name ++ "': not a valid identifier") 2
    | none, [] => tellUsage
    | none, format :: words =>
      let printout := formatText true format words
      let status ← match target? with
        | none => do
          let (parts, rest) := printout.parts
          parts.forM fun (before, complaint) => do
            let _ ← ShellM.write 1 before
            ShellM.complain complaint
          print rest
        | some (_, d) => do
          printout.complaints.forM fun (_, complaint) => ShellM.complain complaint
          let slot? ← match d.index? with
            | some index => ShellM.slotOf d.name index
            | none => pure (some .whole)
          slot?.forM fun slot => ShellM.assignSlot d.name slot false printout.output
          pure (if slot?.isSome then 0 else 1)
      pure (if printout.status = 0 then status else 1)

/-- A command of the extended shell that runs no other commands, with its exit status. -/
def run? (name : Octets) (words : List Octets) : Option (ShellM Nat) :=
  match name with
  | ":" | "true" | "times" | "ulimit" | "jobs" | "history" | "fc" | "help" | "bind" | "complete" | "compgen" =>
    some (pure 0)
  | "false" | "compopt" => some (pure 1)
  | "bg" | "fg" => some (refuse "no job control" 1)
  | "suspend" => some (refuse "cannot suspend: no job control" 1)
  | "disown" => some (refuse "current: no such job" 1)
  | "logout" => some (refuse "not login shell: use \x60exit'" 1)
  | "alias" => some (abbreviate words)
  | "unalias" => some (unalias words)
  | "break" => some (leaveLoop words .leaveLoop)
  | "continue" => some (leaveLoop words .nextRound)
  | "return" => some (leaveFunction words)
  | "exit" => some (exit words)
  | "cd" => some (changeDirectory words)
  | "pwd" => some (printDirectory words)
  | "dirs" => some (listDirectories words)
  | "pushd" => some (pushDirectory words)
  | "popd" => some (popDirectory words)
  | "command" => some (tellCommand words)
  | "type" => some (types words)
  | "hash" => some (hash words)
  | "enable" => some (enable words)
  | "caller" => some (caller words)
  | "echo" => some (echo words)
  | "printf" => some (printFormatted words)
  | "test" | "[" => some (test name words)
  | "let" => some (evaluate words)
  | "declare" | "typeset" | "local" | "export" | "readonly" => some (declare name words)
  | "unset" => some (unset words)
  | "set" => some (setUp words)
  | "shopt" => some (shopt words)
  | "shift" => some (shift words)
  | "read" => some (readFields words)
  | "mapfile" | "readarray" => some (mapLines words)
  | "getopts" => some (getOptions words)
  | "umask" => some (umask words)
  | "trap" => some (trap words)
  | "kill" => some (kill words)
  | _ => none

end Extended

end ReleaseMatrix.Shell
