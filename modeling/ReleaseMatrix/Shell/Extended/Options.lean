import ReleaseMatrix.Shell.Variables

namespace ReleaseMatrix.Shell

namespace Extended

open ShellM (self modifySelf)

/-- How the commands of the extended shell are used. -/
def usages : List (String × String) :=
  [(".", "filename [arguments]"), ("alias", "[-p] [name[=value] ... ]"), ("builtin", "[shell-builtin [arg ...]]"),
    ("cd", "[-L|[-P [-e]] [-@]] [dir]"), ("command", "[-pVv] command [arg ...]"),
    ("declare", "[-aAfFgiIlnrtux] [name[=value] ...] or declare -p [-aAfFilnrtux] [name ...]"),
    ("dirs", "[-clpv] [+N] [-N]"), ("enable", "[-a] [-dnps] [-f filename] [name ...]"), ("eval", "[arg ...]"),
    ("exec", "[-cl] [-a name] [command [argument ...]] [redirection ...]"),
    ("export", "[-fn] [name[=value] ...] or export -p"), ("getopts", "optstring name [arg ...]"),
    ("hash", "[-lr] [-p pathname] [-dt] [name ...]"), ("jobs", "[-lnprs] [jobspec ...] or jobs -x command [args]"),
    ("kill", "[-s sigspec | -n signum | -sigspec] pid | jobspec ... or kill -l [sigspec]"),
    ("let", "arg [arg ...]"), ("local", "[option] name[=value] ..."),
    ("mapfile", "[-d delim] [-n count] [-O origin] [-s count] [-t] [-u fd] [-C callback] [-c quantum] [array]"),
    ("popd", "[-n] [+N | -N]"), ("printf", "[-v var] format [arguments]"), ("pushd", "[-n] [+N | -N | dir]"),
    ("pwd", "[-LP]"),
    ("read", "[-ers] [-a array] [-d delim] [-i text] [-n nchars] [-N nchars] [-p prompt] [-t timeout] [-u fd] " ++
      "[name ...]"),
    ("readarray", "[-d delim] [-n count] [-O origin] [-s count] [-t] [-u fd] [-C callback] [-c quantum] [array]"),
    ("readonly", "[-aAf] [name[=value] ...] or readonly -p"),
    ("set", "[-abefhkmnptuvxBCEHPT] [-o option-name] [--] [-] [arg ...]"), ("shopt", "[-pqsu] [-o] [optname ...]"),
    ("source", "filename [arguments]"), ("trap", "[-lp] [[arg] signal_spec ...]"),
    ("type", "[-afptP] name [name ...]"),
    ("typeset", "[-aAfFgiIlnrtux] name[=value] ... or typeset -p [-aAfFilnrtux] [name ...]"),
    ("umask", "[-p] [-S] [mode]"), ("unalias", "[-a] name [name ...]"), ("unset", "[-f] [-v] [-n] [name ...]"),
    ("wait", "[-fn] [-p var] [id ...]")]

/-- Tells how the command that runs is used. -/
def tellUsage : ShellM Nat := do
  let name := (← self).command?.getD ""
  let usage := ((usages.find? (·.1 == name)).map (·.2)).getD ""
  let _ ← ShellM.write 2 (name ++ ": usage: " ++ name ++ " " ++ usage ++ "\n")
  pure 2

/-- Complains, and gives a status. -/
def refuse (message : Octets) (status : Nat) : ShellM Nat := do
  ShellM.complain message
  pure status

/-- Prints a text. If that is impossible, the command fails. -/
def print (text : Octets) : ShellM Nat := do
  match ← ShellM.write 1 text with
  | none => pure 0
  | some fault =>
    ShellM.complain ("write error: " ++ fault.text)
    pure 1

/-- Words of which options are read: their letters, each with its sign and its argument, and the words left. -/
structure Given where
  options : List (Char × Char × Octets)
  words : List Octets

namespace Given

def has (g : Given) (letter : Char) : Bool :=
  g.options.any fun o => o.2.1 = letter && o.1 = '-'

/-- Whether a letter is given after a plus sign. -/
def lacks (g : Given) (letter : Char) : Bool :=
  g.options.any fun o => o.2.1 = letter && o.1 = '+'

def argument? (g : Given) (letter : Char) : Option Octets :=
  (g.options.reverse.find? (·.2.1 = letter)).map (·.2.2)

end Given

/-- Reads the options at the start of words. In `allowed`, a colon stands after a letter with an argument. What is
wrong is complained about with the letter. -/
def readOptions (allowed : List Char) (takesPlus : Bool) : Nat → List Octets → Except Octets Given
  | 0, words => .ok ⟨[], words⟩
  | n + 1, words =>
    match words with
    | [] => .ok ⟨[], []⟩
    | word :: rest =>
      match word.toList with
      | ['-', '-'] => .ok ⟨[], rest⟩
      | sign :: c :: letters =>
        if sign = '-' || (takesPlus && sign = '+') then readLetters n sign (c :: letters) rest
        else .ok ⟨[], words⟩
      | _ => .ok ⟨[], words⟩
where
  /-- Reads the letters that are left of one word. -/
  readLetters : Nat → Char → List Char → List Octets → Except Octets Given
    | 0, _, _, rest => .ok ⟨[], rest⟩
    | n + 1, sign, letters, rest =>
      match letters with
      | [] => readOptions allowed takesPlus n rest
      | c :: letters =>
        let shown := String.ofList [sign, c]
        if c = ':' || !allowed.contains c then .error (shown ++ ": invalid option")
        else if (allowed.dropWhile (· ≠ c)).tail.head? = some ':' then
          match letters, rest with
          | [], [] => .error (shown ++ ": option requires an argument")
          | [], argument :: rest =>
            (readOptions allowed takesPlus n rest).map fun g => { g with options := (sign, c, argument) :: g.options }
          | letters, rest =>
            (readOptions allowed takesPlus n rest).map fun g =>
              { g with options := (sign, c, String.ofList letters) :: g.options }
        else
          (readLetters n sign letters rest).map fun g => { g with options := (sign, c, "") :: g.options }

/-- Does work with the options among words, or tells how the command is used. -/
def withOptions (allowed : String) (takesPlus : Bool) (words : List Octets) (work : Given → ShellM Nat) :
    ShellM Nat := do
  match readOptions allowed.toList takesPlus (words.foldl (· + ·.length + 2) 2) words with
  | .ok given => work given
  | .error message =>
    ShellM.complain message
    tellUsage

/-- A whole number as commands read it: with a sign, and with blanks around it. -/
def integer? (text : Octets) : Option Int64 :=
  if text.isEmpty then none else integerOf? false text.toList

end Extended

end ReleaseMatrix.Shell
