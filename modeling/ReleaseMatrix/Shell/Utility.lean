import ReleaseMatrix.Shell.Utility.Files
import ReleaseMatrix.Shell.Utility.Basic
import ReleaseMatrix.Shell.Utility.Columns
import ReleaseMatrix.Shell.Utility.Date
import ReleaseMatrix.Shell.Utility.Difference
import ReleaseMatrix.Shell.Utility.Dump
import ReleaseMatrix.Shell.Utility.Evaluate
import ReleaseMatrix.Shell.Utility.Facts
import ReleaseMatrix.Shell.Utility.LineEdit
import ReleaseMatrix.Shell.Utility.Pieces
import ReleaseMatrix.Shell.Utility.Search
import ReleaseMatrix.Shell.Utility.Sizes
import ReleaseMatrix.Shell.Utility.Small
import ReleaseMatrix.Shell.Utility.SortedPair
import ReleaseMatrix.Shell.Utility.Sums

namespace ReleaseMatrix.Shell.Utility

/-- Makes pipes with names. -/
def mkfifo : Work := fun words =>
  withGiven 1 (forms "m:Z" [('m', "mode")]) words fun g => do
    if g.operands.isEmpty then misuse "missing operand" 1
    else if (g.argument? 'm').any fun mode => (changeRights mode false 0 420).isNone then
      warn "invalid mode"
      pure 1
    else forEach g.operands fun path =>
      tryFiles ("cannot create fifo " ++ quoted path) (FileM.makeQueue (Octets.toPath path))

/-- Makes a file of a special kind, of which only pipes are known. -/
def mknod : Work := fun words =>
  withGiven 1 (forms "m:Z" [('m', "mode")]) words fun g => do
    match g.operands with
    | [] => misuse "missing operand" 1
    | [only] => misuse ("missing operand after " ++ quoted only) 1
    | [path, "p"] => tryFiles path (FileM.makeQueue (Octets.toPath path))
    | [_, kind] =>
      misuse ("missing operand after " ++ quoted kind ++ "\nSpecial files require major and minor device numbers.") 1
    | _ :: "p" :: extra :: _ =>
      misuse ("extra operand " ++ quoted extra ++ "\nFifos do not have major and minor device numbers.") 1
    | [_, _, major] => misuse ("missing operand after " ++ quoted major) 1
    | path :: _ => tryFiles path (FileM.write (Octets.toPath path) [])

/-- The only two operands of a program, or a complaint. -/
def twoOperands (g : Given) (work : Octets → Octets → ShellM Nat) : ShellM Nat :=
  match g.operands with
  | [] => misuse "missing operand" 1
  | [only] => misuse ("missing operand after " ++ quoted only) 1
  | [first, second] => work first second
  | _ :: _ :: extra :: _ => misuse ("extra operand " ++ quoted extra) 1

/-- Gives a file a second name. -/
def link : Work := fun words =>
  withGiven 1 (forms "" []) words fun g =>
    twoOperands g fun source dest =>
      tryFiles ("cannot create link " ++ quoted dest ++ " to " ++ quoted source)
        (FileM.makeTwin (Octets.toPath source) (Octets.toPath dest))

/-- Takes a name from a file. -/
def unlink : Work := fun words =>
  withGiven 1 (forms "" []) words fun g =>
    match g.operands with
    | [] => misuse "missing operand" 1
    | [path] => tryFiles ("cannot unlink " ++ quoted path) (FileM.removeFile (Octets.toPath path))
    | _ :: extra :: _ => misuse ("extra operand " ++ quoted extra) 1

/-- The sign after a name that tells what it names. -/
def kindSign (marksAll : Bool) (e : Entry) : Octets :=
  match e with
  | .directory => "/"
  | .link _ => if marksAll then "@" else ""
  | e => if marksAll && e.isRunnable then "*" else ""

/-- Names as they are listed, in their order, with what each one names. -/
def listNames (g : Given) (names : List (Octets × Entry)) : Octets :=
  let sorted := names.mergeSort fun a b => if g.has 'r' then b.1 ≤ a.1 else a.1 ≤ b.1
  let sign (e : Entry) : Octets := if g.has 'F' then kindSign true e else if g.has 'p' then kindSign false e else ""
  let ending := if g.has 'm' then ", " else "\n"
  let shown := sorted.map fun (name, e) => name ++ sign e
  if g.has 'm' && !shown.isEmpty then ending.intercalate shown ++ "\n" else String.join (shown.map (· ++ "\n"))

/-- What is listed of a directory. -/
def entriesIn (w : Workspace) (g : Given) (l : Location) : List (Octets × Entry) :=
  let names := (w.files.names l).filterMap fun name =>
    (w.files.get? (l ++ [name])).map fun e => (Octets.ofText name, e)
  let isShown (name : Octets) : Bool := g.has 'a' || g.has 'A' || name.toList.head? ≠ some '.'
  (if g.has 'a' then [(".", .directory), ("..", .directory)] else []) ++ names.filter fun n => isShown n.1

/-- Lists a directory, and those in it where that is said, each after a header and an empty line. -/
def listDirectory (w : Workspace) (g : Given) : Nat → Octets → Location → List (Octets × Octets)
  | 0, _, _ => []
  | n + 1, path, l =>
    let entries := entriesIn w g l
    let inner := if g.has 'R' then
        (entries.filter fun (name, e) => e = .directory && name ≠ "." && name ≠ "..").mergeSort
          fun a b => a.1 ≤ b.1
      else []
    (path, listNames g entries) ::
      inner.flatMap fun (name, _) => listDirectory w g n (under path name) (l ++ [Octets.toText name])

def ls : Work := fun words =>
  withGiven 2 (forms "1aACdFfghiklLmnopqrRsStuUvxXGHNQ" [('a', "all"), ('A', "almost-all"), ('d', "directory"),
    ('F', "classify"), ('r', "reverse"), ('R', "recursive")]) words fun g => do
    let operands := if g.operands.isEmpty then ["."] else g.operands
    let look' (state : List (Octets × Location × Entry) × Nat) (path : Octets) :
        ShellM (List (Octets × Location × Entry) × Nat) := do
      let (found, status) := state
      let seen ← look path
      let named ← lookAt path
      match if seen.isOk && !(g.has 'd') then seen else named with
      | .ok (l, e) => pure (found ++ [(path, l, e)], status)
      | .error fault =>
        warn ("cannot access " ++ quoted path ++ ": " ++ fault.text)
        pure (found, 2)
    let (found, status) ← operands.foldlM look' ([], 0)
    let w := (← get).workspace
    let (directories, files) := found.partition fun (_, _, e) => e = .directory && !(g.has 'd')
    let listed := listNames g (files.map fun (path, _, e) => (path, e))
    let sorted := directories.mergeSort fun a b => a.1 ≤ b.1
    let sections := sorted.flatMap fun (path, l, _) => listDirectory w g 64 path l
    let hasHeaders := operands.length > 1 || g.has 'R'
    let texts := sections.map fun (path, text) => if hasHeaders then path ++ ":\n" ++ text else text
    let all := (if files.isEmpty then [] else [listed]) ++ texts
    let printed ← print ("\n".intercalate all)
    pure (max status printed)

/-- The programs of the machine itself that start no others. -/
def table : List (String × Work) :=
  [("true", fun _ => pure 0), ("false", fun _ => pure 1), ("sync", fun _ => pure 0), ("echo", echo),
    ("printf", printf), ("test", test false), ("[", test true), ("cat", cat), ("mkdir", mkdir), ("rmdir", rmdir),
    ("rm", rm), ("touch", touch), ("chmod", chmod), ("mv", mv), ("cp", cp), ("ln", ln), ("readlink", readlink),
    ("realpath", realpath), ("basename", basename), ("dirname", dirname), ("sleep", sleep), ("head", head),
    ("tail", tail), ("wc", wc), ("ls", ls), ("sort", sort), ("uniq", uniq), ("tr", tr), ("cut", cut), ("tee", tee),
    ("tac", tac), ("rev", rev), ("cmp", cmp), ("seq", seq), ("which", which),
    ("yes", yes), ("id", whoIs), ("whoami", fun _ => print "root\n"), ("uname", uname),
    ("install", install), ("grep", grep []), ("egrep", grep ['E']), ("fgrep", grep ['F']), ("sed", sed),
    ("comm", comm), ("diff", diff), ("join", join), ("chown", fun _ => pure 0), ("chgrp", fun _ => pure 0),
    ("nproc", fun _ => print "1\n"),
    ("expr", expr), ("date", date), ("cksum", cksum), ("sum", sum), ("base64", encoded .base64),
    ("base32", encoded .base32), ("mkfifo", mkfifo), ("mknod", mknod), ("mktemp", mktemp), ("link", link),
    ("unlink", unlink), ("truncate", truncate), ("du", du), ("stat", stat), ("paste", paste), ("fold", fold),
    ("nl", nl), ("expand", expand), ("unexpand", unexpand), ("od", od), ("split", split), ("dd", dd),
    ("printenv", printenv), ("tty", tty), ("logname", logname), ("stty", stty), ("groups", groups),
    ("factor", factor), ("pathchk", pathchk), ("tsort", tsort), ("shuf", shuf),
    ("arch", alone 1 (print "x86_64\n")), ("hostname", fun _ => print "localhost\n"),
    ("pwd", fun _ => do
      print (Octets.ofText (Workspace.pathOf (← get).workspace.directory).text ++ "\n"))] ++
    DigestKind.all.map fun k => (k.program, digests k)

end ReleaseMatrix.Shell.Utility
