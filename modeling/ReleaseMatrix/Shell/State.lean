import ReleaseMatrix.Shell.Value
import ReleaseMatrix.Shell.Script
import ReleaseMatrix.Workspace.Change

namespace ReleaseMatrix.Shell

/-- Where what is written goes, and where what is read comes from. -/
inductive Channel
  /-- Nothing is there, and nothing stays. -/
  | void
  /-- Nothing more can be written. -/
  | full
  /-- Zeros without an end. -/
  | zeros
  | file (place : Location)
  /-- A pipe with a name. -/
  | queue (place : Location)
  | directory
  /-- What is written is read later. The part that was written last comes first in `later`. -/
  | pipe (unread : List Char) (later : List (List Char))

/-- A channel that was opened, and how far it was read or written. -/
structure OpenFile where
  channel : Channel
  position : Nat
  mayRead : Bool
  mayWrite : Bool
  appends : Bool

/-- How a process ended. -/
inductive Ending
  | exited (status : Nat)
  | killed (signal : Nat)
deriving DecidableEq, Repr

/-- The exit status that a script sees. -/
def Ending.status : Ending → Nat
  | exited status => status
  | killed signal => 128 + signal

structure Variable where
  content? : Option Value
  isExported : Bool
  isReadOnly : Bool
  /-- The letters of its other traits: a list or a table, a whole number, one case of letters, or another name. -/
  traits : List Char
deriving DecidableEq, Repr

namespace Variable

/-- A variable that holds a text, or nothing. -/
def ofText? (text? : Option Octets) (isExported isReadOnly : Bool) : Variable :=
  ⟨text?.map .text, isExported, isReadOnly, []⟩

/-- The text that the variable stands for. -/
def value? (v : Variable) : Option Octets :=
  v.content?.bind Value.text?

def has (v : Variable) (trait : Char) : Bool :=
  v.traits.contains trait

end Variable

/-- A function, and the file that it stands in. -/
structure Function where
  body : Command
  file : Octets

/-- A function that runs, or a file that is read: its name, the line that it was called from, and the file that
its commands stand in. -/
structure Frame where
  name : Octets
  line : Nat
  file : Octets
deriving DecidableEq, Repr

/-- What a process that runs scripts has of its own. Its children start with a copy. -/
structure Process where
  /-- The name by which it was called. -/
  name : Octets
  arguments : List Octets
  bindings : List (String × Variable)
  functions : List (String × Function)
  /-- Words that stand for others where a command starts. -/
  aliases : List (String × Octets)
  /-- The letters of the options that are on. -/
  options : List Char
  /-- Whether the extended language is read. -/
  isExtended : Bool
  /-- The names of the switches that are on. -/
  switches : List String
  /-- The functions and files that are running, the innermost one first. -/
  frames : List Frame
  /-- The exit statuses of the commands of the last pipeline. -/
  pipeStatuses : List Nat
  /-- The directories to come back to, the next one first. -/
  stacked : List Octets
  /-- How many subshells this one is within. -/
  subshells : Nat
  /-- How many texts that run as scripts are within each other. -/
  depth : Nat
  /-- The exit status of the last command. -/
  status : Nat
  /-- The exit status of the last command whose output was taken by the current one. -/
  outputStatus : Nat
  /-- The exit status that an exit without a number gives, while a trap runs. -/
  trappedStatus? : Option Nat
  /-- The line that complaints name. -/
  line : Nat
  /-- The command of the shell that is running, if it is one. -/
  command? : Option Octets
  /-- The open files behind the descriptors, by their indices. -/
  descriptors : List (Nat × Nat)
  /-- The commands for signals, of which nothing means that the signal is ignored. Zero is the end. -/
  traps : List (Nat × Octets)
  /-- Signals whose traps are still to be run. -/
  arrived : List Nat
  /-- The events whose traps are running. -/
  busyEvents : List Nat
  /-- The texts in the script that are redirected to commands. -/
  documents : List (Nat × Word)
  documentCount : Nat
  /-- The current directory as it was reached. -/
  directory : Octets
  id : Nat
  /-- The process that the script runs in, of which this one may be a child. -/
  scriptId : Nat
  /-- The processes that wait for this one, the closest first. -/
  ancestors : List Nat
  lastJob? : Option Nat
  /-- Jobs in the background that were not waited for. -/
  jobs : List Nat
  loopDepth : Nat
  /-- Variables as they were before commands and functions that they are local to. -/
  locals : List (List (String × Option Variable))
  /-- The argument that is read next for options, and how many of its letters are read already. -/
  optionIndex : Nat
  optionOffset : Nat
  mask : Nat

/-- A command in the background that is not run yet. -/
structure Job where
  process : Process
  place : Location
  body : Command

/-- What processes share besides files. -/
structure World where
  opened : Array OpenFile
  /-- Signals that were sent to processes, by the ids of these. -/
  mail : List (Nat × Nat)
  waiting : List Job
  /-- How jobs ended. -/
  endings : List (Nat × Ending)
  nextId : Nat

structure State where
  workspace : Workspace
  self : Process
  world : World

/-- Why a command does not run to its end. -/
inductive Jump
  /-- The script ends with its last status. -/
  | exit
  /-- The process is no more. -/
  | gone (ending : Ending)
  /-- A complaint was printed. -/
  | failed
  /-- A complaint was printed, and the script goes on with its next line. -/
  | abandoned
  | leaveLoop (levels : Nat)
  | nextRound (levels : Nat)
  | leaveFunction
  /-- The script takes more steps than are foreseen. -/
  | exhausted
deriving DecidableEq, Repr

abbrev ShellM := ExceptT Jump (StateM State)

namespace Process

def binding? (p : Process) (name : String) : Option Variable :=
  (p.bindings.find? (·.1 == name)).map (·.2)

def valueOf? (p : Process) (name : String) : Option Octets :=
  (p.binding? name).bind Variable.value?

/-- The process with a variable put in place of what has its name. -/
def put (p : Process) (name : String) (v : Variable) : Process :=
  if p.bindings.any (·.1 == name) then
    { p with bindings := p.bindings.map fun (n, old) => if n = name then (n, v) else (n, old) }
  else { p with bindings := p.bindings ++ [(name, v)] }

/-- The process with the variable that had a name before, or without one. -/
def restore (p : Process) (name : String) (old? : Option Variable) : Process :=
  match old? with
  | some v => p.put name v
  | none => { p with bindings := p.bindings.filter (·.1 ≠ name) }

def hasOption (p : Process) (letter : Char) : Bool :=
  p.options.contains letter

/-- The variables that programs are given. -/
def exported (p : Process) : List (String × Octets) :=
  p.bindings.filterMap fun (name, v) =>
    if v.isExported then v.value?.map fun value => (name, value) else none

def trap? (p : Process) (signal : Nat) : Option Octets :=
  (p.traps.find? (·.1 == signal)).map (·.2)

end Process

namespace ShellM

def self : ShellM Process := do
  return (← get).self

def modifySelf (f : Process → Process) : ShellM Unit :=
  modify fun s => { s with self := f s.self }

def setStatus (status : Nat) : ShellM Unit :=
  modifySelf fun p => { p with status }

/-- Work on files with its outcome. -/
def onFiles {α : Type} (x : FileM α) : ShellM (Except FileFault α) := do
  let s ← get
  let (outcome, workspace) := x.run.run s.workspace
  set { s with workspace }
  pure outcome

end ShellM

namespace Extended

/-- The names of options, with their letters if they have some. -/
def optionLetters : List (String × Char) :=
  [("allexport", 'a'), ("braceexpand", 'B'), ("errexit", 'e'), ("errtrace", 'E'), ("functrace", 'T'),
    ("hashall", 'h'), ("histexpand", 'H'), ("keyword", 'k'), ("monitor", 'm'), ("noclobber", 'C'), ("noexec", 'n'),
    ("noglob", 'f'), ("notify", 'b'), ("nounset", 'u'), ("onecmd", 't'), ("physical", 'P'), ("privileged", 'p'),
    ("verbose", 'v'), ("xtrace", 'x')]

/-- The names of options that have no letters. -/
def letterlessOptions : List String :=
  ["emacs", "history", "ignoreeof", "interactive-comments", "nolog", "pipefail", "posix", "vi"]

def hasNamedOption (p : Process) (name : Octets) : Bool :=
  match optionLetters.find? (·.1 == name) with
  | some (_, letter) => p.hasOption letter
  | none => letterlessOptions.contains name && p.switches.contains name

/-- The names of all switches, each with what it is at first. -/
def switchNames : List (String × Bool) :=
  [("autocd", false), ("assoc_expand_once", false), ("cdable_vars", false), ("cdspell", false), ("checkhash", false),
    ("checkjobs", false), ("checkwinsize", true), ("cmdhist", true), ("compat31", false), ("compat32", false),
    ("compat40", false), ("compat41", false), ("compat42", false), ("compat43", false), ("compat44", false),
    ("complete_fullquote", true), ("direxpand", false), ("dirspell", false), ("dotglob", false), ("execfail", false),
    ("expand_aliases", false), ("extdebug", false), ("extglob", false), ("extquote", true), ("failglob", false),
    ("force_fignore", true), ("globasciiranges", true), ("globskipdots", true), ("globstar", false),
    ("gnu_errfmt", false), ("histappend", false), ("histreedit", false), ("histverify", false),
    ("hostcomplete", true), ("huponexit", false), ("inherit_errexit", false), ("interactive_comments", true),
    ("lastpipe", false), ("lithist", false), ("localvar_inherit", false), ("localvar_unset", false),
    ("login_shell", false), ("mailwarn", false), ("no_empty_cmd_completion", false), ("nocaseglob", false),
    ("nocasematch", false), ("noexpand_translation", false), ("nullglob", false), ("patsub_replacement", true),
    ("progcomp", true), ("progcomp_alias", false), ("promptvars", true), ("restricted_shell", false),
    ("shift_verbose", false), ("sourcepath", true), ("syslog_history", false), ("varredir_close", false),
    ("xpg_echo", false)]

/-- The switches that are on at first. -/
def firstSwitches : List String :=
  "interactive-comments" :: (switchNames.filter (·.2)).map (·.1)

/-- The names of all options, in the order in which they are told. -/
def optionNames : List String :=
  (optionLetters.map (·.1) ++ letterlessOptions).mergeSort fun a b => a ≤ b

/-- The names of the options of the shell that are on. -/
def optionsOn (p : Process) : List String :=
  optionNames.filter (hasNamedOption p)

/-- The names of the switches that are on. -/
def switchesOn (p : Process) : List String :=
  ((switchNames.map (·.1)).filter p.switches.contains).mergeSort fun a b => a ≤ b

end Extended

end ReleaseMatrix.Shell
