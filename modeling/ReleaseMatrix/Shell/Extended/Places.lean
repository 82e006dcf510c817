import ReleaseMatrix.Shell.Builtin.Basic
import ReleaseMatrix.Shell.Extended.Options

namespace ReleaseMatrix.Shell

namespace Extended

open ShellM (self modifySelf)

/-- Enters a directory, or complains with the path as it was given. -/
def enterOrComplain (path shown : Octets) (isPhysical : Bool) : ShellM Bool := do
  if ← Builtin.enter path isPhysical then pure true
  else
    let fault := match (← get).workspace.find (Octets.toPath path) with
      | .ok _ => FileFault.notADirectory
      | .error fault => fault
    ShellM.complain (shown ++ ": " ++ fault.text)
    pure false

/-- The directory of `CDPATH` in which a path is found first, and the path from there. -/
def searchedPath? (p : Process) (w : Workspace) (dest : Octets) : Option (Octets × Octets) :=
  let steps := Text.split '/' dest
  let isFixed := steps.head?.any (· ∈ [".", ".."]) || dest.toList.head? = some '/'
  let searched := if isFixed then [] else Text.split ':' ((p.valueOf? "CDPATH").getD "")
  let candidates := searched.map fun dir => (dir, if dir.isEmpty then dest else ((Path.mk dir).join dest).text)
  candidates.find? fun (_, path) => w.isDirectory (Octets.toPath path)

def changeDirectory (words : List Octets) : ShellM Nat := do
  withOptions "LPe@" false words fun g => do
    let p ← self
    let isPhysical := (g.options.getLast?.any (·.2.1 = 'P')) || (p.hasOption 'P' && !g.has 'L')
    let go (dest : Octets) (printsIt : Bool) : ShellM Nat := do
      if dest.isEmpty then pure 0
      else
        let (path, printsIt) := match searchedPath? p (← get).workspace dest with
          | some (dir, path) => (path, printsIt || !dir.isEmpty)
          | none => (dest, printsIt)
        if ← enterOrComplain path dest isPhysical then
          if printsIt then print ((← self).directory ++ "\n") else pure 0
        else pure 1
    match g.words with
    | _ :: _ :: _ => refuse "too many arguments" 1
    | ["-"] =>
      match p.valueOf? "OLDPWD" with
      | some dest => go dest true
      | none => refuse "OLDPWD not set" 1
    | [dest] => go dest false
    | [] =>
      match p.valueOf? "HOME" with
      | some dest => go dest false
      | none => refuse "HOME not set" 1

def printDirectory (words : List Octets) : ShellM Nat := do
  withOptions "LP" false words fun g => do
    let s ← get
    if g.options.getLast?.any (·.2.1 = 'P') then
      print (Octets.ofText (Workspace.pathOf s.workspace.directory).text ++ "\n")
    else print (s.self.directory ++ "\n")

/-- A path with a tilde for the home directory at its start. -/
def shortened (p : Process) (path : Octets) : Octets :=
  match p.valueOf? "HOME" with
  | some home =>
    if home ≠ "" && home ≠ "/" && (path = home || path.startsWith (home ++ "/")) then
      "~" ++ String.ofList (path.toList.drop home.length)
    else path
  | none => path

/-- The directories that are remembered, in one line. -/
def tellStack : ShellM Nat := do
  let p ← self
  print (" ".intercalate ((p.directory :: p.stacked).map (shortened p)) ++ "\n")

/-- The place that a word with a sign and a number counts to, in a list of some length. -/
def placeIn? (length : Nat) (word : Octets) : Option (Option Nat) :=
  match word.toList with
  | sign :: digits =>
    if (sign = '+' || sign = '-') && !digits.isEmpty && digits.all Char.isDigit then
      let n := Text.numberOf 10 digits
      some (if n < length then some (if sign = '+' then n else length - 1 - n) else none)
    else none
  | [] => none

/-- Complains that a place is not in the stack. -/
def noPlace (p : Process) (word : Octets) : ShellM Nat :=
  refuse (if p.stacked.isEmpty then "directory stack empty" else word ++ ": directory stack index out of range") 1

def listDirectories (words : List Octets) : ShellM Nat := do
  let p ← self
  let has (letter : Char) : Bool := words.any fun word => match word.toList with
    | '-' :: letters => letters.contains letter && !letters.all Char.isDigit
    | _ => false
  let all := p.directory :: p.stacked
  let shown := if has 'l' then all else all.map (shortened p)
  if has 'c' then
    modifySelf fun p => { p with stacked := [] }
    pure 0
  else match words.findSome? fun word => (placeIn? all.length word).map fun place? => (word, place?) with
    | some (_, some place) => print (shown.getD place "" ++ "\n")
    | some (word, none) => noPlace p word
    | none =>
      if has 'v' then
        let number (i : Nat) : Octets := (if i < 10 then " " else "") ++ toString i ++ "  "
        print (String.join (shown.mapIdx fun i path => number i ++ path ++ "\n"))
      else if has 'p' then print (String.join (shown.map (· ++ "\n")))
      else print (" ".intercalate shown ++ "\n")

/-- Enters a directory and remembers the one before, or changes the order of those that are remembered. -/
def pushDirectory (words : List Octets) : ShellM Nat := do
  let p ← self
  let stays := words.contains "-n"
  let words := words.filter fun word => word ≠ "-n" && word ≠ "--"
  let all := p.directory :: p.stacked
  match words with
  | [] =>
    match p.stacked with
    | [] => refuse "no other directory" 1
    | next :: rest =>
      if ← enterOrComplain next next false then
        modifySelf fun now => { now with stacked := p.directory :: rest }
        tellStack
      else pure 1
  | _ :: _ :: _ => refuse "too many arguments" 1
  | [word] =>
    match placeIn? all.length word with
    | some none => noPlace p word
    | some (some place) =>
      let turned := all.drop place ++ all.take place
      if ← enterOrComplain (turned.headD "") (turned.headD "") false then
        modifySelf fun now => { now with stacked := turned.tail }
        tellStack
      else pure 1
    | none =>
      if stays then
        modifySelf fun now => { now with stacked := word :: now.stacked }
        tellStack
      else if ← enterOrComplain word word false then
        modifySelf fun now => { now with stacked := p.directory :: now.stacked }
        tellStack
      else pure 1

/-- Forgets a directory that is remembered, and enters the next one if the current one is forgotten. -/
def popDirectory (words : List Octets) : ShellM Nat := do
  let p ← self
  let stays := words.contains "-n"
  let words := words.filter fun word => word ≠ "-n" && word ≠ "--"
  let all := p.directory :: p.stacked
  let drop (place : Nat) : ShellM Nat := do
    if place = 0 && !stays then
      match p.stacked with
      | [] => refuse "directory stack empty" 1
      | next :: rest =>
        if ← enterOrComplain next next false then
          modifySelf fun now => { now with stacked := rest }
          tellStack
        else pure 1
    else
      modifySelf fun now => { now with stacked := (all.eraseIdx (if stays then max 1 place else place)).tail }
      tellStack
  if p.stacked.isEmpty then refuse "directory stack empty" 1
  else match words with
    | [] => drop 0
    | word :: _ =>
      match placeIn? all.length word with
      | some (some place) => drop place
      | some none => noPlace p word
      | none =>
        ShellM.complain (word ++ ": invalid argument")
        tellUsage

end Extended

end ReleaseMatrix.Shell
