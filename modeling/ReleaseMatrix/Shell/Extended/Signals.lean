import ReleaseMatrix.Shell.Extended.Options
import ReleaseMatrix.Shell.Extended.Quoting
import ReleaseMatrix.Shell.Signal

namespace ReleaseMatrix.Shell

namespace Signal

/-- What traps can be set for besides signals. -/
def eventNames : List (String × Nat) :=
  [("EXIT", 0), ("DEBUG", step), ("ERR", failure), ("RETURN", leaving)]

/-- The signal or event that a text names, with or without the letters that names of signals start with. -/
def named? (text : Octets) : Option Nat :=
  let wanted := text.toUpper
  match eventNames.find? (·.1 == wanted) with
  | some (_, number) => some number
  | none =>
    if wanted.startsWith "SIG" then
      let short := String.ofList (wanted.toList.drop 3)
      if short.toList.all Char.isDigit then none else (ofText? short).filter (· ≠ 0)
    else ofText? text

/-- The name of a signal or an event, with the letters that names of signals start with. -/
def fullName (signal : Nat) : String :=
  match eventNames.find? (·.2 == signal) with
  | some (name, _) => name
  | none => "SIG" ++ name signal

/-- The name of any signal, the nameless ones told by how far they are from the first or the last of them. -/
def realName (signal : Nat) : String :=
  let step (n : Nat) (sign : String) : String := if n = 0 then "" else sign ++ toString n
  if signal < 34 then fullName signal
  else if signal < 50 then "SIGRTMIN" ++ step (signal - 34) "+"
  else "SIGRTMAX" ++ step (64 - signal) "-"

/-- All signals with their numbers, five in a line. -/
def listing : Octets :=
  let signals := (List.range 65).filter fun n => n ≠ 0 && n ≠ 32 && n ≠ 33
  let cell (i n : Nat) : Octets :=
    let number := toString n
    let padded := if number.length < 2 then " " ++ number else number
    padded ++ ") " ++ realName n ++ if i % 5 = 4 then "\n" else "\t"
  String.join (signals.mapIdx cell) ++ if signals.length % 5 = 0 then "" else "\n"

end Signal

namespace Extended

open ShellM (self modifySelf)

/-- Tells traps as a script sets them. -/
def tellTraps (traps : List (Nat × Octets)) : ShellM Nat :=
  print (String.join (traps.map fun (signal, action) =>
    "trap -- " ++ Quoting.single action ++ " " ++ Signal.fullName signal ++ "\n"))

/-- Sets or removes the traps for some signals. -/
def setTraps (action? : Option Octets) (names : List Octets) : ShellM Nat :=
  names.foldlM (fun status name => do
    match Signal.named? name with
    | none => refuse (name ++ ": invalid signal specification") 1
    | some signal =>
      modifySelf fun p =>
        let others := p.traps.filter (·.1 ≠ signal)
        { p with traps := others ++ (action?.map fun action => (signal, action)).toList }
      pure status) 0

def trap (words : List Octets) : ShellM Nat := do
  withOptions "lp" false words fun g => do
    let traps := (← self).traps.mergeSort fun a b => a.1 ≤ b.1
    if g.has 'l' then print Signal.listing
    else if g.has 'p' && !g.words.isEmpty then
      g.words.foldlM (fun status name => do
        match Signal.named? name with
        | none => refuse (name ++ ": invalid signal specification") 1
        | some signal =>
          let _ ← tellTraps (traps.filter (·.1 = signal))
          pure status) 0
    else match g.words with
      | [] => tellTraps traps
      | [name] => if (Signal.named? name).isSome then setTraps none [name] else tellUsage
      | first :: rest =>
        if Signal.isNumber first then setTraps none g.words
        else setTraps (if first = "-" then none else some first) rest

/-- Sends a signal to one process after the other. -/
def sendTo (signal : Nat) : List Octets → ShellM Nat
  | [] => pure 0
  | word :: words => do
    let receiver? ← match word.toList with
      | '%' :: _ => do pure (← self).lastJob?
      | cs => pure ((integer? (String.ofList cs)).map fun n => n.toInt.natAbs)
    let isSent ← match receiver? with
      | some receiver => ShellM.send signal receiver
      | none => pure false
    if !isSent then
      let isJob := word.toList.head? = some '%'
      ShellM.complain (if isJob then word ++ ": no such job"
        else if receiver?.isSome then "(" ++ word ++ ") - No such process"
        else if word.isEmpty then "\x60': not a pid or valid job spec"
        else word ++ ": arguments must be process or job IDs")
    let rest ← sendTo signal words
    pure (if isSent then rest else 1)

/-- Tells the numbers of signals that are named, and the names of those that are told by numbers or by the exit
statuses that they give. -/
def tellSignals (words : List Octets) : ShellM Nat :=
  words.foldlM (fun status word => do
    match word.toNat? with
    | some n =>
      let signal := if n > 128 then n - 128 else n
      if signal < Signal.limit then
        let _ ← print (String.ofList ((Signal.realName signal).toList.drop (if signal = 0 then 0 else 3)) ++ "\n")
        pure status
      else refuse (word ++ ": invalid signal specification") 1
    | none =>
      match Signal.named? word with
      | some signal =>
        let _ ← print (toString signal ++ "\n")
        pure status
      | none => refuse (word ++ ": invalid signal specification") 1) 0

def kill (words : List Octets) : ShellM Nat := do
  let send (name : Octets) (receivers : List Octets) : ShellM Nat := do
    match (Signal.named? name).filter (· < Signal.limit) with
    | none => refuse (name ++ ": invalid signal specification") 1
    | some signal =>
      let receivers := if receivers.head? = some "--" then receivers.tail else receivers
      if receivers.isEmpty then tellUsage else sendTo signal receivers
  match words with
  | [] => tellUsage
  | word :: rest =>
    match word.toList with
    | ['-', '-'] => if rest.isEmpty then tellUsage else sendTo Signal.terminate rest
    | ['-', c] =>
      if c = 'l' || c = 'L' then if rest.isEmpty then print Signal.listing else tellSignals rest
      else if c = 's' || c = 'n' then
        match rest with
        | [] => refuse (word ++ ": option requires an argument") 1
        | name :: receivers => send name receivers
      else send (String.singleton c) rest
    | '-' :: name => send (String.ofList name) rest
    | _ => sendTo Signal.terminate words

end Extended

end ReleaseMatrix.Shell
