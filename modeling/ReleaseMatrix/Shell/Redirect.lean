import ReleaseMatrix.Shell.Stream

namespace ReleaseMatrix.Shell

namespace ShellM

/-- What a redirection goes to, once its words are expanded. -/
inductive Target
  | path (path : Octets) (access : Access)
  | descriptor (source? : Option Nat)
  /-- A text in the script, which is expanded when it is connected. -/
  | document (text : Word)
  | text (text : Octets)

/-- What a word after a sign for descriptors means. Nothing means that the descriptor is closed. -/
def targetOf (word : Octets) : ShellM Target := do
  match word.toList with
  | ['-'] => pure (.descriptor none)
  | [d] => if d.isDigit then pure (.descriptor (some (d.toNat - '0'.toNat))) else bad
  | _ => bad
where
  bad : ShellM Target := fail "Syntax error: Bad fd number"

/-- How a redirection to a path opens its file. Files that are there are kept where that is asked for. -/
def accessOf (keepsFiles : Bool) (mode : RedirectionMode) : Access :=
  match mode with
  | .read => .read
  | .readWrite => .readWrite
  | .append => .append
  | .write => { Access.write with empties := !keepsFiles, isNew := keepsFiles }
  | _ => .write

/-- How a file that cannot be opened is told. -/
def openFault (path : Octets) (creates : Bool) (fault : FileFault) : Octets :=
  let text := match fault with
    | .notFound | .notADirectory => if creates then "Directory nonexistent" else "No such file"
    | fault => fault.text
  (if creates then "cannot create " else "cannot open ") ++ path ++ ": " ++ text

/-- How a file that cannot be opened is told in the extended language. -/
def plainOpenFault (path : Octets) (fault : FileFault) : Octets :=
  path ++ ": " ++ if fault = .alreadyExists then "cannot overwrite existing file" else fault.text

/-- What redirections of the extended language go to whose target was expanded to fields. Nothing is given if the
fields mean nothing. -/
def targetsOf? (keepsFiles : Bool) (r : Redirection) (fields : List Octets) : Option (List (Nat × Target)) :=
  let both (path : Octets) (mode : RedirectionMode) : List (Nat × Target) :=
    [(1, .path path (accessOf keepsFiles mode)), (2, .descriptor (some 1))]
  match r.mode, fields with
  | .duplicate, [word] =>
    let digits := word.toList.takeWhile Char.isDigit
    let source := Text.numberOf 10 digits
    match digits, word.toList.drop digits.length with
    | [], ['-'] => some [(r.descriptor, .descriptor none)]
    | [], [] => none
    | _ :: _, [] => some [(r.descriptor, .descriptor (some source))]
    | _ :: _, ['-'] => some [(r.descriptor, .descriptor (some source)), (source, .descriptor none)]
    | _, _ => if r.descriptor = 1 then some (both word .write) else none
  | .writeBoth, [path] => some (both path .write)
  | .appendBoth, [path] => some (both path .append)
  | mode, [path] => some [(r.descriptor, .path path (accessOf keepsFiles mode))]
  | _, _ => none

/-- Connects a descriptor, and says whether that is possible. One that is not open is shown as it is written, if
that is told. -/
def redirect (textOf : Word → ShellM Octets) (source? : Option Octets) (descriptor : Nat) (target : Target) :
    ShellM Bool := do
  match target with
  | .document text => do
    let text ← textOf text
    connect descriptor (← addOpened ⟨.pipe text.toList [], 0, true, false, false⟩)
    pure true
  | .text text => do
    connect descriptor (← addOpened ⟨.pipe text.toList [], 0, true, false, false⟩)
    pure true
  | .descriptor none => do
    close descriptor
    pure true
  | .descriptor (some source) =>
    if source = descriptor then pure true
    else match ← opened? source with
      | some (index, _) => do
        connect descriptor index
        pure true
      | none => do
        complain (source?.getD (toString source) ++ ": Bad file descriptor")
        pure false
  | .path path access =>
    match ← openPath path access with
    | .ok index => do
      connect descriptor index
      pure true
    | .error fault => do
      let isExtended := (← self).isExtended
      complain (if isExtended then plainOpenFault path fault else openFault path access.creates fault)
      pure false

/-- Connects one descriptor after the other, up to the first one that cannot be connected. -/
def redirectAll (textOf : Word → ShellM Octets) : List (Nat × Target) → ShellM Bool
  | [] => pure true
  | (descriptor, target) :: more => do
    if ← redirect textOf none descriptor target then redirectAll textOf more else pure false

/-- Connects descriptors. A text in the script that cannot be expanded counts as one that cannot be connected. -/
def tryRedirectAll (textOf : Word → ShellM Octets) (targets : List (Nat × Target)) : ShellM Bool :=
  tryCatch (redirectAll textOf targets) fun jump => if jump = .failed then pure false else throw jump

/-- Connects descriptors of a redirection of the extended language. -/
def redirectAsWritten (source : Octets) : List (Nat × Target) → ShellM Bool
  | [] => pure true
  | (descriptor, target) :: more => do
    if ← redirect (fun _ => pure "") (some source) descriptor target then redirectAsWritten source more
    else pure false

end ShellM

end ReleaseMatrix.Shell
