import ReleaseMatrix.Shell.Number
import ReleaseMatrix.Shell.Scope

namespace ReleaseMatrix.Shell

/-- Why nothing can be read or written. -/
inductive StreamFault
  | notOpen
  | isDirectory
  | noSpace
deriving DecidableEq, Repr

def StreamFault.text : StreamFault → String
  | notOpen => "Bad file descriptor"
  | isDirectory => "Is a directory"
  | noSpace => "No space left on device"

namespace ShellM

/-- The open file behind a descriptor, with its index. -/
def opened? (descriptor : Nat) : ShellM (Option (Nat × OpenFile)) := do
  let s ← get
  match s.self.descriptors.find? (·.1 == descriptor) with
  | some (_, index) => return s.world.opened[index]?.map fun f => (index, f)
  | none => return none

def setOpened (index : Nat) (f : OpenFile) : ShellM Unit :=
  modify fun s => { s with world.opened := s.world.opened.setIfInBounds index f }

/-- Opens a file, and gives its index. -/
def addOpened (f : OpenFile) : ShellM Nat := do
  let s ← get
  set { s with world.opened := s.world.opened.push f }
  pure s.world.opened.size

/-- Lets a descriptor stand for an open file. -/
def connect (descriptor index : Nat) : ShellM Unit :=
  modifySelf fun p =>
    { p with descriptors := (descriptor, index) :: p.descriptors.filter (·.1 ≠ descriptor) }

def close (descriptor : Nat) : ShellM Unit :=
  modifySelf fun p => { p with descriptors := p.descriptors.filter (·.1 ≠ descriptor) }

/-- What the file at a place holds. -/
def contentAt (l : Location) : ShellM Bytes := do
  return ((← get).workspace.files.get? l |>.bind Entry.content?).getD []

/-- What is still to be read from the pipe at a place. -/
def unreadAt (l : Location) : ShellM Bytes := do
  match (← get).workspace.files.get? l with
  | some (.queue unread) => pure unread
  | _ => pure []

/-- Sets what is still to be read from the pipe at a place. -/
def setUnread (l : Location) (unread : Bytes) : ShellM Unit :=
  modify fun s => { s with workspace.files := s.workspace.files.replace l (.queue unread) }

/-- Bytes with others written over them from a position on. Zeros fill the gap before it. -/
def overwrite (before : Bytes) (position : Nat) (bytes : Bytes) : Bytes :=
  before.take position ++ List.replicate (position - before.length) 0 ++ bytes ++
    before.drop (position + bytes.length)

/-- Writes bytes to a place. Nothing is kept if the file was removed meanwhile. -/
def writeAt (l : Location) (position : Nat) (bytes : Bytes) : ShellM Unit := do
  let w := (← get).workspace
  match w.files.get? l with
  | some e =>
    let content := overwrite (e.content?.getD []) position bytes
    let files := w.files.replace l (e.withContent content)
    modify fun s => { s with workspace.files := files }
  | none => pure ()

/-- Writes a text, and tells what prevents it. -/
def write (descriptor : Nat) (text : Octets) : ShellM (Option StreamFault) := do
  if text.isEmpty then return none
  match ← opened? descriptor with
  | none => pure (some .notOpen)
  | some (index, f) =>
    if !f.mayWrite then pure (some .notOpen)
    else match f.channel with
      | .void | .zeros => pure none
      | .full => pure (some .noSpace)
      | .directory => pure (some .notOpen)
      | .pipe unread later => do
        setOpened index { f with channel := .pipe unread (text.toList :: later) }
        pure none
      | .queue l => do
        setUnread l ((← unreadAt l) ++ Octets.toBytes text)
        pure none
      | .file l => do
        let bytes := Octets.toBytes text
        let position ← if f.appends then do pure (← contentAt l).length else pure f.position
        writeAt l position bytes
        setOpened index { f with position := position + bytes.length }
        pure none

/-- Everything that is written to a pipe and not read yet. -/
def unreadText (unread : List Char) (later : List (List Char)) : List Char :=
  unread ++ later.reverse.flatten

/-- How many zeros are at hand where they have no end. -/
def zeroCount : Nat := 262144

/-- What is left to read, and how to set what is left after it. -/
def peekAll (descriptor : Nat) : ShellM (Except StreamFault (List Char × (List Char → ShellM Unit))) := do
  match ← opened? descriptor with
  | none => pure (.error .notOpen)
  | some (index, f) =>
    if !f.mayRead then pure (.error .notOpen)
    else match f.channel with
      | .void => pure (.ok ([], fun _ => pure ()))
      | .full | .zeros => pure (.ok (List.replicate zeroCount '\x00', fun _ => pure ()))
      | .directory => pure (.error .isDirectory)
      | .pipe unread later =>
        pure (.ok (unreadText unread later,
          fun rest => setOpened index { f with channel := .pipe rest [] }))
      | .queue l => do
        pure (.ok ((Octets.ofBytes (← unreadAt l)).toList,
          fun rest => setUnread l (Octets.toBytes (String.ofList rest))))
      | .file l => do
        let content ← contentAt l
        pure (.ok ((Octets.ofBytes (content.drop f.position)).toList,
          fun rest => setOpened index { f with position := max f.position (content.length - rest.length) }))

/-- Reads all that is left. -/
def readAll (descriptor : Nat) : ShellM (Except StreamFault Octets) := do
  match ← peekAll descriptor with
  | .error fault => pure (.error fault)
  | .ok (chars, leave) =>
    leave []
    pure (.ok (String.ofList chars))

/-- The place that a path in the directory of descriptors stands for: the open file with its number. -/
def descriptorOf? (path : Octets) : Option Nat :=
  match path with
  | "/dev/stdin" => some 0
  | "/dev/stdout" => some 1
  | "/dev/stderr" => some 2
  | path =>
    ["/dev/fd/", "/proc/self/fd/"].findSome? fun dir =>
      if dir.toList.isPrefixOf path.toList then (String.ofList (path.toList.drop dir.length)).toNat?
      else none

/-- How a file is opened. -/
structure Access where
  mayRead : Bool
  mayWrite : Bool
  creates : Bool
  empties : Bool
  appends : Bool
  /-- Whether a file that is there is kept from being opened. -/
  isNew : Bool
deriving DecidableEq, Repr

namespace Access

def read : Access := ⟨true, false, false, false, false, false⟩
def write : Access := ⟨false, true, true, true, false, false⟩
def append : Access := ⟨false, true, true, false, true, false⟩
def readWrite : Access := ⟨true, true, true, false, false, false⟩

end Access

/-- Opens the file at a place, which is made if it is missing. -/
def openPlace (l : Location) (a : Access) : ShellM (Except FileFault OpenFile) := do
  let s ← get
  let opened (channel : Channel) : OpenFile := ⟨channel, 0, a.mayRead, a.mayWrite, a.appends⟩
  match s.workspace.files.get? l with
  | some .directory => if a.mayWrite then pure (.error .isADirectory) else pure (.ok (opened .directory))
  | some .void => pure (.ok (opened .void))
  | some (.queue _) => pure (.ok (opened (.queue l)))
  | some e =>
    if a.isNew then pure (.error .alreadyExists)
    else
      if a.empties then set { s with workspace.files := s.workspace.files.replace l (e.withContent []) }
      pure (.ok (opened (.file l)))
  | none =>
    if a.creates then
      set { s with workspace.files := s.workspace.files.put l (.file [] false) }
      pure (.ok (opened (.file l)))
    else pure (.error .notFound)

/-- Opens a file by its path, and gives its index. -/
def openPath (path : Octets) (a : Access) : ShellM (Except FileFault Nat) := do
  let devices : List (String × Channel) :=
    [("/dev/full", .full), ("/dev/zero", .zeros), ("/dev/urandom", .zeros), ("/dev/random", .zeros)]
  match devices.find? (·.1 == path), descriptorOf? path with
  | some (_, channel), _ =>
    return .ok (← addOpened ⟨channel, 0, a.mayRead, a.mayWrite, false⟩)
  | none, some descriptor =>
    match ← opened? descriptor with
    | none => pure (.error .notFound)
    | some (index, f) =>
      match f.channel with
      | .file l =>
        match ← openPlace l a with
        | .ok f => return .ok (← addOpened f)
        | .error fault => pure (.error fault)
      | _ => pure (.ok index)
  | none, none =>
    match (← get).workspace.locate (Octets.toPath path) (if a.creates then .newFile else .target) with
    | .error fault => pure (.error fault)
    | .ok l =>
      match ← openPlace l a with
      | .ok f => return .ok (← addOpened f)
      | .error fault => pure (.error fault)

/-- A complaint, with the place in the script that it is about. -/
def complain (message : Octets) : ShellM Unit := do
  let p ← self
  let command := (p.command?.map (· ++ ": ")).getD ""
  let line := (if p.isExtended then "line " else "") ++ toString p.line
  let _ ← write 2 (p.sourceName ++ ": " ++ line ++ ": " ++ command ++ message ++ "\n")

/-- Complains and gives up. -/
def fail {α : Type} (message : Octets) : ShellM α := do
  complain message
  setStatus 2
  throw .failed

/-- Complains and gives up the rest of the line of the script. -/
def dropLine {α : Type} (message : Octets) : ShellM α := do
  complain message
  setStatus 1
  throw .abandoned

/-- Complains and gives up the rest of the line, or the whole script where failures end it. -/
def abandon {α : Type} (message : Octets) : ShellM α := do
  complain message
  setStatus 1
  throw (if (← self).hasOption 'e' then .exit else .abandoned)

/-- Fails if a text is no count. -/
def count (text : Octets) : ShellM Nat :=
  match countOf? text.toList with
  | some n => pure n
  | none => fail ("Illegal number: " ++ text)

end ShellM

end ReleaseMatrix.Shell
