import ReleaseMatrix.Indented.Value
import ReleaseMatrix.Shell.Stream

namespace ReleaseMatrix.Indented

open Shell (Octets)

/-- The text that bytes encode, or where the first byte stands that encodes none. -/
def decodeText (bytes : Octets) : Except Nat String :=
  match Text.Utf8.decode? (Octets.toBytes bytes) with
  | some s => .ok s
  | none => .error (firstOdd (bytes.length + 1) 0 (Octets.toBytes bytes))
where
  /-- How many bytes encode whole characters before one that does not. -/
  firstOdd : Nat → Nat → Bytes → Nat
    | 0, position, _ => position
    | n + 1, position, bytes =>
      match [1, 2, 3, 4].find? fun k => k ≤ bytes.length && (Text.Utf8.decode? (bytes.take k)).isSome with
      | some k => firstOdd n (position + k) (bytes.drop k)
      | none => position

namespace RunM

def streamAt (v : Value) : RunM (Option (Nat × Stream)) := do
  match v with
  | .object i =>
    match ← objectAt i with
    | .stream s => pure (some (i, s))
    | _ => pure none
  | _ => pure none

/-- Raises the error that bytes are no text. -/
def raiseUndecodable {α : Type} (bytes : Octets) (position : Nat) : RunM α := do
  let code := ((bytes.toList.drop position).head?.map Char.toNat).getD 0
  let why := if position + 1 ≥ bytes.length && 0xc2 ≤ code && code ≤ 0xf4 then "unexpected end of data"
    else if 0xc2 ≤ code && code ≤ 0xf4 then "invalid continuation byte" else "invalid start byte"
  raise "UnicodeDecodeError" ("'utf-8' codec can't decode byte 0x" ++ String.ofList (Nat.toDigits 16 code) ++
    " in position " ++ toString position ++ ": " ++ why)

def decode (bytes : Octets) : RunM String :=
  match decodeText bytes with
  | .ok s => pure s
  | .error position => raiseUndecodable bytes position

/-- Writes bytes to a descriptor at once. -/
def writeThrough (descriptor : Nat) (bytes : Octets) : RunM Unit := do
  match ← onShell (Shell.ShellM.write descriptor bytes) with
  | none => pure ()
  | some fault =>
    let number := match fault with
      | .notOpen => 9
      | .isDirectory => 21
      | .noSpace => 28
    raiseWith "OSError" [.whole number, .text fault.text] [("errno", .whole number)]

/-- Passes on what was written to a stream and waits. -/
def flush (v : Value) : RunM Unit := do
  match ← streamAt v with
  | some (i, s) =>
    match s.pending? with
    | some (part :: parts) =>
      setObject i (.stream { s with pending? := some [] })
      writeThrough s.descriptor (String.join (part :: parts).reverse)
    | _ => pure ()
  | none => pure ()

/-- How much may wait in a stream. -/
def bufferSize : Nat := 8192

def writeBytes (v : Value) (bytes : Octets) : RunM Unit := do
  match ← streamAt v with
  | some (i, s) =>
    match s.pending? with
    | none => writeThrough s.descriptor bytes
    | some parts =>
      setObject i (.stream { s with pending? := some (bytes :: parts) })
      if (bytes :: parts).foldl (· + ·.length) 0 > bufferSize then flush v
  | none => pure ()

/-- The stream that a value is, if it is open for what is asked. -/
def usable (v : Value) (mayUse : String → Bool) (what : String) : RunM Stream := do
  match ← streamAt v with
  | some (_, s) =>
    if s.isClosed then raise "ValueError" "I/O operation on closed file."
    if !mayUse s.mode then raise "io.UnsupportedOperation" ("not " ++ what)
    pure s
  | none => raise "TypeError" "expected a stream"

def mayWrite (mode : String) : Bool :=
  mode.toList.any fun c => c ∈ ['w', 'a', 'x', '+']

def mayRead (mode : String) : Bool :=
  mode.toList.any fun c => c ∈ ['r', '+']

/-- Writes a text to a stream of texts, or bytes to one of bytes. Gives how much was written. -/
def writeValue (stream v : Value) : RunM Value := do
  let s ← usable stream mayWrite "writable"
  match s.isBinary, v with
  | false, .text t =>
    writeBytes stream (Octets.ofText t)
    pure (.whole t.length)
  | true, .bytes b =>
    writeBytes stream b
    pure (.whole b.length)
  | true, v => do raise "TypeError" ("a bytes-like object is required, not '" ++ (← kindName v) ++ "'")
  | false, v => do raise "TypeError" ("write() argument must be str, not " ++ (← kindName v))

def close (v : Value) : RunM Unit := do
  match ← streamAt v with
  | some (i, s) =>
    if !s.isClosed then
      flush v
      setObject i (.stream { s with isClosed := true, pending? := none })
      onShell (Shell.ShellM.close s.descriptor)
  | none => pure ()

/-- What is left to read of a stream, and how to set what is left after it. -/
def unread (v : Value) : RunM (List Char × (List Char → RunM Unit)) := do
  let s ← usable v mayRead "readable"
  match ← onShell (Shell.ShellM.peekAll s.descriptor) with
  | .ok (bytes, leave) => pure (bytes, fun rest => onShell (leave rest))
  | .error .isDirectory => raiseFault .isADirectory []
  | .error _ => raiseWith "OSError" [.whole 9, .text "Bad file descriptor"] [("errno", .whole 9)]

/-- A text in which all lines end alike. -/
def plainLines : List Char → List Char
  | '\x0d' :: '\n' :: rest => '\n' :: plainLines rest
  | '\x0d' :: rest => '\n' :: plainLines rest
  | c :: rest => c :: plainLines rest
  | [] => []

/-- Bytes of a stream as the value that they are read as. -/
def valueOfBytes (s : Stream) (bytes : Octets) : RunM Value := do
  if s.isBinary then pure (.bytes bytes)
  else return .text (String.ofList (plainLines (← decode bytes).toList))

/-- Reads all that is left of a stream, or so many characters or bytes. -/
def readValue (v : Value) (count? : Option Nat) : RunM Value := do
  let s ← usable v mayRead "readable"
  let (bytes, leave) ← unread v
  match count? with
  | none =>
    leave []
    valueOfBytes s (String.ofList bytes)
  | some count =>
    let taken := if s.isBinary then count
      else (Octets.ofText (String.ofList ((Octets.toText (String.ofList bytes)).toList.take count))).length
    leave (bytes.drop taken)
    valueOfBytes s (String.ofList (bytes.take taken))

/-- Reads a line of a stream with its end. An empty one means that nothing is left. -/
def readLine (v : Value) : RunM Value := do
  let s ← usable v mayRead "readable"
  let (bytes, leave) ← unread v
  let line := bytes.takeWhile (· ≠ '\n')
  let line := if line.length < bytes.length then line ++ ['\n'] else line
  leave (bytes.drop line.length)
  valueOfBytes s (String.ofList line)

end RunM

end ReleaseMatrix.Indented
