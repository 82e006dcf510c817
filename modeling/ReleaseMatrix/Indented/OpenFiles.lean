import ReleaseMatrix.Indented.TextFunctions

namespace ReleaseMatrix.Indented

open Shell (Octets)

namespace RunM

variable (r : Runner)

/-- The path that a value tells. -/
def pathText (v : Value) : RunM String := do
  match v with
  | .text s => if s.toList.contains '\x00' then raise "ValueError" "embedded null byte" else pure s
  | .path s => pure s
  | .bytes s => pure (Octets.toText s)
  | v => raise "TypeError" ("expected str, bytes or os.PathLike object, not " ++ (← kindName v))

/-- The path that the argument of a function must tell. -/
def pathFor (g : Given) (index : Nat) (name : String) : RunM String := do
  match g.argument? index name with
  | some v => pathText v
  | none => raise "TypeError" ("missing required argument: '" ++ name ++ "'")

/-- The value that errors about a path tell. -/
def pathValue (v? : Option Value) : Value :=
  match v? with
  | some (.path s) => .text s
  | some v => v
  | none => .none

/-- The first descriptor that stands for no file. -/
def freeDescriptor : RunM Nat := do
  let used := (← getThe Shell.State).self.descriptors.map (·.1)
  pure (((List.range (used.length + 4)).drop 3).find? (!used.contains ·) |>.getD 3)

/-- How a file is opened for a mode, if it is one. -/
def accessOf? (mode : String) : Option Shell.ShellM.Access :=
  let cs := mode.toList
  let kinds := cs.filter fun c => c ∈ ['r', 'w', 'a', 'x']
  let updates := cs.contains '+'
  let isKnown := cs.all fun c => c ∈ ['r', 'w', 'a', 'x', 'b', 't', '+', 'U']
  if kinds.length ≠ 1 || !isKnown || cs.contains 'b' && cs.contains 't' then
    none
  else if kinds = ['r'] then some (if updates then ⟨true, true, false, false, false, false⟩ else .read)
  else if kinds = ['w'] then some ⟨updates, true, true, true, false, false⟩
  else if kinds = ['a'] then some ⟨updates, true, true, false, true, false⟩
  else some ⟨updates, true, true, false, false, true⟩

/-- Opens a file. -/
def openFile (v : Value) (mode : String) : RunM Value := do
  match accessOf? mode with
  | none =>
    raise "ValueError" (if mode.toList.all fun c => c ∈ ['r', 'w', 'a', 'x', 'b', 't', '+'] then
        "must have exactly one of create/read/write/append mode"
      else "invalid mode: '" ++ mode ++ "'")
  | some access =>
    let isBinary := mode.toList.contains 'b'
    match v with
    | .whole n =>
      make (.stream ⟨v, mode, n.toNat, isBinary, false, none⟩)
    | v =>
      let path ← pathText v
      match ← onShell (Shell.ShellM.openPath (Octets.ofText path) access) with
      | .error fault => raiseFault fault [pathValue (some v)]
      | .ok index =>
        if ((← getThe Shell.State).world.opened[index]?).any (·.channel matches .directory) then
          raiseFault .isADirectory [pathValue (some v)]
        let descriptor ← freeDescriptor
        onShell (Shell.ShellM.connect descriptor index)
        make (.stream ⟨pathValue (some v), mode, descriptor, isBinary, false, none⟩)

/-- What opens a file for the arguments of a call. -/
def openFor (g : Given) : RunM Value := do
  match g.argument? 0 "file" with
  | none => raise "TypeError" "open() missing required argument 'file' (pos 1)"
  | some v =>
    let mode ← match g.argument? 1 "mode" with
      | some m => textFor "open" (some m)
      | none => pure "r"
    openFile v mode

/-- All that a file holds. -/
def readFile (v : Value) (mode : String) : RunM Value := do
  let stream ← openFile v mode
  let content ← readValue stream none
  close stream
  pure content

/-- Lets a file hold a value and nothing else. -/
def writeFile (v : Value) (mode : String) (content : Value) : RunM Value := do
  let stream ← openFile v mode
  let count ← writeValue stream content
  close stream
  pure count

/-- What a function of an open file gives, if files have it. -/
def streamFunction? (v : Value) (s : Stream) (name : String) (g : Given) : Option (RunM Value) :=
  let nothing (work : RunM Unit) : RunM Value := do
    work
    pure .none
  let count : RunM (Option Nat) := do
    match g.plain.head? with
    | none | some .none => pure none
    | some k =>
      let n ← wholeFor (some k) (-1)
      pure (if n < 0 then none else some n.toNat)
  match name with
  | "write" => some do
    match g.plain with
    | content :: _ => writeValue v content
    | [] => raise "TypeError" "TextIOWrapper.write() takes exactly one argument (0 given)"
  | "writelines" => some do
    for content in ← itemsOf r (g.plain.headD (.tuple [])) do
      let _ ← writeValue v content
    pure .none
  | "read" => some do readValue v (← count)
  | "readline" => some (readLine v)
  | "readlines" => some do makeList (← itemsOf r v)
  | "flush" => some (nothing (flush v))
  | "close" => some (nothing (close v))
  | "fileno" => some (pure (.whole s.descriptor))
  | "isatty" => some (pure (.truth false))
  | "readable" => some (pure (.truth (mayRead s.mode)))
  | "writable" => some (pure (.truth (mayWrite s.mode)))
  | "seek" => some do
    flush v
    let place ← wholeFor g.plain.head? 0
    match ← onShell (Shell.ShellM.opened? s.descriptor) with
    | some (index, f) =>
      let position ← match g.plain[1]?.bind Value.whole?, f.channel with
        | some 2, .file l => do pure ((← onShell (Shell.ShellM.contentAt l)).length + place).toNat
        | some 1, _ => pure (f.position + place).toNat
        | _, _ => pure place.toNat
      onShell (Shell.ShellM.setOpened index { f with position })
      pure (.whole position)
    | none => pure (.whole 0)
  | "tell" => some do
    match ← onShell (Shell.ShellM.opened? s.descriptor) with
    | some (_, f) => pure (.whole f.position)
    | none => pure (.whole 0)
  | "truncate" => some do
    match ← onShell (Shell.ShellM.opened? s.descriptor) with
    | some (_, f) =>
      let size ← wholeFor g.plain.head? f.position
      match f.channel with
      | .file l =>
        let content ← onShell (Shell.ShellM.contentAt l)
        let kept := content.take size.toNat ++ List.replicate (size.toNat - content.length) 0
        onShell (do
          let w := (← get).workspace
          match w.files.get? l with
          | some e => modify fun st => { st with workspace.files := w.files.replace l (e.withContent kept) }
          | none => pure ())
      | _ => pure ()
      pure (.whole size)
    | none => pure (.whole 0)
  | "reconfigure" | "detach" => some (pure .none)
  | "__enter__" => some (pure v)
  | "__exit__" => some (nothing (close v))
  | _ => none

end RunM

end ReleaseMatrix.Indented
