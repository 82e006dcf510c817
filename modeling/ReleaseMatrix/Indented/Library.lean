import ReleaseMatrix.Indented.Builtins
import ReleaseMatrix.Indented.Report
import ReleaseMatrix.Json
import ReleaseMatrix.Shell.Utility.Dump
import ReleaseMatrix.Shell.Utility.Sums

namespace ReleaseMatrix.Indented

open Shell (Octets Decimal)

/-- How values are written as JSON. -/
structure JsonStyle where
  /-- What one level is indented by, if lines are broken. -/
  indent? : Option String
  itemSeparator : String
  keySeparator : String
  sortsKeys : Bool
  escapesAll : Bool

namespace RunM

variable (r : Runner)

def jsonQuoted (style : JsonStyle) (s : String) : String :=
  let escape (c : Char) : List Char :=
    if c.toNat < 128 || !style.escapesAll then
      if c = '\x7f' && !style.escapesAll then [c] else Json.escapeChar c
    else
      let unit (n : Nat) : List Char := '\\' :: 'u' :: Json.hexDigits 4 n
      if c.toNat < 65536 then unit c.toNat
      else
        let n := c.toNat - 65536
        unit (55296 + n / 1024) ++ unit (56320 + n % 1024)
  "\"" ++ String.ofList (s.toList.flatMap escape) ++ "\""

/-- A value as JSON. -/
def jsonText (style : JsonStyle) (fallback? : Option Value) : Nat → Nat → Value → RunM String
  | 0, _, _ => raise "ValueError" "Circular reference detected"
  | n + 1, level, v => do
    let breakAt (level : Nat) : String := match style.indent? with
      | some step => "\n" ++ String.join (List.replicate level step)
      | none => ""
    let series (items : List Value) : RunM String := do
      if items.isEmpty then pure "[]"
      else
        let shown ← items.mapM (jsonText style fallback? n (level + 1))
        pure ("[" ++ breakAt (level + 1) ++ (style.itemSeparator ++ breakAt (level + 1)).intercalate shown ++
          breakAt level ++ "]")
    let refuse : RunM String := do
      match fallback? with
      | some f => jsonText style fallback? n level (← r.call f ⟨[v], []⟩)
      | none => raise "TypeError" ("Object of type " ++ (← kindName v) ++ " is not JSON serializable")
    match v with
    | .none => pure "null"
    | .truth b => pure (if b then "true" else "false")
    | .whole k => pure (toString k)
    | .fraction d =>
      pure (match d with
        | .undefined => "NaN"
        | .infinite isNegative => if isNegative then "-Infinity" else "Infinity"
        | d => Number.text d)
    | .text s => pure (jsonQuoted style s)
    | .tuple items => series items
    | .object i =>
      match ← objectAt i with
      | .list items => series items.toList
      | .table _ entries _ =>
        if entries.isEmpty then pure "\x7b\x7d"
        else
          let keyed ← entries.mapM fun (k, value) => do
            match k with
            | .text s => pure (s, value)
            | .none => pure ("null", value)
            | .truth b => pure (if b then "true" else "false", value)
            | .whole m => pure (toString m, value)
            | .fraction d => pure (Number.text d, value)
            | k =>
              raise "TypeError" ("keys must be str, int, float, bool or None, not " ++ (← kindName k))
          let keyed := if style.sortsKeys then keyed.mergeSort fun a b => a.1 ≤ b.1 else keyed
          let shown ← keyed.mapM fun (key, value) =>
            return jsonQuoted style key ++ style.keySeparator ++ (← jsonText style fallback? n (level + 1) value)
          pure ("\x7b" ++ breakAt (level + 1) ++ (style.itemSeparator ++ breakAt (level + 1)).intercalate shown ++
            breakAt level ++ "\x7d")
      | _ => refuse
    | _ => refuse

/-- The text that a value is written as, with what a call asks for. -/
def jsonFor (g : Given) (v : Value) : RunM String := do
  let named (name : String) : Option Value := g.argument? 99 name
  let indent? ← match named "indent" with
    | some (.whole n) => pure (some (String.ofList (List.replicate n.toNat ' ')))
    | some (.text s) => pure (some s)
    | _ => pure none
  let (items, keys) ← match named "separators" with
    | some v => do
      match ← itemsOf r v with
      | [.text a, .text b] => pure (a, b)
      | _ => pure (", ", ": ")
    | none => pure (if indent?.isSome then "," else ", ", ": ")
  let sortsKeys ← match named "sort_keys" with
    | some v => isTrue r v
    | none => pure false
  let escapesAll ← match named "ensure_ascii" with
    | some v => isTrue r v
    | none => pure true
  jsonText r ⟨indent?, items, keys, sortsKeys, escapesAll⟩ (named "default") 200 0 v

mutual

/-- The value that JSON stands for. -/
def ofJson : Nat → Json → RunM Value
  | 0, _ => pure .none
  | n + 1, j => do
    match j with
    | .null => pure .none
    | .bool b => pure (.truth b)
    | .number digits =>
      match ReadM.constantOf (if digits.startsWith "-" then String.ofList (digits.toList.drop 1) else digits) with
      | .whole k => pure (.whole (if digits.startsWith "-" then -k else k))
      | .fraction d => pure (.fraction (if digits.startsWith "-" then Number.negate d else d))
      | _ => pure .none
    | .string text? => pure (.text (text?.getD ""))
    | .array items => makeList (← items.mapM (ofJson n))
    | .object members =>
      let entries ← members.foldlM (fun all (key, value) => do
        withEntry r all (.text (key.getD "")) (← ofJson n value)) []
      makeTable entries

end

def readJson (v : Value) : RunM Value := do
  let text ← match v with
    | .text s => pure s
    | .bytes s => decode s
    | v => raise "TypeError" ("the JSON object must be str, bytes or bytearray, not " ++ (← kindName v))
  match Json.parse? text with
  | some j => ofJson r 200 j
  | none => raise "json.decoder.JSONDecodeError" "Expecting value: line 1 column 1 (char 0)"

/-- Lets the programs that are run see the environment as it was changed. -/
def passEnvironment (table : Value) : RunM Unit := do
  match table with
  | .object i =>
    match ← objectAt i with
    | .table _ entries _ =>
      let named := entries.filterMap fun (k, v) => match k, v with
        | .text k, .text v => some (k, Shell.Variable.ofText? (some (Octets.ofText v)) true false)
        | _, _ => none
      modifyThe Shell.State fun s => { s with self.bindings := named }
    | _ => pure ()
  | _ => pure ()

/-- Where the output of a program goes that is run. -/
inductive Outlet
  | same
  | nowhere
  | kept
  | together
  | stream (v : Value)

def Outlet.ofValue (v? : Option Value) : Outlet :=
  match v? with
  | none | some .none => same
  | some (.whole (-1)) => kept
  | some (.whole (-2)) => together
  | some (.whole (-3)) => nowhere
  | some v => stream v

/-- What a program that was run leaves. -/
structure Finished where
  status : Int
  output : Option Octets
  errors : Option Octets

/-- Runs a program as a call asks for. -/
def runProgram (g : Given) (keepsOutput : Bool) : RunM (Value × Finished) := do
  let named (name : String) : Option Value := g.argument? 99 name
  let isOn (name : String) : RunM Bool := do
    match named name with
    | some v => isTrue r v
    | none => pure false
  let command := (g.argument? 0 "args").getD .none
  let words ← match command, ← isOn "shell" with
    | .text s, true => pure ["/bin/sh", "-c", Octets.ofText s]
    | .text s, false => pure [Octets.ofText s]
    | .path s, _ => pure [Octets.ofText s]
    | v, isShell => do
      let words ← (← itemsOf r v).mapM fun item => return Octets.ofText (← pathText item)
      pure (if isShell then ["/bin/sh", "-c"] ++ words else words)
  let captures ← isOn "capture_output"
  let out := if captures || keepsOutput then Outlet.kept else Outlet.ofValue (named "stdout")
  let err := if captures then Outlet.kept else Outlet.ofValue (named "stderr")
  let before ← getThe Shell.State
  passEnvironment (match named "env" with
    | none | some .none => environment
    | some v => v)
  match named "cwd" with
  | none | some .none => pure ()
  | some v =>
    let path ← pathText v
    let l ← onPath (some v) (FileM.look fun w => do
      let (l, e) ← w.find ⟨path⟩
      if e = .directory then pure l else throw .notADirectory)
    modifyThe Shell.State fun s => { s with workspace.directory := l, self.directory := "" }
  let pipe : RunM Nat := onShell (Shell.ShellM.addOpened ⟨.pipe [] [], 0, true, true, false⟩)
  let void : RunM Nat := onShell (Shell.ShellM.addOpened ⟨.void, 0, true, true, false⟩)
  let redirect (descriptor : Nat) (o : Outlet) : RunM (Option Nat) := do
    match o with
    | .same => pure none
    | .nowhere =>
      onShell (Shell.ShellM.connect descriptor (← void))
      pure none
    | .kept =>
      let index ← pipe
      onShell (Shell.ShellM.connect descriptor index)
      pure (some index)
    | .together =>
      match ← onShell (Shell.ShellM.opened? 1) with
      | some (index, _) => onShell (Shell.ShellM.connect descriptor index)
      | none => pure ()
      pure none
    | .stream v =>
      match ← streamAt v with
      | some (_, s) =>
        flush v
        match ← onShell (Shell.ShellM.opened? s.descriptor) with
        | some (index, _) => onShell (Shell.ShellM.connect descriptor index)
        | none => pure ()
      | none =>
        match v with
        | .whole n =>
          match ← onShell (Shell.ShellM.opened? n.toNat) with
          | some (index, _) => onShell (Shell.ShellM.connect descriptor index)
          | none => pure ()
        | _ => pure ()
      pure none
  let output? ← redirect 1 out
  let errors? ← redirect 2 err
  match named "input" with
  | some (.text s) | some (.bytes s) =>
    let bytes := if (named "input").any (· matches .bytes _) then s else Octets.ofText s
    let index ← onShell (Shell.ShellM.addOpened ⟨.pipe bytes.toList [], 0, true, false, false⟩)
    onShell (Shell.ShellM.connect 0 index)
  | _ =>
    let _ ← redirect 0 (Outlet.ofValue (named "stdin"))
  let outcome ← onShell (r.spawn words)
  let read (index? : Option Nat) : RunM (Option Octets) := do
    match index? with
    | none => pure none
    | some index =>
      match (← getThe Shell.State).world.opened[index]? with
      | some ⟨.pipe unread later, _, _, _, _⟩ =>
        pure (some (String.ofList (Shell.ShellM.unreadText unread later)))
      | _ => pure (some "")
  let output ← read output?
  let errors ← read errors?
  modifyThe Shell.State fun s =>
    { s with
      self.descriptors := before.self.descriptors, self.bindings := before.self.bindings
      self.directory := before.self.directory, workspace.directory := before.workspace.directory }
  match outcome with
  | .error fault => raiseFault fault [.text (Octets.toText (words.headD ""))]
  | .ok ending =>
    let status : Int := match ending with
      | .exited n => n
      | .killed n => -n
    pure (command, ⟨status, output, errors⟩)

/-- What was written as a text or as bytes, as a call asks for. -/
def writtenValue (g : Given) (bytes? : Option Octets) : RunM Value := do
  let isText ← ["text", "universal_newlines", "encoding"].anyM fun name => do
    match g.argument? 99 name with
    | some v => isTrue r v
    | none => pure false
  match bytes? with
  | none => pure .none
  | some b => if isText then return .text (← decode b) else pure (.bytes b)

/-- Raises the error that a program failed. -/
def raiseFailed {α : Type} (command : Value) (f : Finished) (output errors : Value) : RunM α := do
  let shown := "'" ++ (← textOf r command) ++ "'"
  let message := if f.status < 0 then
      "Command " ++ shown ++ " died with <Signals.SIG" ++ Shell.Signal.name f.status.natAbs ++ ": " ++
        toString f.status.natAbs ++ ">."
    else "Command " ++ shown ++ " returned non-zero exit status " ++ toString f.status ++ "."
  raiseWith "subprocess.CalledProcessError" [.text message]
    [("returncode", .whole f.status), ("cmd", command), ("output", output), ("stdout", output), ("stderr", errors)]

/-- A text in quotes for scripts where it needs them. -/
def scriptQuoted (s : String) : String :=
  if s = "" then "''"
  else if s.toList.all fun c => c.isAlphanum || "@%_-+=:,./".toList.contains c then s
  else "'" ++ s.replace "'" "'\"'\"'" ++ "'"

/-- What a function gives that makes series of others. -/
def seriesLibrary? (name : String) (g : Given) : Option (RunM Value) :=
  let first := g.plain.headD .none
  let through (items : List Value) : RunM Value := make (.passage (.items items))
  match name with
  | "itertools.chain" => some do through (← g.plain.mapM (itemsOf r)).flatten
  | "itertools.islice" => some do
    let items ← itemsOf r first
    let bounds ← (g.plain.drop 1).mapM fun v => match v with
      | .none => pure none
      | v => do pure (some (← wholeFor (some v) 0))
    let (start?, stop?, step) : Option Int × Option Int × Int := match bounds with
      | [stop] => (none, stop, 1)
      | [start, stop] => (start, stop, 1)
      | [start, stop, step] => (start, stop, step.getD 1)
      | _ => (none, none, 1)
    through ((slicePlaces items.length start? stop? step).filterMap (items[·]?))
  | "itertools.repeat" => some do
    through (List.replicate (← wholeFor (g.plain[1]? : Option Value) 0).toNat first)
  | "itertools.zip_longest" => some do
    let columns ← g.plain.mapM (itemsOf r)
    let fill := (g.argument? 99 "fillvalue").getD .none
    let height := ((columns.map List.length).max?).getD 0
    through ((List.range height).map fun k => .tuple (columns.map fun c => c.getD k fill))
  | "itertools.pairwise" => some do
    let items ← itemsOf r first
    through ((items.zip items.tail).map fun (a, b) => .tuple [a, b])
  | "itertools.product" => some do
    let columns ← g.plain.mapM (itemsOf r)
    let all := columns.foldl (fun all column => all.flatMap fun row => column.map fun v => row ++ [v]) [[]]
    through (all.map .tuple)
  | "itertools.takewhile" | "itertools.dropwhile" => some do
    let items ← itemsOf r (g.plain[1]?.getD .none)
    let k ← countTrue first items
    through (if name = "itertools.takewhile" then items.take k else items.drop k)
  | "itertools.accumulate" => some do
    let items ← itemsOf r first
    match items with
    | [] => through []
    | v :: rest =>
      let (_, sums) ← rest.foldlM (fun ((last, sums) : Value × List Value) v => do
        let next ← binary r .add "+" last v
        pure (next, sums ++ [next])) (v, [v])
      through sums
  | "itertools.starmap" => some do
    through (← (← itemsOf r (g.plain[1]?.getD .none)).mapM fun v => do r.call first ⟨← itemsOf r v, []⟩)
  | "functools.reduce" => some do
    let items ← itemsOf r (g.plain[1]?.getD .none)
    let initial : Option Value := g.plain[2]?
    match initial, items with
    | some start, items => items.foldlM (fun a b => r.call first ⟨[a, b], []⟩) start
    | none, start :: rest => rest.foldlM (fun a b => r.call first ⟨[a, b], []⟩) start
    | none, [] => raise "TypeError" "reduce() of empty iterable with no initial value"
  | "functools.partial" => some do
    make (.instance (.kind "functools.partial")
      [("func", first), ("args", .tuple (g.plain.drop 1)),
        ("keywords", ← makeTable (g.named.map fun p => (.text p.1, p.2)))])
  | "functools.lru_cache" | "functools.cache" | "functools.wraps" | "contextlib.contextmanager"
  | "dataclasses.dataclass" =>
    some (match first with
      | .object _ => if name = "functools.wraps" then pure (.native "functools.same") else pure first
      | _ => pure (.native "functools.same"))
  | "functools.same" => some (pure first)
  | "collections.deque" => some do makeList (← itemsOf r first)
  | "operator.itemgetter" => some do
    make (.instance (.kind "operator.itemgetter") [("keys", .tuple g.plain)])
  | "operator.attrgetter" => some do
    make (.instance (.kind "operator.attrgetter") [("keys", .tuple g.plain)])
  | "operator.add" => some do binary r .add "+" first (g.plain[1]?.getD .none)
  | "operator.mul" => some do binary r .multiply "*" first (g.plain[1]?.getD .none)
  | "copy.copy" | "copy.deepcopy" => some do
    match first with
    | .object i =>
      match ← objectAt i with
      | .list items => makeList items.toList
      | .table kind entries missing => make (.table kind entries missing)
      | .set isFrozen items => make (.set isFrozen items)
      | .instance kind fields => make (.instance kind fields)
      | _ => pure first
    | v => pure v
  | "contextlib.suppress" => some (make (.instance (.kind "contextlib.suppress") [("kinds", .tuple g.plain)]))
  | _ => none
where
  /-- How many values at the start a function finds true. -/
  countTrue (f : Value) : List Value → RunM Nat
    | [] => pure 0
    | v :: rest => do
      if ← isTrue r (← r.call f ⟨[v], []⟩) then return (← countTrue f rest) + 1 else pure 0

/-- What a function of a module gives. -/
def libraryFunction? (name : String) (g : Given) : Option (RunM Value) :=
  let first := g.plain.headD .none
  let first? := g.plain.head?
  let rest (lead : String) : Option String :=
    if name.startsWith lead then some (String.ofList (name.toList.drop lead.length)) else none
  let digest (program : String) (v : Value) : RunM Value := do
    match Shell.Utility.DigestKind.all.find? (·.program == program), v with
    | some k, .bytes b =>
      make (.instance (.kind "hashlib.digest")
        [("digits", .text (k.textOf b)), ("octets", .bytes (Octets.ofBytes (k.digest (Octets.toBytes b))))])
    | _, .text _ => raise "TypeError" "Strings must be encoded before hashing"
    | _, _ => raise "TypeError" "object supporting the buffer API required"
  let fractionArgument : RunM Decimal := do
    match first.number? with
    | some x => pure x.toDecimal
    | none => raise "TypeError" ("must be real number, not " ++ (← kindName first))
  match rest "os.path.", rest "shutil.", rest "itertools.", rest "re." with
  | some function, _, _, _ => pathFunction? r function g
  | _, some function, _, _ => transferFunction? r function g
  | _, _, some _, _ => seriesLibrary? r name g
  | _, _, _, some function => matchingFunction? r function g
  | none, none, none, none =>
    match name with
    | "os.getenv" => some do
      match ← objectAt 3 with
      | .table _ entries _ => return (← entry? r entries first).getD ((g.argument? 1 "default").getD .none)
      | _ => pure .none
    | "os.putenv" => some do
      setItem r environment first (g.plain[1]?.getD .none)
      pure .none
    | "os.unsetenv" => some do
      deleteItem r environment first
      pure .none
    | "os.fsencode" => some do return .bytes (Octets.ofText (← pathText first))
    | "os.fsdecode" => some do return .text (← pathText first)
    | "os.system" => some do
      let (_, f) ← runProgram r ⟨[first], [("shell", .truth true)]⟩ false
      pure (.whole (if f.status < 0 then -f.status else f.status * 256))
    | "os.execv" | "os.execvp" | "os.execl" | "os.execlp" => some do
      let words ← if name.endsWith "l" || name.endsWith "lp" then pure g.plain.tail
        else itemsOf r (g.plain[1]?.getD .none)
      let command ← makeList (first :: words.tail)
      let (_, f) ← runProgram r ⟨[command], []⟩ false
      if f.status < 0 then throw (.jumped (.gone (.killed f.status.natAbs))) else endProcess f.status
    | "time.sleep" => some (pure .none)
    | "time.time" | "time.monotonic" | "time.perf_counter" | "time.process_time" =>
      some (pure (.fraction (.finite false ⟨1700000000, 1⟩)))
    | "time.time_ns" => some (pure (.whole 1700000000000000000))
    | "time.strftime" => some do
      return .text (Shell.Utility.Calendar.inLayout .present (← textFor "strftime" first?))
    | "json.dumps" => some do return .text (← jsonFor r g first)
    | "json.dump" => some do
      let shown ← jsonFor r g first
      let target : Value := g.plain[1]?.getD .none
      let _ ← r.call (← attributeOf r target "write") ⟨[.text shown], []⟩
      pure .none
    | "json.loads" => some (readJson r first)
    | "json.load" => some do readJson r (← r.call (← attributeOf r first "read") ⟨[], []⟩)
    | "subprocess.run" => some do
      let (command, f) ← runProgram r g false
      let output ← writtenValue r g f.output
      let errors ← writtenValue r g f.errors
      match g.argument? 99 "check" with
      | some v => if (← isTrue r v) && f.status ≠ 0 then raiseFailed r command f output errors
      | none => pure ()
      make (.instance (.kind "subprocess.CompletedProcess")
        [("args", command), ("returncode", .whole f.status), ("stdout", output), ("stderr", errors)])
    | "subprocess.call" => some do return .whole (← runProgram r g false).2.status
    | "subprocess.check_call" => some do
      let (command, f) ← runProgram r g false
      if f.status ≠ 0 then raiseFailed r command f .none .none
      pure (.whole 0)
    | "subprocess.check_output" => some do
      let (command, f) ← runProgram r g true
      let output ← writtenValue r g f.output
      if f.status ≠ 0 then raiseFailed r command f output .none
      pure output
    | "signal.signal" | "signal.alarm" | "signal.getsignal" | "signal.pause" => some (pure .none)
    | "signal.raise_signal" => some do
      sendSignal (← wholeFor first? 0) (← getThe Shell.State).self.id
    | "glob.glob" | "glob.iglob" => some do
      let isDeep ← match g.argument? 99 "recursive" with
        | some v => isTrue r v
        | none => pure false
      makeList ((← globPaths (← pathFor g 0 "pathname") isDeep).map .text)
    | "fnmatch.fnmatch" | "fnmatch.fnmatchcase" => some do
      return .truth (matchesPattern (← pathFor g 1 "pat") (← pathFor g 0 "name"))
    | "fnmatch.filter" => some do
      let pattern ← pathFor g 1 "pat"
      makeList (← (← itemsOf r first).filterM fun v => return matchesPattern pattern (← pathText v))
    | "math.floor" => some do return .whole ((Number.floor? (← fractionArgument)).getD 0)
    | "math.ceil" => some do return .whole ((Number.ceiling? (← fractionArgument)).getD 0)
    | "math.trunc" => some do return .whole ((Number.truncate? (← fractionArgument)).getD 0)
    | "math.fabs" => some do
      let d ← fractionArgument
      pure (.fraction (if Number.isNegative d then Number.negate d else d))
    | "math.isnan" => some do return .truth ((← fractionArgument) = .undefined)
    | "math.isinf" => some do return .truth ((← fractionArgument) matches .infinite _)
    | "math.gcd" => some do
      let all ← g.plain.mapM fun v => wholeFor (some v) 0
      pure (.whole (all.foldl (fun (d : Nat) n => Nat.gcd d n.natAbs) 0 : Nat))
    | "math.factorial" => some do
      let n ← wholeFor first? 0
      pure (.whole ((List.range n.toNat).foldl (fun (product k : Nat) => product * (k + 1)) 1 : Nat))
    | "math.prod" => some do
      (← itemsOf r first).foldlM (fun product v => binary r .multiply "*" product v) (.whole 1)
    | "hashlib.sha256" => some (digest "sha256sum" (g.plain.headD (.bytes "")))
    | "hashlib.md5" => some (digest "md5sum" (g.plain.headD (.bytes "")))
    | "hashlib.sha1" => some (digest "sha1sum" (g.plain.headD (.bytes "")))
    | "hashlib.sha512" => some (digest "sha512sum" (g.plain.headD (.bytes "")))
    | "hashlib.new" => some do
      digest ((← textFor "new" first?) ++ "sum") (g.plain[1]?.getD (.bytes ""))
    | "base64.b64encode" => some do
      match first with
      | .bytes b =>
        let values := b.toList.map Char.toNat
        pure (.bytes (String.ofList (Shell.Utility.Encoding.base64.encode (values.length + 1) values)))
      | v => raise "TypeError" ("a bytes-like object is required, not '" ++ (← kindName v) ++ "'")
    | "base64.b64decode" => some do
      match first with
      | .bytes b | .text b =>
        let (values, _) := Shell.Utility.Encoding.base64.decode (b.length + 1) b.toList
        pure (.bytes (String.ofList (values.map Char.ofNat)))
      | v => raise "TypeError" ("a bytes-like object is required, not '" ++ (← kindName v) ++ "'")
    | "textwrap.dedent" => some do
      let lines := (← textFor "dedent" first?).splitOn "\n"
      let margins := (lines.filter fun l => !(l.toList.all fun c => c = ' ' || c = '\t')).map fun l =>
        (l.toList.takeWhile fun c => c = ' ' || c = '\t').length
      let margin := (margins.min?).getD 0
      pure (.text ("\n".intercalate (lines.map fun l =>
        if l.toList.all fun c => c = ' ' || c = '\t' then "" else String.ofList (l.toList.drop margin))))
    | "textwrap.indent" => some do
      let lead ← textFor "indent" (g.plain[1]? : Option Value)
      let lines := (← textFor "indent" first?).splitOn "\n"
      pure (.text ("\n".intercalate (lines.map fun l => if (Text.trim l) = "" then l else lead ++ l)))
    | "shlex.quote" => some do return .text (scriptQuoted (← textFor "quote" first?))
    | "shlex.join" => some do
      return .text (" ".intercalate (← (← itemsOf r first).mapM fun v => return scriptQuoted (← pathText v)))
    | "shlex.split" => some do
      makeList ((TextPart.words 100000 none (← textFor "split" first?).toList).map fun w => .text (String.ofList w))
    | "atexit.register" => some do
      modifyMachine fun m => { m with farewells := (first, g.plain.drop 1) :: m.farewells }
      pure first
    | "stat.S_ISDIR" => some do return .truth ((← wholeFor first? 0).toNat / 4096 = 4)
    | "stat.S_ISREG" => some do return .truth ((← wholeFor first? 0).toNat / 4096 = 8)
    | "stat.S_ISLNK" => some do return .truth ((← wholeFor first? 0).toNat / 4096 = 10)
    | "stat.S_IMODE" => some do return .whole ((← wholeFor first? 0).toNat % 4096)
    | "platform.system" => some (pure (.text "Linux"))
    | "platform.machine" => some (pure (.text "x86_64"))
    | "platform.node" => some (pure (.text "localhost"))
    | "platform.python_version" => some (pure (.text "3.12.3"))
    | "tempfile.gettempdir" => some (pure (.text "/tmp"))
    | "gc.collect" => some (pure (.whole 0))
    | "sys.getrecursionlimit" => some (pure (.whole 1000))
    | "sys.getdefaultencoding" | "sys.getfilesystemencoding" => some (pure (.text "utf-8"))
    | "sys.intern" => some (pure first)
    | "sys.getsizeof" => some (pure (.whole 64))
    | "sys.exc_info" => some do
      match (← machine).handled.head? with
      | some e => return .tuple [← kindOf e, e, .none]
      | none => pure (.tuple [.none, .none, .none])
    | "sys.setrecursionlimit" => some (pure .none)
    | "traceback.print_exc" | "traceback.format_exc" => some do
      let told ← match (← machine).handled.head? with
        | some error => account r 20 error
        | none => pure "NoneType: None\n"
      if name = "traceback.format_exc" then pure (.text told)
      else
        writeBytes standardError (Octets.ofText told)
        pure .none
    | "dict.fromkeys" => some do
      let value : Value := g.plain[1]?.getD .none
      makeTable (← (← itemsOf r first).foldlM (fun all k => withEntry r all k value) [])
    | "int.from_bytes" => some do
      let order := match g.argument? 1 "byteorder" with
        | some (.text s) => s
        | _ => "big"
      match first with
      | .bytes b =>
        let codes := b.toList.map Char.toNat
        let ordered := if order = "little" then codes.reverse else codes
        pure (.whole (ordered.foldl (fun (n c : Nat) => n * 256 + c) 0 : Nat))
      | _ => pure (.whole 0)
    | "bytes.fromhex" => some do
      let digits := (← textFor "fromhex" first?).toList.filter (· ≠ ' ')
      let rec pairs : List Char → List Char
        | a :: b :: rest => Char.ofNat (Text.numberOf 16 [a, b]) :: pairs rest
        | _ => []
      pure (.bytes (String.ofList (pairs digits)))
    | "str.maketrans" => some (makeTable [])
    | "Path.cwd" | "PosixPath.cwd" => some do return .path (← currentDirectory)
    | "Path.home" | "PosixPath.home" => some do return .path (← homeDirectory)
    | "itertools.chain.from_iterable" => some do
      make (.passage (.items (← (← itemsOf r first).mapM (itemsOf r)).flatten))
    | name =>
      match seriesLibrary? r name g with
      | some work => some work
      | none =>
        match rest "os." with
        | some function => placeFunction? r function g
        | none => none

end RunM

end ReleaseMatrix.Indented
