import ReleaseMatrix.Indented.Attributes

namespace ReleaseMatrix.Indented

open Shell (Octets Decimal)

namespace RunM

variable (r : Runner)

/-- The whole number that a text tells in a base. -/
def readWhole? (base : Nat) (s : String) : Option Int :=
  let cs := Text.trimChars s.toList
  let (isNegative, cs) := match cs with
    | '-' :: rest => (true, rest)
    | '+' :: rest => (false, rest)
    | cs => (false, cs)
  let mark (letters : List Char) : Option (List Char) := match cs with
    | '0' :: c :: rest => if letters.contains c then some rest else none
    | _ => none
  let (base, digits) :=
    match mark ['x', 'X'], mark ['o', 'O'], mark ['b', 'B'] with
    | some rest, _, _ => if base = 0 || base = 16 then (16, rest) else (base, cs)
    | _, some rest, _ => if base = 0 || base = 8 then (8, rest) else (base, cs)
    | _, _, some rest => if base = 0 || base = 2 then (2, rest) else (base, cs)
    | _, _, _ => (if base = 0 then 10 else base, cs)
  let valueOf (c : Char) : Option Nat :=
    let value? := if c.isDigit then some (c.toNat - 48)
      else if c.isAlpha then some (c.toLower.toNat - 87) else none
    value?.filter (· < base)
  let isWell := !digits.isEmpty && digits.head? ≠ some '_' && digits.getLast? ≠ some '_' &&
    TextPart.find? ['_', '_'] digits = none
  let values := (digits.filter (· ≠ '_')).map valueOf
  if isWell && values.all Option.isSome then
    let n := values.foldl (fun n v => n * base + v.getD 0) 0
    some (if isNegative then -(n : Int) else n)
  else none

/-- The number that a text tells with a point or a power. -/
def readFraction? (s : String) : Option Decimal :=
  let cs := (Text.trimChars s.toList).filter (· ≠ '_')
  match Decimal.read? cs with
  | some (.finite isNegative f, []) =>
    match f.toBinary?, cs.any fun c => c = 'x' || c = 'X' with
    | _, true => none
    | some f, _ => some (.finite isNegative f)
    | none, _ => some (.infinite isNegative)
  | some (d, []) => some d
  | _ => none

/-- Makes a whole number of a value. -/
def toWhole (g : Given) : RunM Value := do
  match g.plain, g.argument? 1 "base" with
  | [], _ => pure (.whole 0)
  | v :: _, base? =>
    let base ← wholeFor base? 10
    match v with
    | .fraction d =>
      match Number.truncate? d with
      | some n => pure (.whole n)
      | none =>
        if d = .undefined then raise "ValueError" "cannot convert float NaN to integer"
        else raise "OverflowError" "cannot convert float infinity to integer"
    | .text s | .bytes s =>
      match readWhole? base.toNat s with
      | some n => pure (.whole n)
      | none =>
        raise "ValueError" ("invalid literal for int() with base " ++ toString base ++ ": " ++ (← reprOf r v))
    | v =>
      match v.whole? with
      | some n => pure (.whole n)
      | none =>
        match ← special? v "__int__" with
        | some f => r.call f ⟨[v], []⟩
        | none =>
          raise "TypeError" ("int() argument must be a string, a bytes-like object or a real number, not '" ++
            (← kindName v) ++ "'")

/-- Makes a value of a class that is always there, if it can be made so. -/
def construct? (kind : String) (g : Given) : Option (RunM Value) :=
  let first? := g.plain.head?
  let items : RunM (List Value) := do
    match first? with
    | some v => itemsOf r v
    | none => pure []
  match kind with
  | "int" => some (toWhole r g)
  | "float" => some do
    match first? with
    | none => pure (.fraction (.finite false ⟨0, 1⟩))
    | some (.text s) =>
      match readFraction? s with
      | some d => pure (.fraction d)
      | none => raise "ValueError" ("could not convert string to float: " ++ Display.quoted s)
    | some v =>
      match v.number? with
      | some x => pure (.fraction x.toDecimal)
      | none =>
        raise "TypeError" ("float() argument must be a string or a real number, not '" ++ (← kindName v) ++ "'")
  | "bool" => some do
    match first? with
    | some v => return .truth (← isTrue r v)
    | none => pure (.truth false)
  | "str" => some do
    match first?, g.argument? 1 "encoding" with
    | none, _ => pure (.text "")
    | some (.bytes s), some _ => return .text (← decode s)
    | some v, _ => return .text (← textOf r v)
  | "bytes" | "bytearray" => some do
    match first? with
    | none => pure (.bytes "")
    | some (.bytes s) => pure (.bytes s)
    | some (.text s) =>
      if (g.argument? 1 "encoding").isNone then raise "TypeError" "string argument without an encoding"
      pure (.bytes (Octets.ofText s))
    | some (.whole n) => pure (.bytes (String.ofList (List.replicate n.toNat '\x00')))
    | some v =>
      let codes ← (← itemsOf r v).mapM fun item => wholeFor (some item) 0
      if codes.any fun k => k < 0 || 255 < k then raise "ValueError" "bytes must be in range(0, 256)"
      pure (.bytes (String.ofList (codes.map fun k => Char.ofNat k.toNat)))
  | "list" | "deque" => some do makeList (← items)
  | "tuple" => some do return .tuple (← items)
  | "set" | "frozenset" => some do
    let items ← items
    items.forM (checkKey depth)
    make (.set (kind = "frozenset") (← distinct r items))
  | "dict" | "OrderedDict" | "defaultdict" => some do
    let (missing, source?) : Value × Option Value :=
      if kind = "defaultdict" then (g.plain.headD .none, (g.plain[1]? : Option Value)) else (.none, first?)
    let pairs ← match source? with
      | some v => pairsOf r v
      | none => pure []
    let named : List (Value × Value) := g.named.map fun p => (.text p.1, p.2)
    make (.table kind (← (pairs ++ named).foldlM (fun all (k, v) => withEntry r all k v) []) missing)
  | "Counter" => some do
    let entries ← (← items).foldlM (fun all v => do
      let count := ((← entry? r all v).bind Value.whole?).getD 0
      withEntry r all v (.whole (count + 1))) []
    let entries := entries.mergeSort fun a b => (b.2.whole?.getD 0) ≤ (a.2.whole?.getD 0)
    make (.table kind entries .none)
  | "range" => some do
    let bounds ← g.plain.mapM fun v => wholeFor (some v) 0
    match bounds with
    | [stop] => pure (.range 0 stop 1)
    | [start, stop] => pure (.range start stop 1)
    | [start, stop, step] =>
      if step = 0 then raise "ValueError" "range() arg 3 must not be zero" else pure (.range start stop step)
    | _ => raise "TypeError" "range expected at least 1 argument, got 0"
  | "object" => some (make (.instance (.kind "object") []))
  | "type" => some do kindOf (g.plain.headD .none)
  | "Path" | "PosixPath" | "PurePath" | "PurePosixPath" => some do
    let steps ← g.plain.mapM pathText
    pure (.path (steps.foldl joinPaths "."))
  | "enumerate" => some do
    let start ← wholeFor (g.argument? 1 "start") 0
    make (.passage (.items ((← items).zipIdx.map fun (v, k) => .tuple [.whole (start + k), v])))
  | "reversed" => some do make (.passage (.items (← items).reverse))
  | "zip" => some do
    let passages ← g.plain.mapM (passageOf r)
    if passages.isEmpty then make (.passage (.items [])) else make (.passage (.items (← together passages r.fuel)))
  | "map" => some do
    match g.plain with
    | [f, source] =>
      make (.passage (.items (← (← itemsOf r source).mapM fun v => r.call f ⟨[v], []⟩)))
    | f :: sources =>
      let passages ← sources.mapM (passageOf r)
      make (.passage (.items (← (← together passages r.fuel).mapM fun v => do r.call f ⟨← itemsOf r v, []⟩)))
    | [] => raise "TypeError" "map() must have at least two arguments."
  | "filter" => some do
    match g.plain with
    | [f, source] =>
      let kept ← (← itemsOf r source).filterM fun v => do
        match f with
        | .none => isTrue r v
        | f => isTrue r (← r.call f ⟨[v], []⟩)
      make (.passage (.items kept))
    | _ => raise "TypeError" "filter expected 2 arguments"
  | "property" => some (make (.instance (.kind "property") [("get", g.plain.headD .none)]))
  | "staticmethod" | "classmethod" =>
    some (make (.instance (.kind kind) [("function", g.plain.headD .none)]))
  | "slice" => some (raise "TypeError" "slices cannot be made here")
  | kind =>
    if Kind.isTrouble kind then some do
      let (kind, plain) := match kind, g.plain with
        | "OSError", number :: message :: _ =>
          ((number.whole?.bind (Kind.ofErrorNumber? ·.toNat)).getD kind, [number, message])
        | kind, plain => (kind, plain)
      let fields : List (String × Value) := match g.plain with
        | number :: message :: rest =>
          if (Kind.chain 8 kind).contains "OSError" then
            [("errno", number), ("strerror", message), ("filename", rest.headD .none)]
          else if kind = "subprocess.CalledProcessError" then [("returncode", number), ("cmd", message)]
          else []
        | _ => []
      make (.trouble ⟨.kind kind, plain, fields ++ g.named, [], none, none⟩)
    else none
where
  /-- Values that passages have together, as long as all have one. -/
  together (passages : List Value) : Nat → RunM (List Value)
    | 0 => throw (.jumped .exhausted)
    | n + 1 => do
      match ← nexts passages with
      | some items => return .tuple items :: (← together passages n)
      | none => pure []
  nexts : List Value → RunM (Option (List Value))
    | [] => pure (some [])
    | p :: rest => do
      match ← next? r r.fuel p with
      | some v => return (← nexts rest).map (v :: ·)
      | none => pure none

/-- Whether a value is of one of the classes that are told. -/
def isOfKinds : Nat → Value → Value → RunM Bool
  | 0, _, _ => pure false
  | n + 1, v, kinds => do
    match kinds with
    | .tuple items => items.anyM (isOfKinds n v)
    | .kind "object" => pure true
    | kind => isOfKind v kind

/-- The least or the greatest of values. -/
def extreme (name : String) (g : Given) (isLeast : Bool) : RunM Value := do
  let items ← match g.plain with
    | [v] => itemsOf r v
    | items => pure items
  let keyOf (v : Value) : RunM Value := do
    match g.argument? 9 "key" with
    | none | some .none => pure v
    | some f => r.call f ⟨[v], []⟩
  match items with
  | [] =>
    match g.argument? 9 "default" with
    | some v => pure v
    | none => raise "ValueError" (name ++ "() iterable argument is empty")
  | first :: rest =>
    let start ← keyOf first
    let (best, _) ← rest.foldlM (fun (best, key) v => do
      let k ← keyOf v
      let isBetter ← if isLeast then isLess r k key "<" "__lt__" (· = .lt) else isLess r k key ">" "__gt__" (· = .gt)
      pure (if ← isTrue r isBetter then (v, k) else (best, key))) (first, start)
    pure best

/-- Whether one of the values of a passage is as it is asked for. -/
def findTruth (wanted : Bool) : Nat → Value → RunM Bool
  | 0, _ => throw (.jumped .exhausted)
  | n + 1, passage => do
    match ← next? r r.fuel passage with
    | none => pure false
    | some v => if (← isTrue r v) = wanted then pure true else findTruth wanted n passage

/-- The digits of a whole number with a mark before them. -/
def marked (base : Nat) (mark : String) (v? : Option Value) : RunM Value := do
  let n ← wholeFor v? 0
  pure (.text ((if n < 0 then "-" else "") ++ mark ++ String.ofList (Nat.toDigits base n.natAbs)))

/-- Prints values. -/
def printValues (g : Given) : RunM Value := do
  let textArgument (name usual : String) : RunM String := do
    match g.argument? 99 name with
    | some (.text s) => pure s
    | some .none | none => pure usual
    | some v => raise "TypeError" (name ++ " must be None or a string, not " ++ (← kindName v))
  let separator ← textArgument "sep" " "
  let ending ← textArgument "end" "\n"
  let texts ← g.plain.mapM (textOf r)
  let target := match g.argument? 99 "file" with
    | none | some .none => standardOutput
    | some v => v
  let shown := separator.intercalate texts ++ ending
  match ← streamAt target with
  | some _ =>
    let _ ← writeValue target (.text shown)
  | none =>
    let _ ← r.call (← attributeOf r target "write") ⟨[.text shown], []⟩
  match g.argument? 99 "flush" with
  | some v => if ← isTrue r v then flush target
  | none => pure ()
  pure .none

/-- Ends the program as it asks for. -/
def leaveWith {α : Type} (g : Given) : RunM α :=
  raiseWith "SystemExit" (g.plain.take 1) []

/-- The classes that a function is defined in, for the function that is running. -/
def runningClass? : RunM (Option (Value × Value)) := do
  let m ← machine
  let scopes := m.scopes
  let rec outer (n : Nat) (k : Nat) : Option Scope :=
    match n, scopes[k]? with
    | 0, _ | _, none => none
    | n + 1, some s =>
      if s.kind = .function then some s else s.parent?.bind (outer n)
  match outer 8 m.scope with
  | none => pure none
  | some s =>
    let self? := s.names.own.head?.bind fun name => (s.values.find? (·.1 == name)).map (·.2)
    let class? := (s.parent?.bind (scopes[·]?)).bind fun c => (c.values.find? (·.1 == "__class__")).map (·.2)
    match self?, class? with
    | some self, some kind => pure (some (self, kind))
    | _, _ => pure none

/-- What a function that is always there gives. -/
def builtinFunction? (name : String) (g : Given) : Option (RunM Value) :=
  let first := g.plain.headD .none
  let first? := g.plain.head?
  match name with
  | "print" => some (printValues r g)
  | "len" => some do
    match g.plain with
    | [v] => return .whole (← lengthOf r v)
    | vs => raise "TypeError" ("len() takes exactly one argument (" ++ toString vs.length ++ " given)")
  | "open" | "io.open" => some (openFor g)
  | "repr" | "ascii" => some do return .text (← reprOf r first)
  | "format" => some do
    return .text (← laidOut r first (← match (g.plain[1]? : Option Value) with
      | some v => textFor "format" (some v)
      | none => pure ""))
  | "sorted" => some do
    let isReversed ← match g.argument? 9 "reverse" with
      | some v => isTrue r v
      | none => pure false
    makeList (← sorted r (← itemsOf r first) (g.argument? 9 "key") isReversed)
  | "sum" => some do
    (← itemsOf r first).foldlM (fun sum v => binary r .add "+" sum v) ((g.argument? 1 "start").getD (.whole 0))
  | "min" => some (extreme r "min" g true)
  | "max" => some (extreme r "max" g false)
  | "any" => some do return .truth (← findTruth r true r.fuel (← passageOf r first))
  | "all" => some do return .truth !(← findTruth r false r.fuel (← passageOf r first))
  | "abs" => some do
    match first.number? with
    | some (.whole n) => pure (.whole n.natAbs)
    | some (.fraction d) => pure (.fraction (if Number.isNegative d then Number.negate d else d))
    | none => raise "TypeError" ("bad operand type for abs(): '" ++ (← kindName first) ++ "'")
  | "round" => some do
    match first, g.argument? 1 "ndigits" with
    | .whole n, _ => pure (.whole n)
    | .fraction d, none | .fraction d, some .none => pure (.whole ((Number.round? d).getD 0))
    | .fraction (.finite isNegative f), some v => do
      let places ← wholeFor (some v) 0
      let scaled := (f.scale places).round
      let rounded := (Shell.Fraction.mk scaled 1).scale (-places)
      pure (.fraction (.finite isNegative (rounded.toBinary?.getD f)))
    | v, _ =>
      match v.whole? with
      | some n => pure (.whole n)
      | none => raise "TypeError" ("type " ++ (← kindName v) ++ " doesn't define __round__ method")
  | "divmod" => some do
    let second : Value := g.plain[1]?.getD .none
    return .tuple [← binary r .floorDivide "divmod()" first second, ← binary r .remainder "divmod()" first second]
  | "pow" => some do
    match g.plain with
    | [a, b] => binary r .power "** or pow()" a b
    | [.whole a, .whole b, .whole c] => pure (.whole ((a.pow b.toNat).fmod c))
    | _ => raise "TypeError" "pow() missing required arguments"
  | "ord" => some do
    match first with
    | .text s | .bytes s =>
      if s.length = 1 then pure (.whole (s.toList.headD ' ').toNat)
      else
        raise "TypeError" ("ord() expected a character, but string of length " ++ toString s.length ++ " found")
    | v => raise "TypeError" ("ord() expected string of length 1, but " ++ (← kindName v) ++ " found")
  | "chr" => some do
    let n ← wholeFor first? 0
    if 0 ≤ n && n < 1114112 then pure (.text (String.singleton (Char.ofNat n.toNat)))
    else raise "ValueError" "chr() arg not in range(0x110000)"
  | "hex" => some (marked 16 "0x" first?)
  | "oct" => some (marked 8 "0o" first?)
  | "bin" => some (marked 2 "0b" first?)
  | "isinstance" => some do return .truth (← isOfKinds 8 first (g.plain[1]?.getD .none))
  | "issubclass" => some do
    let above ← ancestors 16 first
    let wanted : List Value := match g.plain[1]?.getD .none with
      | .tuple items => items
      | v => [v]
    pure (.truth (wanted.any fun k => above.any k.isSame))
  | "callable" => some do
    match first with
    | .native _ | .kind _ | .bound .. | .method .. => pure (.truth true)
    | .object i =>
      match ← objectAt i with
      | .function _ | .classOf _ => pure (.truth true)
      | _ => return .truth (← special? first "__call__").isSome
    | _ => pure (.truth false)
  | "iter" => some (passageOf r first)
  | "next" => some do
    match ← next? r r.fuel first, (g.plain[1]? : Option Value) with
    | some v, _ => pure v
    | none, some v => pure v
    | none, none => raiseWith "StopIteration" [] []
  | "input" => some do
    match first? with
    | some v => do
      let _ ← writeValue standardOutput (.text (← textOf r v))
    | none => pure ()
    flush standardOutput
    match ← readLine standardInput with
    | .text "" => raise "EOFError" "EOF when reading a line"
    | .text line => pure (.text (if line.endsWith "\n" then String.ofList line.toList.dropLast else line))
    | v => pure v
  | "exit" | "quit" | "sys.exit" => some (leaveWith g)
  | "getattr" => some do
    let name ← textFor "getattr" (g.plain[1]? : Option Value)
    match ← attribute? r first name, (g.plain[2]? : Option Value) with
    | some v, _ => pure v
    | none, some v => pure v
    | none, none => attributeOf r first name
  | "hasattr" => some do return .truth (← attribute? r first (← textFor "hasattr" (g.plain[1]? : Option Value))).isSome
  | "setattr" => some do
    setAttribute r first (← textFor "setattr" (g.plain[1]? : Option Value)) (g.plain[2]?.getD .none)
    pure .none
  | "delattr" => some do
    deleteAttribute first (← textFor "delattr" (g.plain[1]? : Option Value))
    pure .none
  | "vars" => some (attributeOf r first "__dict__")
  | "id" | "hash" => some do
    match first with
    | .object i => pure (.whole (i + 1))
    | v => pure (.whole (v.whole?.getD 0))
  | "dir" => some (makeList [])
  | "globals" | "locals" => some do
    let m ← machine
    let k := if name = "globals" then 0 else m.scope
    makeTable (((m.scopes[k]?.map (·.values)).getD []).map fun (n, v) => (.text n, v))
  | "super" => some do
    match g.plain, ← runningClass? with
    | [kind, self], _ => make (.instance (.kind "super") [("self", self), ("class", kind)])
    | _, some (self, kind) => make (.instance (.kind "super") [("self", self), ("class", kind)])
    | _, none => raise "RuntimeError" "super(): no arguments"
  | "__import__" => some do return .module (← textFor "__import__" first?)
  | "compile" | "eval" | "exec" | "breakpoint" | "help" | "memoryview" | "aiter" | "anext" => none
  | _ => none

/-- The names of the functions that are always there. -/
def builtinNames : List String :=
  ["print", "len", "open", "repr", "ascii", "format", "sorted", "sum", "min", "max", "any", "all", "abs", "round",
    "divmod", "pow", "ord", "chr", "hex", "oct", "bin", "isinstance", "issubclass", "callable", "iter", "next",
    "input", "exit", "quit", "getattr", "hasattr", "setattr", "delattr", "vars", "id", "hash", "dir", "globals",
    "locals", "__import__"]

/-- What a name stands for that a program does not define. -/
def builtin? (name : String) : Option Value :=
  if builtinNames.contains name then some (.native name)
  else if name = "super" then some (.native "super")
  else if name = "IOError" || name = "EnvironmentError" then some (.kind "OSError")
  else if Kind.builtins.contains name then some (.kind name)
  else match name with
    | "NotImplemented" => some (.kind "NotImplementedType")
    | "Ellipsis" => some .ellipsis
    | "__name__" => some (.text "__main__")
    | "__debug__" => some (.truth true)
    | "__doc__" => some .none
    | _ => none

end RunM

end ReleaseMatrix.Indented
