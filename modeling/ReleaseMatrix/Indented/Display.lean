import ReleaseMatrix.Indented.Value
import ReleaseMatrix.Indented.Number
import ReleaseMatrix.Text.Quoted

namespace ReleaseMatrix.Indented

open Shell (Octets)

namespace Display

def hex (width n : Nat) : String :=
  let ds := Nat.toDigits 16 n
  String.ofList (List.replicate (width - ds.length) '0' ++ ds)

/-- Whether a character is shown as it is. Of all blanks only the plain one is. -/
def isShown (c : Char) : Bool :=
  let n := c.toNat
  if n < 128 then 32 ≤ n && n < 127
  else !(Text.isUnprintable c || n ∈ [0xa0, 0xad, 0x1680, 0x202f, 0x205f, 0x3000] || 0x2000 ≤ n && n ≤ 0x200f)

/-- The quotes that a text is shown with: plain ones, unless only those stand in it. -/
def quoteFor (cs : List Char) : Char :=
  if cs.contains '\'' && !cs.contains '"' then '"' else '\''

def shownChar (quote : Char) (c : Char) : String :=
  if c = quote || c = '\\' then String.ofList ['\\', c]
  else if c = '\n' then "\\n"
  else if c = '\x0d' then "\\r"
  else if c = '\t' then "\\t"
  else if isShown c then String.singleton c
  else if c.toNat < 256 then "\\x" ++ hex 2 c.toNat
  else if c.toNat < 65536 then "\\u" ++ hex 4 c.toNat
  else "\\U" ++ hex 8 c.toNat

/-- A text as a program would quote it. -/
def quoted (s : String) : String :=
  let quote := quoteFor s.toList
  String.singleton quote ++ String.join (s.toList.map (shownChar quote)) ++ String.singleton quote

/-- Bytes as a program would quote them. -/
def quotedBytes (s : Octets) : String :=
  let quote := quoteFor s.toList
  let shown (c : Char) : String := if c.toNat < 127 then shownChar quote c else "\\x" ++ hex 2 c.toNat
  "b" ++ String.singleton quote ++ String.join (s.toList.map shown) ++ String.singleton quote

/-- The members of a set as they follow each other: small numbers by size. -/
def arranged (items : List Value) : List Value :=
  if items.all (fun v => v.whole?.any fun n => 0 ≤ n) then
    items.mergeSort fun a b => (a.whole?.getD 0) ≤ (b.whole?.getD 0)
  else items

end Display

namespace RunM

open Display

variable (r : Runner)

/-- The result of a function that takes only a value, where its class has one that gives a text. -/
def specialText? (v : Value) (name : String) : RunM (Option String) := do
  match ← special? v name with
  | none => pure none
  | some f =>
    match ← r.call f ⟨[v], []⟩ with
    | .text s => pure (some s)
    | other =>
      raise "TypeError" (name ++ " returned non-string (type " ++ (← kindName other) ++ ")")

mutual

/-- A value as a program would write it. -/
def repr : Nat → Value → RunM String
  | 0, _ => pure "..."
  | n + 1, v => do
    match v with
    | .none => pure "None"
    | .truth b => pure (if b then "True" else "False")
    | .whole k => pure (toString k)
    | .fraction d => pure (Number.text d)
    | .text s => pure (quoted s)
    | .bytes s => pure (quotedBytes s)
    | .tuple [item] => return "(" ++ (← repr n item) ++ ",)"
    | .tuple items => return "(" ++ ", ".intercalate (← items.mapM (repr n)) ++ ")"
    | .ellipsis => pure "Ellipsis"
    | .range start stop step =>
      pure ("range(" ++ toString start ++ ", " ++ toString stop ++
        (if step = 1 then "" else ", " ++ toString step) ++ ")")
    | .path s => pure ("PosixPath(" ++ quoted s ++ ")")
    | .kind name => pure ("<class '" ++
      (if name = "PosixPath" || name = "Path" then "pathlib." ++ name else name) ++ "'>")
    | .native name => pure ("<built-in function " ++ Kind.shortName name ++ ">")
    | .module name => pure ("<module '" ++ name ++ "' (built-in)>")
    | .bound self name => return "<built-in method " ++ name ++ " of " ++ (← kindName self) ++ " object>"
    | .method self f => return "<bound method " ++ (← repr n f) ++ " of " ++ (← repr n self) ++ ">"
    | .object i =>
      match ← objectAt i with
      | .list items => return "[" ++ ", ".intercalate (← items.toList.mapM (repr n)) ++ "]"
      | .table kind entries missing =>
        let shown ← entriesText n entries
        let table := "\x7b" ++ shown ++ "\x7d"
        match kind with
        | "dict" => pure table
        | "defaultdict" => return "defaultdict(" ++ (← repr n missing) ++ ", " ++ table ++ ")"
        | kind => pure (kind ++ "(" ++ (if entries.isEmpty then "" else table) ++ ")")
      | .set isFrozen items =>
        let shown := ", ".intercalate (← (arranged items).mapM (repr n))
        let braces := "\x7b" ++ shown ++ "\x7d"
        pure (if isFrozen then "frozenset(" ++ (if items.isEmpty then "" else braces) ++ ")"
          else if items.isEmpty then "set()" else braces)
      | .function f => pure ("<function " ++ f.name ++ " at 0x7f0000000000>")
      | .classOf c => pure ("<class '__main__." ++ c.name ++ "'>")
      | .instance kind fields =>
        match ← specialText? r v "__repr__" with
        | some s => pure s
        | none =>
          match kind with
          | .kind name =>
            let shown ← fields.mapM fun (name, value) => return name ++ "=" ++ (← repr n value)
            pure (Kind.shortName name ++ "(" ++ ", ".intercalate shown ++ ")")
          | kind => return "<__main__." ++ (← nameOfKind kind) ++ " object at 0x7f0000000000>"
      | .trouble t =>
        match ← specialText? r v "__repr__" with
        | some s => pure s
        | none =>
          return Kind.shortName (← nameOfKind t.kind) ++ "(" ++ ", ".intercalate (← t.arguments.mapM (repr n)) ++ ")"
      | .stream s =>
        return "<" ++ (← kindName v) ++ " name=" ++ (← repr n s.name) ++
          (if s.isBinary then "" else " mode=" ++ quoted s.mode ++ " encoding='UTF-8'") ++ ">"
      | .passage _ => return "<" ++ (← kindName v) ++ " object at 0x7f0000000000>"

def entriesText : Nat → List (Value × Value) → RunM String
  | 0, _ => pure "..."
  | n + 1, entries => do
    let shown ← entries.mapM fun (key, value) => return (← repr n key) ++ ": " ++ (← repr n value)
    pure (", ".intercalate shown)

end

/-- What an error says. -/
def troubleText (n : Nat) (t : Trouble) (text : Value → RunM String) : RunM String := do
  let field (name : String) : Value := ((t.fields.find? (·.1 == name)).map (·.2)).getD .none
  let isFault := (← ancestors 16 t.kind).any (Value.kind "OSError").isSame
  let isKey := (← ancestors 16 t.kind).any (Value.kind "KeyError").isSame
  match t.arguments with
  | [] => pure ""
  | [v] => if isKey then repr r n v else text v
  | first :: second :: _ =>
    if isFault then
      let shown := "[Errno " ++ (← text first) ++ "] " ++ (← text second)
      match field "filename", field "filename2" with
      | .none, _ => pure shown
      | path, .none => return shown ++ ": " ++ (← repr r n path)
      | path, other => return shown ++ ": " ++ (← repr r n path) ++ " -> " ++ (← repr r n other)
    else repr r n (.tuple t.arguments)

/-- A value as it is shown to people. -/
def text : Nat → Value → RunM String
  | 0, _ => pure "..."
  | n + 1, v => do
    match v with
    | .text s => pure s
    | .path s => pure s
    | .object i =>
      match ← objectAt i with
      | .trouble t =>
        match ← specialText? r v "__str__" with
        | some s => pure s
        | none => troubleText r n t (text n)
      | .instance .. =>
        match ← specialText? r v "__str__" with
        | some s => pure s
        | none => repr r (n + 1) v
      | _ => repr r (n + 1) v
    | v => repr r (n + 1) v

/-- How deep values are shown. -/
def depth : Nat := 100

def reprOf (v : Value) : RunM String := repr r depth v

def textOf (v : Value) : RunM String := text r depth v

mutual

/-- Whether two values are equal. Numbers are equal across their kinds. -/
def equal : Nat → Value → Value → RunM Bool
  | 0, a, b => pure (a.isSame b)
  | n + 1, a, b => do
    match a.number?, b.number? with
    | some x, some y => pure (Number.order? x y == some .eq)
    | _, _ =>
      match a, b with
      | .tuple as, .tuple bs => allEqual n as bs
      | .range .., .range .. => pure (a.isSame b)
      | .object i, other => do
        match ← special? a "__eq__" with
        | some f => truth n (← r.call f ⟨[a, other], []⟩)
        | none =>
          match other with
          | .object j => if i = j then pure true else do sameContent n (← objectAt i) (← objectAt j)
          | _ => pure false
      | a, .object _ => do
        match ← special? b "__eq__" with
        | some f => truth n (← r.call f ⟨[b, a], []⟩)
        | none => pure false
      | a, b => pure (a.isSame b)

def allEqual : Nat → List Value → List Value → RunM Bool
  | 0, _, _ => pure false
  | n + 1, as, bs =>
    if as.length ≠ bs.length then pure false else (as.zip bs).allM fun (a, b) => equal n a b

/-- Whether two things that can change hold the same. -/
def sameContent : Nat → Object → Object → RunM Bool
  | 0, _, _ => pure false
  | n + 1, a, b => do
    match a, b with
    | .list as, .list bs => allEqual n as.toList bs.toList
    | .set _ as, .set _ bs => if as.length ≠ bs.length then pure false else as.allM (within n bs)
    | .table _ as _, .table _ bs _ =>
      if as.length ≠ bs.length then pure false
      else as.allM fun (key, value) => do
        match ← bs.findM? fun (k, _) => equal n k key with
        | some (_, other) => equal n value other
        | none => pure false
    | _, _ => pure false

/-- Whether a value is among others. -/
def within : Nat → List Value → Value → RunM Bool
  | 0, _, _ => pure false
  | n + 1, items, v => items.anyM fun item => equal n item v

/-- Whether a value counts as true. -/
def truth : Nat → Value → RunM Bool
  | 0, _ => pure true
  | n + 1, v => do
    match v with
    | .none => pure false
    | .truth b => pure b
    | .whole k => pure (k ≠ 0)
    | .fraction d => pure !(Number.isZero d)
    | .text s => pure (s ≠ "")
    | .bytes s => pure (s ≠ "")
    | .tuple items => pure !items.isEmpty
    | .range start stop step => pure (if step > 0 then start < stop else stop < start)
    | .object i =>
      match ← objectAt i with
      | .list items => pure !items.isEmpty
      | .table _ entries _ => pure !entries.isEmpty
      | .set _ items => pure !items.isEmpty
      | .instance .. =>
        match ← special? v "__bool__" with
        | some f => truth n (← r.call f ⟨[v], []⟩)
        | none =>
          match ← special? v "__len__" with
          | some f => truth n (← r.call f ⟨[v], []⟩)
          | none => pure true
      | _ => pure true
    | _ => pure true

end

def isTrue (v : Value) : RunM Bool := truth r depth v

def areEqual (a b : Value) : RunM Bool := equal r depth a b

/-- The value that a table has for a key. -/
def entry? (entries : List (Value × Value)) (key : Value) : RunM (Option Value) := do
  match entries.find? fun (k, _) => k.isSame key with
  | some (_, value) => pure (some value)
  | none =>
    -- only numbers and values of programs can be equal to others that look different
    if key matches .text _ | .none | .bytes _ then pure none
    else return (← entries.findM? fun (k, _) => areEqual r k key).map (·.2)

/-- The entries with one that is set. A new one comes last. -/
def withEntry (entries : List (Value × Value)) (key value : Value) : RunM (List (Value × Value)) := do
  match ← entry? r entries key with
  | none => pure (entries ++ [(key, value)])
  | some _ =>
    entries.mapM fun (k, old) => do
      if k.isSame key then pure (k, value)
      else if key matches .text _ then pure (k, old)
      else return if ← areEqual r k key then (k, value) else (k, old)

/-- The values without the ones that are there already. -/
def distinct (items : List Value) : RunM (List Value) :=
  items.foldlM (fun kept v => do
    if ← within r depth kept v then pure kept else pure (kept ++ [v])) []

/-- Raises an error if a value cannot be a key. -/
def checkKey : Nat → Value → RunM Unit
  | 0, _ => pure ()
  | n + 1, v => do
    match v with
    | .tuple items => items.forM (checkKey n)
    | .object i =>
      match ← objectAt i with
      | .list _ | .table .. | .set false _ => raise "TypeError" ("unhashable type: '" ++ (← kindName v) ++ "'")
      | _ => pure ()
    | _ => pure ()

/-- How two values compare, or nothing if they do not. -/
def order? : Nat → Value → Value → RunM (Option Ordering)
  | 0, _, _ => pure none
  | n + 1, a, b => do
    let listOrder (as bs : List Value) : RunM (Option Ordering) := compareLists n as bs
    match a.number?, b.number? with
    | some x, some y => pure (Number.order? x y)
    | _, _ =>
      match a, b with
      | .text a, .text b => pure (some (Ord.compare a b))
      | .bytes a, .bytes b => pure (some (Ord.compare a b))
      | .path a, .path b => pure (some (Ord.compare a b))
      | .tuple as, .tuple bs => listOrder as bs
      | .object i, .object j =>
        match ← objectAt i, ← objectAt j with
        | .list as, .list bs => listOrder as.toList bs.toList
        | _, _ => pure none
      | _, _ => pure none
where
  /-- How lists compare: as the first elements do that are not equal. -/
  compareLists (n : Nat) : List Value → List Value → RunM (Option Ordering)
    | [], [] => pure (some .eq)
    | [], _ => pure (some .lt)
    | _, [] => pure (some .gt)
    | a :: as, b :: bs => do
      if ← areEqual r a b then compareLists n as bs else order? n a b

/-- Whether one value is less than another one. -/
def isLess (a b : Value) (sign : String) (name : String) (holds : Ordering → Bool) : RunM Value := do
  match ← special? a name with
  | some f => r.call f ⟨[a, b], []⟩
  | none =>
    let mirrored := match name with
      | "__lt__" => "__gt__"
      | "__gt__" => "__lt__"
      | "__le__" => "__ge__"
      | _ => "__le__"
    match ← special? b mirrored with
    | some f => r.call f ⟨[b, a], []⟩
    | none =>
      match ← order? r depth a b with
      | some o => pure (.truth (holds o))
      | none =>
        if (a.number?).isSome && (b.number?).isSome then pure (.truth false)
        else
          raise "TypeError" ("'" ++ sign ++ "' not supported between instances of '" ++ (← kindName a) ++ "' and '" ++
            (← kindName b) ++ "'")

end RunM

end ReleaseMatrix.Indented
