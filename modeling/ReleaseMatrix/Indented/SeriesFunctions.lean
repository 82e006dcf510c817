import ReleaseMatrix.Indented.TextFunctions

namespace ReleaseMatrix.Indented

namespace RunM

variable (r : Runner)

/-- The values in order, with a value for each that they are compared by. -/
def sorted (items : List Value) (key? : Option Value) (isReversed : Bool) : RunM (List Value) := do
  let keyed ← match key? with
    | none | some .none => pure (items.map fun v => (v, v))
    | some f => items.mapM fun v => return (← r.call f ⟨[v], []⟩, v)
  let precedes (a b : Value × Value) : RunM Bool := do
    isTrue r (← isLess r a.1 b.1 "<" "__lt__" (· = .lt))
  let all := if isReversed then keyed.reverse else keyed
  let done ← all.foldlM (fun done item => insert precedes item done) []
  let result := done.reverse.map (·.2)
  pure (if isReversed then result.reverse else result)
where
  /-- Puts an item into items of which the last one comes first. -/
  insert (precedes : Value × Value → Value × Value → RunM Bool) (item : Value × Value) :
      List (Value × Value) → RunM (List (Value × Value))
    | [] => pure [item]
    | last :: rest => do
      if ← precedes item last then return last :: (← insert precedes item rest) else pure (item :: last :: rest)

/-- Where a value is first among others. -/
def placeAmong? (items : List Value) (v : Value) : RunM (Option Nat) := do
  return (← items.zipIdx.findM? fun (item, _) => within r depth [item] v).map (·.2)

/-- What a function of a list gives, if lists have it. -/
def listFunction? (self : Value) (index : Nat) (items : Array Value) (name : String) (g : Given) :
    Option (RunM Value) :=
  let set (items : List Value) : RunM Value := do
    setObject index (.list items.toArray)
    pure .none
  let argument : RunM Value := do
    match g.plain with
    | v :: _ => pure v
    | [] => raise "TypeError" ("list." ++ name ++ "() takes exactly one argument (0 given)")
  match name with
  | "append" => some do
    let v ← argument
    setObject index (.list (items.push v))
    pure .none
  | "extend" => some do
    let added ← itemsOf r (← argument)
    match ← objectAt index with
    | .list items => setObject index (.list (items ++ added.toArray))
    | _ => pure ()
    pure .none
  | "insert" => some do
    let k ← wholeFor g.plain.head? 0
    let place := (max 0 (min (items.size : Int) (if k < 0 then k + items.size else k))).toNat
    set (items.toList.take place ++ (g.plain[1]?).toList ++ items.toList.drop place)
  | "pop" => some do
    if items.isEmpty then raise "IndexError" "pop from empty list"
    match placeOf? items.size (← wholeFor g.plain.head? (-1)) with
    | some k =>
      let _ ← set (items.toList.eraseIdx k)
      pure (items.getD k .none)
    | none => raise "IndexError" "pop index out of range"
  | "remove" => some do
    match ← placeAmong? r items.toList (← argument) with
    | some k => set (items.toList.eraseIdx k)
    | none => raise "ValueError" "list.remove(x): x not in list"
  | "index" => some do
    let start ← wholeFor g.plain[1]? 0
    let start := (if start < 0 then max 0 (start + items.size) else start).toNat
    let v ← argument
    match ← placeAmong? r (items.toList.drop start) v with
    | some k => pure (.whole (start + k))
    | none => raise "ValueError" ((← reprOf r v) ++ " is not in list")
  | "count" => some do
    let v ← argument
    return .whole (← items.toList.filterM fun item => within r depth [item] v).length
  | "clear" => some (set [])
  | "copy" => some (makeList items.toList)
  | "reverse" => some (set items.toList.reverse)
  | "sort" => some do
    let isReversed ← match g.argument? 9 "reverse" with
      | some v => isTrue r v
      | none => pure false
    set (← sorted r items.toList (g.argument? 9 "key") isReversed)
  | "__iter__" => some (passageOf r self)
  | _ => none

/-- What a function of a tuple gives, if tuples have it. -/
def tupleFunction? (items : List Value) (name : String) (g : Given) : Option (RunM Value) :=
  match name with
  | "index" => some do
    match ← placeAmong? r items (g.plain.headD .none) with
    | some k => pure (.whole k)
    | none => raise "ValueError" "tuple.index(x): x not in tuple"
  | "count" => some do
    return .whole (← items.filterM fun item => within r depth [item] (g.plain.headD .none)).length
  | _ => none

/-- The pairs that a table or a series of pairs has. -/
def pairsOf (v : Value) : RunM (List (Value × Value)) := do
  let isTable ← match v with
    | .object i => do pure ((← objectAt i) matches .table .. : Bool)
    | _ => pure false
  match v, isTable with
  | .object i, true =>
    match ← objectAt i with
    | .table _ entries _ => pure entries
    | _ => pure []
  | v, _ =>
    (← itemsOf r v).zipIdx.mapM fun (item, k) => do
      match ← itemsOf r item with
      | [a, b] => pure (a, b)
      | other =>
        raise "ValueError" ("dictionary update sequence element #" ++ toString k ++ " has length " ++
          toString other.length ++
          "; 2 is required")

/-- What a function of a table gives, if tables have it. -/
def tableFunction? (index : Nat) (kind : String) (entries : List (Value × Value)) (missing : Value) (name : String)
    (g : Given) : Option (RunM Value) :=
  let set (entries : List (Value × Value)) : RunM Unit := setObject index (.table kind entries missing)
  let key : RunM Value := do
    match g.plain with
    | v :: _ =>
      checkKey depth v
      pure v
    | [] => raise "TypeError" (name ++ " expected at least 1 argument, got 0")
  let without (v : Value) : RunM Unit := do
    let kept ← entries.filterM fun (k, _) => return !(← areEqual r k v)
    set kept
  match name with
  | "get" => some do
    return (← entry? r entries (← key)).getD (g.plain[1]?.getD .none)
  | "keys" => some (makeList (entries.map (·.1)))
  | "values" => some (makeList (entries.map (·.2)))
  | "items" => some (makeList (entries.map fun (k, v) => .tuple [k, v]))
  | "setdefault" => some do
    let k ← key
    match ← entry? r entries k with
    | some v => pure v
    | none =>
      let v := g.plain[1]?.getD .none
      set (entries ++ [(k, v)])
      pure v
  | "pop" => some do
    let k ← key
    let found? ← entry? r entries k
    let usual? : Option Value := g.plain[1]?
    match found?, usual? with
    | some v, _ =>
      without k
      pure v
    | none, some v => pure v
    | none, none => raiseWith "KeyError" [k] []
  | "popitem" => some do
    match entries.getLast? with
    | some (k, v) =>
      set entries.dropLast
      pure (.tuple [k, v])
    | none => raiseWith "KeyError" [.text "popitem(): dictionary is empty"] []
  | "update" => some do
    let more : List (Value × Value) ← match g.plain with
      | v :: _ => pairsOf r v
      | [] => pure []
    let named : List (Value × Value) := g.named.map fun p => (.text p.1, p.2)
    set (← (more ++ named).foldlM (fun all (k, v) => withEntry r all k v) entries)
    pure .none
  | "clear" => some do
    set []
    pure .none
  | "copy" => some (make (.table kind entries missing))
  | "most_common" => some do
    let ordered := entries.mergeSort fun a b => (b.2.whole?.getD 0) ≤ (a.2.whole?.getD 0)
    let taken ← match g.plain.head? with
      | some (.whole n) => pure (ordered.take n.toNat)
      | _ => pure ordered
    makeList (taken.map fun (k, v) => .tuple [k, v])
  | _ => none

/-- What a function of a set gives, if sets have it. -/
def setFunction? (index : Nat) (isFrozen : Bool) (items : List Value) (name : String) (g : Given) :
    Option (RunM Value) :=
  let set (items : List Value) : RunM Value := do
    setObject index (.set isFrozen items)
    pure .none
  let v := g.plain.headD .none
  let others : RunM (List Value) := return (← g.plain.mapM (itemsOf r)).flatten
  let without (all gone : List Value) : RunM (List Value) := all.filterM fun v => return !(← within r depth gone v)
  match name with
  | "add" => some do
    checkKey depth v
    if ← within r depth items v then pure .none else set (items ++ [v])
  | "discard" => some do set (← without items [v])
  | "remove" => some do
    if ← within r depth items v then set (← without items [v]) else raiseWith "KeyError" [v] []
  | "pop" => some do
    match items with
    | [] => raiseWith "KeyError" [.text "pop from an empty set"] []
    | first :: rest =>
      let _ ← set rest
      pure first
  | "update" => some do set (items ++ (← without (← distinct r (← others)) items))
  | "union" => some do make (.set isFrozen (items ++ (← without (← distinct r (← others)) items)))
  | "intersection" => some do
    let there ← others
    make (.set isFrozen (← items.filterM fun v => within r depth there v))
  | "difference" => some do make (.set isFrozen (← without items (← others)))
  | "symmetric_difference" => some do
    let there ← distinct r (← others)
    make (.set isFrozen ((← without items there) ++ (← without there items)))
  | "issubset" => some do
    let there ← others
    return .truth (← items.allM (within r depth there))
  | "issuperset" => some do return .truth (← (← others).allM (within r depth items))
  | "isdisjoint" => some do
    let there ← others
    return .truth !(← items.anyM (within r depth there))
  | "clear" => some (set [])
  | "copy" => some (make (.set isFrozen items))
  | _ => none

/-- What a function of a number gives, if numbers have it. -/
def numberFunction? (v : Value) (name : String) (g : Given) : Option (RunM Value) :=
  match name, v with
  | "bit_length", v => v.whole?.map fun n => pure (.whole (if n = 0 then 0 else n.natAbs.log2 + 1))
  | "is_integer", .fraction d =>
    some (pure (.truth ((Number.ratio? d).any fun (n, e) => n % (e : Int) = 0)))
  | "is_integer", _ => some (pure (.truth true))
  | "to_bytes", v => v.whole?.map fun (n : Int) => do
    let size ← wholeFor (g.argument? 0 "length") 1
    let order := match g.argument? 1 "byteorder" with
      | some (.text s) => s
      | _ => "big"
    if n < 0 || n ≥ Nat.pow 256 size.toNat then raise "OverflowError" "int too big to convert"
    let low := (List.range size.toNat).map fun k => Char.ofNat (n.toNat / Nat.pow 256 k % 256)
    pure (.bytes (String.ofList (if order = "little" then low else low.reverse)))
  | _, _ => none

end RunM

end ReleaseMatrix.Indented
