import ReleaseMatrix.Indented.Display
import ReleaseMatrix.Indented.Streams

namespace ReleaseMatrix.Indented

/-- How many numbers a range has. -/
def rangeLength (start stop step : Int) : Nat :=
  if step > 0 then ((stop - start + step - 1).fdiv step).toNat
  else if step < 0 then ((start - stop - step - 1).fdiv (-step)).toNat
  else 0

/-- The places that a slice takes of so many. -/
def slicePlaces (length : Nat) (start? stop? : Option Int) (step : Int) : List Nat :=
  let size : Int := length
  let bound (low high : Int) (k : Int) : Int := max low (min high (if k < 0 then k + size else k))
  let (low, high) := if step > 0 then ((0 : Int), size) else ((-1 : Int), size - 1)
  let start := match start? with
    | some k => bound low high k
    | none => if step > 0 then low else high
  let stop := match stop? with
    | some k => bound low high k
    | none => if step > 0 then high else low
  (List.range (rangeLength start stop step)).map fun (k : Nat) => (start + step * k).toNat

namespace RunM

variable (r : Runner)

/-- The element of something at an index that is there. -/
def elementAt? (source : Value) (index : Nat) : RunM (Option Value) := do
  match source with
  | .tuple items => pure items[index]?
  | .text s => pure ((s.toList[index]?).map fun c => .text (String.singleton c))
  | .range start stop step =>
    pure (if index < rangeLength start stop step then some (.whole (start + step * index)) else none)
  | .object i =>
    match ← objectAt i with
    | .list items => pure items[index]?
    | _ => pure none
  | _ => pure none

/-- Something that goes through the elements of a value. -/
def passageOf (v : Value) : RunM Value := do
  let refuse : RunM Value := do raise "TypeError" ("'" ++ (← kindName v) ++ "' object is not iterable")
  let through (items : List Value) : RunM Value := make (.passage (.items items))
  match v with
  | .text s => through (s.toList.map fun c => .text (String.singleton c))
  | .bytes s => through (s.toList.map fun c => .whole c.toNat)
  | .tuple items => through items
  | .range .. => make (.passage (.elements v 0))
  | .object i =>
    match ← objectAt i with
    | .list _ => make (.passage (.elements v 0))
    | .table _ entries _ => through (entries.map (·.1))
    | .set _ items => through (Display.arranged items)
    | .stream _ => make (.passage (.lines v))
    | .passage _ => pure v
    | .instance .. =>
      match ← special? v "__iter__" with
      | some f =>
        let source ← r.call f ⟨[v], []⟩
        match source with
        | .object j =>
          match ← objectAt j with
          | .instance .. => make (.passage (.asked source))
          | _ => pure source
        | _ => pure source
      | none => refuse
    | _ => refuse
  | _ => refuse

/-- The next value of a passage. -/
def next? : Nat → Value → RunM (Option Value)
  | 0, _ => throw (.jumped .exhausted)
  | n + 1, passage => do
    match passage with
    | .object i =>
      match ← objectAt i with
      | .passage (.items []) => pure none
      | .passage (.items (v :: rest)) =>
        setObject i (.passage (.items rest))
        pure (some v)
      | .passage (.elements source index) =>
        setObject i (.passage (.elements source (index + 1)))
        elementAt? source index
      | .passage (.lines stream) =>
        match ← readLine stream with
        | .text "" | .bytes "" => pure none
        | line => pure (some line)
      | .passage (.pending function bindings) =>
        setObject i (.passage (.items []))
        let (items, error?) ← r.results function bindings
        setObject i (.passage (match error? with
          | some error => .failing items error
          | none => .items items))
        next? n passage
      | .passage (.failing [] error) =>
        setObject i (.passage (.items []))
        throw (.raised error)
      | .passage (.failing (v :: rest) error) =>
        setObject i (.passage (.failing rest error))
        pure (some v)
      | .passage (.gathering ..) => r.advance i
      | .passage (.asked source) =>
        match ← special? source "__next__" with
        | none => raise "TypeError" ("'" ++ (← kindName source) ++ "' object is not an iterator")
        | some f =>
          tryCatch (do pure (some (← r.call f ⟨[source], []⟩))) fun
            | .raised error => do
              if ← isOfKind error (.kind "StopIteration") then pure none else throw (.raised error)
            | stop => throw stop
      | _ => raise "TypeError" ("'" ++ (← kindName passage) ++ "' object is not an iterator")
    | v => raise "TypeError" ("'" ++ (← kindName v) ++ "' object is not an iterator")

/-- All that a passage still has. -/
def drain : Nat → Value → List Value → RunM (List Value)
  | 0, _, _ => throw (.jumped .exhausted)
  | n + 1, passage, read => do
    match ← next? r r.fuel passage with
    | some v => drain n passage (v :: read)
    | none => pure read.reverse

/-- The elements of a value. -/
def itemsOf (v : Value) : RunM (List Value) := do
  match v with
  | .tuple items => pure items
  | .range start stop step =>
    pure ((List.range (rangeLength start stop step)).map fun (k : Nat) => .whole (start + step * k))
  | v =>
    let passage ← passageOf r v
    match passage with
    | .object i =>
      match ← objectAt i with
      | .passage (.items items) =>
        setObject i (.passage (.items []))
        pure items
      | _ => drain r r.fuel passage []
    | _ => drain r r.fuel passage []

/-- How many elements a value has. -/
def lengthOf (v : Value) : RunM Nat := do
  let refuse : RunM Nat := do raise "TypeError" ("object of type '" ++ (← kindName v) ++ "' has no len()")
  match v with
  | .text s => pure s.length
  | .bytes s => pure s.length
  | .tuple items => pure items.length
  | .range start stop step => pure (rangeLength start stop step)
  | .object i =>
    match ← objectAt i with
    | .list items => pure items.size
    | .table _ entries _ => pure entries.length
    | .set _ items => pure items.length
    | .instance .. =>
      match ← special? v "__len__" with
      | some f =>
        match ← r.call f ⟨[v], []⟩ with
        | .whole n => pure n.toNat
        | _ => refuse
      | none => refuse
    | _ => refuse
  | _ => refuse

/-- Whether a text stands within another one. -/
def isPart (part whole : List Char) : Bool :=
  match whole with
  | [] => part.isEmpty
  | _ :: rest => part.isPrefixOf whole || isPart part rest

/-- Whether a value is an element of another one. -/
def contains (whole v : Value) : RunM Bool := do
  match whole, v with
  | .text s, .text t => pure (isPart t.toList s.toList)
  | .text _, v => raise "TypeError" ("'in <string>' requires string as left operand, not " ++ (← kindName v))
  | .bytes s, .bytes t => pure (isPart t.toList s.toList)
  | .range start stop step, v =>
    match v.whole? with
    | some k =>
      pure (if step > 0 then start ≤ k && k < stop && (k - start) % step = 0
        else stop < k && k ≤ start && (start - k) % (-step) = 0)
    | none => pure false
  | .object i, v =>
    match ← objectAt i with
    | .table _ entries _ =>
      checkKey depth v
      return (← entry? r entries v).isSome
    | .list items => within r depth items.toList v
    | .set _ items =>
      checkKey depth v
      within r depth items v
    | _ =>
      match ← special? whole "__contains__" with
      | some f => isTrue r (← r.call f ⟨[whole, v], []⟩)
      | none => go whole v
  | whole, v => go whole v
where
  go (whole v : Value) : RunM Bool := do
    match whole with
    | .tuple items => within r depth items v
    | .object _ => within r depth (← itemsOf r whole) v
    | _ => raise "TypeError" ("argument of type '" ++ (← kindName whole) ++ "' is not iterable")

/-- The place that an index means, if it is there. -/
def placeOf? (length : Nat) (index : Int) : Option Nat :=
  let k := if index < 0 then index + length else index
  if 0 ≤ k && k < length then some k.toNat else none

/-- The whole number that an index is. -/
def indexOf (what : String) (index : Value) : RunM Int := do
  match index.whole? with
  | some k => pure k
  | none => raise "TypeError" (what ++ " indices must be integers or slices, not " ++ (← kindName index))

/-- The element of a value under an index or a key. -/
def itemOf (v index : Value) : RunM Value := do
  let element (what kind : String) (length : Nat) (get : Nat → Value) : RunM Value := do
    match placeOf? length (← indexOf what index) with
    | some k => pure (get k)
    | none => raise "IndexError" (kind ++ " index out of range")
  match v with
  | .text s =>
    let cs := s.toList
    match index.whole? with
    | none => raise "TypeError" ("string indices must be integers, not '" ++ (← kindName index) ++ "'")
    | some _ => element "string" "string" cs.length fun k => .text (String.singleton (cs.getD k ' '))
  | .bytes s =>
    let cs := s.toList
    element "byte" "index" cs.length fun k => .whole (cs.getD k ' ').toNat
  | .tuple items => element "tuple" "tuple" items.length fun k => items.getD k .none
  | .range start stop step =>
    element "range" "range object" (rangeLength start stop step) fun k => .whole (start + step * k)
  | .kind _ => pure v
  | .object i =>
    match ← objectAt i with
    | .list items => element "list" "list" items.size fun k => items.getD k .none
    | .table kind entries missing =>
      checkKey depth index
      match ← entry? r entries index with
      | some value => pure value
      | none =>
        match kind, missing with
        | "Counter", _ => pure (.whole 0)
        | _, .none =>
          let refuse : RunM Value := raiseWith "KeyError" [index] []
          if v.isSame (.object 3) then inLibrary "<frozen os>" "__getitem__" 685 refuse else refuse
        | _, make =>
          let value ← r.call make ⟨[], []⟩
          match ← objectAt i with
          | .table kind entries missing => setObject i (.table kind (entries ++ [(index, value)]) missing)
          | _ => pure ()
          pure value
    | .instance (.kind "re.Match") _ => r.call (.bound v "__getitem__") ⟨[index], []⟩
    | _ =>
      match ← special? v "__getitem__" with
      | some f => r.call f ⟨[v, index], []⟩
      | none => raise "TypeError" ("'" ++ (← kindName v) ++ "' object is not subscriptable")
  | _ => raise "TypeError" ("'" ++ (← kindName v) ++ "' object is not subscriptable")

/-- A slice of a value. -/
def sliceOf (v : Value) (start? stop? : Option Int) (step : Int) : RunM Value := do
  if step = 0 then raise "ValueError" "slice step cannot be zero"
  let places (length : Nat) : List Nat := slicePlaces length start? stop? step
  match v with
  | .text s =>
    let cs := s.toList.toArray
    pure (.text (String.ofList ((places cs.size).filterMap (cs[·]?))))
  | .bytes s =>
    let cs := s.toList.toArray
    pure (.bytes (String.ofList ((places cs.size).filterMap (cs[·]?))))
  | .tuple items =>
    let all := items.toArray
    pure (.tuple ((places all.size).filterMap (all[·]?)))
  | .range .. => return .tuple ((places (← lengthOf r v)).filterMap ((← itemsOf r v).toArray[·]?))
  | .object i =>
    match ← objectAt i with
    | .list items => makeList ((places items.size).filterMap (items[·]?))
    | _ => raise "TypeError" "unhashable type: 'slice'"
  | _ => raise "TypeError" ("'" ++ (← kindName v) ++ "' object is not subscriptable")

/-- Sets the element of a value under an index or a key. -/
def setItem (v index value : Value) : RunM Unit := do
  let refuse : RunM Unit := do
    raise "TypeError" ("'" ++ (← kindName v) ++ "' object does not support item assignment")
  match v with
  | .object i =>
    match ← objectAt i with
    | .list items =>
      match placeOf? items.size (← indexOf "list" index) with
      | some k => setObject i (.list (items.setIfInBounds k value))
      | none => raise "IndexError" "list assignment index out of range"
    | .table kind entries missing =>
      checkKey depth index
      let entries ← withEntry r entries index value
      setObject i (.table kind entries missing)
    | _ =>
      match ← special? v "__setitem__" with
      | some f =>
        let _ ← r.call f ⟨[v, index, value], []⟩
      | none => refuse
  | _ => refuse

/-- Sets a slice of a list. -/
def setSlice (v : Value) (start? stop? : Option Int) (step : Int) (value : Value) : RunM Unit := do
  let added ← itemsOf r value
  match v with
  | .object i =>
    match ← objectAt i with
    | .list items =>
      let places := slicePlaces items.size start? stop? step
      if step = 1 then
        let start := (slicePlaces items.size start? none 1).headD items.size
        let before := items.toList.take start
        let after := items.toList.drop (start + places.length)
        setObject i (.list (before ++ added ++ after).toArray)
      else if places.length ≠ added.length then
        raise "ValueError" ("attempt to assign sequence of size " ++ toString added.length ++
          " to extended slice of size " ++
          toString places.length)
      else setObject i (.list ((places.zip added).foldl (fun items (k, v) => items.setIfInBounds k v) items))
    | _ => raise "TypeError" ("'" ++ (← kindName v) ++ "' object does not support item assignment")
  | _ => raise "TypeError" ("'" ++ (← kindName v) ++ "' object does not support item assignment")

/-- Removes the element of a value under an index or a key. -/
def deleteItem (v index : Value) : RunM Unit := do
  match v with
  | .object i =>
    match ← objectAt i with
    | .list items =>
      match placeOf? items.size (← indexOf "list" index) with
      | some k => setObject i (.list (items.toList.eraseIdx k).toArray)
      | none => raise "IndexError" "list assignment index out of range"
    | .table kind entries missing =>
      match ← entry? r entries index with
      | some _ =>
        let kept ← entries.filterM fun (k, _) => return !(← areEqual r k index)
        setObject i (.table kind kept missing)
      | none => raiseWith "KeyError" [index] []
    | _ =>
      match ← special? v "__delitem__" with
      | some f =>
        let _ ← r.call f ⟨[v, index], []⟩
      | none => raise "TypeError" ("'" ++ (← kindName v) ++ "' object doesn't support item deletion")
  | _ => raise "TypeError" ("'" ++ (← kindName v) ++ "' object doesn't support item deletion")

/-- Removes a slice of a list. -/
def deleteSlice (v : Value) (start? stop? : Option Int) (step : Int) : RunM Unit := do
  match v with
  | .object i =>
    match ← objectAt i with
    | .list items =>
      let places := slicePlaces items.size start? stop? step
      let kept := items.toList.zipIdx.filter fun (_, k) => !places.contains k
      setObject i (.list (kept.map (·.1)).toArray)
    | _ => raise "TypeError" ("'" ++ (← kindName v) ++ "' object does not support item deletion")
  | _ => raise "TypeError" ("'" ++ (← kindName v) ++ "' object does not support item deletion")

end RunM

end ReleaseMatrix.Indented
