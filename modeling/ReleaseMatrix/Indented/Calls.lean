import ReleaseMatrix.Indented.Library

namespace ReleaseMatrix.Indented

namespace RunM

variable (r : Runner)

/-- Names in a list, as they are told. -/
def listed (names : List String) : String :=
  match (names.map fun n => "'" ++ n ++ "'").reverse with
  | [] => ""
  | [n] => n
  | [b, a] => a ++ " and " ++ b
  | last :: rest => ", ".intercalate rest.reverse ++ ", and " ++ last

def plural (n : Nat) (word : String) : String :=
  word ++ if n = 1 then "" else "s"

/-- What the parameters of a function stand for in a call. -/
def bindings (f : Function) (g : Given) : RunM (List (String × Value)) := do
  let .mk positional rest? named namedRest? := f.parameters
  let names := positional.map (·.1)
  let refuse {α : Type} (message : String) : RunM α := raise "TypeError" (f.name ++ "() " ++ message)
  if g.plain.length > names.length && rest?.isNone then
    let required := (positional.filter (·.2.isNone)).length
    let count := if required < names.length then "from " ++ toString required ++ " to " ++ toString names.length
      else toString names.length
    refuse ("takes " ++ count ++ " positional " ++ plural names.length "argument" ++ " but " ++
      toString g.plain.length ++
      (if g.plain.length = 1 then " was" else " were") ++ " given")
  let byPlace := names.zip g.plain
  let known := names ++ named.map (·.1)
  match g.named.find? fun (n, _) => byPlace.any (·.1 == n) with
  | some (n, _) => refuse ("got multiple values for argument '" ++ n ++ "'")
  | none => pure ()
  let (byName, others) := g.named.partition fun (n, _) => known.contains n
  match others, namedRest? with
  | (n, _) :: _, none => refuse ("got an unexpected keyword argument '" ++ n ++ "'")
  | _, _ => pure ()
  let found := byPlace ++ byName
  let fill (parameters : List (String × Option Expr)) : List (String × Value) × List String :=
    parameters.foldl (fun (all, missing) (n, _) =>
      match found.find? (·.1 == n), f.defaults.find? (·.1 == n) with
      | some (_, v), _ => (all ++ [(n, v)], missing)
      | none, some (_, v) => (all ++ [(n, v)], missing)
      | none, none => (all, missing ++ [n])) ([], [])
  let (first, missing) := fill positional
  if !missing.isEmpty then
    refuse ("missing " ++ toString missing.length ++ " required positional " ++ plural missing.length "argument" ++
      ": " ++
      listed missing)
  let (second, missing) := fill named
  if !missing.isEmpty then
    refuse ("missing " ++ toString missing.length ++ " required keyword-only " ++
      plural missing.length "argument" ++ ": " ++
      listed missing)
  let rest : List (String × Value) := rest?.toList.map fun n => (n, .tuple (g.plain.drop names.length))
  let namedRest ← namedRest?.toList.mapM fun n => do
    pure (n, ← makeTable (others.map fun (n, v) => (.text n, v)))
  pure (first ++ rest ++ second ++ namedRest)

/-- Work in a scope and a call of its own. Both end with it. -/
def inCall {α : Type} (name? : Option String) (scope : Scope) (work : RunM α) : RunM α := do
  let before ← machine
  modifyMachine fun m => { m with
    scopes := m.scopes.push scope
    scope := m.scopes.size
    frames := match name? with
      | some name => ⟨name, default, none, none⟩ :: m.frames
      | none => m.frames }
  let leave : RunM Unit := modifyMachine fun m => { m with scope := before.scope, frames := before.frames }
  let result ← tryCatch work fun stop => do
    leave
    throw stop
  leave
  pure result

/-- How many calls may be under way. -/
def callLimit : Nat := 999

/-- Runs a function, and gives what it gives back. -/
def runFunction (f : Function) (values : List (String × Value)) : RunM Value := do
  if (← machine).frames.length > callLimit then raise "RecursionError" "maximum recursion depth exceeded"
  inCall (some f.name) ⟨.function, f.names, values, some f.scope⟩ do
    match f.result? with
    | some e => r.eval e
    | none =>
      tryCatch (do
        r.run f.body
        pure .none) fun
        | .gaveBack v => pure v
        | stop => throw stop

/-- What a function gives to what goes through its results, and the error that it ends with, if it does. -/
def gatherResults (f : Function) (values : List (String × Value)) : RunM (List Value × Option Value) := do
  modifyMachine fun m => { m with yielded := #[] :: m.yielded }
  let error? ← tryCatch (do
    let _ ← runFunction r f values
    pure none) fun
    | .raised error => pure (some error)
    | stop => throw stop
  let m ← machine
  modifyMachine fun m => { m with yielded := m.yielded.tail }
  pure ((m.yielded.headD #[]).toList, error?)

/-- Makes a value of a class of a program. -/
def instantiate (kind : Value) (c : Class) (g : Given) : RunM Value := do
  let all ← ancestors 16 kind
  let isTrouble := all.any (Value.kind "BaseException").isSame
  let v ← if isTrouble then make (.trouble ⟨kind, g.plain, [], [], none, none⟩) else make (.instance kind [])
  match ← member? kind "__init__" with
  | some f =>
    let _ ← r.call f { g with plain := v :: g.plain }
  | none =>
    if !isTrouble && !(g.plain.isEmpty && g.named.isEmpty) then
      raise "TypeError" (c.name ++ "() takes no arguments")
  pure v

/-- The result of a call of a record that can be called. -/
def callRecord (kind : String) (fields : List (String × Value)) (g : Given) : RunM Value := do
  let field (name : String) : Value := ((fields.find? (·.1 == name)).map (·.2)).getD .none
  let keys : List Value := match field "keys" with
    | .tuple items => items
    | _ => []
  let one (results : List Value) : Value := match results with
    | [v] => v
    | vs => .tuple vs
  match kind with
  | "functools.partial" =>
    let more ← pairsOf r (field "keywords")
    let named := more.filterMap fun (k, v) => match k with
      | .text k => some (k, v)
      | _ => none
    let before ← itemsOf r (field "args")
    r.call (field "func") ⟨before ++ g.plain, named.filter (fun (n, _) => !g.named.any (·.1 == n)) ++ g.named⟩
  | "operator.itemgetter" => return one (← keys.mapM (itemOf r (g.plain.headD .none)))
  | "operator.attrgetter" =>
    return one (← keys.mapM fun k => do attributeOf r (g.plain.headD .none) (← textOf r k))
  | _ => raise "TypeError" ("'" ++ kind ++ "' object is not callable")

/-- The result of a call of a function that is always there. -/
def callNative (name : String) (g : Given) : RunM Value := do
  match builtinFunction? r name g, libraryFunction? r name g with
  | some work, _ => work
  | none, some work => work
  | none, none =>
    -- a function of a class that is called with the value itself first
    match g.plain with
    | self :: rest =>
      let short := Kind.shortName name
      if name = "str.format" then
        match self with
        | .text s => return .text (String.ofList (← fillIn r ⟨rest, g.named⟩ (s.length + 1) 0 s.toList).1)
        | _ => pure ()
      match ← ownFunction? r self short ⟨rest, g.named⟩ with
      | some work => work
      | none =>
        if short = "__init__" then
          match self with
          | .object i =>
            match ← objectAt i with
            | .trouble t => setObject i (.trouble { t with arguments := rest })
            | _ => pure ()
          | _ => pure ()
          pure .none
        else raise "AttributeError" ("type object '" ++
          String.ofList (name.toList.take (name.length - short.length - 1)) ++
          "' has no attribute '" ++ short ++ "'")
    | [] => raise "TypeError" ("unbound method " ++ name ++ "() needs an argument")

/-- The result of a call. -/
def callValue (callee : Value) (g : Given) : RunM Value := do
  let refuse : RunM Value := do raise "TypeError" ("'" ++ (← kindName callee) ++ "' object is not callable")
  match callee with
  | .native name => callNative r name g
  | .kind kind =>
    match construct? r kind g with
    | some work => work
    | none => raise "TypeError" ("cannot create '" ++ kind ++ "' instances")
  | .method self f => r.call f { g with plain := self :: g.plain }
  | .bound self name =>
    match self, name with
    | .text s, "format" => return .text (String.ofList (← fillIn r g (s.length + 1) 0 s.toList).1)
    | .text s, "format_map" => do
      let named := (← pairsOf r (g.plain.headD .none)).filterMap fun (k, v) => match k with
        | .text k => some (k, v)
        | _ => none
      return .text (String.ofList (← fillIn r ⟨[], named⟩ (s.length + 1) 0 s.toList).1)
    | .object i, "__init__" =>
      match ← objectAt i with
      | .trouble t => setObject i (.trouble { t with arguments := g.plain })
      | _ => pure ()
      pure .none
    | self, name =>
      match ← ownFunction? r self name g with
      | some work => work
      | none => refuse
  | .object i =>
    match ← objectAt i with
    | .function f =>
      let values ← bindings f g
      if f.names.yields then make (.passage (.pending f values)) else runFunction r f values
    | .classOf c => instantiate r callee c g
    | .instance (.kind kind) fields => callRecord r kind fields g
    | .instance .. =>
      match ← special? callee "__call__" with
      | some f => r.call f { g with plain := callee :: g.plain }
      | none => refuse
    | _ => refuse
  | _ => refuse

end RunM

end ReleaseMatrix.Indented
