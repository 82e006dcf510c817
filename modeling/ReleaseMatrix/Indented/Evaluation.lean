import ReleaseMatrix.Indented.Builtins
import ReleaseMatrix.Indented.Calls

namespace ReleaseMatrix.Indented

namespace RunM

variable (r : Runner)

def setInScope (k : Nat) (name : String) (v : Value) : RunM Unit :=
  modifyMachine fun m =>
    match m.scopes[k]? with
    | some s => { m with scopes := m.scopes.setIfInBounds k { s with values := withField s.values name v } }
    | none => m

/-- The value that a name has in the innermost scope around the work that knows it. -/
def lookUp (name : String) : RunM Value := do
  let m ← machine
  let outside : RunM Value := do
    match builtin? name with
    | some v => pure v
    | none =>
      if name = "__file__" then pure (.text m.file)
      else raiseWith "NameError" [.text ("name '" ++ name ++ "' is not defined")] [("name", .text name)]
  let inProgram : RunM Value := do
    match (m.scopes[0]?.map (·.values)).bind fun values => values.find? (·.1 == name) with
    | some (_, v) => pure v
    | none => outside
  let rec go (n k : Nat) (isFirst : Bool) : RunM Value := do
    match n, m.scopes[k]? with
    | 0, _ | _, none => outside
    | n + 1, some s =>
      let above (isFirst : Bool) : RunM Value := match s.parent? with
        | some parent => go n parent isFirst
        | none => outside
      if s.kind = .classBody && !isFirst then above false
      else match s.values.find? (·.1 == name) with
        | some (_, v) => pure v
        | none =>
          if s.names.program.contains name then inProgram
          else if s.kind = .function && s.names.own.contains name then
            if isFirst then
              raise "UnboundLocalError" ("cannot access local variable '" ++ name ++
                "' where it is not associated with a value")
            else
              raise "NameError" ("cannot access free variable '" ++ name ++
                "' where it is not associated with a value in enclosing scope")
          else above (isFirst && s.kind = .gathering)
  go 64 m.scope true

/-- The scope that a name is set in, from a scope on. -/
def scopeFor (name : String) (leavesGathering : Bool) : RunM Nat := do
  let m ← machine
  let rec start (n k : Nat) : Nat :=
    match n, m.scopes[k]? with
    | n + 1, some s => if leavesGathering && s.kind = .gathering then start n (s.parent?.getD 0) else k
    | _, _ => k
  let rec outer (n k : Nat) : Nat :=
    match n, m.scopes[k]? with
    | n + 1, some s => if s.kind = .function && s.names.own.contains name then k else outer n (s.parent?.getD 0)
    | _, _ => k
  let k := start 64 m.scope
  match m.scopes[k]? with
  | some s =>
    pure (if s.names.program.contains name then 0
      else if s.names.outer.contains name then outer 64 (s.parent?.getD 0) else k)
  | none => pure k

def setName (name : String) (v : Value) : RunM Unit := do
  setInScope (← scopeFor name false) name v

/-- Takes away the value of a name. -/
def deleteName (name : String) : RunM Unit := do
  let k ← scopeFor name false
  let m ← machine
  match m.scopes[k]? with
  | some s =>
    if s.values.any (·.1 == name) then
      modifyMachine fun m =>
        { m with scopes := m.scopes.setIfInBounds k { s with values := s.values.filter (·.1 ≠ name) } }
    else raise "NameError" ("name '" ++ name ++ "' is not defined")
  | none => pure ()

/-- From where to where a slice goes. -/
def sliceBounds (start stop step : Option Expr) : RunM (Option Int × Option Int × Int) := do
  let bound (e? : Option Expr) : RunM (Option Int) := do
    match e? with
    | none => pure none
    | some e =>
      match ← r.eval e with
      | .none => pure none
      | v =>
        match v.whole? with
        | some n => pure (some n)
        | none => raise "TypeError" "slice indices must be integers or None or have an __index__ method"
  let start? ← bound start
  let stop? ← bound stop
  pure (start?, stop?, (← bound step).getD 1)

/-- Sets what a target stands for. Several targets take the elements of a value. -/
def assign : Nat → Expr → Value → RunM Unit
  | 0, _, _ => throw (.jumped .exhausted)
  | n + 1, target, v => do
    match target with
    | .name _ name => setName name v
    | .attribute span e name =>
      let holder ← r.eval e
      standing span (setAttribute r holder name v)
    | .item span brackets e (.slice start stop step) =>
      let holder ← r.eval e
      let (start?, stop?, step) ← sliceBounds r start stop step
      standingAt span brackets (setSlice r holder start? stop? step v)
    | .item span brackets e index =>
      let holder ← r.eval e
      let key ← r.eval index
      standingAt span brackets (setItem r holder key v)
    | .tuple targets | .list targets =>
      let items ← tryCatch (itemsOf r v) fun
        | .raised error => do
          if ← isOfKind error (.kind "TypeError") then
            raise "TypeError" ("cannot unpack non-iterable " ++ (← kindName v) ++ " object")
          else throw (.raised error)
        | stop => throw stop
      match targets.findIdx? (· matches .starred _) with
      | none =>
        if items.length < targets.length then
          raise "ValueError" ("not enough values to unpack (expected " ++ toString targets.length ++ ", got " ++
            toString items.length ++ ")")
        if items.length > targets.length then
          raise "ValueError" ("too many values to unpack (expected " ++ toString targets.length ++ ")")
        (targets.zip items).forM fun (t, item) => assign n t item
      | some k =>
        if items.length + 1 < targets.length then
          raise "ValueError" ("not enough values to unpack (expected at least " ++ toString (targets.length - 1) ++
            ", got " ++
            toString items.length ++ ")")
        let after := targets.length - k - 1
        (targets.take k |>.zip items).forM fun (t, item) => assign n t item
        match targets[k]? with
        | some (.starred t) => assign n t (← makeList ((items.drop k).take (items.length - k - after)))
        | _ => pure ()
        ((targets.drop (k + 1)).zip (items.drop (items.length - after))).forM fun (t, item) => assign n t item
    | _ => pure ()

/-- How deep targets may be. -/
def targetDepth : Nat := 100

/-- Takes away what targets stand for. -/
def delete : Nat → Expr → RunM Unit
  | 0, _ => pure ()
  | n + 1, target => do
    match target with
    | .name _ name => deleteName name
    | .attribute span e name =>
      let holder ← r.eval e
      standing span (deleteAttribute holder name)
    | .item span brackets e (.slice start stop step) =>
      let holder ← r.eval e
      let (start?, stop?, step) ← sliceBounds r start stop step
      standingAt span brackets (deleteSlice holder start? stop? step)
    | .item span brackets e index =>
      let holder ← r.eval e
      let key ← r.eval index
      standingAt span brackets (deleteItem r holder key)
    | .tuple targets | .list targets => targets.forM (delete n)
    | _ => pure ()

def Constant.value : Constant → Value
  | .none => .none
  | .truth b => .truth b
  | .whole n => .whole n
  | .fraction d => .fraction d
  | .text s => .text s
  | .bytes s => .bytes s
  | .ellipsis => .ellipsis

/-- The values of expressions, some of which may be all elements of a value. -/
def evalItems (items : List Expr) : RunM (List Value) := do
  let parts ← items.mapM fun e => do
    match e with
    | .starred e => itemsOf r (← r.eval e)
    | e => return [← r.eval e]
  pure parts.flatten

/-- The value of a text with values in it. -/
def evalTemplate : Nat → List TemplatePart → RunM String
  | 0, _ => pure ""
  | n + 1, parts => do
    let texts ← parts.mapM fun part => do
      match part with
      | .text s => pure s
      | .value e conversion? layout => do
        let v ← converted r (← r.eval e) conversion?
        laidOut r v (← evalTemplate n layout)
    pure (String.join texts)

/-- The arguments of a call. -/
def evalArguments (arguments : List Argument) : RunM Given := do
  arguments.foldlM (fun (g : Given) a => do
    match a with
    | .plain e => return { g with plain := g.plain ++ [← r.eval e] }
    | .named name e => return { g with named := g.named ++ [(name, ← r.eval e)] }
    | .all e => do
      let items ← itemsOf r (← r.eval e)
      pure { g with plain := g.plain ++ items }
    | .allNamed e => do
      let pairs ← pairsOf r (← r.eval e)
      let named := pairs.filterMap fun (k, v) => match k with
        | .text k => some (k, v)
        | _ => none
      pure { g with named := g.named ++ named }) ⟨[], []⟩

/-- A function with the values that its parameters have of themselves. -/
def makeFunction (name : String) (parameters : Parameters) (names : Names) (body : List Statement)
    (result? : Option Expr) : RunM Value := do
  let .mk positional _ named _ := parameters
  let defaults ← (positional ++ named).filterMapM fun (n, e?) => do
    match e? with
    | some e => return some (n, ← r.eval e)
    | none => pure none
  make (.function ⟨name, parameters, defaults, names, body, result?, (← machine).scope⟩)

/-- Loops with their tests. -/
def loopsOf : List Clause → List (Expr × Expr × List Expr)
  | [] => []
  | .each target source :: rest =>
    let tests := (rest.takeWhile fun c => c matches .only _).filterMap fun
      | .only test => some test
      | _ => none
    (target, source, tests) :: loopsOf rest
  | .only _ :: rest => loopsOf rest

/-- What goes through the values that an expression has for loops. The first of these begins at once. -/
def gather (isNamed : Bool) (element : Expr) (clauses : List Clause) : RunM Value := do
  match loopsOf clauses with
  | [] => make (.passage (.items []))
  | (target, source, tests) :: more =>
    let first ← passageOf r (← r.eval source)
    let m ← machine
    modifyMachine fun m => { m with scopes := m.scopes.push ⟨.gathering, .empty, [], some m.scope⟩ }
    make (.passage (.gathering m.scopes.size isNamed element ((target, source, tests) :: more) [first]))

/-- The next value that an expression has for loops. -/
def advance (index : Nat) : Nat → RunM (Option Value)
  | 0 => throw (.jumped .exhausted)
  | n + 1 => do
    match ← objectAt index with
    | .passage (.gathering scope isNamed element loops (current :: outer)) =>
      let k := outer.length
      match ← next? r r.fuel current with
      | none =>
        setObject index (.passage (.gathering scope isNamed element loops outer))
        advance index n
      | some v =>
        let (target, _, tests) := loops.getD k (.constant .none, .constant .none, [])
        assign r targetDepth target v
        if ← tests.allM fun test => do isTrue r (← r.eval test) then
          match loops[k + 1]? with
          | none => return some (← r.eval element)
          | some (_, source, _) =>
            let inner ← passageOf r (← r.eval source)
            setObject index (.passage (.gathering scope isNamed element loops (inner :: current :: outer)))
            advance index n
        else advance index n
    | _ => pure none

/-- The next value of a comprehension, in its own scope. -/
def advanceWithin (index : Nat) : RunM (Option Value) := do
  match ← objectAt index with
  | .passage (.gathering scope isNamed ..) =>
    let before ← machine
    modifyMachine fun m => { m with
      scope
      frames := if isNamed then ⟨"<genexpr>", (m.frames.head?.map (·.span)).getD default, none, none⟩ :: m.frames
        else m.frames }
    let leave : RunM Unit := modifyMachine fun m => { m with scope := before.scope, frames := before.frames }
    let result ← tryCatch (advance r index r.fuel) fun stop => do
      leave
      throw stop
    leave
    pure result
  | _ => pure none

/-- Whether values compare as a chain says. -/
def evalComparison : Value → List (Comparison × Expr) → RunM Value
  | v, [] => pure v
  | first, (c, e) :: rest => do
    let second ← r.eval e
    let result ← compare r c first second
    if rest.isEmpty then pure result
    else if ← isTrue r result then evalComparison second rest
    else pure result

/-- How many values a function gives at most to what goes through its results. -/
def resultLimit : Nat := 16384

/-- Gives values to what goes through the results of the innermost function. One that would give
them without an end stops at the limit, which is far beyond what is taken from it. -/
def giveOn (values : List Value) : RunM Unit := do
  modifyMachine fun m => { m with yielded := match m.yielded with
    | top :: outer => top.appendList values :: outer
    | [] => [] }
  if (← machine).yielded.head?.any (·.size > resultLimit) then throw (.gaveBack .none)

/-- The value of an expression. -/
def evalExpr (e : Expr) : RunM Value := do
  match e with
  | .constant c => pure (Constant.value c)
  | .template parts => return .text (← evalTemplate r depth parts)
  | .name span name => standing span (lookUp name)
  | .tuple items => return .tuple (← evalItems r items)
  | .list items => makeList (← evalItems r items)
  | .set items =>
    let items ← evalItems r items
    items.forM (checkKey depth)
    make (.set false (← distinct r items))
  | .table entries =>
    let all ← entries.foldlM (fun all (key?, e) => do
      match key? with
      | some key =>
        let k ← r.eval key
        checkKey depth k
        withEntry r all k (← r.eval e)
      | none =>
        let more ← pairsOf r (← r.eval e)
        more.foldlM (fun all (k, v) => withEntry r all k v) all) []
    makeTable all
  | .starred _ => raise "SyntaxError" "can't use starred expression here"
  | .gather kind element clauses =>
    let passage ← gather r (kind = .generator) element clauses
    match kind with
    | .generator => pure passage
    | .list => makeList (← itemsOf r passage)
    | .set => make (.set false (← distinct r (← itemsOf r passage)))
  | .gatherTable key value clauses =>
    let passage ← gather r false (.tuple [key, value]) clauses
    let entries ← (← itemsOf r passage).foldlM (fun all v => do
      match v with
      | .tuple [k, v] => withEntry r all k v
      | _ => pure all) []
    makeTable entries
  | .unary span op e =>
    let v ← r.eval e
    standing span (unary r op v)
  | .binary span sign op a b =>
    let x ← r.eval a
    let y ← r.eval b
    standingAt span sign (binary r op op.sign x y)
  | .both a b =>
    let x ← r.eval a
    if ← isTrue r x then r.eval b else pure x
  | .either a b =>
    let x ← r.eval a
    if ← isTrue r x then pure x else r.eval b
  | .compare span first rest =>
    let v ← r.eval first
    standing span (evalComparison r v rest)
  | .choice test yes no => do if ← isTrue r (← r.eval test) then r.eval yes else r.eval no
  | .lambda parameters body =>
    let .mk positional rest? named namedRest? := parameters
    let own := positional.map (·.1) ++ rest?.toList ++ named.map (·.1) ++ namedRest?.toList
    makeFunction r "<lambda>" parameters ⟨own, [], [], false⟩ [] (some body)
  | .call span callee arguments =>
    let f ← r.eval callee
    let g ← evalArguments r arguments
    standing span (r.call f g)
  | .attribute span e name =>
    let v ← r.eval e
    standing span (attributeOf r v name)
  | .item span brackets e (.slice start stop step) =>
    let v ← r.eval e
    let (start?, stop?, step) ← sliceBounds r start stop step
    standingAt span brackets (sliceOf r v start? stop? step)
  | .item span brackets e index =>
    let v ← r.eval e
    let k ← r.eval index
    standingAt span brackets (itemOf r v k)
  | .slice .. => pure .none
  | .assigned name e =>
    let v ← r.eval e
    setInScope (← scopeFor name true) name v
    pure v
  | .yield e? =>
    let v ← match e? with
      | some e => r.eval e
      | none => pure .none
    giveOn [v]
    pure .none
  | .yieldAll e =>
    giveOn (← itemsOf r (← r.eval e))
    pure .none

end RunM

end ReleaseMatrix.Indented
