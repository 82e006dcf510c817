import ReleaseMatrix.Indented.Evaluation

namespace ReleaseMatrix.Indented

namespace RunM

variable (r : Runner)

/-- Work that is done whether or not other work goes on to its end, unless the process is no more. -/
def closingWith {α : Type} (work : RunM α) (last : RunM Unit) : RunM α := do
  let result ← tryCatch work fun stop => do
    match stop with
    | .jumped _ => throw stop
    | stop =>
      last
      throw stop
  last
  pure result

/-- How a loop goes on after its body. -/
inductive Round
  | on
  | over
  | left

/-- Runs the body of a loop once. -/
def runRound (body : List Statement) : RunM Bool :=
  tryCatch (do
    r.run body
    pure true) fun
    | .next => pure true
    | .left => pure false
    | stop => throw stop

/-- Runs a body as long as a test holds. Says whether the test ended it. -/
def runLoop (test : Expr) (body : List Statement) : Nat → RunM Bool
  | 0 => throw (.jumped .exhausted)
  | n + 1 => do
    if ← isTrue r (← r.eval test) then
      if ← runRound r body then runLoop test body n else pure false
    else pure true

/-- Runs a body for each value of a passage. Says whether there are no more values. -/
def runEach (span : Span) (target : Expr) (passage : Value) (body : List Statement) : Nat → RunM Bool
  | 0 => throw (.jumped .exhausted)
  | n + 1 => do
    match ← standing span (next? r r.fuel passage) with
    | none => pure true
    | some v =>
      assign r targetDepth target v
      if ← runRound r body then runEach span target passage body n else pure false

/-- The error that a value means: a class makes one. -/
def errorOf (v : Value) : RunM Value := do
  let refuse : RunM Value := raise "TypeError" "exceptions must derive from BaseException"
  match v with
  | .kind name => if Kind.isTrouble name then r.call v ⟨[], []⟩ else refuse
  | .object i =>
    match ← objectAt i with
    | .trouble _ => pure v
    | .classOf _ =>
      let made ← r.call v ⟨[], []⟩
      match made with
      | .object j =>
        match ← objectAt j with
        | .trouble _ => pure made
        | _ => refuse
      | _ => refuse
    | _ => refuse
  | _ => refuse

/-- Raises an error that a program made. -/
def raiseValue (v : Value) (cause? : Option Value) : RunM Unit := do
  let error ← errorOf r v
  let m ← machine
  match error with
  | .object i =>
    match ← objectAt i with
    | .trouble t =>
      let context? := if m.handled.head?.any error.isSame then t.context? else m.handled.head?
      setObject i (.trouble { t with trace := m.frames.reverse, cause? := cause? <|> t.cause?, context? })
    | _ => pure ()
  | _ => pure ()
  throw (.raised error)

/-- Runs what is done about an error, if one of the handlers is for it. -/
def handle (error : Value) : List Handler → RunM Unit
  | [] => throw (.raised error)
  | .mk _ kind? name? body :: rest => do
    let fits ← match kind? with
      | none => pure true
      | some e => do isOfKinds 8 error (← r.eval e)
    if !fits then handle error rest
    else
      let before := (← machine).handled
      modifyMachine fun m => { m with handled := error :: before }
      name?.forM fun name => setName name error
      closingWith (r.run body) do
        modifyMachine fun m => { m with handled := before }
        name?.forM fun name => tryCatch (deleteName name) fun _ => pure ()

/-- Runs work with what a value does before and after it. -/
def managed (span : Span) (manager : Value) (target? : Option Expr) (work : RunM Unit) : RunM Unit := do
  let refuse : RunM Unit := do
    raise "TypeError" ("'" ++ (← kindName manager) ++ "' object does not support the context manager protocol")
  let enter (v : Value) : RunM Unit := target?.forM fun target => assign r targetDepth target v
  match manager with
  | .object i =>
    match ← objectAt i with
    | .stream _ =>
      enter manager
      closingWith work (close manager)
    | .instance (.kind "contextlib.suppress") fields =>
      tryCatch work fun
        | .raised error => do
          let kinds := ((fields.find? (·.1 == "kinds")).map (·.2)).getD .none
          if ← isOfKinds 8 error kinds then pure () else throw (.raised error)
        | stop => throw stop
    | .passage _ =>
      -- a function whose first result is what the work is for, and that goes on after it
      match ← next? r r.fuel manager with
      | some v => enter v
      | none => raise "RuntimeError" "generator didn't yield"
      work
    | .instance (.kind "os.ScandirIterator") _ => work
    | _ =>
      match ← special? manager "__enter__", ← special? manager "__exit__" with
      | some first, some last =>
        let v ← standing span (r.call first ⟨[manager], []⟩)
        enter v
        let leave (arguments : List Value) : RunM Value := r.call last ⟨manager :: arguments, []⟩
        let isDone ← tryCatch (do
          work
          pure true) fun
          | .raised error => do
            let result ← leave [← kindOf error, error, .none]
            if ← isTrue r result then pure false else throw (.raised error)
          | .jumped jump => throw (.jumped jump)
          | stop => do
            let _ ← leave [.none, .none, .none]
            throw stop
        if isDone then
          let _ ← leave [.none, .none, .none]
      | _, _ => refuse
  | _ => refuse

/-- Runs work with several values, the first one around the others. -/
def withinAll (span : Span) (items : List (Expr × Option Expr)) (work : RunM Unit) : RunM Unit :=
  match items with
  | [] => work
  | (e, target?) :: rest => do
    let manager ← r.eval e
    managed r span manager target? (withinAll span rest work)

/-- A value passed through functions, the last one first. -/
def decorated (decorators : List Expr) (v : Value) : RunM Value := do
  let functions ← decorators.mapM fun e => do
    match e with
    -- what sets a property is kept beside what gives it
    | .attribute _ (.name _ _) "setter" | .attribute _ (.name _ _) "getter" => pure none
    | e => return some (← r.eval e)
  let setter? := decorators.findSome? fun
    | .attribute _ (.name _ name) "setter" => some name
    | _ => none
  match setter? with
  | some name =>
    match ← lookUp name with
    | .object i =>
      match ← objectAt i with
      | .instance (.kind "property") fields => make (.instance (.kind "property") (withField fields "set" v))
      | _ => pure v
    | _ => pure v
  | none => functions.reverse.foldlM (fun v f? => match f? with
    | some f => r.call f ⟨[v], []⟩
    | none => pure v) v

/-- Loads a module. -/
def loadModule (path : String) : RunM Value := do
  if Modules.isThere path then pure (.module path)
  else
    let parts := path.splitOn "."
    let missing := (List.range parts.length).findSome? fun k =>
      let lead := ".".intercalate (parts.take (k + 1))
      if Modules.isThere lead then none else some (lead, k)
    match missing with
    | some (lead, 0) =>
      raiseWith "ModuleNotFoundError" [.text ("No module named '" ++ lead ++ "'")] [("name", .text lead)]
    | some (lead, k) =>
      let package := ".".intercalate (parts.take k)
      raiseWith "ModuleNotFoundError"
        [.text ("No module named '" ++ lead ++ "'" ++
          (if package = "os" then "; '" ++ package ++ "' is not a package" else ""))] [("name", .text lead)]
    | none => pure (.module path)

def loadNames (path : String) (names : List (String × Option String)) : RunM Unit := do
  let module ← loadModule path
  names.forM fun (name, newName?) => do
    if name = "*" then
      let all := ((Modules.functions.find? (·.1 == path)).map (·.2)).getD []
      all.forM fun n => setName n (.native (path ++ "." ++ n))
    else
      match ← attribute? r module name with
      | some v => setName (newName?.getD name) v
      | none => raise "ImportError" ("cannot import name '" ++ name ++ "' from '" ++ path ++ "' (unknown location)")

/-- Defines a class. -/
def defineClass (name : String) (bases : List Argument) (body : List Statement) : RunM Value := do
  let g ← evalArguments r bases
  let m ← machine
  let k := m.scopes.size
  inCall (some name) ⟨.classBody, .empty, [], some m.scope⟩ (r.run body)
  let members := ((← machine).scopes[k]?.map (·.values)).getD []
  let v ← make (.classOf ⟨name, if g.plain.isEmpty then [.kind "object"] else g.plain, members⟩)
  setInScope k "__class__" v
  pure v

/-- Runs a statement. -/
def runStatement (s : Statement) : RunM Unit := do
  match s with
  | .expression span e =>
    standing span do
      let _ ← r.eval e
  | .assign span targets value =>
    standing span do
      let v ← r.eval value
      targets.forM fun target => assign r targetDepth target v
  | .augment span op target value =>
    standing span do
      match target with
      | .name place name =>
        let before ← standing place (lookUp name)
        let added ← r.eval value
        setName name (← standing span (augment r op before added))
      | .attribute place e name =>
        let holder ← r.eval e
        let before ← standing place (attributeOf r holder name)
        let added ← r.eval value
        setAttribute r holder name (← standing span (augment r op before added))
      | .item place brackets e (.slice start stop step) =>
        let holder ← r.eval e
        let (start?, stop?, step) ← sliceBounds r start stop step
        let before ← standingAt place brackets (sliceOf r holder start? stop? step)
        let added ← r.eval value
        setSlice r holder start? stop? step (← standing span (augment r op before added))
      | .item place brackets e index =>
        let holder ← r.eval e
        let key ← r.eval index
        let before ← standingAt place brackets (itemOf r holder key)
        let added ← r.eval value
        setItem r holder key (← standing span (augment r op before added))
      | _ => pure ()
  | .load span modules =>
    standing span do
      modules.forM fun (path, newName?) => do
        let module ← loadModule path
        match newName? with
        | some name => setName name module
        | none =>
          let root := String.ofList (path.toList.takeWhile (· ≠ '.'))
          setName root (.module root)
  | .loadFrom span path names => standing span (loadNames r path names)
  | .branch span test yes no =>
    if ← standing span (do isTrue r (← r.eval test)) then r.run yes else r.run no
  | .loop span test body otherwise =>
    if ← standing span (runLoop r test body r.fuel) then r.run otherwise
  | .each span target source body otherwise =>
    let passage ← standing span (do passageOf r (← r.eval source))
    if ← runEach r span target passage body r.fuel then r.run otherwise
  | .define span name parameters decorators names body =>
    standing span do
      let f ← makeFunction r name parameters names body none
      setName name (← decorated r decorators f)
  | .defineClass span name bases decorators body =>
    standing span do
      let c ← defineClass r name bases body
      setName name (← decorated r decorators c)
  | .giveBack span e? =>
    standing span do
      let v ← match e? with
        | some e => r.eval e
        | none => pure .none
      throw (.gaveBack v)
  | .raise span e? cause? =>
    standing span do
      match e? with
      | none =>
        match (← machine).handled.head? with
        | some error => throw (.raised error)
        | none => raise "RuntimeError" "No active exception to reraise"
      | some e =>
        let v ← r.eval e
        let cause? ← cause?.mapM r.eval
        standing span (raiseValue r v cause?)
  | .attempt body handlers otherwise final =>
    closingWith (do
      let isDone ← tryCatch (do
        r.run body
        pure true) fun
        | .raised error => do
          handle r error handlers
          pure false
        | stop => throw stop
      if isDone then r.run otherwise) (r.run final)
  | .within span items body => standing span (withinAll r span items (r.run body))
  | .require span place test message? =>
    standing span do
      if !(← isTrue r (← r.eval test)) then
        let arguments ← match message? with
          | some e => do pure [← r.eval e]
          | none => pure []
        standing place (raiseWith "AssertionError" arguments [])
  | .delete span targets => standing span (targets.forM (delete r targetDepth))
  | .skip => pure ()
  | .leave => throw .left
  | .next => throw .next

end RunM

/-- The runner that lets expressions and statements stand in each other as deep as a number says. -/
def Runner.ofFuel (spawn : List Shell.Octets → Shell.ShellM (Except FileFault Shell.Ending)) : Nat → Runner
  | 0 =>
    { fuel := 0
      eval := fun _ => throw (.jumped .exhausted)
      run := fun _ => throw (.jumped .exhausted)
      call := fun _ _ => throw (.jumped .exhausted)
      results := fun _ _ => throw (.jumped .exhausted)
      advance := fun _ => throw (.jumped .exhausted)
      spawn }
  | n + 1 =>
    { fuel := n + 1
      eval := fun e => RunM.evalExpr (ofFuel spawn n) e
      run := fun body => body.forM fun s => RunM.runStatement (ofFuel spawn n) s
      call := fun f g => RunM.callValue (ofFuel spawn n) f g
      results := fun f values => RunM.gatherResults (ofFuel spawn n) f values
      advance := fun index => RunM.advanceWithin (ofFuel spawn n) index
      spawn }

end ReleaseMatrix.Indented
