namespace ReleaseMatrix

/-- How a table came about, which decides who may add to it. -/
inductive Toml.TableKind
  /-- A header of its own, or the document itself. -/
  | headed
  /-- A part of a longer header. -/
  | implied
  /-- A part of a dotted key. -/
  | dotted
  /-- Braces. Nothing is added later. -/
  | closed
deriving DecidableEq, Repr

/-- A TOML value. Fractional numbers and times are kept as written. -/
inductive Toml
  | string (text : String)
  | boolean (value : Bool)
  | integer (value : Int)
  | float (text : String)
  | moment (text : String)
  | array (items : List Toml)
  | table (kind : Toml.TableKind) (members : List (String × Toml))
  /-- Tables that share a header in double brackets, the latest one first. -/
  | tables (items : List (List (String × Toml)))

namespace Toml

abbrev Members := List (String × Toml)

/-- The member of a table with this key. -/
def member? (key : String) (members : Members) : Option Toml :=
  (members.find? (·.1 == key)).map (·.2)

def setMember (key : String) (v : Toml) (members : Members) : Members :=
  (key, v) :: members.filter (·.1 != key)

end Toml

end ReleaseMatrix

namespace ReleaseMatrix.Toml

/-- Changes the table that a path of keys leads to. Tables that are missing on the way come to be of kind
`missing`, and a table of a kind that `passes` refuses leads nowhere. Of tables that share a header, the
latest one leads on. -/
def changeAt (missing : TableKind) (passes : TableKind → Bool)
    (change : TableKind → Members → Option Members) : TableKind → Members → List String → Option Members
  | kind, members, [] => change kind members
  | _, members, key :: path =>
    match member? key members with
    | none => do
      let inner ← changeAt missing passes change missing [] path
      pure (setMember key (.table missing inner) members)
    | some (.table kind inner) =>
      if passes kind then do
        let inner ← changeAt missing passes change kind inner path
        pure (setMember key (.table kind inner) members)
      else none
    | some (.tables (latest :: earlier)) => do
      let latest ← changeAt missing passes change .headed latest path
      pure (setMember key (.tables (latest :: earlier)) members)
    | _ => none

/-- Adds a new member under a dotted key. The dots may lead through tables that were not written out, but
must end in one that only dotted keys made. -/
def addPair (kind : TableKind) (members : Members) (path : List String) (key : String) (v : Toml) :
    Option Members :=
  changeAt .dotted (fun kind => kind == .implied || kind == .dotted) add kind members path
where
  add (kind : TableKind) (members : Members) : Option Members :=
    if (kind == .dotted) == path.isEmpty || (member? key members).isSome then none
    else some (setMember key v members)

/-- Changes the table that a header leads to. -/
def changeHeaded (change : TableKind → Members → Option Members) (document : Members) (path : List String) :
    Option Members :=
  changeAt .implied (· != .closed) change .headed document path

/-- Adds the table of a header. A table that so far was only a part of longer headers may still get its
own. -/
def addTable (document : Members) (path : List String) (key : String) : Option Members :=
  changeHeaded add document path
where
  add (_ : TableKind) (members : Members) : Option Members :=
    match member? key members with
    | none => some (setMember key (.table .headed []) members)
    | some (.table .implied inner) => some (setMember key (.table .headed inner) members)
    | _ => none

/-- Adds one more table to those of a header in double brackets. -/
def addTableItem (document : Members) (path : List String) (key : String) : Option Members :=
  changeHeaded add document path
where
  add (_ : TableKind) (members : Members) : Option Members :=
    match member? key members with
    | none => some (setMember key (.tables [[]]) members)
    | some (.tables items) => some (setMember key (.tables ([] :: items)) members)
    | _ => none

/-- A statement of a document. -/
inductive Statement
  | header (path : List String) (key : String)
  | itemHeader (path : List String) (key : String)
  | pair (path : List String) (key : String) (v : Toml)

/-- Carries out the statements on a document. `here` is the header that they stand under. -/
def runStatements (document : Members) (here : List String) : List Statement → Option Members
  | [] => some document
  | .header path key :: rest => do
    runStatements (← addTable document path key) (path ++ [key]) rest
  | .itemHeader path key :: rest => do
    runStatements (← addTableItem document path key) (path ++ [key]) rest
  | .pair path key v :: rest => do
    let add kind members := addPair kind members path key v
    runStatements (← changeHeaded add document here) here rest

/-- A value with its key: the path that the dots of the key give, and the last part of the key. -/
abbrev Pair := List String × String × Toml

/-- The members that pairs in braces give. -/
def membersOfPairs (pairs : List Pair) : Option Members :=
  pairs.foldlM (fun members (path, key, v) => addPair .closed members path key v) []

end ReleaseMatrix.Toml
