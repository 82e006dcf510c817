import ReleaseMatrix.Text

namespace ReleaseMatrix

/-- A slash-separated path, kept as it was written. -/
structure Path where
  text : String
deriving DecidableEq, Repr

namespace Path

/-- What a path is made of once repeated slashes, inner dots and trailing slashes are dropped. -/
inductive Component
  | root
  | here
  | up
  | name (name : String)
deriving DecidableEq, Repr

/-- A component as it is written. -/
def Component.text : Component → String
  | root => "/"
  | here => "."
  | up => ".."
  | name text => text

/-- Empty pieces and single dots say nothing unless a path starts with them. -/
def isSilent (piece : List Char) : Bool :=
  piece.isEmpty || piece == ['.']

/-- The start of a path that is no ordinary piece (a slash, or a leading dot) and what follows it. -/
def splitHead : List Char → List Char × List Char
  | '/' :: rest => (['/'], rest)
  | ['.'] => (['.'], [])
  | '.' :: '/' :: rest => (['.'], '/' :: rest)
  | cs => ([], cs)

def isAbsolute (p : Path) : Bool :=
  p.text.toList.head? == some '/'

def headComponents : List Char → List Component
  | ['/'] => [.root]
  | ['.'] => [.here]
  | _ => []

def pieceComponent (piece : List Char) : Component :=
  if piece == ['.', '.'] then .up else .name (String.ofList piece)

def components (p : Path) : List Component :=
  let (head, body) := splitHead p.text.toList
  headComponents head ++
    ((Text.splitChars '/' body).filter (!isSilent ·)).map pieceComponent

/-- Two spellings of one path: equal up to repeated slashes, inner dots and trailing slashes. -/
def Same (p q : Path) : Prop :=
  p.components = q.components

instance (p q : Path) : Decidable (Same p q) :=
  inferInstanceAs (Decidable (p.components = q.components))

/-- `q` as seen from `p`. An absolute `q` replaces `p`. -/
def join (p : Path) (q : String) : Path :=
  if q.toList.head? = some '/' then ⟨q⟩
  else if p.text.isEmpty || p.text.toList.getLast? = some '/' then ⟨p.text ++ q⟩
  else ⟨p.text ++ "/" ++ q⟩

/-- The pieces, last one first, without the silent ones at the end. -/
def loudPieces (body : List Char) : List (List Char) :=
  (Text.splitChars '/' body).reverse.dropWhile isSilent

/-- The path without its last component; `none` for the root and for the empty path. -/
def parent? (p : Path) : Option Path :=
  let (head, body) := splitHead p.text.toList
  match loudPieces body with
  | _ :: before =>
    some ⟨String.ofList (head ++ Text.joinChars '/' (before.dropWhile isSilent).reverse)⟩
  | [] => if head = ['.'] then some ⟨""⟩ else none

/-- The last component, if it is a name. -/
def fileName? (p : Path) : Option String :=
  match p.components.getLast? with
  | some (.name name) => some name
  | _ => none

/-- What follows the last dot of a name, unless the name starts with that dot. -/
def nameExtension? (name : String) : Option String :=
  match (Text.splitChars '.' name.toList).reverse with
  | last :: before :: more =>
    if before.isEmpty && more.isEmpty then none else some (String.ofList last)
  | _ => none

def extension? (p : Path) : Option String :=
  p.fileName?.bind nameExtension?

/-- What precedes the extension in a name. -/
def nameStem (name : String) : String :=
  match nameExtension? name with
  | some extension => String.ofList (name.toList.take (name.length - extension.length - 1))
  | none => name

/-- The path with a text in place of what follows the stem of its file name; a path without a file name
stays as it is. -/
def replaceAfterStem (p : Path) (ending : String) : Path :=
  match p.fileName? with
  | none => p
  | some name =>
    let (head, body) := splitHead p.text.toList
    match loudPieces body with
    | _ :: before =>
      ⟨String.ofList (head ++ Text.joinChars '/' ((nameStem name ++ ending).toList :: before).reverse)⟩
    | [] => p

/-- The path up to the dot before its extension. -/
def dropExtension (p : Path) : Path :=
  match p.extension? with
  | some extension => ⟨String.ofList (p.text.toList.take (p.text.length - extension.length))⟩
  | none => p

/-- The path with another extension. The old one is taken off first; if two dots are then left for a name,
nothing is put in its place. -/
def withExtension (p : Path) (extension : String) : Path :=
  p.dropExtension.replaceAfterStem ("." ++ extension)

end Path

end ReleaseMatrix
