import ReleaseMatrix.Path
import ReleaseMatrix.Text

namespace ReleaseMatrix

/-- Why an operation on files fails. -/
inductive FileFault
  | notPermitted
  | notFound
  | badExecutable
  | permissionDenied
  | busy
  | alreadyExists
  | notADirectory
  | isADirectory
  | invalidArgument
  | nameTooLong
  | directoryNotEmpty
  | tooManyLinks
  | nulInName
  | nulInCommand
  | invalidText
  | notRegular
deriving DecidableEq, Repr

namespace FileFault

/-- The number by which the operating system knows a fault; some faults are found before it is asked. -/
def number? : FileFault → Option Nat
  | notPermitted => some 1
  | notFound => some 2
  | badExecutable => some 8
  | permissionDenied => some 13
  | busy => some 16
  | alreadyExists => some 17
  | notADirectory => some 20
  | isADirectory => some 21
  | invalidArgument => some 22
  | nameTooLong => some 36
  | directoryNotEmpty => some 39
  | tooManyLinks => some 40
  | nulInName | nulInCommand | invalidText | notRegular => none

def text : FileFault → String
  | notPermitted => "Operation not permitted"
  | notFound => "No such file or directory"
  | badExecutable => "Exec format error"
  | permissionDenied => "Permission denied"
  | busy => "Device or resource busy"
  | alreadyExists => "File exists"
  | notADirectory => "Not a directory"
  | isADirectory => "Is a directory"
  | invalidArgument => "Invalid argument"
  | nameTooLong => "File name too long"
  | directoryNotEmpty => "Directory not empty"
  | tooManyLinks => "Too many levels of symbolic links"
  | nulInName => "file name contained an unexpected NUL byte"
  | nulInCommand => "nul byte found in provided data"
  | invalidText => "stream did not contain valid UTF-8"
  | notRegular => "the source path is neither a regular file nor a symlink to a regular file"

/-- The text of a fault, with its number if it has one. -/
def message (f : FileFault) : String :=
  match f.number? with
  | some n => f.text ++ " (os error " ++ toString n ++ ")"
  | none => f.text

end FileFault

/-- A place in a tree: the names from the root down. -/
abbrev Location := List String

inductive Entry
  | directory
  | file (content : Bytes) (executable : Bool)
  /-- A program of the machine itself, which is known by its name. -/
  | program (name : String)
  /-- A device that holds nothing, whatever is written to it. -/
  | void
  /-- A pipe with a name: what is written to it stays until it is read. -/
  | queue (unread : Bytes)
  | link (target : Path)
deriving DecidableEq, Repr

namespace Entry

/-- Whether the entry is a regular file. -/
def isFile : Entry → Bool
  | file .. | program _ => true
  | _ => false

/-- The bytes that programs of the machine itself start with. -/
def programMark : Bytes := [0x7F, 0x45, 0x4C, 0x46]

/-- What is read from an entry that can be read. -/
def content? : Entry → Option Bytes
  | file content _ => some content
  | program name => some (programMark ++ Text.Utf8.encode name)
  | void => some []
  | _ => none

/-- Whether the entry is a regular file that may be run. -/
def isRunnable : Entry → Bool
  | file _ executable => executable
  | program _ => true
  | _ => false

/-- The entry once other content is written to it. -/
def withContent (e : Entry) (content : Bytes) : Entry :=
  match e with
  | void => void
  | queue _ => queue content
  | e => file content e.isRunnable

/-- The entry once it may be run, or may not. -/
def withRight (e : Entry) (executable : Bool) : Entry :=
  match e, executable with
  | file content _, executable => file content executable
  | program name, false => file (programMark ++ Text.Utf8.encode name) false
  | e, _ => e

end Entry

/-- Directories, files and links by their places. The root itself is always a directory. -/
structure FileTree where
  nodes : List (Location × Entry)
  /-- Groups of places that hold one and the same file. -/
  groups : List (List Location)

namespace FileTree

def empty : FileTree :=
  ⟨[], []⟩

def get? (t : FileTree) (l : Location) : Option Entry :=
  if l = [] then some .directory else (t.nodes.find? (·.1 = l)).map (·.2)

/-- The tree with `e` at `l`, whatever was there before. -/
def put (t : FileTree) (l : Location) (e : Entry) : FileTree :=
  { t with nodes := (l, e) :: t.nodes.filter (·.1 ≠ l) }

/-- The tree without what stands at `l` itself. -/
def erase (t : FileTree) (l : Location) : FileTree :=
  ⟨t.nodes.filter (·.1 ≠ l), t.groups.map (·.filter (· ≠ l))⟩

/-- The tree without everything strictly below `l`. -/
def clear (t : FileTree) (l : Location) : FileTree :=
  let stays (k : Location) : Bool := !(l.isPrefixOf k) || k = l
  ⟨t.nodes.filter fun n => stays n.1, t.groups.map (·.filter stays)⟩

/-- Where a place is after `a` was moved to `b`. What stood at `b` and below has none. -/
def moved? (a b l : Location) : Option Location :=
  if a.isPrefixOf l then some (b ++ l.drop a.length)
  else if b.isPrefixOf l then none
  else some l

/-- The tree with `a` and everything below it moved to `b`, in place of what stood at `b` and below. -/
def move (t : FileTree) (a b : Location) : FileTree :=
  ⟨t.nodes.filterMap fun n => (moved? a b n.1).map fun l => (l, n.2),
    t.groups.map (·.filterMap (moved? a b))⟩

/-- The places of the file that stands at `l`. -/
def places (t : FileTree) (l : Location) : List Location :=
  (t.groups.find? (·.contains l)).getD [l]

/-- The tree with `e` for the file that stands at `l`, at all its places. -/
def replace (t : FileTree) (l : Location) (e : Entry) : FileTree :=
  (t.places l).foldl (fun t k => t.put k e) t

/-- The tree in which the file at `a` stands at `b` too. -/
def share (t : FileTree) (a b : Location) : FileTree :=
  match t.get? a with
  | some e =>
    { t.put b e with groups := (b :: t.places a) :: t.groups.filter fun group => !group.contains a }
  | none => t

/-- The list with a name put before the first one that is not smaller. -/
def insertName (name : String) : List String → List String
  | [] => [name]
  | next :: names => if name ≤ next then name :: next :: names else next :: insertName name names

/-- Puts a name into an increasing list unless it is there. -/
def addName (name : String) (names : List String) : List String :=
  if name ∈ names then names else insertName name names

/-- The names directly below `l`, in increasing order. -/
def names (t : FileTree) (l : Location) : List String :=
  let below := t.nodes.filterMap fun n =>
    if n.1 ≠ [] ∧ n.1.dropLast = l then n.1.getLast? else none
  below.foldr addName []

@[simp] theorem get?_root (t : FileTree) : t.get? [] = some .directory := by
  simp [get?]

theorem find?_filter_ne {nodes : List (Location × Entry)} {l k : Location} (h : k ≠ l) :
    (nodes.filter (·.1 ≠ l)).find? (·.1 = k) = nodes.find? (·.1 = k) := by
  induction nodes with
  | nil => rfl
  | cons n nodes ih =>
    by_cases atL : n.1 = l
    · have : n.1 ≠ k := fun same => h (same.symm.trans atL)
      simp_all
    · by_cases atK : n.1 = k <;> simp_all

theorem get?_put {t : FileTree} {l k : Location} {e : Entry} (hl : l ≠ []) :
    (t.put l e).get? k = if k = l then some e else t.get? k := by
  by_cases same : k = l
  · subst same; simp [get?, put, hl]
  · have : ¬ l = k := fun h => same h.symm
    by_cases hk : k = []
    · simp [get?, hk, Ne.symm hl]
    · simp only [get?, put, hk, if_false, same]
      rw [List.find?_cons_of_neg (by simpa using this), find?_filter_ne same]

theorem get?_erase {t : FileTree} {l k : Location} (hl : l ≠ []) :
    (t.erase l).get? k = if k = l then none else t.get? k := by
  by_cases same : k = l
  · subst same; simp [get?, erase, hl]
  · by_cases hk : k = []
    · simp [get?, hk, Ne.symm hl]
    · simp only [get?, erase, hk, if_false, same]
      rw [find?_filter_ne same]

end FileTree

end ReleaseMatrix
