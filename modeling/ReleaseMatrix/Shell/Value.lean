import ReleaseMatrix.Path
import ReleaseMatrix.Text

namespace ReleaseMatrix.Shell

/-- Text as scripts handle it: each character stands for one byte. -/
abbrev Octets := String

namespace Octets

def ofBytes (bytes : Bytes) : Octets :=
  String.ofList (bytes.map fun b => Char.ofNat b.toNat)

def toBytes (s : Octets) : Bytes :=
  s.toList.map fun c => UInt8.ofNat c.toNat

def ofText (s : String) : Octets :=
  ofBytes (Text.Utf8.encode s)

def toText (s : Octets) : String :=
  Text.Utf8.decodeLossy (toBytes s)

def toPath (s : Octets) : Path :=
  ⟨toText s⟩

end Octets

/-- What a variable holds. -/
inductive Value
  | text (text : Octets)
  /-- Elements by their indices, which grow. -/
  | list (elements : List (Nat × Octets))
  /-- Elements by their keys, in the order of `Value.placeOf`. -/
  | table (elements : List (Octets × Octets))
deriving DecidableEq, Repr

namespace Value

/-- The place of a key among those of a table: the 32-bit hash of its bytes by repeated multiplication and
exclusive or, modulo the number of places. -/
def placeOf (key : Octets) : UInt32 :=
  key.toList.foldl (fun hash c => (hash * 16777619) ^^^ UInt32.ofNat c.toNat) 2166136261 % 1024

/-- The elements of a list with one of them set. -/
def putAt (index : Nat) (text : Octets) : List (Nat × Octets) → List (Nat × Octets)
  | [] => [(index, text)]
  | (i, old) :: more =>
    if i < index then (i, old) :: putAt index text more
    else if i = index then (index, text) :: more
    else (index, text) :: (i, old) :: more

/-- The elements of a table with one of them set. A new one comes before those at the same place. -/
def putKey (key text : Octets) (elements : List (Octets × Octets)) : List (Octets × Octets) :=
  if elements.any (·.1 = key) then elements.map fun (k, old) => (k, if k = key then text else old)
  else
    let before := elements.takeWhile fun e => placeOf e.1 < placeOf key
    before ++ (key, text) :: elements.drop before.length

/-- The text that stands for the variable where one text is asked for: the first element of a list. -/
def text? : Value → Option Octets
  | text t => some t
  | list elements => (elements.find? (·.1 == 0)).map (·.2)
  | table elements => (elements.find? (·.1 == "0")).map (·.2)

/-- All elements. A text is the only one. -/
def texts : Value → List Octets
  | text t => [t]
  | list elements => elements.map (·.2)
  | table elements => elements.map (·.2)

/-- The indices or keys of all elements. -/
def keys : Value → List Octets
  | text _ => ["0"]
  | list elements => elements.map fun e => toString e.1
  | table elements => elements.map (·.1)

/-- The index after that of the last element. -/
def nextIndex : Value → Nat
  | text _ => 1
  | list elements => (elements.getLast?.map (·.1 + 1)).getD 0
  | table _ => 0

end Value

/-- Which element of a variable is meant. -/
inductive Slot
  | whole
  | index (index : Nat)
  | key (key : Octets)
deriving DecidableEq, Repr

namespace Value

/-- The text in one slot. -/
def get? (v : Value) (slot : Slot) : Option Octets :=
  match slot, v with
  | .index 0, text t => some t
  | .index i, list elements => (elements.find? (·.1 == i)).map (·.2)
  | .key k, table elements => (elements.find? (·.1 == k)).map (·.2)
  | .whole, v => v.text?
  | _, _ => none

/-- What a variable holds once one slot of it is set. A text becomes the first element of a list. -/
def put (v? : Option Value) (slot : Slot) (t : Octets) : Value :=
  match slot, v? with
  | .whole, some (list elements) => list (putAt 0 t elements)
  | .whole, some (table elements) => table (putKey "0" t elements)
  | .whole, _ => text t
  | .index i, some (list elements) => list (putAt i t elements)
  | .index i, some (text first) => list (putAt i t [(0, first)])
  | .index i, _ => list [(i, t)]
  | .key k, some (table elements) => table (putKey k t elements)
  | .key k, _ => table [(k, t)]

/-- What a variable holds once one of its elements is gone. -/
def erase (v : Value) (slot : Slot) : Value :=
  match slot, v with
  | .index i, list elements => list (elements.filter (·.1 ≠ i))
  | .key k, table elements => table (elements.filter (·.1 ≠ k))
  | _, v => v

/-- A list of texts, from the first index on. -/
def ofTexts (texts : List Octets) : Value :=
  list (texts.mapIdx fun i t => (i, t))

end Value

/-- The rights in `a` that are not in `b`. -/
def without (a b : Nat) : Nat :=
  a &&& (511 ^^^ b)

/-- Who is meant by a letter, as nine bits. -/
def bitsOfWho (c : Char) : Nat :=
  match c with
  | 'u' => 448
  | 'g' => 56
  | 'o' => 7
  | _ => 511

/-- The rights that a letter means for everyone. -/
def bitsOfRight (rights : Nat) (isDirectory : Bool) (c : Char) : Nat :=
  match c with
  | 'r' => 292
  | 'w' => 146
  | 'x' => 73
  | 'X' => if isDirectory || rights &&& 73 ≠ 0 then 73 else 0
  | 'u' => rights / 64 % 8 * 73
  | 'g' => rights / 8 % 8 * 73
  | 'o' => rights % 8 * 73
  | _ => 0

/-- Carries out the signs and the letters after who is meant. -/
def applyRights (isDirectory : Bool) (mask who : Nat) : Nat → List Char → Nat → Option Nat
  | 0, _, _ => none
  | _ + 1, [], rights => some rights
  | n + 1, sign :: rest, rights =>
    if sign ∉ ['+', '-', '='] then none
    else
      let letters := rest.takeWhile fun c => c ∈ ['r', 'w', 'x', 'X', 's', 't', 'u', 'g', 'o']
      let meant := letters.foldl (fun bits c => bits ||| bitsOfRight rights isDirectory c) 0
      let bits := if who = 0 then without meant mask else meant &&& who
      let changed := match sign with
        | '+' => rights ||| bits
        | '-' => without rights bits
        | _ => without rights (if who = 0 then 511 else who) ||| bits
      applyRights isDirectory mask who n (rest.drop letters.length) changed

/-- The rights that a mode makes of others; nothing if it is no mode. -/
def changeRights (mode : Octets) (isDirectory : Bool) (mask rights : Nat) : Option Nat :=
  if !mode.isEmpty && mode.toList.all (Text.isDigitIn 8) then
    let n := Text.numberOf 8 mode.toList
    if n < 4096 then some (n % 512) else none
  else (Text.splitChars ',' mode.toList).foldlM (fun rights clause =>
    let who := clause.takeWhile fun c => c ∈ ['u', 'g', 'o', 'a']
    let bits := who.foldl (fun bits c => bits ||| bitsOfWho c) 0
    let rest := clause.drop who.length
    if rest.isEmpty then none else applyRights isDirectory mask bits (rest.length + 1) rest rights) rights

end ReleaseMatrix.Shell
