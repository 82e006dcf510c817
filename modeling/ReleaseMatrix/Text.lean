namespace ReleaseMatrix.Text

/-- The characters with the Unicode property White_Space. -/
def isBlank (c : Char) : Bool :=
  let n := c.toNat
  (9 ≤ n && n ≤ 13) || n == 0x20 || n == 0x85 || n == 0xA0 || n == 0x1680 ||
    (0x2000 ≤ n && n ≤ 0x200A) || n == 0x2028 || n == 0x2029 || n == 0x202F || n == 0x205F ||
    n == 0x3000

theorem isBlank_of_isWhitespace {c : Char} (h : c.isWhitespace = true) : isBlank c = true := by
  simp only [Char.isWhitespace, Bool.or_eq_true, decide_eq_true_eq] at h
  rcases h with ((rfl | rfl) | rfl) | rfl <;> decide

/-- The characters without blanks at either end. -/
def trimChars (cs : List Char) : List Char :=
  ((cs.dropWhile isBlank).reverse.dropWhile isBlank).reverse

/-- The text without blanks at either end. -/
def trim (s : String) : String :=
  String.ofList (trimChars s.toList)

/-- A text filled up with spaces to a width. -/
def pad (width : Nat) (text : String) : String :=
  text ++ String.ofList (List.replicate (width - text.length) ' ')

/-- What a reader found, and the characters after it. A reader finds nothing if the characters do not start
as they should. -/
abbrev Found (α : Type) := α × List Char

/-- The value of a digit in a base of at most sixteen. -/
def digitValue? (base : Nat) (c : Char) : Option Nat :=
  let value? :=
    if c.isDigit then some (c.toNat - '0'.toNat)
    else if 'a' ≤ c ∧ c ≤ 'f' then some (c.toNat - 'a'.toNat + 10)
    else if 'A' ≤ c ∧ c ≤ 'F' then some (c.toNat - 'A'.toNat + 10)
    else none
  value?.filter (· < base)

def isDigitIn (base : Nat) (c : Char) : Bool :=
  (digitValue? base c).isSome

/-- The number that digits stand for, most significant first. -/
def numberOf (base : Nat) (digits : List Char) : Nat :=
  digits.foldl (fun n c => n * base + (digitValue? base c).getD 0) 0

/-- Reads exactly `width` digits. -/
def readDigits (base width : Nat) (cs : List Char) : Option (Found Nat) :=
  let digits := cs.take width
  if digits.length = width && digits.all (isDigitIn base) then
    some (numberOf base digits, cs.drop width)
  else none

/-- The pieces between the occurrences of `sep`. There is always at least one. -/
def splitChars (sep : Char) : List Char → List (List Char)
  | [] => [[]]
  | c :: cs =>
    if c = sep then [] :: splitChars sep cs
    else match splitChars sep cs with
      | [] => [[c]]
      | piece :: pieces => (c :: piece) :: pieces

theorem splitChars_ne_nil (sep : Char) (cs : List Char) : splitChars sep cs ≠ [] := by
  cases cs with
  | nil => simp [splitChars]
  | cons c cs =>
    unfold splitChars
    split
    · simp
    · split <;> simp

/-- The pieces joined with `sep` between them. -/
def joinChars (sep : Char) : List (List Char) → List Char
  | [] => []
  | [piece] => piece
  | piece :: next :: pieces => piece ++ sep :: joinChars sep (next :: pieces)

theorem joinChars_splitChars (sep : Char) (cs : List Char) :
    joinChars sep (splitChars sep cs) = cs := by
  induction cs with
  | nil => rfl
  | cons c cs ih =>
    have nonempty := splitChars_ne_nil sep cs
    cases pieces : splitChars sep cs with
    | nil => exact absurd pieces nonempty
    | cons piece rest =>
      rw [pieces] at ih
      by_cases same : c = sep
      · subst same
        simp [splitChars, pieces, joinChars, ih]
      · cases rest <;> simp_all [splitChars, joinChars]

def split (sep : Char) (s : String) : List String :=
  (splitChars sep s.toList).map String.ofList

def join (sep : Char) (pieces : List String) : String :=
  String.ofList (joinChars sep (pieces.map String.toList))

/-- How far a reader is in a sequence that controls a terminal. -/
inductive ControlState
  /-- Outside of such sequences. -/
  | plain
  /-- After the escape character. -/
  | escape
  /-- After the escape character and further signs. -/
  | signs
  /-- In a sequence that a letter ends. -/
  | command
  /-- In a text for the terminal, which may be ended by a bell. -/
  | text (endsAtBell : Bool)
deriving DecidableEq, Repr

namespace ControlState

/-- Whether a character stands in the given closed range of code points. -/
def isWithin (low high : Nat) (c : Char) : Bool :=
  low ≤ c.toNat && c.toNat ≤ high

/-- Where the reader is after a character. -/
def next (s : ControlState) (c : Char) : ControlState :=
  if c = '\x1b' then .escape
  else if c = '\x18' ∨ c = '\x1a' then .plain
  else match s with
    | plain => .plain
    | escape =>
      if c = '[' then .command
      else if c = ']' then .text true
      else if c ∈ ['P', 'X', '^', '_'] then .text false
      else if isWithin 0x20 0x2F c then .signs
      else if isWithin 0x30 0x7E c then .plain
      else .escape
    | signs => if isWithin 0x30 0x7E c then .plain else .signs
    | command => if isWithin 0x40 0x7E c then .plain else .command
    | text endsAtBell =>
      if c = (if endsAtBell then '\x07' else '\u009c') then .plain else .text endsAtBell

/-- Whether a character is shown. Blanks that move on are shown within sequences too. -/
def shows (s : ControlState) (c : Char) : Bool :=
  match s with
  | plain => c ∈ ['\t', '\n', '\x0c', '\r'] || isWithin 0x20 0x7E c || c.toNat ≥ 0x80
  | text _ => false
  | _ => c ∈ ['\t', '\n', '\x0c', '\r']

end ControlState

/-- The characters that a terminal shows, read from a state on. -/
def shownChars : ControlState → List Char → List Char
  | _, [] => []
  | s, c :: cs => (if s.shows c then [c] else []) ++ shownChars (s.next c) cs

/-- A text without what controls a terminal. -/
def dropControls (s : String) : String :=
  String.ofList (shownChars .plain s.toList)

end ReleaseMatrix.Text

namespace ReleaseMatrix

abbrev Bytes := List UInt8

namespace Text.Utf8

def encode (s : String) : Bytes :=
  s.toUTF8.toList

/-- The text that the bytes encode, if they are well formed. -/
def decode? (bytes : Bytes) : Option String :=
  String.fromUTF8? ⟨bytes.toArray⟩

/-- A sequence being read: how many continuation bytes are due, where the next one must lie, and
the bits read so far. -/
structure Pending where
  due : Nat
  low : UInt8
  high : UInt8
  bits : Nat

/-- What a byte at the start of a sequence announces. -/
inductive Lead
  | ascii
  | sequence (pending : Pending)
  | stray

def lead (b : UInt8) : Lead :=
  if b < 0x80 then .ascii
  else if b < 0xC2 then .stray
  else if b < 0xE0 then .sequence ⟨1, 0x80, 0xBF, b.toNat - 0xC0⟩
  else if b = 0xE0 then .sequence ⟨2, 0xA0, 0xBF, 0⟩
  else if b = 0xED then .sequence ⟨2, 0x80, 0x9F, 0xD⟩
  else if b < 0xF0 then .sequence ⟨2, 0x80, 0xBF, b.toNat - 0xE0⟩
  else if b = 0xF0 then .sequence ⟨3, 0x90, 0xBF, 0⟩
  else if b < 0xF4 then .sequence ⟨3, 0x80, 0xBF, b.toNat - 0xF0⟩
  else if b = 0xF4 then .sequence ⟨3, 0x80, 0x8F, 4⟩
  else .stray

def replacement : Char := '\uFFFD'

/-- Reads on from a sequence in progress. Each longest beginning of a sequence that is not completed
becomes one replacement character. `read` holds what is read so far, last character first. -/
def decodeFrom (pending : Option Pending) (read : List Char) : Bytes → List Char
  | [] => match pending with
    | none => read
    | some _ => replacement :: read
  | b :: rest =>
    let begin (read : List Char) : Option Pending × List Char := match lead b with
      | .ascii => (none, Char.ofNat b.toNat :: read)
      | .sequence p => (some p, read)
      | .stray => (none, replacement :: read)
    let (pending, read) := match pending with
      | none => begin read
      | some p =>
        if p.low ≤ b && b ≤ p.high then
          let bits := p.bits * 64 + (b.toNat - 0x80)
          if p.due ≤ 1 then (none, Char.ofNat bits :: read)
          else (some ⟨p.due - 1, 0x80, 0xBF, bits⟩, read)
        else begin (replacement :: read)
    decodeFrom pending read rest

/-- The text that the bytes encode, with a replacement character for each part that is not well formed. -/
def decodeLossy (bytes : Bytes) : String :=
  String.ofList (decodeFrom none [] bytes).reverse

end Text.Utf8

end ReleaseMatrix
