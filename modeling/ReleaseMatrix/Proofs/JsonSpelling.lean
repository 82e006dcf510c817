import ReleaseMatrix.Json
import Mathlib.Data.List.Basic
import Mathlib.Data.List.DropRight

namespace ReleaseMatrix

variable {α β γ : Type} {write : α → β}

/-- Where something is read of each thing that is written, it is read of a list of them. -/
theorem mapM_map_of_read {read : β → Option γ} {f : α → γ} (each : ∀ a, read (write a) = some (f a)) (all : List α) :
    (all.map write).mapM read = some (all.map f) := by
  have whole : read ∘ write = fun a => pure (f a) := funext each
  rw [List.mapM_map, whole, List.mapM_pure]
  rfl

/-- Where each thing that is written can be read again, so can a list of them. -/
theorem mapM_map_of_inverse {read : β → Option α} (each : ∀ a, read (write a) = some a) (all : List α) :
    (all.map write).mapM read = some all := by
  rw [mapM_map_of_read each, List.map_id']

end ReleaseMatrix

namespace ReleaseMatrix.Text

/-- A number in hexadecimal digits of either case. -/
def IsHex (width n : Nat) (digits : List Char) : Prop :=
  digits.length = width ∧ digits.all (isDigitIn 16) ∧ numberOf 16 digits = n

instance (width n : Nat) (digits : List Char) : Decidable (IsHex width n digits) :=
  inferInstanceAs (Decidable (_ ∧ _ ∧ _))

theorem IsHex.readDigits {width n : Nat} {digits : List Char} (hex : IsHex width n digits) (rest : List Char) :
    readDigits 16 width (digits ++ rest) = some (n, rest) := by
  obtain ⟨rfl, valid, rfl⟩ := hex
  simp [Text.readDigits, valid]

/-- The code points of control characters and of the one after the printable ASCII characters. -/
theorem isHex_hexDigits {n : Nat} (small : n < 0x80) : IsHex 4 n (Json.hexDigits 4 n) := by
  have all : ∀ i : Fin 0x80, IsHex 4 i (Json.hexDigits 4 i) := by decide
  exact all ⟨n, small⟩

end ReleaseMatrix.Text

namespace ReleaseMatrix.Json

open Text (IsHex)

/-- The marks that may follow a backslash, and what they stand for. -/
def shortEscapes : List (Char × Char) :=
  [('"', '"'), ('\\', '\\'), ('/', '/'), ('b', '\x08'), ('f', '\x0c'), ('n', '\n'), ('r', '\r'), ('t', '\t')]

/-- The ways to write a character in a string: as it is, by a short escape, by its code point, or by the two halves of
its surrogate pair. -/
inductive CharSpelling (c : Char) : List Char → Prop
  | plain : 0x20 ≤ c.toNat → c ≠ '"' → c ≠ '\\' → CharSpelling c [c]
  | short {mark : Char} : (mark, c) ∈ shortEscapes → CharSpelling c ['\\', mark]
  | code {digits : List Char} : IsHex 4 c.toNat digits → CharSpelling c ('\\' :: 'u' :: digits)
  | pair {n m : Nat} {high low : List Char} : isHighUnit n → isLowUnit m →
      c.toNat = 0x10000 + (n - 0xD800) * 0x400 + (m - 0xDC00) → IsHex 4 n high → IsHex 4 m low →
      CharSpelling c ('\\' :: 'u' :: high ++ '\\' :: 'u' :: low)

/-- The ways to write a text in a string, between the quotes. -/
inductive TextSpelling : List Char → List Char → Prop
  | nil : TextSpelling [] []
  | cons {c : Char} {text written rest : List Char} : CharSpelling c written → TextSpelling text rest →
      TextSpelling (c :: text) (written ++ rest)

/-- Blanks between the parts of a value. -/
def Gap (cs : List Char) : Prop :=
  ∀ c ∈ cs, isSpace c

/-- What is written of a value: the value, or the items or members in it up to the closing bracket. -/
inductive Part
  | value (v : Json)
  | items (items : List Json)
  | members (members : List (Option String × Json))

/-- The ways to write values made of texts, arrays and objects. -/
inductive Spelling : Part → List Char → Prop
  | text {s : String} {written : List Char} : TextSpelling s.toList written →
      Spelling (.value (.text s)) ('"' :: written ++ ['"'])
  | noItems {gap : List Char} : Gap gap → Spelling (.value (.array [])) ('[' :: gap ++ [']'])
  | array {items : List Json} {written : List Char} : Spelling (.items items) written →
      Spelling (.value (.array items)) ('[' :: written)
  | noMembers {gap : List Char} : Gap gap → Spelling (.value (.object [])) ('\x7b' :: gap ++ ['\x7d'])
  | object {members : List (Option String × Json)} {written : List Char} : Spelling (.members members) written →
      Spelling (.value (.object members)) ('\x7b' :: written)
  | lastItem {v : Json} {a written b : List Char} : Gap a → Spelling (.value v) written → Gap b →
      Spelling (.items [v]) (a ++ written ++ b ++ [']'])
  | item {v : Json} {items : List Json} {a written b rest : List Char} : Gap a → Spelling (.value v) written → Gap b →
      Spelling (.items items) rest → Spelling (.items (v :: items)) (a ++ written ++ b ++ ',' :: rest)
  | lastMember {key : String} {v : Json} {a name b c written d : List Char} : Gap a → TextSpelling key.toList name →
      Gap b → Gap c → Spelling (.value v) written → Gap d →
      Spelling (.members [(some key, v)]) (a ++ '"' :: name ++ '"' :: b ++ ':' :: c ++ written ++ d ++ ['\x7d'])
  | member {key : String} {v : Json} {members : List (Option String × Json)} {a name b c written d rest : List Char} :
      Gap a → TextSpelling key.toList name → Gap b → Gap c → Spelling (.value v) written → Gap d →
      Spelling (.members members) rest →
      Spelling (.members ((some key, v) :: members))
        (a ++ '"' :: name ++ '"' :: b ++ ':' :: c ++ written ++ d ++ ',' :: rest)

variable {cs rest written text gap : List Char} {c : Char} {n : Nat}

theorem readPieces_unit {digits : List Char} (unit : IsHex 4 n digits) (pieces : List Piece) (rest : List Char) :
    readPieces pieces ('\\' :: 'u' :: digits ++ rest) = readPieces (.unit n :: pieces) rest := by
  obtain ⟨a, b, c, d, rfl⟩ := List.length_eq_four.mp unit.1
  have value : Text.readDigits 16 4 [a, b, c, d] = some (n, []) := unit.readDigits []
  simp [readPieces, value]

theorem letterEscape?_of_mem {mark : Char} (short : (mark, c) ∈ shortEscapes) :
    mark ≠ 'u' ∧ letterEscape? mark = some c.toNat ∧ ¬ isHighUnit c.toNat ∧ ¬ isLowUnit c.toNat := by
  have all : ∀ pair ∈ shortEscapes, pair.1 ≠ 'u' ∧ letterEscape? pair.1 = some pair.2.toNat ∧
      ¬ isHighUnit pair.2.toNat ∧ ¬ isLowUnit pair.2.toNat := by decide
  exact all _ short

theorem readPieces_short {mark : Char} (short : (mark, c) ∈ shortEscapes) (pieces : List Piece) (rest : List Char) :
    readPieces pieces ('\\' :: mark :: rest) = readPieces (.unit c.toNat :: pieces) rest := by
  obtain ⟨other, letter, -⟩ := letterEscape?_of_mem short
  rw [readPieces]
  · simp [letter]
  · exact fun _ _ _ _ _ same _ => other same

theorem readPieces_plain (visible : 0x20 ≤ c.toNat) (noQuote : c ≠ '"') (noEscape : c ≠ '\\') (pieces : List Piece)
    (rest : List Char) : readPieces pieces (c :: rest) = readPieces (.char c :: pieces) rest := by
  rw [readPieces]
  · simp [noEscape, Nat.not_lt.mpr visible]
  all_goals grind

/-- No character is one half of a surrogate pair. -/
theorem not_isUnit_toNat (c : Char) : ¬ isHighUnit c.toNat ∧ ¬ isLowUnit c.toNat := by
  have valid := c.valid
  simp only [isHighUnit, isLowUnit, Bool.and_eq_true, decide_eq_true_eq, Char.toNat]
  simp only [UInt32.isValidChar, Nat.isValidChar] at valid
  omega

theorem textOf_unit (c : Char) (more : List Piece) :
    textOf (.unit c.toNat :: more) = (textOf more).map (c :: ·) := by
  obtain ⟨high, low⟩ := not_isUnit_toNat c
  cases more with
  | nil => simp [textOf, high, low]
  | cons piece more => cases piece <;> simp [textOf, high, low]

theorem textOf_pair {m : Nat} (high : isHighUnit n) (low : isLowUnit m)
    (value : c.toNat = 0x10000 + (n - 0xD800) * 0x400 + (m - 0xDC00)) (more : List Piece) :
    textOf (.unit n :: .unit m :: more) = (textOf more).map (c :: ·) := by
  rw [textOf, if_pos (by simp [high, low]), ← value, Char.ofNat_toNat]

/-- Each spelling of a character gives pieces that stand for it, whatever follows. -/
theorem CharSpelling.pieces (spelling : CharSpelling c written) : ∃ pieces : List Piece,
    (∀ before rest, readPieces before (written ++ rest) = readPieces (pieces.reverse ++ before) rest) ∧
    ∀ more, textOf (pieces ++ more) = (textOf more).map (c :: ·) := by
  cases spelling with
  | plain visible noQuote noEscape =>
    exact ⟨[.char c], fun before rest => readPieces_plain visible noQuote noEscape before rest, fun more => by
      cases more <;> rfl⟩
  | short mark => exact ⟨[.unit c.toNat], fun before rest => readPieces_short mark before rest, textOf_unit c⟩
  | code unit => exact ⟨[.unit c.toNat], fun before rest => readPieces_unit unit before rest, textOf_unit c⟩
  | @pair n m high low isHigh isLow value first second =>
    refine ⟨[.unit n, .unit m], fun before rest => ?_, textOf_pair isHigh isLow value⟩
    have both := readPieces_unit first before ('\\' :: 'u' :: low ++ rest)
    rw [readPieces_unit second] at both
    simpa using both

theorem TextSpelling.pieces (spelling : TextSpelling text written) : ∃ pieces : List Piece,
    (∀ before rest, readPieces before (written ++ rest) = readPieces (pieces.reverse ++ before) rest) ∧
    textOf pieces = some text := by
  induction spelling with
  | nil => exact ⟨[], fun _ _ => rfl, rfl⟩
  | cons first _ ih =>
    obtain ⟨head, readHead, textHead⟩ := first.pieces
    obtain ⟨tail, readTail, textTail⟩ := ih
    refine ⟨head ++ tail, fun before rest => ?_, by rw [textHead, textTail, Option.map_some]⟩
    rw [List.append_assoc, readHead, readTail, List.reverse_append, List.append_assoc]

/-- A string is read as the text that it is a spelling of. -/
theorem TextSpelling.readString {s : String} (spelling : TextSpelling s.toList written) (rest : List Char) :
    readString (written ++ '"' :: rest) = some (some s, rest) := by
  obtain ⟨pieces, read, text⟩ := spelling.pieces
  rw [Json.readString, read]
  simp [readPieces, text]

theorem Gap.skipSpace_append (blank : Gap gap) (cs : List Char) : skipSpace (gap ++ cs) = skipSpace cs := by
  rw [skipSpace, skipSpace, List.dropWhile_append, List.dropWhile_eq_nil_iff.mpr blank]
  rfl

theorem skipSpace_cons (solid : isSpace c = false) (rest : List Char) : skipSpace (c :: rest) = c :: rest := by
  simp [skipSpace, solid]

theorem Gap.skipSpace (blank : Gap gap) (solid : isSpace c = false) (rest : List Char) :
    Json.skipSpace (gap ++ c :: rest) = c :: rest := by
  rw [blank.skipSpace_append, skipSpace_cons solid]

theorem skipSpace_idem (cs : List Char) : skipSpace (skipSpace cs) = skipSpace cs :=
  List.dropWhile_idempotent isSpace cs

theorem readValue_skipSpace (n : Nat) (cs : List Char) : readValue n (skipSpace cs) = readValue n cs := by
  cases n with
  | zero => simp [readValue]
  | succ n => rw [readValue, readValue, skipSpace_idem]

theorem readItems_skipSpace (n : Nat) (cs : List Char) : readItems n (skipSpace cs) = readItems n cs := by
  cases n with
  | zero => simp [readItems]
  | succ n => rw [readItems, readItems, readValue_skipSpace]

theorem readMembers_skipSpace (n : Nat) (cs : List Char) : readMembers n (skipSpace cs) = readMembers n cs := by
  cases n with
  | zero => simp [readMembers]
  | succ n => rw [readMembers, readMembers, skipSpace_idem]

theorem Gap.readValue_append (blank : Gap gap) (n : Nat) (cs : List Char) : readValue n (gap ++ cs) = readValue n cs := by
  rw [← readValue_skipSpace, blank.skipSpace_append, readValue_skipSpace]

section

variable {v : Json} {items : List Json} {members : List (Option String × Json)} {key : String}
variable {a name b more : List Char}

theorem readItems_last (value : readValue n cs = some (v, gap ++ ']' :: rest)) (blank : Gap gap) :
    readItems (n + 1) cs = some ([v], rest) := by
  simp only [readItems, value, blank.skipSpace (c := ']') rfl, bind, Option.bind, pure]

theorem readItems_next (value : readValue n cs = some (v, gap ++ ',' :: more)) (blank : Gap gap)
    (others : readItems n more = some (items, rest)) : readItems (n + 1) cs = some (v :: items, rest) := by
  simp only [readItems, value, blank.skipSpace (c := ',') rfl, others, bind, Option.bind, pure]

theorem readMembers_last (blankA : Gap a) (named : TextSpelling key.toList name) (blankB : Gap b)
    (value : readValue n cs = some (v, gap ++ '\x7d' :: rest)) (blank : Gap gap) :
    readMembers (n + 1) (a ++ '"' :: (name ++ '"' :: (b ++ ':' :: cs))) = some ([(some key, v)], rest) := by
  simp only [readMembers, blankA.skipSpace (c := '"') rfl, named.readString, blankB.skipSpace (c := ':') rfl, value,
    blank.skipSpace (c := '\x7d') rfl, bind, Option.bind, pure]

theorem readMembers_next (blankA : Gap a) (named : TextSpelling key.toList name) (blankB : Gap b)
    (value : readValue n cs = some (v, gap ++ ',' :: more)) (blank : Gap gap)
    (others : readMembers n more = some (members, rest)) :
    readMembers (n + 1) (a ++ '"' :: (name ++ '"' :: (b ++ ':' :: cs))) = some ((some key, v) :: members, rest) := by
  simp only [readMembers, blankA.skipSpace (c := '"') rfl, named.readString, blankB.skipSpace (c := ':') rfl, value,
    blank.skipSpace (c := ',') rfl, others, bind, Option.bind, pure]

end

/-- What is read of a part of a value: the part, and what follows it. -/
def Part.IsRead (n : Nat) (cs rest : List Char) : Part → Prop
  | value v => readValue n cs = some (v, rest)
  | items all => readItems n cs = some (all, rest)
  | members all => readMembers n cs = some (all, rest)

theorem Spelling.exists_head {v : Json} (spelling : Spelling (.value v) written) :
    ∃ c cs, written = c :: cs ∧ isSpace c = false ∧ c ≠ ']' := by
  cases spelling <;> exact ⟨_, _, rfl, by decide, by decide⟩

/-- What is written of the items of an array does not start with the closing bracket. -/
theorem Spelling.exists_item {items : List Json} (spelling : Spelling (.items items) written) (rest : List Char) :
    ∃ c cs, skipSpace (written ++ rest) = c :: cs ∧ c ≠ ']' := by
  cases spelling with
  | lastItem blank value _ | item blank value _ _ =>
    obtain ⟨c, cs, rfl, solid, open'⟩ := value.exists_head
    simp only [List.append_assoc, List.cons_append]
    exact ⟨_, _, blank.skipSpace solid _, open'⟩

theorem Spelling.exists_member {members : List (Option String × Json)} (spelling : Spelling (.members members) written)
    (rest : List Char) : ∃ c cs, skipSpace (written ++ rest) = c :: cs ∧ c ≠ '\x7d' := by
  cases spelling with
  | lastMember blank _ _ _ _ _ | member blank _ _ _ _ _ _ =>
    simp only [List.append_assoc, List.cons_append]
    exact ⟨_, _, blank.skipSpace rfl _, by decide⟩

/-- What a spelling is read as is what it is a spelling of. Each reading inside of another one has a shorter text, so
that the bound suffices. -/
theorem Spelling.isRead {part : Part} (spelling : Spelling part written) (rest : List Char)
    (bound : 2 * written.length ≤ n) : part.IsRead n (written ++ rest) rest := by
  induction spelling generalizing n rest with
  | text spelling =>
    obtain ⟨n, rfl⟩ : ∃ m, n = m + 1 := ⟨n - 1, by simp at bound; omega⟩
    simp only [Part.IsRead, List.append_assoc, List.cons_append, List.nil_append, readValue,
      skipSpace_cons (c := '"') rfl, spelling.readString rest]
    rfl
  | @noItems gap blank =>
    obtain ⟨n, rfl⟩ : ∃ m, n = m + 1 := ⟨n - 1, by simp at bound; omega⟩
    simp only [Part.IsRead, List.append_assoc, List.cons_append, List.nil_append, readValue,
      skipSpace_cons (c := '[') rfl, blank.skipSpace (c := ']') rfl]
  | @array items written spelling ih =>
    obtain ⟨n, rfl⟩ : ∃ m, n = m + 1 := ⟨n - 1, by simp at bound; omega⟩
    have read : readItems n (written ++ rest) = some (items, rest) := ih rest (by simp at bound; omega)
    obtain ⟨c, cs, head, open'⟩ := spelling.exists_item rest
    rw [← readItems_skipSpace, head] at read
    simp only [Part.IsRead, List.cons_append, readValue, skipSpace_cons (c := '[') rfl, head]
    split
    · next same => exact absurd (List.cons.inj same).1 open'
    · rw [read]
      rfl
  | @noMembers gap blank =>
    obtain ⟨n, rfl⟩ : ∃ m, n = m + 1 := ⟨n - 1, by simp at bound; omega⟩
    simp only [Part.IsRead, List.append_assoc, List.cons_append, List.nil_append, readValue,
      skipSpace_cons (c := '\x7b') rfl, blank.skipSpace (c := '\x7d') rfl]
  | @object members written spelling ih =>
    obtain ⟨n, rfl⟩ : ∃ m, n = m + 1 := ⟨n - 1, by simp at bound; omega⟩
    have read : readMembers n (written ++ rest) = some (members, rest) := ih rest (by simp at bound; omega)
    obtain ⟨c, cs, head, open'⟩ := spelling.exists_member rest
    rw [← readMembers_skipSpace, head] at read
    simp only [Part.IsRead, List.cons_append, readValue, skipSpace_cons (c := '\x7b') rfl, head]
    split
    · next same => exact absurd (List.cons.inj same).1 open'
    · rw [read]
      rfl
  | @lastItem v a written b blankA _ blankB ih =>
    obtain ⟨n, rfl⟩ : ∃ m, n = m + 1 := ⟨n - 1, by simp at bound; omega⟩
    have value : readValue n (written ++ (b ++ ']' :: rest)) = some (v, b ++ ']' :: rest) :=
      ih _ (by simp at bound; omega)
    rw [← blankA.readValue_append] at value
    simpa only [Part.IsRead, List.append_assoc, List.cons_append, List.nil_append] using readItems_last value blankB
  | @item v items a written b more blankA _ blankB _ ih ihRest =>
    obtain ⟨n, rfl⟩ : ∃ m, n = m + 1 := ⟨n - 1, by simp at bound; omega⟩
    have value : readValue n (written ++ (b ++ ',' :: (more ++ rest))) = some (v, b ++ ',' :: (more ++ rest)) :=
      ih _ (by simp at bound; omega)
    have others : readItems n (more ++ rest) = some (items, rest) := ihRest rest (by simp at bound; omega)
    rw [← blankA.readValue_append] at value
    simpa only [Part.IsRead, List.append_assoc, List.cons_append] using readItems_next value blankB others
  | @lastMember key v a name b c written d blankA named blankB blankC _ blankD ih =>
    obtain ⟨n, rfl⟩ : ∃ m, n = m + 1 := ⟨n - 1, by simp at bound; omega⟩
    have value : readValue n (written ++ (d ++ '\x7d' :: rest)) = some (v, d ++ '\x7d' :: rest) :=
      ih _ (by simp at bound; omega)
    rw [← blankC.readValue_append] at value
    simpa only [Part.IsRead, List.append_assoc, List.cons_append, List.nil_append] using
      readMembers_last blankA named blankB value blankD
  | @member key v members a name b c written d more blankA named blankB blankC _ blankD _ ih ihRest =>
    obtain ⟨n, rfl⟩ : ∃ m, n = m + 1 := ⟨n - 1, by simp at bound; omega⟩
    have value : readValue n (written ++ (d ++ ',' :: (more ++ rest))) = some (v, d ++ ',' :: (more ++ rest)) :=
      ih _ (by simp at bound; omega)
    have others : readMembers n (more ++ rest) = some (members, rest) := ihRest rest (by simp at bound; omega)
    rw [← blankC.readValue_append] at value
    simpa only [Part.IsRead, List.append_assoc, List.cons_append] using
      readMembers_next blankA named blankB value blankD others

/-- A text that spells a value, with blanks around it, is read as that value. -/
theorem Spelling.parse? {v : Json} {before after : List Char} {s : String} (spelling : Spelling (.value v) written)
    (blankBefore : Gap before) (blankAfter : Gap after) (whole : s.toList = before ++ written ++ after) :
    parse? s = some v := by
  have read : readValue (2 * s.toList.length + 2) (written ++ after) = some (v, after) :=
    spelling.isRead after (by simp [whole]; omega)
  rw [← blankBefore.readValue_append, ← List.append_assoc, ← whole] at read
  have done : skipSpace after = [] := List.dropWhile_eq_nil_iff.mpr blankAfter
  simp only [Json.parse?, read, bind, Option.bind, done, List.isEmpty_nil, if_true]

/-- Values made of texts, arrays and objects. -/
inductive Textual : Json → Prop
  | text (s : String) : Textual (.text s)
  | array {items : List Json} : (∀ v ∈ items, Textual v) → Textual (.array items)
  | object {members : List (String × Json)} : (∀ member ∈ members, Textual member.2) → Textual (.ofMembers members)

theorem charSpelling_escapeChar (c : Char) : CharSpelling c (escapeChar c) := by
  unfold escapeChar
  split
  · subst_vars; exact .short (by decide)
  split
  · subst_vars; exact .short (by decide)
  split
  · subst_vars; exact .short (by decide)
  split
  · subst_vars; exact .short (by decide)
  split
  · subst_vars; exact .short (by decide)
  split
  · subst_vars; exact .short (by decide)
  split
  · subst_vars; exact .short (by decide)
  split
  · next control => exact .code (Text.isHex_hexDigits (by omega))
  · next noQuote noEscape _ _ _ _ _ visible => exact .plain (Nat.not_lt.mp visible) noQuote noEscape

theorem textSpelling_escape (text : List Char) : TextSpelling text (text.flatMap escapeChar) := by
  induction text with
  | nil => exact .nil
  | cons c text ih => exact .cons (charSpelling_escapeChar c) ih

theorem gap_lineBreak (style : Style) : Gap style.lineBreak := by
  intro c member
  cases style with
  | compact => cases member
  | indented level =>
    obtain rfl | ⟨-, rfl⟩ := by simpa [Style.lineBreak] using member
    all_goals decide

/-- The blanks that follow the colon of a member. -/
theorem exists_gap_colon (style : Style) : ∃ gap, Gap gap ∧ style.colon = ':' :: gap := by
  cases style with
  | compact => exact ⟨[], by simp [Gap], rfl⟩
  | indented level => exact ⟨[' '], by simp [Gap, isSpace], rfl⟩

theorem gap_nil : Gap [] := by
  simp [Gap]

theorem quoted_some (s : String) : quoted (some s) = '"' :: s.toList.flatMap escapeChar ++ ['"'] :=
  rfl

theorem deeper_colon (style : Style) : style.deeper.colon = style.colon := by
  cases style <;> rfl

theorem spelling_items {style : Style} {items : List Json} {v : Json} {close : List Char}
    (first : Spelling (.value v) (chars style v)) (each : ∀ u ∈ items, Spelling (.value u) (chars style u))
    (blank : Gap gap) (blankClose : Gap close) :
    Spelling (.items (v :: items)) (gap ++ chars style v ++ itemChars style items ++ close ++ [']']) := by
  induction items generalizing v gap with
  | nil => simpa only [itemChars, List.append_nil] using Spelling.lastItem blank first blankClose
  | cons u items ih =>
    obtain ⟨next, others⟩ := List.forall_mem_cons.mp each
    have rest := Spelling.item blank first gap_nil (ih next others (gap_lineBreak style))
    simpa only [itemChars, List.append_nil, List.append_assoc, List.cons_append, List.nil_append] using rest

theorem spelling_members {style : Style} {members : List (String × Json)} {v : Json} {close : List Char}
    (key : String) (first : Spelling (.value v) (chars style v))
    (each : ∀ member ∈ members, Spelling (.value member.2) (chars style member.2)) (blank : Gap gap)
    (blankClose : Gap close) :
    Spelling (.members ((some key, v) :: members.map fun (key, value) => (some key, value)))
      (gap ++ quoted (some key) ++ style.colon ++ chars style v ++
        memberChars style (members.map fun (key, value) => (some key, value)) ++ close ++ ['\x7d']) := by
  obtain ⟨after, blankAfter, colon⟩ := exists_gap_colon style
  induction members generalizing key v gap with
  | nil =>
    have last := Spelling.lastMember blank (textSpelling_escape key.toList) gap_nil blankAfter first
      blankClose
    simpa only [List.map_nil, memberChars, quoted_some, colon, List.append_nil, List.append_assoc, List.cons_append,
      List.nil_append] using last
  | cons member members ih =>
    obtain ⟨next, others⟩ := List.forall_mem_cons.mp each
    have rest := Spelling.member blank (textSpelling_escape key.toList) gap_nil blankAfter first gap_nil
      (ih member.1 next others (gap_lineBreak style))
    simpa only [List.map_cons, memberChars, quoted_some, colon, List.append_nil, List.append_assoc, List.cons_append,
      List.nil_append] using rest

/-- What is printed is a spelling of what it is printed from. -/
theorem Textual.spelling {v : Json} (textual : Textual v) (style : Style) : Spelling (.value v) (chars style v) := by
  induction textual generalizing style with
  | text s => simpa only [Json.text, chars, quoted_some] using Spelling.text (textSpelling_escape s.toList)
  | @array items _ ih =>
    cases items with
    | nil => exact .noItems gap_nil
    | cons v items =>
      obtain ⟨first, others⟩ := List.forall_mem_cons.mp fun u member => ih u member style.deeper
      have inner := spelling_items first others (gap_lineBreak style.deeper) (gap_lineBreak style)
      simpa only [chars, List.cons_append] using Spelling.array inner
  | @object members _ ih =>
    cases members with
    | nil => exact .noMembers gap_nil
    | cons member members =>
      obtain ⟨first, others⟩ := List.forall_mem_cons.mp fun u member => ih u member style.deeper
      have inner := spelling_members member.1 first others (gap_lineBreak style.deeper) (gap_lineBreak style)
      simpa only [chars, ofMembers, List.map_cons, List.cons_append, deeper_colon] using Spelling.object inner

/-- A value that is printed is read again, on lines of its own or on one. -/
theorem Textual.parse?_pretty {v : Json} (textual : Textual v) : parse? v.pretty = some v :=
  (textual.spelling (.indented 0)).parse? gap_nil gap_nil (by simp [pretty])

end ReleaseMatrix.Json
