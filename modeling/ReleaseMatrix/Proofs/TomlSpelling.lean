import ReleaseMatrix.Proofs.JsonSpelling
import ReleaseMatrix.Toml.Reader

namespace ReleaseMatrix.Toml

open Text (IsHex)

/-- The marks that may follow a backslash, and what they stand for. -/
def shortEscapes : List (Char × Char) :=
  [('b', '\x08'), ('t', '\t'), ('n', '\n'), ('f', '\x0c'), ('r', '\r'), ('"', '"'), ('\\', '\\')]

/-- The ways to write a character between double quotes: as it is, by a short escape, or by its code point. -/
inductive CharSpelling (c : Char) : List Char → Prop
  | plain : isCommentChar c → c ≠ '"' → c ≠ '\\' → CharSpelling c [c]
  | short {mark : Char} : (mark, c) ∈ shortEscapes → CharSpelling c ['\\', mark]
  | code {digits : List Char} : IsHex 4 c.toNat digits → CharSpelling c ('\\' :: 'u' :: digits)
  | longCode {digits : List Char} : IsHex 8 c.toNat digits → CharSpelling c ('\\' :: 'U' :: digits)

/-- The ways to write a text between double quotes. -/
inductive TextSpelling : List Char → List Char → Prop
  | nil : TextSpelling [] []
  | cons {c : Char} {text written rest : List Char} : CharSpelling c written → TextSpelling text rest →
      TextSpelling (c :: text) (written ++ rest)

/-- Spaces and tabs. -/
def Spaces (cs : List Char) : Prop :=
  ∀ c ∈ cs, isSpace c

/-- A line break in one of its two forms. -/
def IsBreak (cs : List Char) : Prop :=
  cs = ['\n'] ∨ cs = ['\r', '\n']

/-- What may follow on a line when nothing more is said: spaces, and a comment if there is one. -/
inductive Trailing : List Char → Prop
  | spaces {cs : List Char} : Spaces cs → Trailing cs
  | comment {cs text : List Char} : Spaces cs → (∀ c ∈ text, isCommentChar c) → Trailing (cs ++ '#' :: text)

/-- What may stand between the parts of an array: lines on which nothing is said, then spaces. -/
inductive Idle : List Char → Prop
  | spaces {cs : List Char} : Spaces cs → Idle cs
  | line {cs newline rest : List Char} : Trailing cs → IsBreak newline → Idle rest → Idle (cs ++ newline ++ rest)

/-- The ways to write the items of an array of texts and its closing bracket. -/
inductive ItemsSpelling : List String → List Char → Prop
  | nil {gap : List Char} : Idle gap → ItemsSpelling [] (gap ++ [']'])
  | last {s : String} {a written b : List Char} : Idle a → TextSpelling s.toList written → Idle b →
      ItemsSpelling [s] (a ++ '"' :: written ++ '"' :: b ++ [']'])
  | item {s : String} {items : List String} {a written b rest : List Char} : Idle a →
      TextSpelling s.toList written → Idle b → ItemsSpelling items rest →
      ItemsSpelling (s :: items) (a ++ '"' :: written ++ '"' :: b ++ ',' :: rest)

/-- The ways to write a text or an array of texts. -/
inductive Spelling : Toml → List Char → Prop
  | text {s : String} {written : List Char} : TextSpelling s.toList written →
      Spelling (.string s) ('"' :: written ++ ['"'])
  | array {items : List String} {written : List Char} : ItemsSpelling items written →
      Spelling (.array (items.map .string)) ('[' :: written)

/-- The ways to write a key that has one part: bare, or between quotes. -/
inductive KeySpelling (key : String) : List Char → Prop
  | bare : key.toList ≠ [] → (∀ c ∈ key.toList, isBareChar c) → KeySpelling key key.toList
  | quoted {written : List Char} : TextSpelling key.toList written → KeySpelling key ('"' :: written ++ ['"'])

/-- The ways to write a key and its value, up to the end of the value. -/
inductive PairSpelling (key : String) (v : Toml) : List Char → Prop
  | intro {a name b c written : List Char} : Spaces a → KeySpelling key name → Spaces b → Spaces c →
      Spelling v written → PairSpelling key v (a ++ name ++ b ++ '=' :: c ++ written)

/-- The ways to write keys with their values, line by line. -/
inductive LinesSpelling : Members → List Char → Prop
  | done {cs : List Char} : Trailing cs → LinesSpelling [] cs
  | line {members : Members} {cs newline rest : List Char} : Trailing cs → IsBreak newline →
      LinesSpelling members rest → LinesSpelling members (cs ++ newline ++ rest)
  | last {key : String} {v : Toml} {written cs : List Char} : PairSpelling key v written → Trailing cs →
      LinesSpelling [(key, v)] (written ++ cs)
  | pair {key : String} {v : Toml} {members : Members} {written cs newline rest : List Char} :
      PairSpelling key v written → Trailing cs → IsBreak newline → LinesSpelling members rest →
      LinesSpelling ((key, v) :: members) (written ++ cs ++ newline ++ rest)

variable {cs rest written text gap newline : List Char} {c : Char} {n : Nat}

theorem readCodePoint_of_isHex {width : Nat} {digits : List Char} (hex : IsHex width c.toNat digits)
    (rest : List Char) : readCodePoint width (digits ++ rest) = some (c, rest) := by
  have valid : c.toNat.isValidChar := c.valid
  simp [readCodePoint, hex.readDigits rest, valid, Char.ofNat_toNat]

theorem readBasic_escape (escape : readEscape cs = some (c, rest)) (n : Nat) :
    readBasic (n + 1) ('\\' :: cs) = (readBasic n rest).map fun (text, rest) => (c :: text, rest) := by
  have noQuote : ¬ '\\' = '"' := by decide
  simp only [readBasic, noQuote, if_false, if_true, escape, bind, Option.bind]
  cases readBasic n rest <;> rfl

theorem readBasic_plain (solid : isCommentChar c) (noQuote : c ≠ '"') (noEscape : c ≠ '\\') (n : Nat)
    (cs : List Char) : readBasic (n + 1) (c :: cs) = (readBasic n cs).map fun (text, rest) => (c :: text, rest) := by
  simp only [readBasic, solid, noQuote, noEscape, if_false, if_true, bind, Option.bind]
  cases readBasic n cs <;> rfl

theorem readEscape_of_mem {mark : Char} (short : (mark, c) ∈ shortEscapes) (rest : List Char) :
    readEscape (mark :: rest) = some (c, rest) := by
  simp only [shortEscapes, List.mem_cons, Prod.mk.injEq, List.not_mem_nil, or_false] at short
  rcases short with ⟨rfl, rfl⟩ | ⟨rfl, rfl⟩ | ⟨rfl, rfl⟩ | ⟨rfl, rfl⟩ | ⟨rfl, rfl⟩ | ⟨rfl, rfl⟩ | ⟨rfl, rfl⟩ <;> rfl

/-- Each spelling of a character is read as that character. -/
theorem CharSpelling.readBasic (spelling : CharSpelling c written) (n : Nat) (rest : List Char) :
    Toml.readBasic (n + 1) (written ++ rest) = (Toml.readBasic n rest).map fun (text, rest) => (c :: text, rest) := by
  cases spelling with
  | plain solid noQuote noEscape => exact readBasic_plain solid noQuote noEscape n rest
  | short mark => exact readBasic_escape (readEscape_of_mem mark rest) n
  | @code digits hex =>
    have escape : readEscape ('u' :: (digits ++ rest)) = some (c, rest) := readCodePoint_of_isHex hex rest
    exact readBasic_escape escape n
  | @longCode digits hex =>
    have escape : readEscape ('U' :: (digits ++ rest)) = some (c, rest) := readCodePoint_of_isHex hex rest
    exact readBasic_escape escape n

theorem CharSpelling.exists_head (spelling : CharSpelling c written) : ∃ d cs, written = d :: cs ∧ d ≠ '"' := by
  cases spelling with
  | plain _ noQuote _ => exact ⟨c, [], rfl, noQuote⟩
  | short _ | code _ | longCode _ => exact ⟨_, _, rfl, by decide⟩

theorem TextSpelling.length_le (spelling : TextSpelling text written) : text.length ≤ written.length := by
  induction spelling with
  | nil => exact le_rfl
  | cons first _ ih =>
    obtain ⟨d, cs, rfl, -⟩ := first.exists_head
    simp only [List.length_cons, List.length_append]
    omega

/-- What stands between double quotes is read as the text that it is a spelling of, in as many steps as it has
characters. -/
theorem TextSpelling.readBasic (spelling : TextSpelling text written) (rest : List Char) (bound : text.length < n) :
    Toml.readBasic n (written ++ '"' :: rest) = some (text, rest) := by
  induction spelling generalizing n with
  | nil =>
    obtain ⟨n, rfl⟩ : ∃ m, n = m + 1 := ⟨n - 1, by omega⟩
    rfl
  | cons first _ ih =>
    obtain ⟨n, rfl⟩ : ∃ m, n = m + 1 := ⟨n - 1, by omega⟩
    rw [List.append_assoc, first.readBasic, ih (by simpa using bound)]
    rfl

theorem TextSpelling.readShort (spelling : TextSpelling text written) (rest : List Char) :
    Toml.readShort ('"' :: (written ++ '"' :: rest)) = some (text, rest) :=
  spelling.readBasic rest (by
    have := spelling.length_le
    simp only [List.length_append, List.length_cons]
    omega)

/-- Quotes with nothing between them do not start a string of several lines unless a third one follows. -/
theorem TextSpelling.readString (spelling : TextSpelling text written) (noQuote : rest.head? ≠ some '"') :
    Toml.readString ('"' :: (written ++ '"' :: rest)) = some (text, rest) := by
  have short : Toml.readString ('"' :: (written ++ '"' :: rest)) = Toml.readShort ('"' :: (written ++ '"' :: rest)) := by
    cases spelling with
    | nil =>
      unfold Toml.readString
      split
      · next same => simp_all
      · next same => simp_all
      · rfl
    | cons first _ =>
      obtain ⟨d, cs, rfl, other⟩ := first.exists_head
      unfold Toml.readString
      split
      · next same => simp_all
      · next same => simp_all
      · rfl
  rw [short, spelling.readShort]

theorem readValue_quote (n : Nat) (cs : List Char) :
    readValue n ('"' :: cs) = (readString ('"' :: cs)).map fun (text, rest) => (.string (String.ofList text), rest) := by
  cases n <;> rfl

theorem TextSpelling.readValue {s : String} (spelling : TextSpelling s.toList written) (n : Nat)
    (noQuote : rest.head? ≠ some '"') :
    Toml.readValue n ('"' :: (written ++ '"' :: rest)) = some (.string s, rest) := by
  simp only [readValue_quote, spelling.readString noQuote, Option.map_some, String.ofList_toList]

theorem Spaces.dropSpaces_append (blank : Spaces gap) (cs : List Char) : dropSpaces (gap ++ cs) = dropSpaces cs := by
  rw [dropSpaces, dropSpaces, List.dropWhile_append, List.dropWhile_eq_nil_iff.mpr blank]
  rfl

theorem dropSpaces_cons (solid : isSpace c = false) (rest : List Char) : dropSpaces (c :: rest) = c :: rest := by
  simp [dropSpaces, solid]

theorem Spaces.dropSpaces (blank : Spaces gap) (solid : isSpace c = false) (rest : List Char) :
    Toml.dropSpaces (gap ++ c :: rest) = c :: rest := by
  rw [blank.dropSpaces_append, dropSpaces_cons solid]

theorem Spaces.dropSpaces_self (blank : Spaces gap) : Toml.dropSpaces gap = [] :=
  List.dropWhile_eq_nil_iff.mpr blank

theorem IsBreak.exists_head (newline : IsBreak cs) : ∃ c more, cs = c :: more ∧ isSpace c = false ∧ c ≠ '#' ∧
    isCommentChar c = false := by
  rcases newline with rfl | rfl <;> exact ⟨_, _, rfl, by decide, by decide, by decide⟩

theorem IsBreak.dropBreak? (newline : IsBreak cs) (rest : List Char) : Toml.dropBreak? (cs ++ rest) = some rest := by
  rcases newline with rfl | rfl <;> rfl

theorem dropComment_append (text : ∀ c ∈ written, isCommentChar c) (solid : isCommentChar c = false)
    (rest : List Char) : dropComment ('#' :: (written ++ c :: rest)) = c :: rest := by
  rw [dropComment, List.dropWhile_append, List.dropWhile_eq_nil_iff.mpr text]
  simp [solid]

/-- What drops to where a line with nothing to say ends. -/
theorem Trailing.dropIdleWithin (idle : Trailing cs) (newline : IsBreak written) (n : Nat) (rest : List Char) :
    Toml.dropIdleWithin (n + 1) (cs ++ written ++ rest) = Toml.dropIdleWithin n rest := by
  obtain ⟨c, more, rfl, solid, other, noText⟩ := newline.exists_head
  have dropped := newline.dropBreak? rest
  cases idle with
  | spaces blank =>
    simp only [Toml.dropIdleWithin, List.append_assoc, List.cons_append, blank.dropSpaces solid]
    split
    · next same => exact absurd (List.cons.inj same).1 other
    · rw [← List.cons_append, dropped]
  | comment blank text =>
    simp only [Toml.dropIdleWithin, List.append_assoc, List.cons_append, blank.dropSpaces (c := '#') rfl,
      dropComment_append text noText]
    rw [← List.cons_append, dropped]
    rfl

/-- What may come first where something is said: no space, no comment and no line break. -/
def Speaks (cs : List Char) : Prop :=
  ∃ c rest, cs = c :: rest ∧ isSpace c = false ∧ c ≠ '#' ∧ dropBreak? cs = none

theorem Idle.dropIdleWithin (idle : Idle gap) (speaks : Speaks cs) (bound : gap.length < n) :
    Toml.dropIdleWithin n (gap ++ cs) = some cs := by
  induction idle generalizing n with
  | spaces blank =>
    obtain ⟨n, rfl⟩ : ∃ m, n = m + 1 := ⟨n - 1, by omega⟩
    obtain ⟨c, rest, rfl, solid, noComment, noBreak⟩ := speaks
    simp only [Toml.dropIdleWithin, blank.dropSpaces solid]
    split
    · next same => exact absurd (List.cons.inj same).1 noComment
    · rw [noBreak]
  | line trailing newline _ ih =>
    obtain ⟨n, rfl⟩ : ∃ m, n = m + 1 := ⟨n - 1, by omega⟩
    obtain ⟨c, more, rfl, -⟩ := newline.exists_head
    rw [List.append_assoc _ _ cs, trailing.dropIdleWithin newline]
    exact ih (by simp at bound; omega)

theorem Idle.dropIdle (idle : Idle gap) (speaks : Speaks cs) : Toml.dropIdle (gap ++ cs) = some cs :=
  idle.dropIdleWithin speaks (by simp only [List.length_append]; omega)

theorem speaks_cons (solid : isSpace c = false) (noComment : c ≠ '#') (noBreak : c ≠ '\n' ∧ c ≠ '\r')
    (rest : List Char) : Speaks (c :: rest) := by
  refine ⟨c, rest, rfl, solid, noComment, ?_⟩
  unfold dropBreak?
  split <;> simp_all

section

variable {item : List Char → Option (Text.Found Toml)} {items : List Toml} {v : Toml} {a b more : List Char}

theorem readItems_nil (idle : Idle gap) : readItems item (n + 1) (gap ++ ']' :: rest) = some ([], rest) := by
  have head := idle.dropIdle (speaks_cons (c := ']') (by decide) (by decide) (by decide) rest)
  simp only [readItems, head, bind, Option.bind, pure]

theorem readItems_last (idleA : Idle a) (speaks : Speaks cs) (noClose : cs.head? ≠ some ']')
    (value : item cs = some (v, b ++ ']' :: rest)) (idleB : Idle b) :
    readItems item (n + 1) (a ++ cs) = some ([v], rest) := by
  have close := idleB.dropIdle (speaks_cons (c := ']') (by decide) (by decide) (by decide) rest)
  simp only [readItems, idleA.dropIdle speaks, bind, Option.bind, pure]
  split
  · simp_all
  · simp only [value, close]

theorem readItems_next (idleA : Idle a) (speaks : Speaks cs) (noClose : cs.head? ≠ some ']')
    (value : item cs = some (v, b ++ ',' :: more)) (idleB : Idle b)
    (others : readItems item n more = some (items, rest)) :
    readItems item (n + 1) (a ++ cs) = some (v :: items, rest) := by
  have comma := idleB.dropIdle (speaks_cons (c := ',') (by decide) (by decide) (by decide) more)
  simp only [readItems, idleA.dropIdle speaks, bind, Option.bind, pure]
  split
  · simp_all
  · simp only [value, comma, others]

end

theorem idle_nil : Idle [] :=
  .spaces (by simp [Spaces])

/-- What is idle does not start with a quote, as a quote would say something. -/
theorem Idle.head?_ne_quote (idle : Idle gap) (speaks : Speaks (c :: rest)) (other : c ≠ '"') :
    (gap ++ c :: rest).head? ≠ some '"' := by
  intro quote
  obtain ⟨more, same⟩ : ∃ more, gap ++ c :: rest = '"' :: more := by
    cases whole : gap ++ c :: rest with
    | nil => simp at whole
    | cons d more => simp_all
  have kept := idle_nil.dropIdle (speaks_cons (c := '"') (by decide) (by decide) (by decide) more)
  rw [List.nil_append, ← same, idle.dropIdle speaks, same] at kept
  exact other (List.cons.inj (Option.some_inj.mp kept)).1

/-- The items of an array are read as the texts that they are spellings of. -/
theorem ItemsSpelling.readItems {items : List String} (spelling : ItemsSpelling items written) (m : Nat)
    (rest : List Char) (bound : written.length ≤ n) :
    Toml.readItems (readValue m) n (written ++ rest) = some (items.map .string, rest) := by
  have comma (cs : List Char) : Speaks (',' :: cs) := speaks_cons (by decide) (by decide) (by decide) cs
  have close (cs : List Char) : Speaks (']' :: cs) := speaks_cons (by decide) (by decide) (by decide) cs
  have quote (cs : List Char) : Speaks ('"' :: cs) := speaks_cons (by decide) (by decide) (by decide) cs
  induction spelling generalizing n with
  | nil idle =>
    obtain ⟨n, rfl⟩ : ∃ m, n = m + 1 := ⟨n - 1, by simp at bound; omega⟩
    rw [List.append_assoc]
    exact readItems_nil idle
  | @last s a written b idleA text idleB =>
    obtain ⟨n, rfl⟩ : ∃ m, n = m + 1 := ⟨n - 1, by simp at bound; omega⟩
    have value := text.readValue m (idleB.head?_ne_quote (close rest) (by decide))
    simpa using readItems_last idleA (quote _) (by simp) value idleB
  | @item s items a written b more idleA text idleB _ ih =>
    obtain ⟨n, rfl⟩ : ∃ m, n = m + 1 := ⟨n - 1, by simp at bound; omega⟩
    have value := text.readValue m (idleB.head?_ne_quote (comma (more ++ rest)) (by decide))
    have others : Toml.readItems (readValue m) n (more ++ rest) = some (items.map .string, rest) :=
      ih (by simp at bound; omega)
    simpa using readItems_next idleA (quote _) (by simp) value idleB others

/-- A value is read as what it is a spelling of. -/
theorem Spelling.readValue {v : Toml} (spelling : Spelling v written) (n : Nat) (noQuote : rest.head? ≠ some '"') :
    Toml.readValue (n + 1) (written ++ rest) = some (v, rest) := by
  cases spelling with
  | text text => simpa using text.readValue (n + 1) noQuote
  | @array items written spelling =>
    have read := spelling.readItems n rest (n := (written ++ rest).length + 1) (by simp; omega)
    simp only [List.cons_append, Toml.readValue, read, Option.map_some]

theorem ne_of_isBareChar {d : Char} (bare : isBareChar c) (other : isBareChar d = false) : c ≠ d := by
  rintro rfl
  simp_all

theorem KeySpelling.exists_head {key : String} {name : List Char} (spelling : KeySpelling key name) :
    ∃ c more, name = c :: more ∧ isSpace c = false ∧ c ≠ '#' ∧ c ≠ '\n' ∧ c ≠ '\r' ∧ c ≠ '[' ∧ c ≠ '\uFEFF' := by
  cases spelling with
  | bare written all =>
    obtain ⟨c, more, same⟩ := List.exists_cons_of_ne_nil written
    have bare : isBareChar c := all c (by rw [same]; exact List.mem_cons_self)
    have space : isSpace c = false := by
      simp [isSpace, ne_of_isBareChar bare (d := ' ') (by decide), ne_of_isBareChar bare (d := '\t') (by decide)]
    exact ⟨c, more, same, space, ne_of_isBareChar bare (by decide), ne_of_isBareChar bare (by decide),
      ne_of_isBareChar bare (by decide), ne_of_isBareChar bare (by decide), ne_of_isBareChar bare (by decide)⟩
  | quoted _ => exact ⟨_, _, rfl, by decide, by decide, by decide, by decide, by decide, by decide⟩

theorem KeySpelling.readKeyPart {key : String} {name : List Char} (spelling : KeySpelling key name)
    (ends : isBareChar c = false) (rest : List Char) :
    Toml.readKeyPart (name ++ c :: rest) = some (key, c :: rest) := by
  cases spelling with
  | bare written all =>
    obtain ⟨d, more, same⟩ := List.exists_cons_of_ne_nil written
    have bare : isBareChar d := all d (by rw [same]; exact List.mem_cons_self)
    have noQuotes : readShort (key.toList ++ c :: rest) = none := by
      rw [same]
      unfold Toml.readShort
      split
      · next head => exact absurd (List.cons.inj head).1 (ne_of_isBareChar bare (by decide))
      · next head => exact absurd (List.cons.inj head).1 (ne_of_isBareChar bare (by decide))
      · rfl
    have taken : (key.toList ++ c :: rest).takeWhile isBareChar = key.toList := by
      rw [List.takeWhile_append_of_pos all]
      simp [ends]
    have dropped : (key.toList ++ c :: rest).dropWhile isBareChar = c :: rest := by
      rw [List.dropWhile_append, List.dropWhile_eq_nil_iff.mpr all]
      simp [ends]
    simp [Toml.readKeyPart, noQuotes, taken, dropped, List.isEmpty_iff, written, String.ofList_toList]
  | quoted text =>
    have short := text.readShort (c :: rest)
    simp only [Toml.readKeyPart, List.append_assoc, List.cons_append, List.nil_append, short, String.ofList_toList]
    rfl

theorem KeySpelling.readKey {key : String} {a name b : List Char} (spelling : KeySpelling key name) (spacesA : Spaces a)
    (spacesB : Spaces b) (rest : List Char) :
    Toml.readKey (a ++ (name ++ (b ++ '=' :: rest))) = some (([], key), '=' :: rest) := by
  have follow : ∃ c more, b ++ '=' :: rest = c :: more ∧ isBareChar c = false := by
    cases b with
    | nil => exact ⟨_, _, rfl, by decide⟩
    | cons d b =>
      obtain rfl | rfl : d = ' ' ∨ d = '\t' := by simpa [isSpace] using spacesB d List.mem_cons_self
      all_goals exact ⟨_, _, rfl, by decide⟩
  obtain ⟨c, more, same, ends⟩ := follow
  have head : dropSpaces (a ++ (name ++ (b ++ '=' :: rest))) = name ++ (b ++ '=' :: rest) := by
    obtain ⟨d, tail, rfl, solid, -⟩ := spelling.exists_head
    exact spacesA.dropSpaces solid _
  have part : Toml.readKeyPart (name ++ (b ++ '=' :: rest)) = some (key, b ++ '=' :: rest) := by
    rw [same, spelling.readKeyPart ends]
  have parts (n : Nat) : readKeyParts (n + 1) (a ++ (name ++ (b ++ '=' :: rest))) = some ([key], '=' :: rest) := by
    simp only [readKeyParts, head, part, spacesB.dropSpaces (c := '=') rfl, bind, Option.bind, pure]
    rfl
  have whole : readKeyParts depthLimit (a ++ (name ++ (b ++ '=' :: rest))) = some ([key], '=' :: rest) := parts 78
  simp [Toml.readKey, whole]

/-- A key and its value are read as the two, with nothing before the key. -/
theorem PairSpelling.readStatement {key : String} {v : Toml} (spelling : PairSpelling key v written)
    (noQuote : rest.head? ≠ some '"') : ∃ gap body, Spaces gap ∧ Speaks body ∧
      written ++ rest = gap ++ body ∧
      Toml.readStatement body = (afterLine rest).map fun rest => (.pair [] key v, rest) := by
  obtain @⟨a, name, b, c, value, spacesA, named, spacesB, spacesC, valued⟩ := spelling
  obtain ⟨d, more, same, solid, noComment, noBreak, noReturn, noHeader, -⟩ := named.exists_head
  refine ⟨a, name ++ (b ++ '=' :: (c ++ (value ++ rest))), spacesA, ?_, by simp, ?_⟩
  · rw [same]
    exact speaks_cons solid noComment ⟨noBreak, noReturn⟩ _
  have named := named.readKey (a := []) (by simp [Spaces]) spacesB (c ++ (value ++ rest))
  have limit : readValue depthLimit (value ++ rest) = some (v, rest) := valued.readValue 78 noQuote
  have dropped : dropSpaces (c ++ (value ++ rest)) = value ++ rest := by
    cases valued with
    | text _ | array _ => exact spacesC.dropSpaces rfl _
  have pair : readPair (readValue depthLimit) (name ++ (b ++ '=' :: (c ++ (value ++ rest)))) =
      some (([], key, v), rest) := by
    rw [List.nil_append] at named
    simp only [readPair, named, readMark, if_true, dropped, limit, bind, Option.bind, pure]
  unfold Toml.readStatement
  split
  · next head => simp_all
  · next head => simp_all
  · simp only [pair, bind, Option.bind]
    cases afterLine rest <;> rfl

theorem Trailing.afterLine (trailing : Trailing cs) (newline : IsBreak written) (rest : List Char) :
    Toml.afterLine (cs ++ written ++ rest) = some rest := by
  obtain ⟨c, more, rfl, solid, other, noText⟩ := newline.exists_head
  have dropped := newline.dropBreak? rest
  have stays : dropComment (c :: (more ++ rest)) = c :: (more ++ rest) := by
    unfold dropComment
    split
    · next same => exact absurd (List.cons.inj same).1 other
    · rfl
  cases trailing with
  | spaces blank =>
    simp only [Toml.afterLine, List.append_assoc, List.cons_append, blank.dropSpaces solid, stays]
    rwa [List.cons_append] at dropped
  | comment blank text =>
    simp only [Toml.afterLine, List.append_assoc, List.cons_append, blank.dropSpaces (c := '#') rfl,
      dropComment_append text noText]
    rwa [List.cons_append] at dropped

theorem Trailing.afterLine_self (trailing : Trailing cs) : Toml.afterLine cs = some [] := by
  cases trailing with
  | spaces blank => simp [Toml.afterLine, blank.dropSpaces_self, dropComment]
  | comment blank text =>
    simp [Toml.afterLine, blank.dropSpaces (c := '#') rfl, dropComment, List.dropWhile_eq_nil_iff.mpr text]

theorem Trailing.readStatements (trailing : Trailing cs) (newline : IsBreak written) (n : Nat) (rest : List Char) :
    Toml.readStatements (n + 1) (cs ++ written ++ rest) = Toml.readStatements n rest := by
  have after := trailing.afterLine newline rest
  obtain ⟨c, more, rfl, solid, other, noText⟩ := newline.exists_head
  have dropped := newline.dropBreak? rest
  cases trailing with
  | spaces blank =>
    simp only [Toml.readStatements, List.append_assoc, List.cons_append, blank.dropSpaces solid]
    split
    · next same => cases same
    · next same => exact absurd (List.cons.inj same).1 other
    · rw [← List.cons_append, dropped]
  | comment blank text =>
    have head := blank.dropSpaces (c := '#') rfl
    simp only [Toml.afterLine, List.append_assoc, List.cons_append, head] at after
    simp only [Toml.readStatements, List.append_assoc, List.cons_append, head, Toml.afterLine,
      dropSpaces_cons (c := '#') rfl, after, bind, Option.bind]

theorem Trailing.readStatements_done (trailing : Trailing cs) (bound : cs.length < n) :
    Toml.readStatements n cs = some [] := by
  obtain ⟨n, rfl⟩ : ∃ m, n = m + 1 := ⟨n - 1, by omega⟩
  have after := trailing.afterLine_self
  cases trailing with
  | spaces blank => simp only [Toml.readStatements, blank.dropSpaces_self]
  | comment blank text =>
    obtain ⟨n, rfl⟩ : ∃ m, n = m + 1 := ⟨n - 1, by simp at bound; omega⟩
    have head := blank.dropSpaces (c := '#') rfl
    simp only [Toml.afterLine, head] at after
    simp only [Toml.readStatements, head, Toml.afterLine, dropSpaces_cons (c := '#') rfl, after, bind, Option.bind]
    rfl

/-- What trails starts with a space or a comment, if it is not empty. -/
theorem Trailing.head?_ne (trailing : Trailing cs) (solid : isSpace c = false) (noComment : c ≠ '#')
    (other : rest.head? ≠ some c) : (cs ++ rest).head? ≠ some c := by
  have space {blanks more : List Char} (blank : Spaces blanks) (other : more.head? ≠ some c) :
      (blanks ++ more).head? ≠ some c := by
    cases blanks with
    | nil => exact other
    | cons d blanks =>
      intro same
      obtain rfl : d = c := by simpa using same
      exact absurd (blank d List.mem_cons_self) (by simp [solid])
  cases trailing with
  | spaces blank => exact space blank other
  | comment blank _ =>
    rw [List.append_assoc]
    exact space blank (by simpa using noComment.symm)

theorem Trailing.head?_ne_self (trailing : Trailing cs) (solid : isSpace c = false) (noComment : c ≠ '#') :
    cs.head? ≠ some c := by
  have other : ([] : List Char).head? ≠ some c := by simp
  simpa using trailing.head?_ne solid noComment other

theorem IsBreak.head?_ne (newline : IsBreak cs) (noBreak : c ≠ '\n' ∧ c ≠ '\r') (rest : List Char) :
    (cs ++ rest).head? ≠ some c := by
  obtain ⟨noBreak, noReturn⟩ := noBreak
  rcases newline with rfl | rfl
  · simpa using noBreak.symm
  · simpa using noReturn.symm

theorem readStatements_of_speaks {body : List Char} {statement : Statement} (blank : Spaces gap) (speaks : Speaks body)
    (read : readStatement body = some (statement, rest)) (n : Nat) :
    readStatements (n + 1) (gap ++ body) = (readStatements n rest).map (statement :: ·) := by
  obtain ⟨c, more, rfl, solid, noComment, noBreak⟩ := speaks
  simp only [readStatements, blank.dropSpaces solid]
  split
  · next same => cases same
  · next same => exact absurd (List.cons.inj same).1 noComment
  · simp only [noBreak, read, bind, Option.bind]
    cases readStatements n rest <;> rfl

theorem PairSpelling.length_pos {key : String} {v : Toml} (spelling : PairSpelling key v written) :
    0 < written.length := by
  obtain ⟨⟩ := spelling
  simp only [List.length_append, List.length_cons]
  omega

/-- The statements of a document are the pairs that its lines are spellings of. -/
theorem LinesSpelling.readStatements {members : Members} (spelling : LinesSpelling members cs) (bound : cs.length < n) :
    Toml.readStatements n cs = some (members.map fun (key, v) => .pair [] key v) := by
  induction spelling generalizing n with
  | done trailing => exact trailing.readStatements_done bound
  | @line members cs newline rest trailing broken _ ih =>
    obtain ⟨n, rfl⟩ : ∃ m, n = m + 1 := ⟨n - 1, by omega⟩
    obtain ⟨c, more, rfl, -⟩ := broken.exists_head
    rw [trailing.readStatements broken, ih (by simp at bound; omega)]
  | @last key v written cs pair trailing =>
    obtain ⟨n, rfl⟩ : ∃ m, n = m + 1 := ⟨n - 1, by omega⟩
    have noQuote : cs.head? ≠ some '"' := trailing.head?_ne_self (by decide) (by decide)
    obtain ⟨gap, body, blank, speaks, same, read⟩ := pair.readStatement noQuote
    rw [trailing.afterLine_self] at read
    have positive := pair.length_pos
    obtain ⟨n, rfl⟩ : ∃ m, n = m + 1 := ⟨n - 1, by simp at bound; omega⟩
    rw [same, readStatements_of_speaks blank speaks read]
    rfl
  | @pair key v members written cs newline rest pair trailing broken _ ih =>
    obtain ⟨n, rfl⟩ : ∃ m, n = m + 1 := ⟨n - 1, by omega⟩
    have after := trailing.afterLine broken rest
    have noQuote : (cs ++ newline ++ rest).head? ≠ some '"' := by
      rw [List.append_assoc]
      exact trailing.head?_ne (by decide) (by decide) (broken.head?_ne (by decide) rest)
    obtain ⟨gap, body, blank, speaks, same, read⟩ := pair.readStatement noQuote
    rw [after] at read
    have positive := pair.length_pos
    rw [List.append_assoc written, List.append_assoc written, same, readStatements_of_speaks blank speaks read,
      ih (by simp at bound; omega)]
    rfl

theorem PairSpelling.head?_ne_mark {key : String} {v : Toml} (spelling : PairSpelling key v written)
    (rest : List Char) : (written ++ rest).head? ≠ some '\uFEFF' := by
  obtain @⟨a, name, b, c, value, spaces, named, -⟩ := spelling
  obtain ⟨d, more, rfl, -, -, -, -, -, noMark⟩ := named.exists_head
  simp only [List.append_assoc]
  exact (Trailing.spaces spaces).head?_ne (by decide) (by decide) (by simpa using noMark)

theorem LinesSpelling.head?_ne_mark {members : Members} (spelling : LinesSpelling members cs) :
    cs.head? ≠ some '\uFEFF' := by
  cases spelling with
  | done trailing => exact trailing.head?_ne_self (by decide) (by decide)
  | line trailing broken _ =>
    rw [List.append_assoc]
    exact trailing.head?_ne (by decide) (by decide) (broken.head?_ne (by decide) _)
  | last pair _ => exact pair.head?_ne_mark _
  | pair pair _ _ _ =>
    rw [List.append_assoc, List.append_assoc]
    exact pair.head?_ne_mark _

/-- Pairs under different keys are added one by one. -/
theorem runStatements_pairs (document members : Members)
    (distinct : ((members ++ document).map Prod.fst).Nodup) :
    runStatements document [] (members.map fun (key, v) => .pair [] key v) = some (members.reverse ++ document) := by
  induction members generalizing document with
  | nil => rfl
  | cons member members ih =>
    obtain ⟨key, v⟩ := member
    have fresh : ∀ name w, (name, w) ∈ document → name ≠ key := by
      rintro name w listed rfl
      rw [List.cons_append, List.map_cons, List.nodup_cons] at distinct
      have found := List.mem_map_of_mem (List.mem_append_right members listed) (f := Prod.fst)
      exact distinct.1 found
    have absent : (member? key document).isSome = false := by
      simpa [member?] using fresh
    have kept : document.filter (·.1 != key) = document := by
      simpa [List.filter_eq_self] using fresh
    have added : changeHeaded (fun kind members => addPair kind members [] key v) document [] =
        some ((key, v) :: document) := by
      simp [changeHeaded, changeAt, addPair, addPair.add, absent, setMember, kept]
    have rest := ih ((key, v) :: document) ((List.perm_middle.map Prod.fst).nodup_iff.mpr distinct)
    simp only [List.map_cons, runStatements, added, bind, Option.bind, rest, List.reverse_cons, List.append_assoc,
      List.cons_append, List.nil_append]

/-- A text whose lines spell pairs under different keys is read as those pairs. -/
theorem LinesSpelling.parse? {members : Members} {s : String} (spelling : LinesSpelling members s.toList)
    (distinct : (members.map Prod.fst).Nodup) : Toml.parse? s = some members.reverse := by
  have read := spelling.readStatements (Nat.lt_succ_self _)
  have noMark := spelling.head?_ne_mark
  have run := runStatements_pairs [] members (by simpa using distinct)
  rw [List.append_nil] at run
  unfold Toml.parse?
  split
  · next same => simp [same] at noMark
  · simp only [read, run, bind, Option.bind]

/-- Every character can be written. -/
theorem exists_charSpelling (c : Char) : ∃ written, CharSpelling c written := by
  by_cases noQuote : c = '"'
  · have short : ('"', c) ∈ shortEscapes := by rw [noQuote]; decide
    exact ⟨_, .short short⟩
  by_cases noEscape : c = '\\'
  · have short : ('\\', c) ∈ shortEscapes := by rw [noEscape]; decide
    exact ⟨_, .short short⟩
  by_cases solid : isCommentChar c
  · exact ⟨_, .plain solid noQuote noEscape⟩
  · have control : c.toNat < 0x80 := by
      simp only [isCommentChar] at solid
      grind
    exact ⟨_, .code (Text.isHex_hexDigits control)⟩

/-- A text of plain characters can stand as it is. -/
theorem textSpelling_self (plain : ∀ c ∈ text, isCommentChar c ∧ c ≠ '"' ∧ c ≠ '\\') : TextSpelling text text := by
  induction text with
  | nil => exact .nil
  | cons c text ih =>
    obtain ⟨⟨solid, noQuote, noEscape⟩, rest⟩ := List.forall_mem_cons.mp plain
    exact .cons (.plain solid noQuote noEscape) (ih rest)

theorem exists_textSpelling (text : List Char) : ∃ written, TextSpelling text written := by
  induction text with
  | nil => exact ⟨_, .nil⟩
  | cons c text ih =>
    obtain ⟨rest, spelling⟩ := ih
    obtain ⟨written, first⟩ := exists_charSpelling c
    exact ⟨_, .cons first spelling⟩

theorem exists_itemsSpelling (items : List String) : ∃ written, ItemsSpelling items written := by
  induction items with
  | nil => exact ⟨_, .nil idle_nil⟩
  | cons s items ih =>
    obtain ⟨rest, spelling⟩ := ih
    obtain ⟨written, text⟩ := exists_textSpelling s.toList
    exact ⟨_, .item idle_nil text idle_nil spelling⟩

/-- Every list of pairs can be written whose keys are bare and whose values can be written. -/
theorem exists_linesSpelling (members : Members)
    (each : ∀ member ∈ members, (∃ name, KeySpelling member.1 name) ∧ ∃ written, Spelling member.2 written) :
    ∃ written, LinesSpelling members written := by
  have none : Spaces [] := by simp [Spaces]
  induction members with
  | nil => exact ⟨_, .done (.spaces none)⟩
  | cons member members ih =>
    obtain ⟨⟨⟨name, key⟩, ⟨written, value⟩⟩, others⟩ := List.forall_mem_cons.mp each
    obtain ⟨rest, spelling⟩ := ih others
    exact ⟨_, .pair (.intro none key none none value) (.spaces none) (.inl rfl) spelling⟩

end ReleaseMatrix.Toml
