import Mathlib.Computability.Language
import ReleaseMatrix.Proofs.ReleaseNames

namespace ReleaseMatrix

namespace Text

theorem mem_joinChars {sep c : Char} {pieces : List (List Char)} (inside : c ∈ joinChars sep pieces) :
    c = sep ∨ ∃ piece ∈ pieces, c ∈ piece := by
  induction pieces with
  | nil => simp [joinChars] at inside
  | cons piece pieces ih =>
    cases pieces with
    | nil => exact .inr ⟨piece, List.mem_cons_self, inside⟩
    | cons next pieces =>
      rw [joinChars, List.mem_append, List.mem_cons] at inside
      rcases inside with here | same | later
      · exact .inr ⟨piece, List.mem_cons_self, here⟩
      · exact .inl same
      · obtain same | ⟨other, among, here⟩ := ih later
        · exact .inl same
        · exact .inr ⟨other, List.mem_cons_of_mem _ among, here⟩

/-- Every piece but the first one brings its separator with it. -/
theorem joinChars_cons (sep : Char) (piece : List Char) (pieces : List (List Char)) :
    joinChars sep (piece :: pieces) = piece ++ (pieces.map (sep :: ·)).flatten := by
  induction pieces generalizing piece with
  | nil => simp [joinChars]
  | cons next pieces ih => rw [joinChars, ih, List.map_cons, List.flatten_cons, List.cons_append]

theorem splitChars_cons_self (sep : Char) (cs : List Char) :
    splitChars sep (sep :: cs) = [] :: splitChars sep cs := by
  simp [splitChars]

theorem splitChars_cons_of_ne {sep c : Char} {cs piece : List Char} {pieces : List (List Char)} (other : c ≠ sep)
    (split : splitChars sep cs = piece :: pieces) : splitChars sep (c :: cs) = (c :: piece) :: pieces := by
  simp [splitChars, other, split]

theorem join_split (sep : Char) (s : String) : join sep (split sep s) = s := by
  rw [join, split, List.map_map]
  simp [Function.comp_def, joinChars_splitChars]

theorem split_join {sep : Char} {pieces : List String} (nonempty : pieces ≠ [])
    (plain : ∀ piece ∈ pieces, sep ∉ piece.toList) : split sep (join sep pieces) = pieces := by
  have letters : ∀ piece ∈ pieces.map String.toList, sep ∉ piece := by simpa using plain
  rw [split, join, String.toList_ofList, splitChars_joinChars (by simpa using nonempty) letters, List.map_map]
  simp [Function.comp_def]

end Text

namespace Triple

open Computability

/-- The letters and the digits of ASCII. -/
def IsAlnum (c : Char) : Prop :=
  ('A' ≤ c ∧ c ≤ 'Z') ∨ ('a' ≤ c ∧ c ≤ 'z') ∨ ('0' ≤ c ∧ c ≤ '9')

/-- What segments are made of. -/
def IsPlain (c : Char) : Prop :=
  IsAlnum c ∨ c = '_' ∨ c = '.'

/-- The segments of a triple as lists of characters: there is a first one that starts with a letter or a digit, and
none is empty. -/
structure Segmented (pieces : List (List Char)) : Prop where
  filled : ∀ piece ∈ pieces, piece ≠ []
  plain : ∀ piece ∈ pieces, ∀ c ∈ piece, IsPlain c
  first : ∃ piece ∈ pieces.head?, ∃ c ∈ piece.head?, IsAlnum c

/-- A text is the segments of a triple with hyphens between them. -/
structure Spells (segments : List String) (id : String) : Prop where
  segmented : Segmented (segments.map String.toList)
  joined : id = Text.join '-' segments

theorem isAlphanum_iff {c : Char} : c.isAlphanum ↔ IsAlnum c := by
  delta Char.isAlphanum Char.isAlpha Char.isUpper Char.isLower Char.isDigit
  simp only [Bool.or_eq_true, Bool.and_eq_true, decide_eq_true_eq, or_assoc]
  exact Iff.rfl

theorem isSegmentChar_iff {c : Char} : isSegmentChar c ↔ IsPlain c := by
  simp [isSegmentChar, isAlphanum_iff, IsPlain, or_assoc]

theorem IsAlnum.ne_hyphen {c : Char} (alnum : IsAlnum c) : c ≠ '-' := by
  rintro rfl
  exact absurd (isAlphanum_iff.mpr alnum) (by decide)

theorem IsPlain.ne_hyphen {c : Char} (plain : IsPlain c) : c ≠ '-' := by
  rintro rfl
  exact absurd (isSegmentChar_iff.mpr plain) (by decide)

theorem IsPlain.not_isBlank {c : Char} (plain : IsPlain c) : Text.isBlank c = false := by
  obtain alnum | rfl | rfl := plain
  · have range : 48 ≤ c.toNat ∧ c.toNat ≤ 122 := by
      simp only [IsAlnum, Char.le_def, UInt32.le_iff_toNat_le, Char.reduceVal, UInt32.reduceToNat] at alnum
      change 48 ≤ c.val.toNat ∧ c.val.toNat ≤ 122
      omega
    rw [Bool.eq_false_iff]
    intro blank
    simp only [Text.isBlank, Bool.or_eq_true, Bool.and_eq_true, decide_eq_true_eq, beq_iff_eq] at blank
    omega
  · rfl
  · rfl

variable {cs : List Char}

/-- What is accepted after a hyphen, or within a segment. In the second case the segment may end at once. -/
theorem acceptsRest_iff {fresh : Bool} :
    acceptsRest fresh cs ↔ (∀ piece ∈ Text.splitChars '-' cs, ∀ c ∈ piece, IsPlain c) ∧
      (∀ piece ∈ (Text.splitChars '-' cs).tail, piece ≠ []) ∧
      (fresh → (Text.splitChars '-' cs).head? ≠ some []) := by
  induction cs generalizing fresh with
  | nil => simp [acceptsRest, Text.splitChars]
  | cons c cs ih =>
    obtain ⟨piece, pieces, split⟩ := List.exists_cons_of_ne_nil (Text.splitChars_ne_nil '-' cs)
    rw [acceptsRest]
    by_cases hyphen : c = '-'
    · rw [if_pos hyphen, hyphen, Text.splitChars_cons_self, Bool.and_eq_true, ih, split]
      simp only [List.forall_mem_cons, List.not_mem_nil, IsEmpty.forall_iff, implies_true, List.tail_cons,
        List.head?_cons, ne_eq, Option.some.injEq, forall_const, not_true, imp_false, true_and]
      constructor
      · rintro ⟨within, plain, filled, here⟩
        exact ⟨plain, ⟨here, filled⟩, by simpa using within⟩
      · rintro ⟨plain, ⟨here, filled⟩, within⟩
        exact ⟨by simpa using within, plain, filled, here⟩
    · rw [if_neg hyphen, Text.splitChars_cons_of_ne hyphen split, Bool.and_eq_true, isSegmentChar_iff, ih, split]
      simp only [List.forall_mem_cons, List.tail_cons, List.head?_cons, ne_eq, Option.some.injEq, List.cons_ne_nil]
      tauto

/-- The pieces between the hyphens decide whether a text is a triple. -/
theorem accepts_iff_segmented : accepts cs ↔ Segmented (Text.splitChars '-' cs) := by
  cases cs with
  | nil =>
    constructor
    · intro accepted
      cases accepted
    · intro segmented
      exact absurd rfl (segmented.filled [] List.mem_cons_self)
  | cons c cs =>
    obtain ⟨piece, pieces, split⟩ := List.exists_cons_of_ne_nil (Text.splitChars_ne_nil '-' cs)
    rw [accepts, Bool.and_eq_true, isAlphanum_iff, acceptsRest_iff, split]
    by_cases hyphen : c = '-'
    · -- Neither side holds: a hyphen in front leaves an empty segment before it.
      constructor
      · rintro ⟨alnum, -⟩
        exact absurd hyphen alnum.ne_hyphen
      · intro segmented
        exact absurd rfl (segmented.filled [] (by simp [hyphen, Text.splitChars_cons_self]))
    · rw [Text.splitChars_cons_of_ne hyphen split]
      constructor
      · rintro ⟨alnum, plain, filled, -⟩
        refine ⟨?_, ?_, ⟨c :: piece, rfl, c, rfl, alnum⟩⟩
        · simpa using filled
        · simpa [IsPlain, alnum] using plain
      · rintro ⟨filled, plain, first⟩
        have alnum : IsAlnum c := by simpa using first
        obtain ⟨here, later⟩ := List.forall_mem_cons.mp plain
        refine ⟨alnum, ?_, (List.forall_mem_cons.mp filled).2, by simp⟩
        exact List.forall_mem_cons.mpr ⟨(List.forall_mem_cons.mp here).2, later⟩

/-- What one character of a kind matches. -/
def oneOf (p : Char → Prop) : Language Char :=
  {cs | ∃ c, p c ∧ cs = [c]}

/-- The pattern `[A-Za-z0-9][A-Za-z0-9_.]*(-[A-Za-z0-9_.]+)*`, matched from the start of a text to its end. -/
def pattern : Language Char :=
  oneOf IsAlnum * (oneOf IsPlain)∗ * (oneOf (· = '-') * (oneOf IsPlain * (oneOf IsPlain)∗))∗

theorem mem_kstar_oneOf {p : Char → Prop} : cs ∈ (oneOf p)∗ ↔ ∀ c ∈ cs, p c := by
  rw [Language.mem_kstar]
  constructor
  · rintro ⟨words, rfl, single⟩ c inside
    obtain ⟨word, among, here⟩ := List.mem_flatten.mp inside
    obtain ⟨d, kind, rfl⟩ := single word among
    rwa [List.mem_singleton.mp here]
  · intro kind
    refine ⟨cs.map ([·]), by rw [← List.flatMap_def, List.flatMap_singleton'], ?_⟩
    intro word among
    obtain ⟨c, inside, rfl⟩ := List.mem_map.mp among
    exact ⟨c, kind c inside, rfl⟩

theorem mem_oneOf_mul {p : Char → Prop} {l : Language Char} :
    cs ∈ oneOf p * l ↔ ∃ c rest, p c ∧ rest ∈ l ∧ cs = c :: rest := by
  rw [Language.mem_mul]
  constructor
  · rintro ⟨_, ⟨c, kind, rfl⟩, rest, later, rfl⟩
    exact ⟨c, rest, kind, later, rfl⟩
  · rintro ⟨c, rest, kind, later, rfl⟩
    exact ⟨[c], ⟨c, kind, rfl⟩, rest, later, rfl⟩

/-- What stands behind the first segment: segments, each after a hyphen. -/
theorem mem_kstar_hyphened :
    cs ∈ (oneOf (· = '-') * (oneOf IsPlain * (oneOf IsPlain)∗))∗ ↔ ∃ pieces : List (List Char),
      (∀ piece ∈ pieces, piece ≠ [] ∧ ∀ c ∈ piece, IsPlain c) ∧ cs = (pieces.map ('-' :: ·)).flatten := by
  have hyphened {word : List Char} : word ∈ oneOf (· = '-') * (oneOf IsPlain * (oneOf IsPlain)∗) ↔
      ∃ piece : List Char, (piece ≠ [] ∧ ∀ c ∈ piece, IsPlain c) ∧ word = '-' :: piece := by
    simp only [mem_oneOf_mul, mem_kstar_oneOf]
    constructor
    · rintro ⟨_, _, rfl, ⟨c, rest, plain, later, rfl⟩, rfl⟩
      exact ⟨c :: rest, ⟨List.cons_ne_nil _ _, List.forall_mem_cons.mpr ⟨plain, later⟩⟩, rfl⟩
    · rintro ⟨_ | ⟨c, rest⟩, ⟨filled, plain⟩, rfl⟩
      · exact absurd rfl filled
      · obtain ⟨here, later⟩ := List.forall_mem_cons.mp plain
        exact ⟨'-', _, rfl, ⟨c, rest, here, later, rfl⟩, rfl⟩
  rw [Language.mem_kstar]
  constructor
  · rintro ⟨words, rfl, matching⟩
    -- Each word is a hyphen and a segment, so the segments are the tails of the words.
    have tails : (words.map List.tail).map ('-' :: ·) = words := by
      rw [List.map_map]
      refine (List.map_congr_left fun word among => ?_).trans (List.map_id words)
      obtain ⟨piece, -, rfl⟩ := hyphened.mp (matching word among)
      rfl
    refine ⟨words.map List.tail, ?_, by rw [tails]⟩
    intro piece among
    obtain ⟨word, inside, rfl⟩ := List.mem_map.mp among
    obtain ⟨piece, segment, rfl⟩ := hyphened.mp (matching word inside)
    exact segment
  · rintro ⟨pieces, segments, rfl⟩
    refine ⟨pieces.map ('-' :: ·), rfl, ?_⟩
    intro word among
    obtain ⟨piece, inside, rfl⟩ := List.mem_map.mp among
    exact hyphened.mpr ⟨piece, segments piece inside, rfl⟩

/-- The pattern matches just what segments give that are joined by hyphens. -/
theorem mem_pattern_iff : cs ∈ pattern ↔ ∃ pieces, Segmented pieces ∧ cs = Text.joinChars '-' pieces := by
  rw [pattern, mul_assoc, mem_oneOf_mul]
  simp only [Language.mem_mul, mem_kstar_oneOf, mem_kstar_hyphened]
  constructor
  · rintro ⟨c, _, alnum, ⟨rest, plain, _, ⟨pieces, segments, rfl⟩, rfl⟩, rfl⟩
    refine ⟨(c :: rest) :: pieces, ⟨?_, ?_, ⟨c :: rest, rfl, c, rfl, alnum⟩⟩, by rw [Text.joinChars_cons]; rfl⟩
    · exact List.forall_mem_cons.mpr ⟨List.cons_ne_nil _ _, fun piece among => (segments piece among).1⟩
    · refine List.forall_mem_cons.mpr ⟨?_, fun piece among => (segments piece among).2⟩
      exact List.forall_mem_cons.mpr ⟨.inl alnum, plain⟩
  · rintro ⟨_ | ⟨_ | ⟨c, rest⟩, pieces⟩, ⟨filled, plain, first⟩, rfl⟩
    · simp at first
    · simp at first
    · have alnum : IsAlnum c := by simpa using first
      obtain ⟨here, later⟩ := List.forall_mem_cons.mp plain
      refine ⟨c, _, alnum, ⟨rest, (List.forall_mem_cons.mp here).2, _, ⟨pieces, ?_, rfl⟩, rfl⟩, ?_⟩
      · exact fun piece among => ⟨filled piece (List.mem_cons_of_mem _ among), later piece among⟩
      · rw [Text.joinChars_cons, List.cons_append]

variable {segments : List String} {id : String}

theorem accepts_iff_spells : accepts id.toList ↔ Spells (Text.split '-' id) id := by
  have letters : (Text.split '-' id).map String.toList = Text.splitChars '-' id.toList := by
    simp [Text.split, Function.comp_def]
  rw [accepts_iff_segmented, ← letters]
  exact ⟨fun segmented => ⟨segmented, (Text.join_split '-' id).symm⟩, Spells.segmented⟩

theorem Spells.ne_nil (spells : Spells segments id) : segments ≠ [] := by
  rintro rfl
  simpa using spells.segmented.first

/-- What spells a text is found again by splitting it. -/
theorem Spells.split_eq (spells : Spells segments id) : Text.split '-' id = segments := by
  rw [spells.joined]
  refine Text.split_join spells.ne_nil fun segment among hyphen => ?_
  exact (spells.segmented.plain _ (List.mem_map_of_mem among) _ hyphen).ne_hyphen rfl

theorem Spells.plain_or_hyphen (spells : Spells segments id) {c : Char} (inside : c ∈ id.toList) :
    IsPlain c ∨ c = '-' := by
  obtain ⟨⟨-, plain, -⟩, rfl⟩ := spells
  rw [Text.join, String.toList_ofList] at inside
  obtain hyphen | ⟨piece, among, here⟩ := Text.mem_joinChars inside
  · exact .inr hyphen
  · exact .inl (plain piece among c here)

theorem Spells.accepts (spells : Spells segments id) : accepts id.toList := by
  rw [accepts_iff_spells, spells.split_eq]
  exact spells

theorem exists_spells_iff :
    (∃ segments, Spells segments id) ↔ ∃ pieces, Segmented pieces ∧ id.toList = Text.joinChars '-' pieces := by
  constructor
  · rintro ⟨segments, segmented, rfl⟩
    exact ⟨_, segmented, String.toList_ofList⟩
  · rintro ⟨pieces, segmented, joined⟩
    have letters : (pieces.map String.ofList).map String.toList = pieces := by simp [Function.comp_def]
    refine ⟨pieces.map String.ofList, letters.symm ▸ segmented, ?_⟩
    rw [Text.join, letters, ← joined, String.ofList_toList]

end Triple

namespace Target

variable {t : Target}

/-- The same target for a version of its system. -/
def inVersion (t : Target) (version : String) : Target :=
  ⟨Text.join '-' (t.segments.modify 1 (· ++ "." ++ version))⟩

/-- A version can stand behind the system of every triple. -/
theorem isTriple_inVersion {system version : String} (triple : t.isTriple) (os : t.os? = some system)
    (plain : ∀ c ∈ version.toList, Triple.IsPlain c) :
    (t.inVersion version).isTriple ∧ (t.inVersion version).os? = some (system ++ "." ++ version) := by
  have spells : Triple.Spells t.segments t.id := Triple.accepts_iff_spells.mp triple
  have spelled : Triple.Spells (t.segments.modify 1 (· ++ "." ++ version)) (t.inVersion version).id := by
    refine ⟨?_, rfl⟩
    obtain ⟨filled, letters, first⟩ := spells.segmented
    rcases shape : t.segments with _ | ⟨arch, _ | ⟨second, more⟩⟩
    · simp [shape] at first
    · simp [os?, shape] at os
    · obtain rfl : second = system := by simpa [os?, shape] using os
      have pieces : (List.modify (arch :: second :: more) 1 (· ++ "." ++ version)).map String.toList =
          arch.toList :: (second.toList ++ '.' :: version.toList) :: more.map String.toList := by simp
      simp only [shape, List.map_cons, List.forall_mem_cons] at filled letters
      rw [pieces]
      refine ⟨?_, ?_, by simpa [shape] using first⟩
      · simp only [List.forall_mem_cons]
        exact ⟨filled.1, by simp, filled.2.2⟩
      · simp only [List.forall_mem_cons, List.forall_mem_append]
        exact ⟨letters.1, ⟨letters.2.1, .inr (.inr rfl), plain⟩, letters.2.2⟩
  refine ⟨spelled.accepts, ?_⟩
  have split : (t.inVersion version).segments = t.segments.modify 1 (· ++ "." ++ version) := spelled.split_eq
  have second : t.segments[1]? = some system := os
  rw [os?, split, List.getElem?_modify, second]
  rfl

/-- Triples are the texts that are spelled by segments, and those that the pattern matches. The segments of a triple
are unique: the first one is its processor, and the second one its system. No blank and no slash stands in it, and it is
no dot or two. -/
theorem isTriple_iff_spelled (t : Target) :
    (t.isTriple ↔ ∃ segments, Triple.Spells segments t.id) ∧ (t.isTriple ↔ t.id.toList ∈ Triple.pattern) ∧
    ∀ segments, Triple.Spells segments t.id →
      (∀ others, Triple.Spells others t.id → others = segments) ∧
      segments.head? = some t.arch ∧ t.os? = segments[1]? ∧
      (∀ c ∈ t.id.toList, Text.isBlank c = false) ∧ '/' ∉ t.id.toList ∧ t.id ≠ "." ∧ t.id ≠ ".." := by
  have spelled : t.isTriple ↔ ∃ segments, Triple.Spells segments t.id :=
    ⟨fun triple => ⟨_, Triple.accepts_iff_spells.mp triple⟩, fun ⟨_, spells⟩ => spells.accepts⟩
  refine ⟨spelled, ?_, fun segments spells => ?_⟩
  · rw [spelled, Triple.exists_spells_iff, Triple.mem_pattern_iff]
  · have name := Target.isName_id (spelled.mpr ⟨segments, spells⟩)
    have split : t.segments = segments := spells.split_eq
    refine ⟨fun others spells' => spells'.split_eq.symm.trans split, ?_, ?_, fun c inside => ?_, name.noSlash,
      name.notHere, name.notUp⟩
    · obtain ⟨first, more, rfl⟩ := List.exists_cons_of_ne_nil spells.ne_nil
      rw [arch, split]
      rfl
    · rw [os?, split]
    · obtain plain | rfl := spells.plain_or_hyphen inside
      · exact plain.not_isBlank
      · rfl

theorem isTriple_iff_spelled_musl :
    let t : Target := ⟨"x86_64-linux-musl"⟩
    let segments := ["x86_64", "linux", "musl"]
    Triple.Spells segments t.id ∧ t.isTriple ∧ segments.head? = some t.arch ∧ t.os? = segments[1]? := by
  intro t segments
  have split : Text.split '-' t.id = segments := by decide +kernel
  have spells : Triple.Spells segments t.id := split ▸ Triple.accepts_iff_spells.mp (by decide)
  obtain ⟨spelled, -, read⟩ := t.isTriple_iff_spelled
  obtain ⟨-, arch, os, -⟩ := read segments spells
  exact ⟨spells, spelled.mpr ⟨segments, spells⟩, arch, os⟩

end Target

end ReleaseMatrix
