import ReleaseMatrix.Version.Resolve
import Mathlib.Data.List.TakeWhile

namespace ReleaseMatrix.Manifest

/-- A version field of a project's manifest: its name, an equals sign with any blanks around it, and a quoted value
that is not empty. -/
structure Field where
  before : List Char
  after : List Char
  value : List Char
  blank_before : ∀ c ∈ before, Text.isBlank c
  blank_after : ∀ c ∈ after, Text.isBlank c
  filled : value ≠ []
  plain : '"' ∉ value

namespace Field

def chars (f : Field) : List Char :=
  fieldName ++ (f.before ++ '=' :: (f.after ++ '"' :: (f.value ++ ['"'])))

/-- The field stands in the text between `lead` and `rest`, and none begins further to the left. -/
structure IsFirst (f : Field) (text lead rest : List Char) : Prop where
  place : text = lead ++ (f.chars ++ rest)
  leftmost : ∀ (g : Field) (lead' rest' : List Char), text = lead' ++ (g.chars ++ rest') → lead.length ≤ lead'.length

end Field

variable {cs lead rest lead' rest' value : List Char} {f g : Field}

theorem stripStart_eq_some_iff {start : List Char} : stripStart start cs = some rest ↔ cs = start ++ rest := by
  induction start generalizing cs with
  | nil => simp [stripStart]
  | cons p ps ih =>
    cases cs with
    | nil => simp [stripStart]
    | cons c cs =>
      by_cases same : p = c
      · simp [stripStart, same, ih]
      · simp [stripStart, same, Ne.symm same]

/-- Where characters of one kind end, another one stands. -/
theorem span_inj {kind : Char → Bool} {xs ys us vs : List Char} {c d : Char} (allX : ∀ x ∈ xs, kind x)
    (allY : ∀ y ∈ ys, kind y) (endX : kind c = false) (endY : kind d = false) (same : xs ++ c :: us = ys ++ d :: vs) :
    xs = ys ∧ c :: us = d :: vs := by
  have front : xs = ys := by
    have taken := congrArg (List.takeWhile kind) same
    rw [List.takeWhile_append_of_pos allX, List.takeWhile_append_of_pos allY] at taken
    simpa [endX, endY] using taken
  subst front
  exact ⟨rfl, List.append_cancel_left same⟩

theorem isQuotable_of_mem {cs : List Char} (plain : '"' ∉ cs) : ∀ c ∈ cs, decide (c ≠ '"') = true := fun c member => by
  simpa using fun mark : c = '"' => plain (mark ▸ member)

namespace Field

/-- A text begins with one field at most. -/
theorem chars_append_inj (same : f.chars ++ rest = g.chars ++ rest') : f = g ∧ rest = rest' := by
  obtain ⟨before, after, value, blankBefore, blankAfter, filled, plain⟩ := f
  obtain ⟨before', after', value', blankBefore', blankAfter', filled', plain'⟩ := g
  simp only [chars, List.append_assoc, List.append_cancel_left_eq, List.cons_append, List.nil_append] at same
  obtain ⟨rfl, sign⟩ := span_inj blankBefore blankBefore' (by decide) (by decide) same
  obtain ⟨rfl, quote⟩ := span_inj blankAfter blankAfter' (by decide) (by decide) (List.cons.inj sign).2
  obtain ⟨rfl, closing⟩ := span_inj (isQuotable_of_mem plain) (isQuotable_of_mem plain') (by decide) (by decide)
    (List.cons.inj quote).2
  exact ⟨rfl, (List.cons.inj closing).2⟩

theorem IsFirst.unique (first : f.IsFirst cs lead rest) (other : g.IsFirst cs lead' rest') :
    f = g ∧ lead = lead' ∧ rest = rest' := by
  have length : lead.length = lead'.length :=
    Nat.le_antisymm (first.leftmost g lead' rest' other.place) (other.leftmost f lead rest first.place)
  obtain ⟨rfl, same⟩ := List.append_inj (first.place.symm.trans other.place) length
  obtain ⟨rfl, rfl⟩ := chars_append_inj same
  exact ⟨rfl, rfl, rfl⟩

end Field

/-- Splits what stands before the first character of another kind off. -/
theorem exists_span (kind : Char → Bool) (cs : List Char) :
    ∃ xs, (∀ x ∈ xs, kind x) ∧ cs = xs ++ cs.dropWhile kind :=
  ⟨cs.takeWhile kind, fun _ member => List.mem_takeWhile_imp member, List.takeWhile_append_dropWhile.symm⟩

theorem fieldAt?_eq_some_iff :
    fieldAt? cs = some value ↔ ∃ (f : Field) (rest : List Char), cs = f.chars ++ rest ∧ f.value = value := by
  simp only [fieldAt?, Option.bind_eq_bind, Option.bind_eq_some_iff, stripStart_eq_some_iff]
  constructor
  · rintro ⟨named, rfl, signed, sign, quoted, quote, found⟩
    split at found
    · next closed =>
      obtain rfl := Option.some.inj found
      obtain ⟨before, blankBefore, named_eq⟩ := exists_span Text.isBlank named
      obtain ⟨after, blankAfter, signed_eq⟩ := exists_span Text.isBlank signed
      obtain ⟨mark, rest, ends⟩ := List.exists_cons_of_ne_nil closed.2
      have isMark : mark = '"' := by
        have stopped := List.head_dropWhile_not _ closed.2
        simp only [ends, List.head_cons] at stopped
        simpa using stopped
      have quoted_eq : quoted = quoted.takeWhile (fun c => decide (c ≠ '"')) ++ '"' :: rest := by
        subst isMark
        rw [← ends, List.takeWhile_append_dropWhile]
      refine ⟨⟨before, after, _, blankBefore, blankAfter, closed.1, fun member => ?_⟩, rest, ?_, rfl⟩
      · simpa using List.mem_takeWhile_imp member
      · have whole : named = before ++ '=' :: (after ++ '"' :: quoted) := by
          rw [named_eq, sign, signed_eq, quote]
          simp
        rw [whole, Field.chars]
        simp only [List.append_assoc, List.cons_append, List.nil_append, ← quoted_eq]
    · cases found
  · rintro ⟨f, rest, rfl, rfl⟩
    have unquoted := isQuotable_of_mem f.plain
    have dropped {gap : List Char} {c : Char} (blank : ∀ c ∈ gap, Text.isBlank c) (solid : Text.isBlank c = false)
        (cs : List Char) : (gap ++ c :: cs).dropWhile Text.isBlank = c :: cs := by
      rw [List.dropWhile_append_of_pos blank, List.dropWhile_cons_of_neg (by simp [solid])]
    refine ⟨f.before ++ '=' :: (f.after ++ '"' :: (f.value ++ '"' :: rest)), by simp [Field.chars],
      f.after ++ '"' :: (f.value ++ '"' :: rest), dropped f.blank_before (by decide) _,
      f.value ++ '"' :: rest, dropped f.blank_after (by decide) _, ?_⟩
    rw [List.takeWhile_append_of_pos unquoted, List.dropWhile_append_of_pos unquoted]
    simp [f.filled]

theorem fieldAt?_eq_none_iff : fieldAt? cs = none ↔ ∀ (f : Field) (rest : List Char), cs ≠ f.chars ++ rest := by
  rw [Option.eq_none_iff_forall_ne_some]
  simp only [ne_eq, fieldAt?_eq_some_iff]
  exact ⟨fun none f rest same => none f.value ⟨f, rest, same, rfl⟩, fun none _ ⟨f, rest, same, _⟩ => none f rest same⟩

namespace Field

theorem chars_ne_nil (f : Field) : f.chars ≠ [] := by
  rw [chars]
  exact List.append_ne_nil_of_left_ne_nil (by decide) _

/-- Where no field begins a text, the first one is that of the text's tail. -/
theorem isFirst_cons_iff {c : Char} (absent : ∀ (g : Field) (rest' : List Char), c :: cs ≠ g.chars ++ rest') :
    f.IsFirst (c :: cs) lead rest ↔ ∃ lead', lead = c :: lead' ∧ f.IsFirst cs lead' rest := by
  constructor
  · rintro ⟨place, leftmost⟩
    cases lead with
    | nil => exact absurd place (absent f rest)
    | cons d lead' =>
      obtain ⟨rfl, place'⟩ := List.cons.inj place
      refine ⟨lead', rfl, place', fun g other rest' there => ?_⟩
      simpa using leftmost g (c :: other) rest' (congrArg (List.cons c) there)
  · rintro ⟨lead', rfl, place, leftmost⟩
    refine ⟨congrArg (List.cons c) place, fun g other rest' there => ?_⟩
    cases other with
    | nil => exact absurd there (absent g rest')
    | cons d other =>
      have there' := (List.cons.inj there).2
      simpa using leftmost g other rest' there'

end Field

/-- The search stops at the first field, wherever parts of fields stand before it. -/
theorem firstField?_eq_some_iff :
    firstField? cs = some value ↔ ∃ (f : Field) (lead rest : List Char), f.IsFirst cs lead rest ∧ f.value = value := by
  induction cs with
  | nil =>
    simp only [firstField?, reduceCtorEq, false_iff, not_exists, not_and]
    intro f lead rest first
    simpa [f.chars_ne_nil] using first.place
  | cons c cs ih =>
    cases here : fieldAt? (c :: cs) with
    | some found =>
      obtain ⟨g, rest, place, rfl⟩ := fieldAt?_eq_some_iff.mp here
      have first : g.IsFirst (c :: cs) [] rest := ⟨place, fun _ _ _ _ => Nat.zero_le _⟩
      simp only [firstField?, here, Option.some.injEq]
      constructor
      · intro same
        exact ⟨g, [], rest, first, same⟩
      · rintro ⟨f, lead, rest', other, rfl⟩
        rw [(first.unique other).1]
    | none =>
      simp only [firstField?, here, ih, Field.isFirst_cons_iff (fieldAt?_eq_none_iff.mp here)]
      constructor
      · rintro ⟨f, lead, rest, first, same⟩
        exact ⟨f, c :: lead, rest, ⟨lead, rfl, first⟩, same⟩
      · rintro ⟨f, _, rest, ⟨lead, rfl, first⟩, same⟩
        exact ⟨f, lead, rest, first, same⟩

theorem firstField?_eq_none_iff :
    firstField? cs = none ↔ ∀ (f : Field) (lead rest : List Char), cs ≠ lead ++ (f.chars ++ rest) := by
  induction cs with
  | nil => simp [firstField?, Field.chars_ne_nil]
  | cons c cs ih =>
    cases here : fieldAt? (c :: cs) with
    | some found =>
      obtain ⟨g, rest, place, -⟩ := fieldAt?_eq_some_iff.mp here
      simp only [firstField?, here, reduceCtorEq, false_iff, not_forall, not_not]
      exact ⟨g, [], rest, place⟩
    | none =>
      simp only [firstField?, here, ih]
      constructor
      · rintro absent f (_ | ⟨d, lead⟩) rest place
        · exact fieldAt?_eq_none_iff.mp here f rest place
        · exact absent f lead rest (List.cons.inj place).2
      · intro absent f lead rest place
        exact absent f (c :: lead) rest (congrArg (c :: ·) place)

theorem Field.exists_isFirst (place : cs = lead ++ (f.chars ++ rest)) :
    ∃ (g : Field) (lead' rest' : List Char), g.IsFirst cs lead' rest' := by
  cases found : firstField? cs with
  | none => exact absurd place (firstField?_eq_none_iff.mp found f lead rest)
  | some value =>
    obtain ⟨g, lead', rest', first, -⟩ := firstField?_eq_some_iff.mp found
    exact ⟨g, lead', rest', first⟩

/-- A manifest declares the version of its leftmost field. There is one such field, unless the manifest holds none, and
then it declares no version. -/
theorem version?_leftmost (text : String) :
    (∀ version, version? text = some version ↔
      ∃ f lead rest, Field.IsFirst f text.toList lead rest ∧ String.ofList f.value = version) ∧
    (∀ f lead rest, Field.IsFirst f text.toList lead rest → ∀ g lead' rest', Field.IsFirst g text.toList lead' rest' →
      g = f ∧ lead' = lead ∧ rest' = rest) ∧
    (version? text = none ↔ ∀ (f : Field) (lead rest : List Char), text.toList ≠ lead ++ (f.chars ++ rest)) := by
  refine ⟨fun version => ?_, fun f lead rest first g lead' rest' other => other.unique first, ?_⟩
  · simp only [version?, Option.map_eq_some_iff, firstField?_eq_some_iff]
    constructor
    · rintro ⟨_, ⟨f, lead, rest, first, rfl⟩, made⟩
      exact ⟨f, lead, rest, first, made⟩
    · rintro ⟨f, lead, rest, first, made⟩
      exact ⟨f.value, ⟨f, lead, rest, first, rfl⟩, made⟩
  · rw [version?, Option.map_eq_none_iff, firstField?_eq_none_iff]

/-- The search goes on after a name without a sign, an empty value and a name within another one. -/
theorem version?_leftmost_retried :
    let text := ".\x7b .version, .version = \"\", .ver.version\t=\u3000\"0.6.0\", .version = \"0.7.0\" \x7d"
    ∃ f lead rest, Field.IsFirst f text.toList lead rest ∧ String.ofList f.value = "0.6.0" ∧
      ∀ g lead' rest', Field.IsFirst g text.toList lead' rest' → String.ofList g.value = "0.6.0" := by
  intro text
  obtain ⟨declares, unique, -⟩ := version?_leftmost text
  obtain ⟨f, lead, rest, first, value⟩ := (declares "0.6.0").mp (by decide +kernel)
  refine ⟨f, lead, rest, first, value, fun g lead' rest' other => ?_⟩
  rw [(unique f lead rest first g lead' rest' other).1, value]

end ReleaseMatrix.Manifest
