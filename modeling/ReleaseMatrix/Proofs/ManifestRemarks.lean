import ReleaseMatrix.Proofs.Execution
import ReleaseMatrix.Proofs.VersionField

namespace ReleaseMatrix

namespace Manifest

/-- A comment that is put into a manifest as a line of its own, between two lines that stand there. -/
structure Remark where
  above : List Char
  blanks : List Char
  words : List Char
  below : List Char
  blank : ∀ c ∈ blanks, Text.isBlank c
  oneLine : '\n' ∉ blanks ++ words

namespace Remark

variable (r : Remark)

/-- The lines above the comment. -/
def head : List Char :=
  r.above ++ ['\n']

def line : List Char :=
  r.blanks ++ '/' :: '/' :: (r.words ++ ['\n'])

/-- The manifest without the comment. -/
def plain : List Char :=
  r.head ++ r.below

/-- The manifest with the comment. -/
def remarked : List Char :=
  r.head ++ (r.line ++ r.below)

/-- The field behind `lead` begins above the place of the comment and ends below it. -/
def Parts (f : Field) (lead : List Char) : Prop :=
  lead.length < r.head.length ∧ r.head.length < lead.length + f.chars.length

/-- The field behind `lead` begins in the comment. -/
def Begins (lead : List Char) : Prop :=
  r.head.length ≤ lead.length ∧ lead.length < r.head.length + r.line.length

/-- The field behind `lead` ends in the comment. -/
def Ends (f : Field) (lead : List Char) : Prop :=
  r.head.length < lead.length + f.chars.length ∧ lead.length + f.chars.length ≤ r.head.length + r.line.length

/-- The comment is not put into the first field, and it is not where the first field begins or ends afterwards. -/
structure Harmless : Prop where
  parts : ∀ (f : Field) (lead rest : List Char), f.IsFirst r.plain lead rest → ¬ r.Parts f lead
  begins : ∀ (f : Field) (lead rest : List Char), f.IsFirst r.remarked lead rest → ¬ r.Begins lead
  ends : ∀ (f : Field) (lead rest : List Char), f.IsFirst r.remarked lead rest → ¬ r.Ends f lead

/-- With the comment and without it, the first field is the same one at the same place, or there is none. -/
inductive SameField : Prop
  | absent (plain : ∀ (f : Field) (lead rest : List Char), r.plain ≠ lead ++ (f.chars ++ rest))
      (remarked : ∀ (f : Field) (lead rest : List Char), r.remarked ≠ lead ++ (f.chars ++ rest))
  | above {f : Field} {lead mid : List Char} (place : r.head = lead ++ (f.chars ++ mid))
      (plain : f.IsFirst r.plain lead (mid ++ r.below))
      (remarked : f.IsFirst r.remarked lead (mid ++ (r.line ++ r.below)))
  | below {f : Field} {mid rest : List Char} (plain : f.IsFirst r.plain (r.head ++ mid) rest)
      (remarked : f.IsFirst r.remarked (r.head ++ (r.line ++ mid)) rest)

end Remark

section Places

variable {as bs lead lead' mid rest : List Char} {f g : Field}

theorem getLast?_of_append {c : Char} (last : as.getLast? = some c) (same : as = lead ++ bs) (filled : bs ≠ []) :
    bs.getLast? = some c := by
  obtain ⟨init, d, rfl⟩ := (List.eq_nil_or_concat bs).resolve_left filled
  rw [same, List.concat_eq_append, ← List.append_assoc, List.getLast?_concat] at last
  rw [List.concat_eq_append, List.getLast?_concat, last]

theorem Field.place_cases (place : as ++ bs = lead ++ (f.chars ++ rest)) :
    (∃ mid, as = lead ++ (f.chars ++ mid) ∧ rest = mid ++ bs) ∨
    (∃ mid, lead = as ++ mid ∧ bs = mid ++ (f.chars ++ rest)) ∨
    ∃ us ws, us ≠ [] ∧ ws ≠ [] ∧ as = lead ++ us ∧ f.chars = us ++ ws ∧ bs = ws ++ rest := by
  rcases List.append_eq_append_iff.mp place with ⟨mid, begins, behind⟩ | ⟨us, begins, behind⟩
  · exact .inr (.inl ⟨mid, begins, behind⟩)
  · rcases List.append_eq_append_iff.mp behind with ⟨mid, rfl, ends⟩ | ⟨ws, whole, ends⟩
    · exact .inl ⟨mid, begins, ends⟩
    · by_cases noFront : us = []
      · subst noFront
        exact .inr (.inl ⟨[], by simpa using begins.symm, by simpa [whole] using ends⟩)
      by_cases noBack : ws = []
      · subst noBack
        exact .inl ⟨[], by simpa [whole] using begins, by simpa using ends.symm⟩
      exact .inr (.inr ⟨us, ws, noFront, noBack, begins, whole, ends⟩)

theorem Field.length_pos (f : Field) : 0 < f.chars.length :=
  List.length_pos_iff.mpr f.chars_ne_nil

theorem Field.count_quote (f : Field) : f.chars.count '"' = 2 := by
  have unquoted {gap : List Char} (blank : ∀ c ∈ gap, Text.isBlank c) : '"' ∉ gap := fun member =>
    absurd (blank _ member) (by decide)
  have name : '"' ∉ fieldName := by decide
  simp [chars, List.count_eq_zero_of_not_mem, name, unquoted f.blank_before, unquoted f.blank_after, f.plain]

theorem Field.getLast?_chars (f : Field) : f.chars.getLast? = some '"' := by
  have last : f.chars = (fieldName ++ (f.before ++ '=' :: (f.after ++ '"' :: f.value))) ++ ['"'] := by simp [chars]
  rw [last, List.getLast?_concat]

/-- No field begins before another one and ends behind it, since a field has two quotes. -/
theorem Field.ends_within (place : as = lead ++ (f.chars ++ mid)) (other : as ++ bs = lead' ++ (g.chars ++ rest))
    (before : lead'.length ≤ lead.length) : lead'.length + g.chars.length ≤ as.length := by
  have positive := f.length_pos
  obtain ⟨mid', headed, -⟩ | ⟨mid', begins, -⟩ | ⟨us, ws, -, back, begins, chars, -⟩ := place_cases other
  · simp only [headed, List.length_append]
    omega
  · simp only [begins, place, List.length_append] at before
    omega
  · have inside : ∃ gap, us = gap ++ (f.chars ++ mid) := by
      rcases List.append_eq_append_iff.mp (begins.symm.trans place) with ⟨gap, rfl, behind⟩ | ⟨gap, rfl, behind⟩
      · exact ⟨gap, behind⟩
      · obtain rfl : gap = [] := by
          simp only [List.length_append] at before
          exact List.length_eq_zero_iff.mp (by omega)
        exact ⟨[], behind.symm⟩
    obtain ⟨gap, rfl⟩ := inside
    have closing : '"' ∈ ws := List.mem_of_getLast? (getLast?_of_append g.getLast?_chars chars back)
    have counted := g.count_quote
    have positive := List.count_pos_iff.mpr closing
    rw [chars, List.count_append, List.count_append, List.count_append, f.count_quote] at counted
    omega

end Places

namespace Remark

variable {r : Remark} {f : Field} {lead rest us ws : List Char}

theorem passes_sign {gap cs ds : List Char} {sign : Char} (blank : ∀ c ∈ gap, Text.isBlank c)
    (solid : Text.isBlank sign = false) (other : sign ≠ '/')
    (same : gap ++ sign :: cs = us ++ (r.blanks ++ '/' :: ds)) :
    ∃ more, us = gap ++ sign :: more ∧ cs = more ++ (r.blanks ++ '/' :: ds) := by
  -- The sign is no slash and no blank, so it cannot stand where the comment begins or behind that.
  rcases List.append_eq_append_iff.mp same with ⟨more, longer, behind⟩ | ⟨part, rfl, behind⟩
  · cases more with
    | nil =>
      have none : ∀ c ∈ ([] : List Char), Text.isBlank c := by simp
      have differ := span_inj none r.blank solid (by decide) behind
      exact absurd (List.cons.inj differ.2).1 other
    | cons c more =>
      obtain ⟨rfl, behind'⟩ := List.cons.inj behind
      exact ⟨more, longer, behind'⟩
  · have differ := span_inj r.blank (fun c member => blank c (List.mem_append_right _ member)) (by decide) solid behind
    exact absurd (List.cons.inj differ.2).1.symm other

theorem getLast?_head (r : Remark) : r.head.getLast? = some '\n' := by
  rw [head, List.getLast?_concat]

theorem getLast?_line (r : Remark) : r.line.getLast? = some '\n' := by
  have last : r.line = (r.blanks ++ '/' :: '/' :: r.words) ++ ['\n'] := by simp [line]
  rw [last, List.getLast?_concat]

/-- A field that begins above a comment and ends below it has the comment in its value. Without the comment it is a
field too. -/
theorem exists_shorter (chars : f.chars = us ++ (r.line ++ ws)) (back : ws ≠ []) (ends : us.getLast? = some '\n') :
    ∃ g : Field, g.chars = us ++ ws := by
  obtain ⟨before, after, value, blankBefore, blankAfter, filled, plain⟩ := f
  have slashed : r.line ++ ws = r.blanks ++ '/' :: ('/' :: (r.words ++ '\n' :: ws)) := by simp [line]
  rw [Field.chars, slashed] at chars
  have named : ∃ vs, us = fieldName ++ vs := by
    rcases List.append_eq_append_iff.mp chars with ⟨vs, longer, -⟩ | ⟨vs, shorter, -⟩
    · exact ⟨vs, longer⟩
    · have inside : '\n' ∈ fieldName := shorter ▸ List.mem_append_left _ (List.mem_of_getLast? ends)
      exact absurd inside (by decide)
  obtain ⟨vs, rfl⟩ := named
  rw [List.append_assoc, List.append_cancel_left_eq] at chars
  obtain ⟨signed, rfl, sign⟩ := passes_sign blankBefore (by decide) (by decide) chars
  obtain ⟨quoted, rfl, quote⟩ := passes_sign blankAfter (by decide) (by decide) sign
  obtain ⟨tail, c, rfl⟩ := (List.eq_nil_or_concat ws).resolve_left back
  have closed : value ++ ['"'] = (quoted ++ (r.line ++ tail)) ++ [c] := by simpa [line] using quote
  obtain ⟨rfl, mark⟩ := List.append_inj' closed rfl
  obtain rfl : '"' = c := by simpa using mark
  refine ⟨⟨before, after, quoted ++ tail, blankBefore, blankAfter, ?_, ?_⟩, by simp [Field.chars]⟩
  · intro nothing
    obtain rfl := (List.append_eq_nil_iff.mp nothing).1
    have marked : fieldName ++ (before ++ '=' :: (after ++ ['"'])) = (fieldName ++ (before ++ '=' :: after)) ++ ['"'] := by
      simp
    rw [marked, List.getLast?_concat] at ends
    exact absurd (Option.some.inj ends) (by decide)
  · simp only [List.mem_append, not_or] at plain ⊢
    exact ⟨plain.1, plain.2.2⟩

theorem plain_cases (place : r.plain = lead ++ (f.chars ++ rest)) (whole : ¬ r.Parts f lead) :
    (∃ mid, r.head = lead ++ (f.chars ++ mid) ∧ rest = mid ++ r.below) ∨
    ∃ mid, lead = r.head ++ mid ∧ r.below = mid ++ (f.chars ++ rest) := by
  obtain above | below | ⟨us, ws, front, back, begins, chars, -⟩ := Field.place_cases place
  · exact .inl above
  · exact .inr below
  · refine absurd ⟨?_, ?_⟩ whole
    · have := List.length_pos_iff.mpr front
      simp only [begins, List.length_append]
      omega
    · have := List.length_pos_iff.mpr back
      simp only [begins, chars, List.length_append]
      omega

/-- A field of the manifest with the comment that neither begins nor ends in it stands above or below it, or else the
comment parts a field. -/
theorem remarked_cases (place : r.remarked = lead ++ (f.chars ++ rest)) (begins : ¬ r.Begins lead)
    (ends : ¬ r.Ends f lead) :
    (∃ mid, r.head = lead ++ (f.chars ++ mid) ∧ rest = mid ++ (r.line ++ r.below)) ∨
    (∃ mid, lead = r.head ++ (r.line ++ mid) ∧ r.below = mid ++ (f.chars ++ rest)) ∨
    ∃ (g : Field) (rest' : List Char), r.plain = lead ++ (g.chars ++ rest') ∧ r.Parts g lead := by
  obtain above | ⟨mid, rfl, behind⟩ | ⟨us, ws, front, back, headed, chars, behind⟩ := Field.place_cases place
  · exact .inl above
  · rcases List.append_eq_append_iff.mp behind with ⟨more, rfl, below⟩ | ⟨part, lined, below⟩
    · exact .inr (.inl ⟨more, rfl, below⟩)
    · by_cases none : part = []
      · subst none
        exact .inr (.inl ⟨[], by simpa using lined.symm, by simpa using below.symm⟩)
      · have := List.length_pos_iff.mpr none
        refine absurd ⟨?_, ?_⟩ begins <;> simp only [lined, List.length_append] <;> omega
  · rcases List.append_eq_append_iff.mp behind with ⟨more, rfl, below⟩ | ⟨part, lined, rfl⟩
    · by_cases none : more = []
      · rw [none, List.append_nil] at chars back
        have := List.length_pos_iff.mpr back
        refine absurd ⟨?_, ?_⟩ ends <;> simp only [headed, chars, List.length_append] <;> omega
      · obtain ⟨g, shorter⟩ := exists_shorter chars none (getLast?_of_append r.getLast?_head headed front)
        refine .inr (.inr ⟨g, rest, ?_, ?_, ?_⟩)
        · simp [plain, headed, below, shorter]
        · have := List.length_pos_iff.mpr front
          simp only [headed, List.length_append]
          omega
        · have := List.length_pos_iff.mpr none
          simp only [headed, shorter, List.length_append]
          omega
    · have := List.length_pos_iff.mpr back
      refine absurd ⟨?_, ?_⟩ ends <;> simp only [headed, chars, lined, List.length_append] <;> omega

theorem Harmless.reaches (harmless : r.Harmless) (first : f.IsFirst r.remarked lead rest) :
    (lead.length < r.head.length ∧ ∃ (g : Field) (rest' : List Char), r.plain = lead ++ (g.chars ++ rest')) ∨
    ∃ mid, lead = r.head ++ (r.line ++ mid) ∧ r.plain = (r.head ++ mid) ++ (f.chars ++ rest) := by
  obtain ⟨mid, headed, -⟩ | ⟨mid, begins, below⟩ | ⟨g, rest', whole, early, -⟩ :=
    remarked_cases first.place (harmless.begins f lead rest first) (harmless.ends f lead rest first)
  · refine .inl ⟨?_, f, mid ++ r.below, by simp [plain, headed]⟩
    have positive := f.length_pos
    simp only [headed, List.length_append]
    omega
  · exact .inr ⟨mid, begins, by simp [plain, below]⟩
  · exact .inl ⟨early, g, rest', whole⟩

theorem Harmless.sameField (harmless : r.Harmless) : r.SameField := by
  by_cases holds : ∃ (f : Field) (lead rest : List Char), r.plain = lead ++ (f.chars ++ rest)
  · obtain ⟨_, _, _, somewhere⟩ := holds
    obtain ⟨f, lead, rest, first⟩ := Field.exists_isFirst somewhere
    obtain ⟨mid, headed, rfl⟩ | ⟨mid, rfl, below⟩ := plain_cases first.place (harmless.parts f lead rest first)
    · have there : r.remarked = lead ++ (f.chars ++ (mid ++ (r.line ++ r.below))) := by simp [remarked, headed]
      refine .above headed first ⟨there, fun g lead' rest' other => ?_⟩
      obtain ⟨h, lead'', rest'', second⟩ := Field.exists_isFirst there
      have after := second.leftmost g lead' rest' other
      obtain ⟨-, g', rest', whole⟩ | ⟨mid', rfl, -⟩ := harmless.reaches second
      · exact (first.leftmost g' lead'' rest' whole).trans after
      · have lengths := congrArg List.length headed
        simp only [List.length_append] at lengths after
        omega
    · have there : r.remarked = (r.head ++ (r.line ++ mid)) ++ (f.chars ++ rest) := by simp [remarked, below]
      refine .below first ⟨there, fun g lead' rest' other => ?_⟩
      obtain ⟨h, lead'', rest'', second⟩ := Field.exists_isFirst there
      have after := second.leftmost g lead' rest' other
      obtain ⟨early, g', rest', whole⟩ | ⟨mid', rfl, whole⟩ := harmless.reaches second
      · have before := first.leftmost g' lead'' rest' whole
        simp only [List.length_append] at before
        omega
      · have before := first.leftmost h (r.head ++ mid') rest'' whole
        simp only [List.length_append] at before after ⊢
        omega
  · refine .absent (fun f lead rest there => holds ⟨f, lead, rest, there⟩) fun f lead rest there => ?_
    obtain ⟨h, lead', rest', first⟩ := Field.exists_isFirst there
    obtain ⟨-, g, rest'', whole⟩ | ⟨mid, -, whole⟩ := harmless.reaches first
    · exact holds ⟨g, lead', rest'', whole⟩
    · exact holds ⟨h, _, rest', whole⟩

theorem SameField.harmless (same : r.SameField) : r.Harmless := by
  cases same with
  | absent plain remarked =>
    exact ⟨fun f lead rest first => absurd first.place (plain f lead rest),
      fun f lead rest first => absurd first.place (remarked f lead rest),
      fun f lead rest first => absurd first.place (remarked f lead rest)⟩
  | @above f lead mid headed plain remarked =>
    have lengths := congrArg List.length headed
    have positive := f.length_pos
    simp only [List.length_append] at lengths
    constructor
    · rintro f lead rest first ⟨-, late⟩
      obtain ⟨rfl, rfl, -⟩ := first.unique plain
      omega
    · rintro f lead rest first ⟨late, -⟩
      obtain ⟨rfl, rfl, -⟩ := first.unique remarked
      omega
    · rintro f lead rest first ⟨late, -⟩
      obtain ⟨rfl, rfl, -⟩ := first.unique remarked
      omega
  | @below f mid rest plain remarked =>
    have positive := f.length_pos
    constructor
    · rintro f lead rest first ⟨early, -⟩
      obtain ⟨rfl, rfl, -⟩ := first.unique plain
      simp only [List.length_append] at early
      omega
    · rintro f lead rest first ⟨-, early⟩
      obtain ⟨rfl, rfl, -⟩ := first.unique remarked
      simp only [List.length_append] at early
      omega
    · rintro f lead rest first ⟨-, early⟩
      obtain ⟨rfl, rfl, -⟩ := first.unique remarked
      simp only [List.length_append] at early
      omega

theorem SameField.firstField?_eq (same : r.SameField) : firstField? r.remarked = firstField? r.plain := by
  cases same with
  | absent plain remarked => rw [firstField?_eq_none_iff.mpr plain, firstField?_eq_none_iff.mpr remarked]
  | above _ plain remarked | below plain remarked =>
    rw [firstField?_eq_some_iff.mpr ⟨_, _, _, plain, rfl⟩, firstField?_eq_some_iff.mpr ⟨_, _, _, remarked, rfl⟩]

/-- What stands below the first field changes nothing. -/
theorem harmless_of_above (place : r.head = lead ++ (f.chars ++ rest)) : r.Harmless := by
  have positive := f.length_pos
  have lengths := congrArg List.length place
  simp only [List.length_append] at lengths
  have inPlain : r.plain = lead ++ (f.chars ++ (rest ++ r.below)) := by simp [plain, place]
  have inRemarked : r.remarked = lead ++ (f.chars ++ (rest ++ (r.line ++ r.below))) := by simp [remarked, place]
  constructor
  · rintro g lead' rest' first ⟨-, late⟩
    have ends := Field.ends_within place first.place (first.leftmost f lead _ inPlain)
    omega
  · rintro g lead' rest' first ⟨late, -⟩
    have before := first.leftmost f lead _ inRemarked
    omega
  · rintro g lead' rest' first ⟨late, -⟩
    have ends := Field.ends_within place first.place (first.leftmost f lead _ inRemarked)
    omega

/-- A comment without a quote and without the name of the field does no harm, unless it is put into the field. -/
theorem harmless_of_words (noQuote : '"' ∉ r.line) (noName : ¬ fieldName <:+: r.line)
    (whole : ∀ (f : Field) (lead rest : List Char), f.IsFirst r.plain lead rest → ¬ r.Parts f lead) : r.Harmless := by
  refine ⟨whole, fun f lead rest first => ?_, fun f lead rest first => ?_⟩
  · rintro ⟨late, early⟩
    obtain ⟨mid, headed, -⟩ | ⟨mid, rfl, behind⟩ | ⟨us, ws, front, -, headed, -, -⟩ := Field.place_cases first.place
    · have positive := f.length_pos
      simp only [headed, List.length_append] at late
      omega
    · rcases List.append_eq_append_iff.mp behind with ⟨more, rfl, -⟩ | ⟨part, lined, named⟩
      · simp only [List.length_append] at early
        omega
      · rw [Field.chars, List.append_assoc] at named
        rcases List.append_eq_append_iff.mp named with ⟨words, name, -⟩ | ⟨words, name, -⟩
        · exact noName ⟨mid, words, by simp [lined, name]⟩
        · -- The name would have to go on behind the line break.
          have filled : part ≠ [] := by
            rintro rfl
            simp only [lined, List.length_append, List.length_nil] at early
            omega
          have inside := List.mem_of_getLast? (getLast?_of_append r.getLast?_line lined filled)
          have named : '\n' ∈ fieldName := name ▸ List.mem_append_left _ inside
          exact absurd named (by decide)
    · have positive := List.length_pos_iff.mpr front
      simp only [headed, List.length_append] at late
      omega
  · rintro ⟨late, early⟩
    have quoted {cs : List Char} (quote : '"' ∈ cs) (whole : cs <+: r.line ++ r.below)
        (short : cs.length ≤ r.line.length) : False :=
      noQuote ((List.prefix_of_prefix_length_le whole (List.prefix_append _ _) short).subset quote)
    have closing : '"' ∈ f.chars := List.mem_of_getLast? f.getLast?_chars
    obtain ⟨mid, headed, -⟩ | ⟨mid, rfl, behind⟩ | ⟨us, ws, -, back, headed, chars, behind⟩ :=
      Field.place_cases first.place
    · simp only [headed, List.length_append] at late
      omega
    · refine quoted (List.mem_append_right mid closing) ⟨rest, by rw [behind, List.append_assoc]⟩ ?_
      simp only [List.length_append] at early ⊢
      omega
    · have last := getLast?_of_append f.getLast?_chars chars back
      refine quoted (List.mem_of_getLast? last) ⟨rest, behind.symm⟩ ?_
      simp only [headed, chars, List.length_append] at early
      omega

end Remark

end Manifest

/-- A manifest that can be read decides on the version of a release that was not asked for one. -/
theorem Version.resolve_of_readText {w : Workspace} {projectDir : Path} {text : String}
    (read : w.readText (projectDir.join manifestName) = .ok text) :
    resolve w none projectDir = match Manifest.version? text with
      | some version => accept version
      | none => .error (.versionMissing (projectDir.join manifestName)) := by
  have there : w.exists? (projectDir.join manifestName) := by
    cases found : w.find (projectDir.join manifestName) with
    | error fault => simp [Workspace.readText, Workspace.read, found, bind, Except.bind] at read
    | ok entry => simp [Workspace.exists?, Workspace.entry?, found]
  simp only [resolve, there, read]
  rfl

namespace Manifest

/-- A comment does no harm just if the same field is found with it and without it, and then it does not change the
version of the release. Below the first field it never does harm, and elsewhere only if it is put into that field, has
a quote in it, or has the name of the field in it. -/
theorem Remark.harmless_iff (r : Remark) :
    (r.Harmless ↔ r.SameField) ∧
    (r.Harmless → version? (String.ofList r.remarked) = version? (String.ofList r.plain) ∧
      ∀ (w v : Workspace) (projectDir : Path),
        w.readText (projectDir.join Version.manifestName) = .ok (String.ofList r.plain) →
        v.readText (projectDir.join Version.manifestName) = .ok (String.ofList r.remarked) →
        Version.resolve v none projectDir = Version.resolve w none projectDir) ∧
    (∀ (f : Field) (lead rest : List Char), r.head = lead ++ (f.chars ++ rest) → r.Harmless) ∧
    ('"' ∉ r.line → ¬ fieldName <:+: r.line →
      (∀ (f : Field) (lead rest : List Char), f.IsFirst r.plain lead rest → ¬ r.Parts f lead) → r.Harmless) := by
  refine ⟨⟨Harmless.sameField, SameField.harmless⟩, fun harmless => ?_, fun f lead rest => harmless_of_above,
    harmless_of_words⟩
  have same : version? (String.ofList r.remarked) = version? (String.ofList r.plain) := by
    simp only [version?, String.toList_ofList, harmless.sameField.firstField?_eq]
  refine ⟨same, fun w v projectDir readPlain readRemarked => ?_⟩
  rw [Version.resolve_of_readText readPlain, Version.resolve_of_readText readRemarked, same]

namespace Remark

/-- A workspace with nothing but a manifest in it. -/
def workspaceOf (text : List Char) : Workspace :=
  ⟨⟨[(["build.zig.zon"], .file (Text.Utf8.encode (String.ofList text)) false)], []⟩, [], []⟩

/-- The version that was released before, below the one that is to be. -/
def former : Remark where
  above := ".\x7b\n    .version = \"0.6.0\",".toList
  blanks := "    ".toList
  words := " .version = \"0.5.0\",".toList
  below := "\x7d".toList
  blank := List.all_eq_true.mp (by decide)
  oneLine := by decide

theorem harmless_iff_former :
    former.SameField ∧ version? (String.ofList former.remarked) = some "0.6.0" ∧
      Version.resolve (workspaceOf former.remarked) none ⟨""⟩ = .ok "0.6.0" := by
  obtain ⟨sameField, version, above, -⟩ := former.harmless_iff
  have harmless : former.Harmless := by
    obtain ⟨f, lead, rest, first, -⟩ := firstField?_eq_some_iff.mp
      (show firstField? former.head = some "0.6.0".toList by decide +kernel)
    exact above f lead rest first.place
  obtain ⟨same, resolved⟩ := version harmless
  refine ⟨sameField.mp harmless, same.trans (by decide +kernel), ?_⟩
  rw [resolved (workspaceOf former.plain) (workspaceOf former.remarked) ⟨""⟩
    (TaskM.eq_ok_of_toOption (by decide +kernel)) (TaskM.eq_ok_of_toOption (by decide +kernel))]
  exact TaskM.eq_ok_of_toOption (by decide +kernel)

def harmful : List Remark := [
  -- It has the version that was released before, above the one that is to be.
  { above := ".\x7b".toList, blanks := "    ".toList, words := " .version = \"0.5.0\",".toList,
    below := "    .version = \"0.6.0\",\n\x7d".toList, blank := List.all_eq_true.mp (by decide), oneLine := by decide },
  -- It stands between the sign and the value.
  { above := ".\x7b .version =".toList, blanks := [], words := " as in the change log".toList,
    below := "\"0.6.0\" \x7d".toList, blank := List.all_eq_true.mp (by decide), oneLine := by decide },
  -- It stands in a value that goes over two lines.
  { above := ".\x7b .version = \"0.6.0".toList, blanks := [], words := " not closed here".toList,
    below := "\" \x7d".toList, blank := List.all_eq_true.mp (by decide), oneLine := by decide },
  -- It ends where a value begins.
  { above := ".\x7b".toList, blanks := "    ".toList, words := " formerly .version = \"".toList,
    below := "    .version = \"0.6.0\",\n\x7d".toList, blank := List.all_eq_true.mp (by decide), oneLine := by decide },
  -- It closes a value that is not closed otherwise.
  { above := ".\x7b .version = \"0.6.0,".toList, blanks := [], words := " the version\"".toList,
    below := "\x7d".toList, blank := List.all_eq_true.mp (by decide), oneLine := by decide }]

/-- A comment can change the version that a manifest declares. -/
theorem changes_version : harmful.Forall fun r =>
    version? (String.ofList r.remarked) ≠ version? (String.ofList r.plain) := by
  rw [List.forall_iff_forall_mem]
  decide +kernel

end Remark

end Manifest

end ReleaseMatrix
