import ReleaseMatrix.Proofs.Execution
import ReleaseMatrix.Proofs.TripleGrammar
import ReleaseMatrix.Version.Resolve
import Mathlib.Data.List.TakeWhile

namespace ReleaseMatrix

theorem Text.forall_mem_splitChars_iff {sep : Char} {cs : List Char} {p : Char → Prop} :
    (∀ piece ∈ splitChars sep cs, ∀ c ∈ piece, p c) ↔ ∀ c ∈ cs, c = sep ∨ p c := by
  induction cs with
  | nil => simp [splitChars]
  | cons c cs ih =>
    obtain ⟨piece, pieces, split⟩ := List.exists_cons_of_ne_nil (splitChars_ne_nil sep cs)
    by_cases same : c = sep
    · rw [same, splitChars_cons_self, List.forall_mem_cons, List.forall_mem_cons, ih]
      simp
    · rw [splitChars_cons_of_ne same split, List.forall_mem_cons, List.forall_mem_cons, List.forall_mem_cons, ← ih, split,
        List.forall_mem_cons]
      simp [same, and_assoc]

namespace Version

/-- What follows does not go on with characters of a kind. -/
def Stops (kind : Char → Bool) (rest : List Char) : Prop :=
  ∀ c ∈ rest.head?, kind c = false

/-- Letters, digits and hyphens. In a pre-release a number has no zero in front. -/
structure IsIdentifier (part : Part) (identifier : List Char) : Prop where
  filled : identifier ≠ []
  letters : ∀ c ∈ identifier, isIdentifierChar c
  canonical : part = .preRelease → (∀ c ∈ identifier, c.isDigit) → ∀ more, identifier = '0' :: more → more = []

/-- Identifiers with dots between them. -/
def AreIdentifiers (part : Part) (text : String) : Prop :=
  ∀ identifier ∈ Text.splitChars '.' text.toList, IsIdentifier part identifier

/-- A version as the rules of semantic versions have it, with numbers of 64 bits. -/
structure WellFormed (v : Version) : Prop where
  major : v.major < numberBound
  minor : v.minor < numberBound
  patch : v.patch < numberBound
  preRelease : v.preRelease = "" ∨ AreIdentifiers .preRelease v.preRelease
  build : v.build = "" ∨ AreIdentifiers .build v.build

section Digits

variable {c : Char} {ds : List Char} {m n : Nat}

theorem toDigits_inj (same : Nat.toDigits 10 n = Nat.toDigits 10 m) : n = m := by
  have values := congrArg (Nat.ofDigitChars 10 · 0) same
  simpa only [Nat.ofDigitChars_toDigits (by decide : 1 < 10) (by decide : 10 ≤ 10)] using values

theorem le_ofDigitChars (ds : List Char) (n : Nat) : n ≤ Nat.ofDigitChars 10 ds n := by
  induction ds generalizing n with
  | nil => exact Nat.le_refl n
  | cons d ds ih =>
    rw [Nat.ofDigitChars_cons]
    exact Nat.le_trans (by omega) (ih _)

/-- More digits make no smaller number. -/
theorem le_of_toDigits_append (digits : Nat.toDigits 10 n = Nat.toDigits 10 m ++ ds) : m ≤ n := by
  have value := congrArg (Nat.ofDigitChars 10 · 0) digits
  simp only [Nat.ofDigitChars_append, Nat.ofDigitChars_toDigits (by decide : 1 < 10) (by decide : 10 ≤ 10)] at value
  exact value ▸ le_ofDigitChars ds m

theorem digitChar_of_isDigit (digit : c.isDigit) : c.toNat - '0'.toNat < 10 ∧ Nat.digitChar (c.toNat - '0'.toNat) = c := by
  have range : 48 ≤ c.toNat ∧ c.toNat ≤ 57 := by
    simpa [Char.isDigit, UInt32.le_iff_toNat_le] using digit
  have zero : '0'.toNat = 48 := rfl
  have small : c.toNat - '0'.toNat < 10 := by omega
  refine ⟨small, Char.toNat_inj.mp ?_⟩
  rw [Nat.toNat_digitChar_of_lt_ten small]
  omega

theorem toDigits_of_isDigit (digit : c.isDigit) : Nat.toDigits 10 (c.toNat - '0'.toNat) = [c] := by
  obtain ⟨small, same⟩ := digitChar_of_isDigit digit
  rw [Nat.toDigits_of_lt_base small, same]

theorem toDigits_concat (positive : 0 < n) (digit : c.isDigit) :
    Nat.toDigits 10 (n * 10 + (c.toNat - '0'.toNat)) = Nat.toDigits 10 n ++ [c] := by
  have joined := Nat.toDigits_append_toDigits (by decide : 1 < 10) positive (digitChar_of_isDigit digit).1
  rw [Nat.mul_comm, ← joined, toDigits_of_isDigit digit]

/-- Only the number zero is written with a zero in front. -/
theorem eq_nil_of_toDigits_zero_cons (digits : Nat.toDigits 10 n = '0' :: ds) : ds = [] := by
  induction n using Nat.strongRecOn generalizing ds with
  | ind n ih =>
    by_cases small : n < 10
    · rw [Nat.toDigits_of_lt_base small] at digits
      exact (List.cons.inj digits).2.symm
    · have parts := Nat.toDigits_append_toDigits (by decide : 1 < 10) (show 0 < n / 10 by omega)
        (show n % 10 < 10 by omega)
      rw [Nat.div_add_mod, digits] at parts
      obtain ⟨d, front, split⟩ := List.exists_cons_of_ne_nil (Nat.toDigits_ne_nil (n := n / 10) (b := 10))
      obtain rfl : d = '0' := by
        rw [split] at parts
        exact (List.cons.inj parts).1
      obtain rfl := ih (n / 10) (by omega) split
      have zero : n / 10 = 0 := toDigits_inj split
      omega

end Digits

variable {part : Part} {cs rest : List Char} {n value : Nat} {text : String}

/-- Behind the digits of `value` stand the others of `n`, and no more of them. -/
def Completes (value n : Nat) (cs rest : List Char) : Prop :=
  ∃ ds, cs = ds ++ rest ∧ Nat.toDigits 10 n = Nat.toDigits 10 value ++ ds ∧ n < numberBound ∧ Stops Char.isDigit rest

section Completing

variable {c : Char}

theorem completes_iff_of_stops (small : value < numberBound) (stops : Stops Char.isDigit cs) :
    Completes value n cs rest ↔ value = n ∧ cs = rest := by
  constructor
  · rintro ⟨_ | ⟨d, ds⟩, rfl, digits, -⟩
    · exact ⟨(toDigits_inj (by simpa using digits)).symm, rfl⟩
    · have inside : d ∈ Nat.toDigits 10 n := by simp [digits]
      have digit := Nat.isDigit_of_mem_toDigits (by decide) (by decide) inside
      have other := stops d rfl
      simp [digit] at other
  · rintro ⟨rfl, rfl⟩
    exact ⟨[], rfl, by simp, small, stops⟩

theorem Completes.exists_cons (digit : c.isDigit) (completes : Completes value n (c :: cs) rest) :
    ∃ ds, cs = ds ++ rest ∧ Nat.toDigits 10 n = Nat.toDigits 10 value ++ c :: ds ∧ n < numberBound ∧
      Stops Char.isDigit rest := by
  obtain ⟨_ | ⟨d, ds⟩, whole, digits, bound, stops⟩ := completes
  · rw [List.nil_append] at whole
    have other := stops c (by simp [← whole])
    simp [digit] at other
  · obtain ⟨rfl, rfl⟩ := List.cons.inj whole
    exact ⟨ds, rfl, digits, bound, stops⟩

theorem not_completes_zero (digit : c.isDigit) : ¬ Completes 0 n (c :: cs) rest := by
  intro completes
  obtain ⟨ds, -, digits, -⟩ := completes.exists_cons digit
  exact absurd (eq_nil_of_toDigits_zero_cons digits) (by simp)

theorem completes_cons_iff (positive : 0 < value) (digit : c.isDigit) :
    Completes value n (c :: cs) rest ↔ Completes (value * 10 + (c.toNat - '0'.toNat)) n cs rest := by
  have regroup (ds : List Char) : Nat.toDigits 10 (value * 10 + (c.toNat - '0'.toNat)) ++ ds =
      Nat.toDigits 10 value ++ c :: ds := by
    rw [toDigits_concat positive digit, List.append_assoc, List.singleton_append]
  constructor
  · intro completes
    obtain ⟨ds, rfl, digits, bound, stops⟩ := completes.exists_cons digit
    exact ⟨ds, rfl, digits.trans (regroup ds).symm, bound, stops⟩
  · rintro ⟨ds, rfl, digits, bound, stops⟩
    exact ⟨c :: ds, rfl, digits.trans (regroup ds), bound, stops⟩

end Completing

theorem readDigits_eq_ok_iff (small : value < numberBound) :
    readDigits part value cs = .ok (n, rest) ↔ Completes value n cs rest := by
  induction cs generalizing value with
  | nil =>
    rw [completes_iff_of_stops small (by simp [Stops])]
    simp [readDigits]
  | cons c cs ih =>
    by_cases digit : c.isDigit
    · rw [readDigits, if_pos digit]
      dsimp only
      by_cases zero : value = 0
      · rw [if_pos zero, zero]
        exact iff_of_false (by simp) (not_completes_zero digit)
      · rw [if_neg zero, completes_cons_iff (Nat.pos_of_ne_zero zero) digit]
        split
        · next fits => exact ih fits
        · next large =>
          refine iff_of_false (by simp) ?_
          rintro ⟨ds, -, digits, bound, -⟩
          exact large (Nat.lt_of_le_of_lt (le_of_toDigits_append digits) bound)
    · rw [readDigits, if_neg digit, completes_iff_of_stops small (by simpa [Stops] using digit)]
      simp

/-- A number is read from its digits, all that stand there, and only from those that it is written with. -/
theorem readNumber_eq_ok_iff : readNumber part cs = .ok (n, rest) ↔
    cs = Nat.toDigits 10 n ++ rest ∧ n < numberBound ∧ Stops Char.isDigit rest := by
  cases cs with
  | nil => simp [readNumber, Nat.toDigits_ne_nil]
  | cons c cs =>
    by_cases digit : c.isDigit
    · have small : c.toNat - '0'.toNat < numberBound :=
        Nat.lt_trans (digitChar_of_isDigit digit).1 (by decide)
      rw [readNumber, if_pos digit, readDigits_eq_ok_iff small, Completes, toDigits_of_isDigit digit]
      constructor
      · rintro ⟨ds, rfl, digits, bound, stops⟩
        exact ⟨by rw [digits]; rfl, bound, stops⟩
      · rintro ⟨whole, bound, stops⟩
        obtain ⟨d, ds, digits⟩ := List.exists_cons_of_ne_nil (Nat.toDigits_ne_nil (n := n) (b := 10))
        rw [digits] at whole
        obtain ⟨rfl, rfl⟩ := List.cons.inj whole
        exact ⟨ds, rfl, digits, bound, stops⟩
    · rw [readNumber, if_neg digit]
      refine iff_of_false (by simp) ?_
      rintro ⟨whole, -⟩
      obtain ⟨d, ds, digits⟩ := List.exists_cons_of_ne_nil (Nat.toDigits_ne_nil (n := n) (b := 10))
      have inside : d ∈ Nat.toDigits 10 n := by simp [digits]
      rw [digits] at whole
      obtain ⟨rfl, -⟩ := List.cons.inj whole
      exact digit (Nat.isDigit_of_mem_toDigits (by decide) (by decide) inside)

theorem readDot_eq_ok_iff : readDot part cs = .ok rest ↔ cs = '.' :: rest := by
  cases cs with
  | nil => simp [readDot]
  | cons c cs =>
    by_cases dot : c = '.' <;> simp [readDot, dot]

theorem checkIdentifier_eq_ok_iff {identifier : List Char} : checkIdentifier part identifier = .ok () ↔
    identifier ≠ [] ∧
      (part = .preRelease → (∀ c ∈ identifier, c.isDigit) → ∀ more, identifier = '0' :: more → more = []) := by
  unfold checkIdentifier
  cases identifier with
  | nil => simp
  | cons c more =>
    rw [if_neg (by simp)]
    split
    · next refused =>
      obtain ⟨⟨⟨pre, digits⟩, long⟩, zero⟩ :
          ((part = .preRelease ∧ ∀ d ∈ c :: more, d.isDigit) ∧ 1 < (c :: more).length) ∧ c = '0' := by
        simpa using refused
      refine iff_of_false (by simp) ?_
      rintro ⟨-, canonical⟩
      have single := canonical pre digits more (by rw [zero])
      simp [single] at long
    · next accepted =>
      refine iff_of_true rfl ⟨by simp, fun pre digits rest zero => ?_⟩
      obtain ⟨rfl, rfl⟩ := List.cons.inj zero
      have all : ('0' :: more).all Char.isDigit := List.all_eq_true.mpr digits
      simpa [pre, all] using accepted

theorem checkIdentifiers_eq_ok_iff {pieces : List (List Char)} :
    checkIdentifiers part pieces = .ok () ↔ ∀ piece ∈ pieces, checkIdentifier part piece = .ok () := by
  induction pieces with
  | nil => simp [checkIdentifiers]
  | cons piece pieces ih =>
    rw [checkIdentifiers, List.forall_mem_cons, ← ih]
    cases checkIdentifier part piece with
    | error fault => simp [bind, Except.bind]
    | ok checked => simp [bind, Except.bind]

/-- The characters of identifiers and the dots between them. -/
def belongs (c : Char) : Bool :=
  isIdentifierChar c || c == '.'

theorem areIdentifiers_iff : AreIdentifiers part text ↔
    checkIdentifiers part (Text.splitChars '.' text.toList) = .ok () ∧ ∀ c ∈ text.toList, belongs c := by
  have letters : (∀ c ∈ text.toList, belongs c) ↔
      ∀ piece ∈ Text.splitChars '.' text.toList, ∀ c ∈ piece, isIdentifierChar c := by
    rw [Text.forall_mem_splitChars_iff]
    simp [belongs, or_comm]
  rw [letters, checkIdentifiers_eq_ok_iff]
  simp only [checkIdentifier_eq_ok_iff, AreIdentifiers]
  constructor
  · intro all
    exact ⟨fun piece member => ⟨(all piece member).filled, (all piece member).canonical⟩,
      fun piece member => (all piece member).letters⟩
  · rintro ⟨checked, letters⟩ piece member
    exact ⟨(checked piece member).1, letters piece member, (checked piece member).2⟩

theorem AreIdentifiers.ne_empty (all : AreIdentifiers part text) : text ≠ "" := by
  rintro rfl
  exact (all [] (by simp [Text.splitChars])).filled rfl

theorem readIdentifiers_eq_ok_iff : readIdentifiers part cs = .ok (text, rest) ↔
    AreIdentifiers part text ∧ cs = text.toList ++ rest ∧ Stops belongs rest := by
  have split : cs = text.toList ++ rest ∧ Stops belongs rest ∧ (∀ c ∈ text.toList, belongs c) ↔
      cs.takeWhile belongs = text.toList ∧ cs.dropWhile belongs = rest := by
    constructor
    · rintro ⟨rfl, stops, all⟩
      rw [List.takeWhile_append_of_pos all, List.dropWhile_append_of_pos all]
      cases rest with
      | nil => simp
      | cons c rest =>
        have other : belongs c = false := stops c rfl
        simp [other]
    · rintro ⟨taken, rfl⟩
      refine ⟨by rw [← taken, List.takeWhile_append_dropWhile], ?_, fun c member => ?_⟩
      · intro c first
        have other := List.head?_dropWhile_not belongs cs
        rwa [Option.mem_def.mp first] at other
      · exact List.mem_takeWhile_imp (taken ▸ member)
  have read : readIdentifiers part cs = .ok (text, rest) ↔
      checkIdentifiers part (Text.splitChars '.' (cs.takeWhile belongs)) = .ok () ∧
        cs.takeWhile belongs = text.toList ∧ cs.dropWhile belongs = rest := by
    have spelled : String.ofList (cs.takeWhile belongs) = text ↔ cs.takeWhile belongs = text.toList := by
      rw [← String.toList_inj, String.toList_ofList]
    change (checkIdentifiers part (Text.splitChars '.' (cs.takeWhile belongs)) >>= fun _ =>
      pure (String.ofList (cs.takeWhile belongs), cs.dropWhile belongs)) = Except.ok (text, rest) ↔ _
    cases checkIdentifiers part (Text.splitChars '.' (cs.takeWhile belongs)) with
    | error fault => simp [bind, Except.bind]
    | ok checked => simp [bind, Except.bind, pure, Except.pure, spelled]
  rw [read, areIdentifiers_iff]
  constructor
  · rintro ⟨checked, taken⟩
    obtain ⟨whole, stops, all⟩ := split.mpr taken
    exact ⟨⟨taken.1 ▸ checked, all⟩, whole, stops⟩
  · rintro ⟨⟨checked, all⟩, whole, stops⟩
    have taken := split.mp ⟨whole, stops, all⟩
    exact ⟨taken.1.symm ▸ checked, taken⟩

/-- Identifiers are read behind their mark. Where it is missing nothing is read. -/
theorem readMarked_eq_ok_iff {mark : Char} : readMarked part mark cs = .ok (text, rest) ↔
    (text = "" ∧ cs = rest ∧ cs.head? ≠ some mark) ∨
      AreIdentifiers part text ∧ cs = mark :: (text.toList ++ rest) ∧ Stops belongs rest := by
  have unread : (Except.ok ("", cs) : Except Fault (String × List Char)) = .ok (text, rest) ↔ text = "" ∧ cs = rest := by
    simp only [Except.ok.injEq, Prod.mk.injEq, eq_comm]
  cases cs with
  | nil =>
    rw [readMarked, unread]
    simp
  | cons c cs =>
    rw [readMarked]
    by_cases same : c = mark
    · rw [if_pos same, readIdentifiers_eq_ok_iff]
      simp [same]
    · rw [if_neg same, unread]
      simp [same]

def markedChars (mark : Char) (identifiers : String) : List Char :=
  if identifiers = "" then [] else mark :: identifiers.toList

theorem toList_render (v : Version) : v.render.toList = Nat.toDigits 10 v.major ++ '.' :: (Nat.toDigits 10 v.minor ++
    '.' :: (Nat.toDigits 10 v.patch ++ (markedChars '-' v.preRelease ++ markedChars '+' v.build))) := by
  have printed (mark : String) (c : Char) (same : mark.toList = [c]) (identifiers : String) :
      (marked mark identifiers).toList = markedChars c identifiers := by
    unfold marked markedChars
    split <;> simp [same]
  simp [render, printed "-" '-' rfl, printed "+" '+' rfl, Nat.toString_eq_repr, Nat.toList_repr]

theorem stops_markedChars {kind : Char → Bool} {mark : Char} (other : kind mark = false) (stops : Stops kind rest) :
    Stops kind (markedChars mark text ++ rest) := by
  unfold markedChars
  split
  · exact stops
  · simpa [Stops] using other

/-- Identifiers are read as they are printed, where what follows is no part of them. -/
theorem readMarked_markedChars {mark : Char} (spelled : text = "" ∨ AreIdentifiers part text)
    (stops : Stops (fun c => belongs c || c == mark) rest) :
    readMarked part mark (markedChars mark text ++ rest) = .ok (text, rest) := by
  have notBelongs : Stops belongs rest := fun c first => (Bool.or_eq_false_iff.mp (stops c first)).1
  have notMark : rest.head? ≠ some mark := fun first => by simpa using stops mark first
  refine readMarked_eq_ok_iff.mpr ?_
  obtain rfl | all := spelled
  · exact .inl ⟨rfl, rfl, notMark⟩
  · exact .inr ⟨all, by simp [markedChars, all.ne_empty], notBelongs⟩

theorem eq_markedChars_of_readMarked {mark : Char} (read : readMarked part mark cs = .ok (text, rest)) :
    cs = markedChars mark text ++ rest ∧ (text = "" ∨ AreIdentifiers part text) := by
  obtain ⟨rfl, rfl, -⟩ | ⟨all, rfl, -⟩ := readMarked_eq_ok_iff.mp read
  · exact ⟨rfl, .inl rfl⟩
  · exact ⟨by simp [markedChars, all.ne_empty], .inr all⟩

/-- Reading that succeeds did so up to its last step. -/
theorem exists_of_bind_ok {ε α β : Type} {x : Except ε α} {f : α → Except ε β} {b : β} (ok : (x >>= f) = .ok b) :
    ∃ a, x = .ok a ∧ f a = .ok b := by
  cases x with
  | error e => cases ok
  | ok a => exact ⟨a, rfl, ok⟩

/-- A text is a version just if it is what that version is printed as, and the version obeys the rules. -/
theorem parse_eq_ok_iff {s : String} {v : Version} : parse s = .ok v ↔ v.WellFormed ∧ v.render = s := by
  constructor
  · intro parsed
    unfold parse at parsed
    split at parsed
    · cases parsed
    obtain ⟨⟨major, afterMajor⟩, readMajor, parsed⟩ := exists_of_bind_ok parsed
    obtain ⟨afterDot, firstDot, parsed⟩ := exists_of_bind_ok parsed
    obtain ⟨⟨minor, afterMinor⟩, readMinor, parsed⟩ := exists_of_bind_ok parsed
    obtain ⟨afterNext, nextDot, parsed⟩ := exists_of_bind_ok parsed
    obtain ⟨⟨patch, afterPatch⟩, readPatch, parsed⟩ := exists_of_bind_ok parsed
    obtain ⟨⟨preRelease, afterPre⟩, readPre, parsed⟩ := exists_of_bind_ok parsed
    obtain ⟨⟨build, rest⟩, readBuild, parsed⟩ := exists_of_bind_ok parsed
    cases rest with
    | cons c cs => cases parsed
    | nil =>
      obtain rfl := Except.ok.inj parsed
      obtain ⟨digitsMajor, boundMajor, -⟩ := readNumber_eq_ok_iff.mp readMajor
      obtain ⟨digitsMinor, boundMinor, -⟩ := readNumber_eq_ok_iff.mp readMinor
      obtain ⟨digitsPatch, boundPatch, -⟩ := readNumber_eq_ok_iff.mp readPatch
      obtain ⟨printedPre, pre⟩ := eq_markedChars_of_readMarked readPre
      obtain ⟨printedBuild, build⟩ := eq_markedChars_of_readMarked readBuild
      refine ⟨⟨boundMajor, boundMinor, boundPatch, pre, build⟩, String.toList_inj.mp ?_⟩
      rw [toList_render, digitsMajor, readDot_eq_ok_iff.mp firstDot, digitsMinor, readDot_eq_ok_iff.mp nextDot,
        digitsPatch, printedPre, printedBuild, List.append_nil]
  · rintro ⟨⟨boundMajor, boundMinor, boundPatch, pre, build⟩, rfl⟩
    have dot (cs : List Char) : Stops Char.isDigit ('.' :: cs) := by
      simp [Stops]
    have letters := toList_render v
    have filled : v.render ≠ "" := by
      intro empty
      rw [empty] at letters
      simp at letters
    have closing {kind : Char → Bool} (other : kind '+' = false) : Stops kind (markedChars '+' v.build) := by
      have stops : Stops kind (markedChars '+' v.build ++ []) := stops_markedChars other (by simp [Stops])
      rwa [List.append_nil] at stops
    have afterPatch : Stops Char.isDigit (markedChars '-' v.preRelease ++ markedChars '+' v.build) :=
      stops_markedChars (by decide) (closing (by decide))
    have readPre : readMarked .preRelease '-' (markedChars '-' v.preRelease ++ markedChars '+' v.build) =
        .ok (v.preRelease, markedChars '+' v.build) :=
      readMarked_markedChars pre (closing (by decide))
    have readBuild : readMarked .build '+' (markedChars '+' v.build) = .ok (v.build, []) := by
      have read : readMarked .build '+' (markedChars '+' v.build ++ []) = .ok (v.build, []) :=
        readMarked_markedChars build (by simp [Stops])
      rwa [List.append_nil] at read
    rw [parse, if_neg filled, letters]
    simp only [readNumber_eq_ok_iff.mpr ⟨rfl, boundMajor, dot _⟩, readNumber_eq_ok_iff.mpr ⟨rfl, boundMinor, dot _⟩,
      readNumber_eq_ok_iff.mpr ⟨rfl, boundPatch, afterPatch⟩, readDot_eq_ok_iff.mpr rfl, readPre, readBuild, bind,
      Except.bind, pure, Except.pure]

theorem check_eq_ok_iff {s : String} {v : Version} : check s = .ok v ↔ v.WellFormed ∧ v.render = s := by
  rw [← parse_eq_ok_iff, check]
  cases parse s <;> simp [Except.mapError]

/-- The characters that versions are written in. -/
def isVersionChar (c : Char) : Bool :=
  belongs c || c == '+'

theorem isVersionChar_of_isDigit {c : Char} (digit : c.isDigit) : isVersionChar c := by
  simp [isVersionChar, belongs, isIdentifierChar, Char.isAlphanum, digit]

theorem isVersionChar_of_markedChars {mark c : Char} (fits : isVersionChar mark)
    (spelled : text = "" ∨ AreIdentifiers part text) (member : c ∈ markedChars mark text) : isVersionChar c := by
  unfold markedChars at member
  split at member
  · cases member
  · next filled =>
    have letters := (areIdentifiers_iff.mp (spelled.resolve_left filled)).2
    rcases List.mem_cons.mp member with rfl | member
    · exact fits
    · rw [isVersionChar, letters c member, Bool.true_or]

theorem isVersionChar_of_check {version : String} {v : Version} (ok : check version = .ok v) :
    ∀ c ∈ version.toList, isVersionChar c := by
  obtain ⟨wellFormed, rfl⟩ := check_eq_ok_iff.mp ok
  intro c member
  have dot : isVersionChar '.' := by decide
  have digit {n : Nat} (inside : c ∈ Nat.toDigits 10 n) : isVersionChar c :=
    isVersionChar_of_isDigit (Nat.isDigit_of_mem_toDigits (by decide) (by decide) inside)
  rw [toList_render] at member
  simp only [List.mem_append, List.mem_cons] at member
  obtain major | rfl | minor | rfl | patch | pre | build := member
  · exact digit major
  · exact dot
  · exact digit minor
  · exact dot
  · exact digit patch
  · exact isVersionChar_of_markedChars (by decide) wellFormed.preRelease pre
  · exact isVersionChar_of_markedChars (by decide) wellFormed.build build

theorem isPlain_of_check {s : String} {v : Version} (checked : check s = .ok v) :
    ∀ c ∈ s.toList, c.isAlphanum ∨ c = '-' ∨ c = '.' ∨ c = '+' := by
  intro c member
  simpa [isVersionChar, belongs, isIdentifierChar, or_assoc] using isVersionChar_of_check checked c member

theorem exists_check_of_accept {version accepted : String} (ok : accept version = .ok accepted) :
    ∃ v, check accepted = .ok v := by
  obtain ⟨v, checked, ok⟩ := exists_of_bind_ok ok
  exact ⟨v, Except.ok.inj ok ▸ checked⟩

/-- The version of a release is checked, wherever it comes from. -/
theorem exists_check_of_resolve {w : Workspace} {explicit? : Option String} {projectDir : Path} {version : String}
    (ok : resolve w explicit? projectDir = .ok version) : ∃ v, check version = .ok v := by
  unfold resolve at ok
  split at ok
  · exact exists_check_of_accept ok
  · by_cases there : w.exists? (projectDir.join manifestName)
    · simp only [there, Bool.not_true, Bool.false_eq_true, if_false] at ok
      obtain ⟨text, -, ok⟩ := exists_of_bind_ok ok
      split at ok
      · exact exists_check_of_accept ok
      · cases ok
    · simp only [there, Bool.not_false, if_true] at ok
      cases ok

theorem noSlash_of_resolve {w : Workspace} {explicit? : Option String} {projectDir : Path} {version : String}
    (ok : resolve w explicit? projectDir = .ok version) : '/' ∉ version.toList := by
  obtain ⟨v, checked⟩ := exists_check_of_resolve ok
  exact fun slash => absurd (isVersionChar_of_check checked _ slash) (by decide)

/-- The version of a release passes its check, and it is what its parts are printed as, so that no other version has
these parts. One that is asked for is the same wherever the project is and whatever files there are, and it is taken
just if it is written by the rules. -/
theorem resolve_canonical (w : Workspace) (explicit? : Option String) (projectDir : Path) :
    (∀ version, resolve w explicit? projectDir = .ok version →
      ∃ v, check version = .ok v ∧ v.render = version ∧ v.WellFormed ∧
        v.major < 2 ^ 64 ∧ v.minor < 2 ^ 64 ∧ v.patch < 2 ^ 64 ∧
        (∀ c ∈ version.toList, c.isAlphanum ∨ c = '-' ∨ c = '.' ∨ c = '+') ∧
        ∀ (u : Workspace) (other? : Option String) (dir : Path) (other : String),
          resolve u other? dir = .ok other → check other = .ok v → other = version) ∧
    ∀ given, explicit? = some given →
      (∀ (u : Workspace) (dir : Path), resolve u explicit? dir = resolve w explicit? projectDir) ∧
      (resolve w explicit? projectDir = .ok given ↔ ∃ v : Version, v.WellFormed ∧ v.render = given) := by
  constructor
  · intro version ok
    obtain ⟨v, checked⟩ := exists_check_of_resolve ok
    obtain ⟨wellFormed, printed⟩ := check_eq_ok_iff.mp checked
    refine ⟨v, checked, printed, wellFormed, wellFormed.major, wellFormed.minor, wellFormed.patch,
      isPlain_of_check checked, fun u other? dir other _ again => ?_⟩
    rw [← printed, (check_eq_ok_iff.mp again).2]
  · rintro given rfl
    refine ⟨fun _ _ => rfl, ?_⟩
    simp only [← check_eq_ok_iff]
    change accept given = .ok given ↔ _
    rw [accept]
    cases check given with
    | error error => simp [bind, Except.bind]
    | ok v => simp [bind, Except.bind, pure, Except.pure]

/-- The number of a build may have a zero in front, as that of a pre-release may not. -/
theorem resolve_canonical_tagged :
    let version := "1.0.0-rc.1+build.05"
    let w : Workspace := ⟨⟨[(["build.zig.zon"], .file (Text.Utf8.encode ".\x7b .version = \"1.0.0-rc.1+build.05\" \x7d") false)],
      []⟩, [], []⟩
    resolve w none ⟨""⟩ = .ok version ∧ (∃ v, check version = .ok v ∧ v.render = version) ∧
      resolve w (some version) ⟨"elsewhere"⟩ = .ok version ∧ ¬ AreIdentifiers .preRelease "rc.01" := by
  intro version w
  have ok : resolve w none ⟨""⟩ = .ok version := TaskM.eq_ok_of_toOption (by decide +kernel)
  obtain ⟨v, checked, printed, wellFormed, -⟩ := (resolve_canonical w none ⟨""⟩).1 version ok
  have asked := ((resolve_canonical w (some version) ⟨"elsewhere"⟩).2 version rfl).2
  refine ⟨ok, ⟨v, checked, printed⟩, asked.mpr ⟨v, wellFormed, printed⟩, fun all => ?_⟩
  have number := (all ['0', '1'] (by decide)).canonical rfl (by simp) ['1'] rfl
  cases number

end Version

end ReleaseMatrix
