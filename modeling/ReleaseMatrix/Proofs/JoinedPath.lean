import ReleaseMatrix.Archive
import ReleaseMatrix.FileTree.Walk

namespace ReleaseMatrix

namespace Text

theorem splitChars_append_sep (sep : Char) (cs ds : List Char) :
    splitChars sep (cs ++ sep :: ds) = splitChars sep cs ++ splitChars sep ds := by
  induction cs with
  | nil => simp [splitChars]
  | cons c cs ih =>
    by_cases same : c = sep
    · simp [splitChars, same, ih]
    · have nonempty := splitChars_ne_nil sep cs
      cases pieces : splitChars sep cs with
      | nil => exact absurd pieces nonempty
      | cons piece rest => simp [splitChars, same, ih, pieces]

theorem splitChars_of_not_mem {sep : Char} {cs : List Char} (absent : sep ∉ cs) :
    splitChars sep cs = [cs] := by
  induction cs with
  | nil => rfl
  | cons c cs ih =>
    obtain ⟨other, rest⟩ : sep ≠ c ∧ sep ∉ cs := by simpa using absent
    simp [splitChars, Ne.symm other, ih rest]

theorem splitChars_joinChars {sep : Char} {pieces : List (List Char)} (nonempty : pieces ≠ [])
    (plain : ∀ piece ∈ pieces, sep ∉ piece) : splitChars sep (joinChars sep pieces) = pieces := by
  induction pieces with
  | nil => exact absurd rfl nonempty
  | cons piece pieces ih =>
    have first := splitChars_of_not_mem (plain piece (by simp))
    cases pieces with
    | nil => exact first
    | cons next pieces =>
      have rest := ih (List.cons_ne_nil _ _) fun piece member => plain piece (by simp [member])
      rw [joinChars, splitChars_append_sep, first, rest, List.singleton_append]

theorem isEmpty_eq_false {s : String} (nonempty : s.toList ≠ []) : s.isEmpty = false := by
  rw [Bool.eq_false_iff, Ne, String.isEmpty_iff]
  rintro rfl
  exact nonempty rfl

theorem joinChars_concat (sep : Char) {pieces : List (List Char)} (nonempty : pieces ≠ []) (last : List Char) :
    joinChars sep (pieces ++ [last]) = joinChars sep pieces ++ sep :: last := by
  induction pieces with
  | nil => exact absurd rfl nonempty
  | cons piece pieces ih =>
    cases pieces with
    | nil => rfl
    | cons next pieces =>
      have := ih (List.cons_ne_nil _ _)
      simp only [List.cons_append, joinChars] at this ⊢
      rw [this, List.append_assoc, List.cons_append]

end Text

/-- A text that stands for an entry of a directory: it is not empty, no dot or two, and has no slash. -/
structure IsName (name : String) : Prop where
  nonempty : name ≠ ""
  notHere : name ≠ "."
  notUp : name ≠ ".."
  noSlash : '/' ∉ name.toList

theorem isName_iff {name : String} : IsName name ↔ name ≠ "" ∧ '/' ∉ name.toList ∧ name ≠ "." ∧ name ≠ ".." :=
  ⟨fun valid => ⟨valid.nonempty, valid.noSlash, valid.notHere, valid.notUp⟩,
    fun ⟨nonempty, noSlash, notHere, notUp⟩ => ⟨nonempty, notHere, notUp, noSlash⟩⟩

instance (name : String) : Decidable (IsName name) :=
  decidable_of_iff _ isName_iff.symm

namespace IsName

variable {name : String}

theorem toList_ne_nil (valid : IsName name) : name.toList ≠ [] := by
  intro empty
  exact valid.nonempty (String.toList_inj.mp (by simpa using empty))

theorem head_ne_slash (valid : IsName name) : name.toList.head? ≠ some '/' := by
  intro slash
  exact valid.noSlash (List.mem_of_head? slash)

theorem ne_closingStep (valid : IsName name) : name ≠ Path.closingStep := by
  rintro rfl
  exact valid.noSlash (by decide)

/-- A text with a dot and more after it is a name, unless only dots stand there. -/
theorem dotted {stem more : String} (nonempty : stem ≠ "") (notHere : stem ≠ ".")
    (noSlash : '/' ∉ stem.toList) (plain : '/' ∉ more.toList) : IsName (stem ++ "." ++ more) := by
  have letters : (stem ++ "." ++ more).toList = stem.toList ++ '.' :: more.toList := by simp
  have full : stem.toList ≠ [] := fun empty => nonempty (String.toList_inj.mp (by simpa using empty))
  have other : stem.toList ≠ ['.'] := fun here => notHere (String.toList_inj.mp (by simpa using here))
  refine ⟨?_, ?_, ?_, by simp [noSlash, plain]⟩ <;>
    rw [Ne, ← String.toList_inj, letters] <;>
    rcases shape : stem.toList with _ | ⟨c, _ | ⟨d, cs⟩⟩ <;> simp_all

theorem split_eq (valid : IsName name) : Text.splitChars '/' name.toList = [name.toList] :=
  Text.splitChars_of_not_mem valid.noSlash

end IsName

namespace Path

variable {name : String}

/-- The text of a joined path is that of the directory, a slash unless one is there, and the name. -/
theorem toList_join (p : Path) (valid : IsName name) :
    (p.join name).text.toList = p.text.toList ++
      (if p.text.toList = [] ∨ p.text.toList.getLast? = some '/' then [] else ['/']) ++ name.toList := by
  have relative := valid.head_ne_slash
  by_cases empty : p.text.toList = []
  · have : p.text = "" := String.toList_inj.mp (by simpa using empty)
    simp [join, relative, this]
  · have := Text.isEmpty_eq_false empty
    by_cases slash : p.text.toList.getLast? = some '/'
    · simp [join, relative, this, slash]
    · simp [join, relative, this, slash, empty]

/-- Splitting a joined path gives the pieces of the directory, which may end in an empty one, and the name. -/
theorem split_join (p : Path) (valid : IsName name) :
    ∃ pieces, Text.splitChars '/' (p.join name).text.toList = pieces ++ [name.toList] ∧
      pieces.filter (· ≠ []) = (Text.splitChars '/' p.text.toList).filter (· ≠ []) := by
  rw [toList_join p valid]
  by_cases empty : p.text.toList = []
  · exact ⟨[], by simp [empty, valid.split_eq], by simp [empty, Text.splitChars]⟩
  by_cases slash : p.text.toList.getLast? = some '/'
  · obtain ⟨before, eq⟩ := List.getLast?_eq_some_iff.mp slash
    refine ⟨Text.splitChars '/' before, ?_, ?_⟩
    · simp [eq, Text.splitChars_append_sep, valid.split_eq]
    · simp [eq, Text.splitChars_append_sep, Text.splitChars]
  · refine ⟨Text.splitChars '/' p.text.toList, ?_, rfl⟩
    simp [slash, empty, Text.splitChars_append_sep, valid.split_eq]

theorem steps_eq (p : Path) :
    p.steps = ((Text.splitChars '/' p.text.toList).filter (· ≠ [])).map String.ofList := by
  rw [steps, Text.split, List.filter_map]
  congr 1
  refine List.filter_congr fun piece _ => ?_
  have : String.ofList piece = "" ↔ piece = [] := by
    rw [← String.toList_inj, String.toList_ofList, String.toList_empty]
  simp [this]

theorem steps_join (p : Path) (valid : IsName name) : (p.join name).steps = p.steps ++ [name] := by
  obtain ⟨pieces, split, same⟩ := p.split_join valid
  have nonempty := valid.toList_ne_nil
  rw [steps_eq, split, List.filter_append, same, List.map_append, ← steps_eq]
  simp [nonempty]

theorem endsInSlash_join (p : Path) (valid : IsName name) : (p.join name).endsInSlash = false := by
  have last : (p.join name).text.toList.getLast? = name.toList.getLast? := by
    have nonempty := valid.toList_ne_nil
    rw [toList_join p valid, List.getLast?_append]
    cases last : name.toList.getLast? with
    | none => exact absurd (List.getLast?_eq_none_iff.mp last) nonempty
    | some c => rfl
  have : name.toList.getLast? ≠ some '/' := fun slash => valid.noSlash (List.mem_of_getLast? slash)
  simpa [endsInSlash, last] using this

theorem lookupSteps_join (p : Path) (valid : IsName name) :
    (p.join name).lookupSteps = p.steps ++ [name] := by
  simp [lookupSteps, steps_join p valid, endsInSlash_join p valid]

theorem isAbsolute_join (p : Path) (valid : IsName name) : (p.join name).isAbsolute = p.isAbsolute := by
  have relative := valid.head_ne_slash
  rw [isAbsolute, isAbsolute, toList_join p valid]
  cases letters : p.text.toList with
  | nil => simpa using relative
  | cons c cs => simp

theorem start_join (p : Path) (valid : IsName name) (here : Location) :
    (p.join name).start here = p.start here := by
  rw [start, start, isAbsolute_join p valid]

theorem text_join_ne_empty (p : Path) (valid : IsName name) : (p.join name).text.isEmpty = false := by
  refine Text.isEmpty_eq_false ?_
  rw [toList_join p valid]
  exact List.append_ne_nil_of_right_ne_nil _ valid.toList_ne_nil

/-- What precedes the name in a joined path: a head and pieces, whatever the name is. -/
theorem exists_splitHead_join (p : Path) :
    ∃ (head : List Char) (pieces : List (List Char)), ∀ name, IsName name →
      (p.join name).text.toList = head ++ Text.joinChars '/' (pieces ++ [name.toList]) ∧
      splitHead (p.join name).text.toList = (head, Text.joinChars '/' (pieces ++ [name.toList])) ∧
      Text.splitChars '/' (Text.joinChars '/' (pieces ++ [name.toList])) = pieces ++ [name.toList] := by
  let body (rest : List Char) (name : String) := rest ++ name.toList
  -- It is enough to find the head and a rest that is empty or ends in a slash.
  suffices found : ∃ head rest : List Char, (rest = [] ∨ ∃ before, rest = before ++ ['/']) ∧
      ∀ name, IsName name → (p.join name).text.toList = head ++ body rest name ∧
        splitHead (p.join name).text.toList = (head, body rest name) by
    obtain ⟨head, rest, rfl | ⟨before, rfl⟩, split⟩ := found
    · refine ⟨head, [], fun name valid => ?_⟩
      simpa [body, Text.joinChars, valid.split_eq] using split name valid
    · refine ⟨head, Text.splitChars '/' before, fun name valid => ?_⟩
      have joined : Text.joinChars '/' (Text.splitChars '/' before ++ [name.toList]) =
          before ++ '/' :: name.toList := by
        rw [Text.joinChars_concat '/' (Text.splitChars_ne_nil '/' before), Text.joinChars_splitChars]
      rw [joined, Text.splitChars_append_sep, valid.split_eq]
      simpa [body] using split name valid
  have plain {name : String} (valid : IsName name) : splitHead name.toList = ([], name.toList) := by
    have relative := valid.head_ne_slash
    have noSlash := valid.noSlash
    have notHere : name.toList ≠ ['.'] := fun here =>
      valid.notHere (String.toList_inj.mp (by simpa using here))
    unfold splitHead
    split <;> simp_all
  have ended (before : List Char) : ∃ head rest : List Char,
      (rest = [] ∨ ∃ before, rest = before ++ ['/']) ∧ ∀ name, IsName name →
        before ++ '/' :: name.toList = head ++ body rest name ∧
        splitHead (before ++ '/' :: name.toList) = (head, body rest name) := by
    rcases before with _ | ⟨c, before⟩
    · exact ⟨['/'], [], .inl rfl, fun name _ => ⟨rfl, rfl⟩⟩
    by_cases root : c = '/'
    · exact ⟨['/'], before ++ ['/'], .inr ⟨before, rfl⟩, fun name _ => by simp [body, splitHead, root]⟩
    by_cases dot : c = '.'
    · rcases before with _ | ⟨d, before⟩
      · exact ⟨['.'], ['/'], .inr ⟨[], rfl⟩, fun name _ => by simp [body, splitHead, dot]⟩
      by_cases slash : d = '/'
      · exact ⟨['.'], d :: before ++ ['/'], .inr ⟨d :: before, rfl⟩, fun name _ => by
          simp [body, splitHead, dot, slash]⟩
      · exact ⟨[], c :: d :: before ++ ['/'], .inr ⟨c :: d :: before, rfl⟩, fun name _ => by
          simp [body, splitHead, dot, slash]⟩
    · exact ⟨[], c :: before ++ ['/'], .inr ⟨c :: before, rfl⟩, fun name _ => by
        simp [body, splitHead, root, dot]⟩
  by_cases empty : p.text.toList = []
  · refine ⟨[], [], .inl rfl, fun name valid => ?_⟩
    have text : (p.join name).text.toList = name.toList := by simp [toList_join p valid, empty]
    simpa [text, body] using plain valid
  by_cases slash : p.text.toList.getLast? = some '/'
  · obtain ⟨before, eq⟩ := List.getLast?_eq_some_iff.mp slash
    obtain ⟨head, rest, shape, split⟩ := ended before
    refine ⟨head, rest, shape, fun name valid => ?_⟩
    have text : (p.join name).text.toList = before ++ '/' :: name.toList := by
      simp [toList_join p valid, eq]
    simpa [text] using split name valid
  · obtain ⟨head, rest, shape, split⟩ := ended p.text.toList
    refine ⟨head, rest, shape, fun name valid => ?_⟩
    have text : (p.join name).text.toList = p.text.toList ++ '/' :: name.toList := by
      simp [toList_join p valid, slash, empty]
    simpa [text] using split name valid

theorem isSilent_eq_false (valid : IsName name) : isSilent name.toList = false := by
  have notHere : name.toList ≠ ['.'] := fun here =>
    valid.notHere (String.toList_inj.mp (by simpa using here))
  simp [isSilent, notHere, valid.toList_ne_nil]

theorem pieceComponent_eq (valid : IsName name) : pieceComponent name.toList = .name name := by
  have notUp : name.toList ≠ ['.', '.'] := fun up =>
    valid.notUp (String.toList_inj.mp (by simpa using up))
  simp [pieceComponent, notUp]

theorem getLast?_components_join (p : Path) (valid : IsName name) :
    (p.join name).components.getLast? = some (.name name) := by
  obtain ⟨head, pieces, split⟩ := p.exists_splitHead_join
  obtain ⟨-, parts, body⟩ := split name valid
  simp [components, parts, body, isSilent_eq_false valid, pieceComponent_eq valid]

theorem fileName?_join (p : Path) (valid : IsName name) : (p.join name).fileName? = some name := by
  simp [fileName?, getLast?_components_join p valid]

theorem components_join_ne_nil (p : Path) (valid : IsName name) : (p.join name).components ≠ [] := by
  intro none
  have := getLast?_components_join p valid
  simp [none] at this

/-- The extension of a name is what was put after its last dot. -/
theorem nameExtension?_append {stem extension : String} (nonempty : stem ≠ "")
    (noDot : '.' ∉ extension.toList) :
    nameExtension? (stem ++ "." ++ extension) = some extension := by
  have letters : (stem ++ "." ++ extension).toList = stem.toList ++ '.' :: extension.toList := by
    simp
  have last : Text.splitChars '.' extension.toList = [extension.toList] :=
    Text.splitChars_of_not_mem noDot
  rw [nameExtension?, letters, Text.splitChars_append_sep, last]
  rcases shape : (Text.splitChars '.' stem.toList).reverse with _ | ⟨before, more⟩
  · exact absurd (List.reverse_eq_nil_iff.mp shape) (Text.splitChars_ne_nil '.' _)
  · have : ¬ (before = [] ∧ more = []) := by
      rintro ⟨rfl, rfl⟩
      have pieces : Text.splitChars '.' stem.toList = [[]] := by simpa using shape
      have empty := Text.joinChars_splitChars '.' stem.toList
      rw [pieces] at empty
      exact nonempty (String.toList_inj.mp (by simpa [Text.joinChars] using empty.symm))
    simp [shape, this]

/-- Another text is put after the stem of a joined path's name. -/
theorem replaceAfterStem_join (p : Path) {ending : String} (valid : IsName name)
    (other : IsName (nameStem name ++ ending)) :
    (p.join name).replaceAfterStem ending = p.join (nameStem name ++ ending) := by
  obtain ⟨head, pieces, split⟩ := p.exists_splitHead_join
  obtain ⟨-, parts, body⟩ := split name valid
  obtain ⟨text, -, -⟩ := split _ other
  have loud : loudPieces (Text.joinChars '/' (pieces ++ [name.toList])) = name.toList :: pieces.reverse := by
    rw [loudPieces, body, List.reverse_append, List.reverse_singleton, List.singleton_append,
      List.dropWhile_cons_of_neg (by simp [isSilent_eq_false valid])]
  have letters : (p.join (nameStem name ++ ending)).text =
      String.ofList (head ++ Text.joinChars '/' (pieces ++ [(nameStem name ++ ending).toList])) := by
    rw [← String.toList_inj, text, String.toList_ofList]
  simp only [replaceAfterStem, fileName?_join p valid, parts, loud]
  rw [List.reverse_cons, List.reverse_reverse, ← letters]

theorem dropExtension_join (p : Path) {stem extension : String} (valid : IsName (stem ++ "." ++ extension))
    (shorter : IsName (stem ++ ".")) (nonempty : stem ≠ "") (noDot : '.' ∉ extension.toList) :
    (p.join (stem ++ "." ++ extension)).dropExtension = p.join (stem ++ ".") := by
  have whole := toList_join p valid
  have rest : (p.join (stem ++ "." ++ extension)).text.toList =
      (p.join (stem ++ ".")).text.toList ++ extension.toList := by
    rw [whole, toList_join p shorter]
    simp
  have width : (p.join (stem ++ "." ++ extension)).text.length - extension.length =
      (p.join (stem ++ ".")).text.toList.length := by
    rw [← String.length_toList, ← String.length_toList, rest, List.length_append]
    omega
  rw [dropExtension, extension?, fileName?_join p valid, Option.bind_some,
    nameExtension?_append nonempty noDot]
  simp only [width, rest, List.take_left', String.ofList_toList]

theorem nameStem_dot {stem : String} (nonempty : stem ≠ "") : nameStem (stem ++ ".") = stem := by
  have last : nameExtension? (stem ++ ".") = some "" := by
    have noDot : '.' ∉ "".toList := by simp
    have ending := nameExtension?_append nonempty noDot
    rwa [String.append_empty] at ending
  have width : (stem ++ ".").length - "".length - 1 = stem.toList.length := by
    rw [← String.length_toList, String.toList_append, List.length_append]
    rfl
  have letters : (stem ++ ".").toList = stem.toList ++ ['.'] := by simp
  rw [nameStem, last]
  simp only [width, letters, List.take_left', String.ofList_toList]

open Archive in
/-- The draft of an archive lies beside it, under the archive's name with more after it. -/
theorem draft_join (p : Path) {stem : String} (nonempty : stem ≠ "") (notHere : stem ≠ ".")
    (noSlash : '/' ∉ stem.toList) :
    draft (p.join (stem ++ "." ++ extension)) = p.join (stem ++ "." ++ (extension ++ ".partial")) := by
  have named (more : String) (plain : '/' ∉ more.toList) : IsName (stem ++ "." ++ more) :=
    .dotted nonempty notHere noSlash plain
  have valid : IsName (stem ++ "." ++ extension) := named _ (by decide)
  have shorter : IsName (stem ++ ".") := by simpa using named "" (by simp)
  have other : nameStem (stem ++ ".") ++ ("." ++ (extension ++ ".partial")) =
      stem ++ "." ++ (extension ++ ".partial") := by
    rw [nameStem_dot nonempty, String.append_assoc]
  rw [draft, withExtension, dropExtension_join p valid shorter nonempty (by decide),
    replaceAfterStem_join p shorter (by rw [other]; exact named _ (by decide)), other]

end Path

end ReleaseMatrix
