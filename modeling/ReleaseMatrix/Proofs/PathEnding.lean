import ReleaseMatrix.Proofs.JoinedPath

namespace ReleaseMatrix

/-- Letters that are no separators go to the last piece. -/
theorem Text.splitChars_append {sep : Char} {cs ds last : List Char} {pieces : List (List Char)}
    (split : splitChars sep cs = pieces ++ [last]) (absent : sep ∉ ds) :
    splitChars sep (cs ++ ds) = pieces ++ [last ++ ds] := by
  induction cs generalizing pieces last with
  | nil =>
    obtain ⟨rfl, rfl⟩ : pieces = [] ∧ last = [] := by
      simpa [splitChars, List.singleton_eq_append_iff] using split
    simpa using splitChars_of_not_mem absent
  | cons c cs ih =>
    obtain ⟨front, final, rest⟩ : ∃ front final, splitChars sep cs = front ++ [final] :=
      ⟨_, _, (List.dropLast_concat_getLast (splitChars_ne_nil sep cs)).symm⟩
    have whole {front' final'} (shape : splitChars sep (c :: cs) = front' ++ [final']) :
        pieces = front' ∧ last = final' := by
      simpa using List.append_inj' (split.symm.trans shape) rfl
    by_cases same : c = sep
    · obtain ⟨rfl, rfl⟩ := @whole ([] :: front) final (by simp [splitChars, same, rest])
      simp [splitChars, same, ih rest]
    · rcases front with _ | ⟨piece, front⟩
      · obtain ⟨rfl, rfl⟩ := @whole [] (c :: final) (by simp [splitChars, same, rest])
        simp [splitChars, same, ih rest]
      · obtain ⟨rfl, rfl⟩ := @whole ((c :: piece) :: front) final (by simp [splitChars, same, rest])
        simp [splitChars, same, ih rest]

theorem Text.not_mem_of_mem_splitChars {sep : Char} {cs piece : List Char} (member : piece ∈ splitChars sep cs) :
    sep ∉ piece := by
  induction cs generalizing piece with
  | nil =>
    obtain rfl : piece = [] := by simpa [splitChars] using member
    simp
  | cons c cs ih =>
    unfold splitChars at member
    split at member
    · rcases List.mem_cons.mp member with rfl | rest
      · simp
      · exact ih rest
    · next other =>
      cases pieces : splitChars sep cs with
      | nil => exact absurd pieces (splitChars_ne_nil sep cs)
      | cons first rest =>
        rw [pieces] at member ih
        rcases List.mem_cons.mp member with rfl | member
        · simpa [Ne.symm other] using ih List.mem_cons_self
        · exact ih (List.mem_cons_of_mem _ member)

namespace Path

variable {name q : String}

theorem of_mem_steps {p : Path} {step : String} (member : step ∈ p.steps) : step ≠ "" ∧ '/' ∉ step.toList := by
  rw [steps_eq, List.mem_map] at member
  obtain ⟨piece, among, rfl⟩ := member
  obtain ⟨piece_mem, nonempty⟩ := List.mem_filter.mp among
  refine ⟨fun empty => ?_, by simpa using Text.not_mem_of_mem_splitChars piece_mem⟩
  have none : piece = [] := by simpa using congrArg String.toList empty
  simp [none] at nonempty

/-- The components that a list of pieces stands for. -/
def ofPieces (pieces : List (List Char)) : List Component :=
  (pieces.filter (!isSilent ·)).map pieceComponent

theorem ofPieces_append (pieces more : List (List Char)) :
    ofPieces (pieces ++ more) = ofPieces pieces ++ ofPieces more := by
  simp [ofPieces]

@[simp] theorem ofPieces_nil_piece : ofPieces [[]] = [] := rfl

theorem ofPieces_name (valid : IsName name) : ofPieces [name.toList] = [.name name] := by
  simp [ofPieces, isSilent_eq_false valid, pieceComponent_eq valid]

/-- What `splitHead` takes off a path says nothing as a piece. -/
theorem components_eq (p : Path) :
    p.components = headComponents (splitHead p.text.toList).1 ++ ofPieces (Text.splitChars '/' p.text.toList) := by
  have body (cs : List Char) : (Text.splitChars '/' (splitHead cs).2).filter (!isSilent ·) =
      (Text.splitChars '/' cs).filter (!isSilent ·) := by
    unfold splitHead
    split <;> simp [Text.splitChars, isSilent]
  rw [ofPieces, ← body]
  rfl

/-- A path that ends in the piece of a name has the name for its last component. -/
theorem getLast?_components {p : Path} {pieces : List (List Char)} (valid : IsName name)
    (split : Text.splitChars '/' p.text.toList = pieces ++ [name.toList]) :
    p.components.getLast? = some (.name name) := by
  simp [components_eq, split, ofPieces_append, ofPieces_name valid]

/-- The file name of a path stands for an entry of a directory. -/
theorem isName_of_fileName? {p : Path} (named : p.fileName? = some name) : IsName name := by
  have last : p.components.getLast? = some (.name name) := by
    rw [fileName?] at named
    split at named
    · next other found => exact Option.some_inj.mp named ▸ found
    · cases named
  have member : Component.name name ∈ ofPieces (Text.splitChars '/' p.text.toList) := by
    have member := List.mem_of_getLast? last
    rw [components_eq, List.mem_append] at member
    refine member.resolve_left fun head => ?_
    unfold headComponents at head
    split at head <;> simp at head
  obtain ⟨piece, loud, same⟩ := List.mem_map.mp member
  obtain ⟨inside, loud⟩ := List.mem_filter.mp loud
  have notUp : piece ≠ ['.', '.'] := by
    rintro rfl
    simp [pieceComponent] at same
  obtain rfl : String.ofList piece = name := by simpa [pieceComponent, notUp] using same
  obtain ⟨nonempty, notHere⟩ : piece ≠ [] ∧ piece ≠ ['.'] := by simpa [isSilent] using loud
  refine ⟨?_, ?_, ?_, by simpa using Text.not_mem_of_mem_splitChars inside⟩ <;>
    rw [Ne, ← String.toList_inj, String.toList_ofList] <;> simpa

/-- The head of a path does not depend on what follows a slash in it. -/
theorem splitHead_append_slash {before : List Char} (nonempty : before ≠ []) (cs : List Char) :
    (splitHead (before ++ '/' :: cs)).1 = (splitHead before).1 := by
  rcases before with _ | ⟨c, _ | ⟨d, before⟩⟩
  · exact absurd rfl nonempty
  · by_cases root : c = '/'
    · simp [splitHead, root]
    by_cases dot : c = '.' <;> simp [splitHead, root, dot]
  · by_cases root : c = '/'
    · simp [splitHead, root]
    by_cases dot : c = '.'
    · by_cases slash : d = '/' <;> simp [splitHead, dot, slash]
    · simp [splitHead, root, dot]

/-- A path that is joined to a directory adds its pieces, unless it is absolute. -/
theorem components_join (p : Path) (nonempty : p.text ≠ "") (relative : q.toList.head? ≠ some '/') :
    (p.join q).components = p.components ++ ofPieces (Text.splitChars '/' q.toList) := by
  have letters : p.text.toList ≠ [] := fun none => nonempty (String.toList_inj.mp (by simpa using none))
  by_cases slash : p.text.toList.getLast? = some '/'
  · obtain ⟨before, eq⟩ := List.getLast?_eq_some_iff.mp slash
    have text : (p.join q).text.toList = before ++ '/' :: q.toList := by simp [join, relative, eq]
    rw [components_eq, components_eq, text, eq, Text.splitChars_append_sep, Text.splitChars_append_sep,
      ofPieces_append, ofPieces_append, ← List.append_assoc]
    rcases before with _ | ⟨c, before⟩
    · simp [splitHead, headComponents, Text.splitChars]
    · have first := List.cons_ne_nil c before
      simp only [splitHead_append_slash first, Text.splitChars, ofPieces_nil_piece, List.append_nil]
  · have text : (p.join q).text.toList = p.text.toList ++ '/' :: q.toList := by
      simp [join, relative, slash, Text.isEmpty_eq_false letters]
    rw [components_eq, components_eq, text, splitHead_append_slash letters, Text.splitChars_append_sep,
      ofPieces_append, List.append_assoc]

/-- What is joined is all of the path, or stands after a slash. -/
theorem text_join_cases (p : Path) (q : String) :
    (p.join q).text.toList = q.toList ∨ ∃ before, (p.join q).text.toList = before ++ '/' :: q.toList := by
  by_cases absolute : q.toList.head? = some '/'
  · exact .inl (by simp [join, absolute])
  by_cases empty : p.text = ""
  · exact .inl (by simp [join, absolute, empty])
  have full : p.text.isEmpty = false := by simpa using empty
  by_cases slash : p.text.toList.getLast? = some '/'
  · obtain ⟨before, eq⟩ := List.getLast?_eq_some_iff.mp slash
    exact .inr ⟨before, by simp [join, absolute, eq]⟩
  · exact .inr ⟨p.text.toList, by simp [join, absolute, slash, full]⟩

/-- A joined path ends in the last piece of what is joined. -/
theorem exists_split_join (p : Path) {pieces : List (List Char)} {last : List Char}
    (split : Text.splitChars '/' q.toList = pieces ++ [last]) :
    ∃ before, Text.splitChars '/' (p.join q).text.toList = before ++ [last] := by
  obtain text | ⟨before, text⟩ := p.text_join_cases q
  · exact ⟨pieces, by rw [text, split]⟩
  · exact ⟨Text.splitChars '/' before ++ pieces, by
      rw [text, Text.splitChars_append_sep, split, List.append_assoc]⟩

end Path

end ReleaseMatrix
