import ReleaseMatrix.Proofs.PathEnding
import ReleaseMatrix.Proofs.ReleaseNames

namespace ReleaseMatrix

namespace Path

variable {p home : Path} {stem : String} {pieces : List (List Char)} {last : List Char}

/-- A directory's text to which names are added as they are: the current directory's, or one that ends in a
slash. -/
def IsHome (home : Path) : Prop :=
  home.text.toList = [] ∨ home.text.toList.getLast? = some '/'

theorem IsHome.toList_join (isHome : home.IsHome) {q : String} (relative : q.toList.head? ≠ some '/') :
    (home.join q).text.toList = home.text.toList ++ q.toList := by
  rcases isHome with empty | slash
  · have : home.text = "" := String.toList_inj.mp (by simpa using empty)
    simp [join, relative, this]
  · simp [join, relative, slash]

/-- Two dots at the end of a path are its last step. -/
theorem IsHome.exists_steps_up (isHome : home.IsHome) :
    (∃ steps, (home.join "..").steps = steps ++ [".."]) ∧ (home.join "..").endsInSlash = false := by
  constructor
  · have dots : Text.splitChars '/' "..".toList = [] ++ [['.', '.']] := by decide
    obtain ⟨before, split⟩ := home.exists_split_join dots
    exact ⟨_, by rw [steps_eq, split, List.filter_append, List.map_append]; rfl⟩
  · rw [endsInSlash, isHome.toList_join (by decide), List.getLast?_append]
    rfl

/-- A path is what precedes its last piece, joined with it. -/
theorem exists_home (split : Text.splitChars '/' p.text.toList = pieces ++ [last]) :
    ∃ home : Path, home.IsHome ∧ p.text.toList = home.text.toList ++ last := by
  have whole := Text.joinChars_splitChars '/' p.text.toList
  rw [split] at whole
  rcases pieces with _ | ⟨piece, pieces⟩
  · exact ⟨⟨""⟩, .inl (by simp), by simpa [Text.joinChars] using whole.symm⟩
  · rw [Text.joinChars_concat '/' (List.cons_ne_nil _ _)] at whole
    exact ⟨⟨String.ofList (Text.joinChars '/' (piece :: pieces) ++ ['/'])⟩, .inr (by simp), by simp [← whole]⟩

theorem eq_of_toList {q : Path} (same : p.text.toList = q.text.toList) : p = q := by
  cases p
  cases q
  simpa [String.toList_inj] using same

open Archive in
/-- A file that has nothing before the extension keeps its whole name in that of its draft. -/
theorem draft_join_empty (home : Path) : draft (home.join ("." ++ extension)) =
    home.join ("." ++ extension ++ "." ++ (extension ++ ".partial")) := by
  have valid : IsName ("." ++ extension) := ⟨by decide, by decide, by decide, by decide⟩
  have other : nameStem ("." ++ extension) ++ ("." ++ (extension ++ ".partial")) =
      "." ++ extension ++ "." ++ (extension ++ ".partial") := by decide
  have whole : (home.join ("." ++ extension)).dropExtension = home.join ("." ++ extension) := by
    have none : nameExtension? ("." ++ extension) = none := by decide
    rw [dropExtension, extension?, fileName?_join home valid, Option.bind_some, none]
  rw [draft, withExtension, whole, replaceAfterStem_join home valid, other]
  rw [other]
  exact ⟨by decide, by decide, by decide, by decide⟩

open Archive in
/-- A name that two dots are left of has no draft beside it. -/
theorem draft_join_here (isHome : home.IsHome) : draft (home.join ("." ++ "." ++ extension)) = home.join ".." := by
  have valid : IsName ("." ++ "." ++ extension) := ⟨by decide, by decide, by decide, by decide⟩
  have whole : (home.join ("." ++ "." ++ extension)).text.toList = home.text.toList ++ ['.', '.', 'z', 'i', 'p'] :=
    isHome.toList_join (by decide)
  have dropped : (home.join ("." ++ "." ++ extension)).dropExtension = home.join ".." := by
    have known : nameExtension? ("." ++ "." ++ extension) = some "zip" := by decide
    refine eq_of_toList ?_
    rw [dropExtension, extension?, fileName?_join home valid, Option.bind_some, known,
      isHome.toList_join (q := "..") (by decide)]
    have width : (home.join ("." ++ "." ++ extension)).text.length - "zip".length = home.text.toList.length + 2 := by
      rw [← String.length_toList, whole, List.length_append]
      rfl
    simp only [width, whole, String.toList_ofList, List.take_length_add_append]
    rfl
  have nameless : (home.join "..").fileName? = none := by
    have dots : Text.splitChars '/' "..".toList = [] ++ [['.', '.']] := by decide
    obtain ⟨before, split⟩ := home.exists_split_join dots
    have last : (home.join "..").components.getLast? = some .up := by
      simp [components_eq, split, ofPieces, isSilent, pieceComponent]
    rw [fileName?, last]
  rw [draft, withExtension, dropped, replaceAfterStem, nameless]

end Path

namespace Archiver

open Archive (extension draft stem fileName)

/-- The path of an archive is a directory's with what the stem has after its last slash, and the extension. -/
theorem exists_front (a : Archiver) (version : String) (t : Target) {pieces : List (List Char)} {front : List Char}
    (split : Text.splitChars '/' (stem a.product version t).toList = pieces ++ [front]) :
    ∃ home : Path, home.IsHome ∧ ∀ name, IsName name → name.toList = front ++ ".zip".toList →
      a.path version t = home.join name := by
  have letters : (fileName a.product version t).toList = (stem a.product version t).toList ++ ".zip".toList := by
    simp [fileName, stem, extension]
  have parts : Text.splitChars '/' (fileName a.product version t).toList = pieces ++ [front ++ ".zip".toList] := by
    rw [letters]
    exact Text.splitChars_append split (by decide)
  obtain ⟨before, joined⟩ := a.outDir.exists_split_join parts
  obtain ⟨home, isHome, text⟩ := Path.exists_home joined
  refine ⟨home, isHome, fun name valid same => Path.eq_of_toList ?_⟩
  rw [isHome.toList_join valid.head_ne_slash, same]
  exact text

/-- An archive and its draft are beside each other in a directory, if something stands before the extension. -/
theorem exists_places_of_front (a : Archiver) (version : String) (t : Target) {pieces : List (List Char)}
    {front : List Char} (split : Text.splitChars '/' (stem a.product version t).toList = pieces ++ [front])
    (nonempty : front ≠ []) (notHere : front ≠ ['.']) :
    ∃ (home : Path) (stem : String), home.IsHome ∧ IsName (stem ++ "." ++ extension) ∧
      IsName (stem ++ "." ++ (extension ++ ".partial")) ∧ a.path version t = home.join (stem ++ "." ++ extension) ∧
      draft (a.path version t) = home.join (stem ++ "." ++ (extension ++ ".partial")) := by
  obtain ⟨home, isHome, placed⟩ := a.exists_front version t split
  have plain : '/' ∉ front := Text.not_mem_of_mem_splitChars (split ▸ List.mem_append_right _ List.mem_cons_self)
  have nonempty : String.ofList front ≠ "" := fun eq => nonempty (by simpa using congrArg String.toList eq)
  have notHere : String.ofList front ≠ "." := fun eq => notHere (by simpa using congrArg String.toList eq)
  have noSlash : '/' ∉ (String.ofList front).toList := by simpa using plain
  have named (more : String) (plain : '/' ∉ more.toList) : IsName (String.ofList front ++ "." ++ more) :=
    .dotted nonempty notHere noSlash plain
  have path := placed _ (named extension (by decide)) (by simp [extension])
  exact ⟨home, _, isHome, named _ (by decide), named _ (by decide), path, by
    rw [path, Path.draft_join home nonempty notHere noSlash]⟩

/-- Where the archive of a target and its draft are: beside each other in a directory, unless the draft has no name
at all. -/
theorem exists_places (a : Archiver) (version : String) (t : Target) :
    ∃ (home : Path) (name : String), home.IsHome ∧ IsName name ∧ a.path version t = home.join name ∧
      ((∃ other, IsName other ∧ other ≠ name ∧ draft (a.path version t) = home.join other) ∨
        draft (a.path version t) = home.join "..") := by
  obtain ⟨pieces, front, split⟩ : ∃ pieces front,
      Text.splitChars '/' (stem a.product version t).toList = pieces ++ [front] :=
    ⟨_, _, (List.dropLast_concat_getLast (Text.splitChars_ne_nil '/' _)).symm⟩
  by_cases empty : front = []
  · obtain ⟨home, isHome, placed⟩ := a.exists_front version t split
    have valid : IsName ("." ++ extension) := ⟨by decide, by decide, by decide, by decide⟩
    have path := placed _ valid (by simp [empty, extension])
    have other : IsName ("." ++ extension ++ "." ++ (extension ++ ".partial")) :=
      ⟨by decide, by decide, by decide, by decide⟩
    exact ⟨home, _, isHome, valid, path, .inl ⟨_, other, by decide, by rw [path, Path.draft_join_empty]⟩⟩
  by_cases here : front = ['.']
  · obtain ⟨home, isHome, placed⟩ := a.exists_front version t split
    have valid : IsName ("." ++ "." ++ extension) := ⟨by decide, by decide, by decide, by decide⟩
    have path := placed _ valid (by simp [here, extension])
    exact ⟨home, _, isHome, valid, path, .inr (by rw [path, Path.draft_join_here isHome])⟩
  obtain ⟨home, stem, isHome, valid, other, path, placed⟩ := a.exists_places_of_front version t split empty here
  refine ⟨home, _, isHome, valid, path, .inl ⟨_, other, ?_, placed⟩⟩
  rw [Ne, ← String.toList_inj]
  simp [extension]

/-- The archive of a target that names an entry of a directory has a draft with a name. -/
theorem exists_names (a : Archiver) (version : String) {t : Target} (valid : IsName t.id) :
    ∃ (home : Path) (stem : String), home.IsHome ∧ IsName (stem ++ "." ++ extension) ∧
      IsName (stem ++ "." ++ (extension ++ ".partial")) ∧ a.path version t = home.join (stem ++ "." ++ extension) ∧
      draft (a.path version t) = home.join (stem ++ "." ++ (extension ++ ".partial")) := by
  obtain ⟨pieces, last, split⟩ : ∃ pieces last,
      Text.splitChars '/' (a.product ++ "_" ++ version).toList = pieces ++ [last] :=
    ⟨_, _, (List.dropLast_concat_getLast (Text.splitChars_ne_nil '/' _)).symm⟩
  have whole : Text.splitChars '/' (stem a.product version t).toList = pieces ++ [last ++ ("_" ++ t.id).toList] := by
    have absent : '/' ∉ ("_" ++ t.id).toList := by simp [valid.noSlash]
    have := Text.splitChars_append split absent
    simpa [stem] using this
  have mark : '_' ∈ last ++ ("_" ++ t.id).toList := by simp
  refine a.exists_places_of_front version t whole ?_ ?_
  · exact List.ne_nil_of_mem mark
  · intro here
    rw [here] at mark
    simp at mark

end Archiver

end ReleaseMatrix
