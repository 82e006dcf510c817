import ReleaseMatrix.Build
import ReleaseMatrix.Proofs.Moving
import ReleaseMatrix.Proofs.ReleaseNames

namespace ReleaseMatrix

namespace Path

variable {p q : Path} {name : String} {pieces : List (List Char)}

theorem ofPieces_loudPart (pieces : List (List Char)) : ofPieces (loudPart pieces) = ofPieces pieces := by
  obtain ⟨silent, whole, quiet⟩ := exists_loudPart_append pieces
  have none : ofPieces silent = [] := by
    rw [ofPieces, List.map_eq_nil_iff, List.filter_eq_nil_iff]
    exact fun piece member => by simp [quiet piece member]
  conv_rhs => rw [whole, ofPieces_append, none, List.append_nil]

theorem loudPart_ne_singleton {piece : List Char} (silent : isSilent piece) : loudPart pieces ≠ [piece] := by
  intro eq
  have dropped : pieces.reverse.dropWhile isSilent = [piece] := by
    rw [loudPart] at eq
    simpa using congrArg List.reverse eq
  have loud := List.head?_dropWhile_not isSilent pieces.reverse
  rw [dropped] at loud
  simp [silent] at loud

theorem splitChars_slash (cs : List Char) :
    ofPieces (Text.splitChars '/' ('/' :: cs)) = ofPieces (Text.splitChars '/' cs) := by
  rw [Text.splitChars, if_pos rfl, ← List.singleton_append, ofPieces_append, ofPieces_nil_piece, List.nil_append]

/-- The head of a path without a head does not change when pieces at its end are cut off. -/
theorem splitHead_joinChars {cs : List Char} {back : List (List Char)} (headless : (splitHead cs).1 = [])
    (split : Text.splitChars '/' cs = loudPart pieces ++ back)
    (plain : ∀ piece ∈ loudPart pieces, '/' ∉ piece) :
    (splitHead (Text.joinChars '/' (loudPart pieces))).1 = [] := by
  cases shape : loudPart pieces with
  | nil => rfl
  | cons piece more =>
    cases more with
    | nil =>
      have other : piece ≠ ['.'] := by
        rintro rfl
        exact loudPart_ne_singleton (by decide) shape
      have noSlash := plain piece (by simp [shape])
      rw [Text.joinChars]
      unfold splitHead
      split <;> simp_all
    | cons next more =>
      have whole := Text.joinChars_splitChars '/' cs
      rw [split, shape, List.cons_append, List.cons_append, Text.joinChars] at whole
      have nonempty : piece ≠ [] := by
        rintro rfl
        rw [← whole] at headless
        cases headless
      rw [Text.joinChars, splitHead_append_slash nonempty, ← headless, ← whole, splitHead_append_slash nonempty]

/-- A head and the pieces up to the last loud one make a path with the components of the head and the pieces. -/
theorem components_cut {cs head body : List Char} {back : List (List Char)} (parts : splitHead cs = (head, body))
    (split : Text.splitChars '/' body = pieces ++ back) :
    (⟨String.ofList (head ++ Text.joinChars '/' (loudPart pieces))⟩ : Path).components =
      headComponents head ++ ofPieces pieces := by
  obtain ⟨silent, whole, -⟩ := exists_loudPart_append pieces
  have plain (piece : List Char) (member : piece ∈ loudPart pieces) : '/' ∉ piece := by
    have inside : piece ∈ Text.splitChars '/' body := by
      rw [split, whole]
      simp [member]
    exact Text.not_mem_of_mem_splitChars inside
  have joined : ofPieces (Text.splitChars '/' (Text.joinChars '/' (loudPart pieces))) = ofPieces pieces := by
    rw [← ofPieces_loudPart pieces]
    by_cases empty : loudPart pieces = []
    · rw [empty]
      rfl
    · rw [Text.splitChars_joinChars empty plain]
  have again : Text.splitChars '/' body = loudPart pieces ++ (silent ++ back) := by
    rw [split, ← List.append_assoc, ← whole]
  rw [components_eq, String.toList_ofList]
  -- The head of a path is told by its first two letters.
  have headless := congrArg Prod.fst parts
  unfold splitHead at parts
  split at parts
  · obtain ⟨rfl, rfl⟩ := Prod.mk.inj parts
    rw [List.singleton_append, splitChars_slash, joined]
    rfl
  · obtain ⟨rfl, rfl⟩ := Prod.mk.inj parts
    cases shape : loudPart pieces with
    | nil =>
      rw [shape] at joined
      rw [← joined]
      rfl
    | cons piece more =>
      rw [shape] at again
      obtain ⟨rfl, rest⟩ := List.cons.inj again
      obtain rfl : more = [] := by simpa using (List.append_eq_nil_iff.mp rest.symm).1
      exact absurd shape (loudPart_ne_singleton_nil pieces)
  · obtain ⟨rfl, rfl⟩ := Prod.mk.inj parts
    cases shape : loudPart pieces with
    | nil =>
      rw [shape] at joined
      rw [← joined]
      rfl
    | cons piece more =>
      rw [shape, Text.splitChars, if_pos rfl] at again
      obtain ⟨rfl, -⟩ := List.cons.inj again
      cases more with
      | nil => exact absurd shape (loudPart_ne_singleton_nil pieces)
      | cons next more =>
        rw [shape, Text.joinChars, List.nil_append, splitChars_slash] at joined
        rw [Text.joinChars, ← joined]
        simp [splitHead, Text.splitChars, ofPieces, isSilent]
  · obtain ⟨rfl, rfl⟩ := Prod.mk.inj parts
    have none := splitHead_joinChars headless again plain
    rw [List.nil_append, none, joined]

/-- The path above a path has all of its components but the last. -/
theorem components_parent (above : p.parent? = some q) : q.components = p.components.dropLast := by
  unfold parent? at above
  rcases parts : splitHead p.text.toList with ⟨head, body⟩
  have whole : p.components = headComponents head ++ ofPieces (Text.splitChars '/' body) := by
    rw [components, parts]
    rfl
  obtain ⟨silent, split, quiet⟩ := exists_loudPart_append (Text.splitChars '/' body)
  rw [← ofPieces_loudPart] at whole
  simp only [parts] at above
  cases loud : loudPieces body with
  | nil =>
    have none : loudPart (Text.splitChars '/' body) = [] := congrArg List.reverse loud
    obtain ⟨here, rfl⟩ : head = ['.'] ∧ ⟨""⟩ = q := by simpa [loud] using above
    rw [whole, none, here]
    rfl
  | cons last before =>
    have some : loudPart (Text.splitChars '/' body) = before.reverse ++ [last] := by
      rw [loudPart, show (Text.splitChars '/' body).reverse.dropWhile isSilent = last :: before from loud,
        List.reverse_cons]
    simp only [loud] at above
    obtain rfl := Option.some_inj.mp above
    have heard : isSilent last = false := by
      have first := List.head?_dropWhile_not isSilent (Text.splitChars '/' body).reverse
      rw [show (Text.splitChars '/' body).reverse.dropWhile isSilent = last :: before from loud] at first
      simpa using first
    rw [some, List.append_assoc] at split
    have cut := components_cut parts split
    rw [loudPart, List.reverse_reverse] at cut
    rw [cut, whole, some, ofPieces_append, ← List.append_assoc]
    simp [ofPieces, heard]

theorem components_join_name (p : Path) (valid : IsName name) :
    (p.join name).components = p.components ++ [.name name] := by
  by_cases empty : p.text = ""
  · have alone : p.join name = ⟨name⟩ := by simp [join, valid.head_ne_slash, empty]
    have headless : (splitHead name.toList).1 = [] := by
      have noSlash := valid.noSlash
      have notHere : name.toList ≠ ['.'] := fun here => valid.notHere (String.toList_inj.mp here)
      unfold splitHead
      split <;> simp_all
    have nothing : p.components = [] := by
      rw [components, empty]
      rfl
    rw [alone, components_eq, headless, valid.split_eq, ofPieces_name valid, nothing]
    rfl
  · rw [components_join p empty valid.head_ne_slash, valid.split_eq, ofPieces_name valid]

end Path

namespace Scratch

variable {root p q : Path} {s t : Target}

theorem isChild_iff {name : String} : isChild root (root.join name) name ↔ IsName name := by
  rw [isChild, Bool.and_eq_true, Option.any_eq_true, beq_iff_eq]
  constructor
  · rintro ⟨-, named⟩
    exact Path.isName_of_fileName? named
  · intro valid
    obtain ⟨above, n, parent, -⟩ := root.exists_parent_join valid
    refine ⟨⟨above, parent, ?_⟩, Path.fileName?_join root valid⟩
    rw [decide_eq_true_eq, Path.Same, Path.components_parent parent, Path.components_join_name root valid,
      List.dropLast_concat]

theorem directory_eq_ok_iff : directory root t = .ok p ↔ p = root.join t.id ∧ IsName t.id := by
  rw [directory]
  split
  · next child => simp [isChild_iff.mp child, eq_comm]
  · next other => simpa using fun _ valid => other (isChild_iff.mpr valid)

/-- Neither of two directories for different targets lies in the other, or is the other. -/
theorem directories_apart (first : directory root s = .ok p) (second : directory root t = .ok q) (other : s ≠ t) :
    ¬ p.components <+: q.components := by
  obtain ⟨rfl, validS⟩ := directory_eq_ok_iff.mp first
  obtain ⟨rfl, validT⟩ := directory_eq_ok_iff.mp second
  rw [root.components_join_name validS, root.components_join_name validT]
  intro inside
  have same := inside.eq_of_length (by simp)
  refine other ?_
  cases s
  cases t
  simpa using same

/-- Whatever the root is, the targets that have a directory are those whose id is a single component of a path. Every
triple is such an id. The directory is the root joined with the id, and no directory of a target lies in another's. -/
theorem directory_of_component (root : Path) :
    (∀ t p, directory root t = .ok p ↔
      p = root.join t.id ∧ t.id ≠ "" ∧ '/' ∉ t.id.toList ∧ t.id ≠ "." ∧ t.id ≠ "..") ∧
    (∀ t : Target, t.isTriple → ∃ p, directory root t = .ok p) ∧
    ∀ s t p q, s ≠ t → directory root s = .ok p → directory root t = .ok q →
      ¬ p.Same q ∧ ¬ p.components <+: q.components ∧ ¬ q.components <+: p.components := by
  refine ⟨fun t p => ?_, fun t triple => ?_, fun s t p q other first second => ?_⟩
  · rw [directory_eq_ok_iff, isName_iff]
  · exact ⟨_, directory_eq_ok_iff.mpr ⟨rfl, Target.isName_id triple⟩⟩
  · have apart := directories_apart first second other
    exact ⟨fun same => apart ((show p.components = q.components from same) ▸ List.prefix_rfl), apart, directories_apart second first other.symm⟩

end Scratch

end ReleaseMatrix
