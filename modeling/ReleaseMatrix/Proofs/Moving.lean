import ReleaseMatrix.Proofs.PathEnding
import ReleaseMatrix.Proofs.Placing
import Mathlib.Data.List.TakeWhile

namespace ReleaseMatrix

namespace Text

theorem joinChars_cons_prefix (sep : Char) (piece : List Char) {pieces more : List (List Char)} (start : pieces <+: more) :
    joinChars sep (piece :: pieces) <+: joinChars sep (piece :: more) := by
  induction pieces generalizing piece more with
  | nil =>
    cases more with
    | nil => exact List.prefix_refl _
    | cons next more => exact List.prefix_append _ _
  | cons next pieces ih =>
    obtain ⟨rest, rfl⟩ := start
    have later := ih next (List.prefix_append pieces rest)
    exact List.prefix_append_right_inj _ |>.mpr (List.cons_prefix_cons.mpr ⟨rfl, later⟩)

theorem joinChars_prefix (sep : Char) {pieces more : List (List Char)} (start : pieces <+: more) :
    joinChars sep pieces <+: joinChars sep more := by
  cases pieces with
  | nil => exact List.nil_prefix
  | cons piece pieces =>
    obtain ⟨rest, rfl⟩ := start
    exact joinChars_cons_prefix sep piece (List.prefix_append pieces rest)

end Text

namespace Path

theorem splitHead_append (cs : List Char) : (splitHead cs).1 ++ (splitHead cs).2 = cs := by
  unfold splitHead
  split <;> simp

theorem parent?_prefix {p q : Path} (above : p.parent? = some q) : q.text.toList <+: p.text.toList := by
  have whole := splitHead_append p.text.toList
  rw [parent?] at above
  generalize splitHead p.text.toList = parts at above whole
  obtain ⟨head, body⟩ := parts
  dsimp only at above whole
  split at above
  · next last before loud =>
    obtain rfl := Option.some_inj.mp above
    have start : (before.dropWhile isSilent).reverse <+: Text.splitChars '/' body := by
      have lower : before.dropWhile isSilent <:+ (Text.splitChars '/' body).reverse :=
        ((List.dropWhile_suffix _).trans (List.suffix_cons last before)).trans (loud ▸ List.dropWhile_suffix _)
      rwa [← List.reverse_reverse (Text.splitChars '/' body), List.reverse_prefix]
    rw [String.toList_ofList, ← whole, ← Text.joinChars_splitChars '/' body, List.prefix_append_right_inj,
      Text.joinChars_splitChars]
    exact Text.joinChars_splitChars '/' body ▸ Text.joinChars_prefix '/' start
  · split at above
    · obtain rfl := Option.some_inj.mp above
      exact List.nil_prefix
    · cases above

end Path

namespace FileTree

theorem checkPath_of_prefix {p q : Path} (start : q.text.toList <+: p.text.toList) (nonempty : q.text.isEmpty = false)
    (fits : checkPath p = .ok ()) : checkPath q = .ok () := by
  obtain ⟨rest, whole⟩ := start
  have text : p.text = q.text ++ String.ofList rest := by
    rw [← String.toList_inj, String.toList_append, String.toList_ofList, whole]
  have size : q.text.utf8ByteSize ≤ p.text.utf8ByteSize := by
    rw [text, String.utf8ByteSize_append]
    exact Nat.le_add_right _ _
  have letters (c : Char) (inside : c ∈ q.text.toList) : c ∈ p.text.toList := whole ▸ List.mem_append_left _ inside
  unfold checkPath at fits ⊢
  split at fits
  · cases fits
  · next noNul =>
    have noNul' : ¬ q.text.toList.contains '\x00' := by
      simp only [List.contains_iff_mem] at noNul ⊢
      exact fun inside => noNul (letters _ inside)
    rw [if_neg noNul', if_neg (by simp [nonempty])]
    split at fits
    · cases fits
    · split at fits
      · cases fits
      · next short => rw [if_neg (by omega)]

end FileTree

namespace Path

variable {p q : Path} {name : String}

/-- The steps that pieces stand for. -/
def stepsOf (pieces : List (List Char)) : List String :=
  (pieces.filter (· ≠ [])).map String.ofList

theorem stepsOf_append (pieces more : List (List Char)) : stepsOf (pieces ++ more) = stepsOf pieces ++ stepsOf more := by
  simp [stepsOf]

theorem stepsOf_slash (cs : List Char) :
    stepsOf (Text.splitChars '/' ('/' :: cs)) = stepsOf (Text.splitChars '/' cs) := by
  simp [stepsOf, Text.splitChars]

theorem stepsOf_name (valid : IsName name) : stepsOf [name.toList] = [name] := by
  simp [stepsOf, valid.toList_ne_nil]

/-- Silent pieces are no steps, or dots. -/
theorem exists_dots {pieces : List (List Char)} (silent : ∀ piece ∈ pieces, isSilent piece) :
    ∃ n, stepsOf pieces = List.replicate n "." := by
  induction pieces with
  | nil => exact ⟨0, rfl⟩
  | cons piece pieces ih =>
    obtain ⟨n, dots⟩ := ih fun piece member => silent piece (by simp [member])
    have quiet : piece = [] ∨ piece = ['.'] := by simpa [isSilent] using silent piece (by simp)
    rw [← List.singleton_append, stepsOf_append, dots]
    obtain rfl | rfl := quiet
    · exact ⟨n, rfl⟩
    · exact ⟨n + 1, rfl⟩

/-- What precedes the silent pieces at the end. -/
def loudPart (pieces : List (List Char)) : List (List Char) :=
  (pieces.reverse.dropWhile isSilent).reverse

theorem exists_loudPart_append (pieces : List (List Char)) :
    ∃ silent, pieces = loudPart pieces ++ silent ∧ ∀ piece ∈ silent, isSilent piece := by
  refine ⟨(pieces.reverse.takeWhile isSilent).reverse, ?_, fun piece member => ?_⟩
  · rw [loudPart, ← List.reverse_append, List.takeWhile_append_dropWhile, List.reverse_reverse]
  · exact List.mem_takeWhile_imp (List.mem_reverse.mp member)

theorem loudPart_ne_singleton_nil (pieces : List (List Char)) : loudPart pieces ≠ [[]] := by
  intro eq
  have dropped : pieces.reverse.dropWhile isSilent = [[]] := by
    rw [loudPart] at eq
    simpa using congrArg List.reverse eq
  have loud := List.head?_dropWhile_not isSilent pieces.reverse
  rw [dropped] at loud
  simp [isSilent] at loud

/-- The path above a joined one starts where the directory's does and has its steps, less dots at the end. -/
theorem exists_parent_join (p : Path) (valid : IsName name) : ∃ q n, (p.join name).parent? = some q ∧
    q.isAbsolute = p.isAbsolute ∧ p.steps = q.steps ++ List.replicate n "." := by
  obtain ⟨head, pieces, all⟩ := p.exists_splitHead_join
  obtain ⟨text, parts, split⟩ := all name valid
  have loud : loudPieces (Text.joinChars '/' (pieces ++ [name.toList])) = name.toList :: pieces.reverse := by
    rw [loudPieces, split, List.reverse_append, List.reverse_singleton, List.singleton_append,
      List.dropWhile_cons_of_neg (by simp [isSilent_eq_false valid])]
  obtain ⟨silent, whole, quiet⟩ := exists_loudPart_append pieces
  obtain ⟨n, dots⟩ := exists_dots quiet
  have plain (piece : List Char) (member : piece ∈ loudPart pieces) : '/' ∉ piece := by
    have inside : piece ∈ Text.splitChars '/' (Text.joinChars '/' (pieces ++ [name.toList])) := by
      rw [split, whole]
      simp [member]
    exact Text.not_mem_of_mem_splitChars inside
  have joined : stepsOf (Text.splitChars '/' (Text.joinChars '/' (loudPart pieces))) = stepsOf (loudPart pieces) := by
    by_cases empty : loudPart pieces = []
    · rw [empty]
      rfl
    · rw [Text.splitChars_joinChars empty plain]
  have steps : stepsOf (Text.splitChars '/' (p.join name).text.toList) = p.steps ++ [name] :=
    (steps_eq _).symm.trans (steps_join p valid)
  have known (eq : stepsOf (pieces ++ [name.toList]) = p.steps ++ [name]) :
      p.steps = stepsOf (loudPart pieces) ++ List.replicate n "." := by
    rw [stepsOf_append, stepsOf_name valid, List.append_cancel_right_eq] at eq
    rw [← eq, ← dots, ← stepsOf_append, ← whole]
  have absolute := isAbsolute_join p valid
  refine ⟨⟨String.ofList (head ++ Text.joinChars '/' (loudPart pieces))⟩, n, ?_, ?_⟩
  · rw [parent?, parts]
    simp only [loud]
    rfl
  rw [← absolute, isAbsolute, isAbsolute, steps_eq ⟨String.ofList _⟩, String.toList_ofList]
  change _ ∧ p.steps = stepsOf _ ++ _
  generalize (p.join name).text.toList = letters at *
  -- The head of the path tells how its text is split.
  unfold splitHead at parts
  split at parts
  · next cs =>
    obtain ⟨rfl, rfl⟩ := Prod.mk.inj parts
    refine ⟨rfl, ?_⟩
    rw [List.singleton_append, stepsOf_slash, joined]
    exact known (by rw [← split, ← stepsOf_slash, steps])
  · obtain ⟨-, empty⟩ := Prod.mk.inj parts
    rw [← empty] at split
    have last := congrArg List.getLast? split
    simp [Text.splitChars, valid.toList_ne_nil] at last
  · next cs =>
    obtain ⟨rfl, body⟩ := Prod.mk.inj parts
    rw [← body, Text.splitChars, if_pos rfl] at split
    have first : p.steps = "." :: (stepsOf (loudPart pieces) ++ List.replicate n ".") := by
      have dot : stepsOf (Text.splitChars '/' ('.' :: '/' :: cs)) = "." :: stepsOf ([] :: Text.splitChars '/' cs) := by
        simp [stepsOf, Text.splitChars]
      rw [dot, split, stepsOf_append, stepsOf_name valid, ← List.cons_append, List.append_cancel_right_eq] at steps
      rw [← steps, ← dots, ← stepsOf_append, ← whole]
    refine ⟨rfl, ?_⟩
    rw [first]
    cases shape : loudPart pieces with
    | nil => rfl
    | cons piece more =>
      have empty : piece = [] := by
        rw [whole, shape] at split
        exact (List.cons.inj split).1.symm
      cases more with
      | nil => exact absurd (empty ▸ shape) (loudPart_ne_singleton_nil pieces)
      | cons next more =>
        have rest : Text.splitChars '/' (Text.joinChars '/' (next :: more)) = next :: more :=
          Text.splitChars_joinChars (List.cons_ne_nil _ _) fun piece member => plain piece (by simp [shape, member])
        simp [empty, Text.joinChars, Text.splitChars, rest, stepsOf]
  · next relative _ _ =>
    obtain ⟨rfl, rfl⟩ := Prod.mk.inj parts
    refine ⟨?_, ?_⟩
    · have other : (Text.joinChars '/' (pieces ++ [name.toList])).head? ≠ some '/' := by
        intro slash
        obtain ⟨cs, eq⟩ := List.head?_eq_some_iff.mp slash
        exact relative cs eq
      cases shape : loudPart pieces with
      | nil => simp [Text.joinChars, other]
      | cons piece more =>
        cases piece with
        | nil =>
          rw [whole, shape, List.cons_append, List.cons_append] at other
          cases rest : more ++ silent ++ [name.toList] with
          | nil => simp at rest
          | cons next more => simp [rest, Text.joinChars] at other
        | cons c cs =>
          have noSlash : c ≠ '/' := by
            rintro rfl
            exact plain ('/' :: cs) (by simp [shape]) (by simp)
          cases more <;> simp [Text.joinChars, noSlash, other]
    · rw [List.nil_append, joined]
      exact known (by rw [← split, steps])

end Path

namespace FileTree

variable {t : FileTree} {here l : Location} {p : Path} {name : String}

/-- Dots at the end of a walk make no difference. -/
theorem walk_dots {start : Location} {steps : List String} {n : Nat}
    (walk : t.walk .target linkLimit start (steps ++ List.replicate n ".") = .ok l)
    (directory : t.get? l = some .directory) : t.walk .target linkLimit start steps = .ok l := by
  induction n with
  | zero => simpa using walk
  | succ n ih =>
    rw [List.replicate_succ', ← List.append_assoc] at walk
    obtain ⟨k, before, there⟩ := exists_walk_of_append walk
    obtain ⟨m, through⟩ := walk_append .target before there
    obtain ⟨jump, unfolded⟩ := t.walk_eq_walkWith .target m
    rw [through "." [] (fun file => nomatch file), unfolded, walkWith, there] at walk
    obtain rfl : k = l := by simpa [walkWith] using walk
    exact ih before

/-- The path above a joined one leads where the directory does. -/
theorem Leads.parent (leads : t.Leads here p l) (valid : IsName name) {q : Path}
    (above : (p.join name).parent? = some q) : t.Leads here q l := by
  obtain ⟨parent, n, eq, absolute, steps⟩ := p.exists_parent_join valid
  obtain rfl : parent = q := Option.some_inj.mp (eq.symm.trans above)
  have start : parent.start here = p.start here := by rw [Path.start, Path.start, absolute]
  exact ⟨start ▸ leads.start, start ▸ walk_dots (steps ▸ leads.walk) leads.directory, leads.directory⟩

theorem checkPath_ne_notFound (nonempty : p.text.isEmpty = false) {fault : FileFault}
    (refused : checkPath p = .error fault) : fault ≠ .notFound := by
  rintro rfl
  rw [checkPath, nonempty] at refused
  split at refused
  · cases refused
  · split at refused
    · next empty => cases empty
    · split at refused <;> cases refused

/-- The second tree has the directories and links of the first, but files stand in the places of some of the links. -/
structure Narrowed (t s : FileTree) : Prop where
  keeps : s.Keeps t
  directories : ∀ k, t.get? k = some .directory → s.get? k = some .directory
  links : ∀ k target, t.get? k = some (.link target) →
    s.get? k = some (.link target) ∨ ∃ e, s.get? k = some e ∧ e.isFile

theorem Narrowed.refl (t : FileTree) : t.Narrowed t :=
  ⟨.refl t, fun _ => id, fun _ _ => .inl⟩

theorem Narrowed.isSome_of_isWay {t s : FileTree} {k : Location} {e : Entry} (narrowed : t.Narrowed s) (way : e.isWay)
    (found : t.get? k = some e) : (s.get? k).isSome := by
  cases e with
  | directory => simp [narrowed.directories k found]
  | link target =>
    obtain same | ⟨d, there, -⟩ := narrowed.links k target found
    · simp [same]
    · simp [there]
  | _ => cases way

/-- How a walk to `l` can end once files are in its way. It never ends where something is missing. -/
inductive Barred (s : FileTree) (l : Location) : Except FileFault Location → Prop
  | through : Barred s l (.ok l)
  | file {k : Location} {e : Entry} (found : s.get? k = some e) (file : e.isFile) : Barred s l (.ok k)
  | fault {fault : FileFault} (other : fault ≠ .notFound) : Barred s l (.error fault)

variable {s : FileTree} {steps : List String}

/-- A walk into a file ends there, if it ends at all. -/
theorem barred_walkWith_of_file {jump : Location → List String → Except FileFault Location} {e : Entry}
    (found : s.get? here = some e) (file : e.isFile) : Barred s l (s.walkWith .target jump here steps) := by
  cases steps with
  | nil => exact .file found file
  | cons step rest =>
    rw [walkWith, found]
    cases e <;> first | exact .fault (by simp) | cases file

theorem Narrowed.barred_walkWith (narrowed : t.Narrowed s)
    {jump jump' : Location → List String → Except FileFault Location}
    (jumps : ∀ here steps, jump here steps = .ok l → Barred s l (jump' here steps))
    (walk : t.walkWith .target jump here steps = .ok l) : Barred s l (s.walkWith .target jump' here steps) := by
  induction steps generalizing here with
  | nil =>
    obtain rfl : here = l := by simpa [walkWith] using walk
    exact .through
  | cons step rest ih =>
    unfold walkWith at walk ⊢
    split at walk
    · cases walk
    · next atHere =>
      rw [narrowed.directories here atHere]
      dsimp only
      split at walk
      · next dot => rw [if_pos dot]; exact ih walk
      · next notDot =>
        rw [if_neg notDot]
        split at walk
        · next up => rw [if_pos up]; exact ih walk
        · next notUp =>
          simp only [reduceCtorEq, decide_false, Bool.false_and, Bool.and_false, Bool.false_eq_true, if_false] at walk ⊢
          rw [if_neg notUp]
          split at walk
          · cases walk
          · next short =>
            rw [if_neg short]
            split at walk
            · next target link =>
              obtain same | ⟨e, found, file⟩ := narrowed.links _ target link
              · rw [same]
                exact jumps _ _ walk
              · have barred : Barred s l (s.walkWith .target jump' (here ++ [step]) rest) := barred_walkWith_of_file found file
                rw [found]
                cases e <;> first | exact barred | cases file
            · next noLink =>
              split
              · next target link => exact absurd (narrowed.keeps _ _ rfl link) (noLink target)
              · exact ih walk
    · cases walk

theorem Narrowed.barred_walk (narrowed : t.Narrowed s) {n : Nat} (walk : t.walk .target n here steps = .ok l) :
    Barred s l (s.walk .target n here steps) := by
  induction n generalizing here steps with
  | zero => exact narrowed.barred_walkWith (fun _ _ jump => absurd jump (by simp)) walk
  | succ n ih => exact narrowed.barred_walkWith (fun _ _ jump => ih jump) walk

/-- A path that leads somewhere has a directory or a link for its last name. -/
theorem Leads.isWay_of_ending (leads : t.Leads here p l) {parent : Location}
    (ends : t.ending here p = .ok (.name parent name)) : ∃ e, e.isWay ∧ t.get? (parent ++ [name]) = some e := by
  obtain ⟨before, steps, valid, directory, walked⟩ := exists_walk_of_ending ends
  rw [enter_of_some (by simp [leads.start])] at walked
  by_cases link : ∃ target, t.get? (parent ++ [name]) = some (.link target)
  · obtain ⟨target, link⟩ := link
    exact ⟨_, rfl, link⟩
  · obtain ⟨m, through⟩ := walk_append .target walked directory
    obtain ⟨jump, unfolded⟩ := t.walk_eq_walkWith .target m
    have walk := leads.walk
    rw [steps, through name [] (fun file => nomatch file), unfolded,
      walkWith_name valid directory (.inr fun target found => link ⟨target, found⟩)] at walk
    split at walk
    · cases walk
    · obtain rfl := Except.ok.inj walk
      exact ⟨_, rfl, leads.directory⟩

theorem Narrowed.ending_ne_notFound (narrowed : t.Narrowed s) (leads : t.Leads here p l) (nonempty : p.text.isEmpty = false) :
    s.ending here p ≠ .error .notFound := by
  intro ends
  have there : (s.get? (p.start here)).isSome := by simp [narrowed.directories _ leads.start]
  rw [ending] at ends
  cases checked : checkPath p with
  | error fault =>
    obtain rfl : fault = .notFound := by simpa [checked, bind, Except.bind] using ends
    exact checkPath_ne_notFound nonempty checked rfl
  | ok _ =>
    simp only [checked, bind, Except.bind] at ends
    split at ends
    · cases ends
    · next last before shape =>
      have steps : p.steps = before.reverse ++ [last] := by
        rw [← List.reverse_cons, ← shape, List.reverse_reverse]
      have walk := leads.walk
      rw [steps] at walk
      obtain ⟨parent, walked, directory⟩ := exists_walk_of_append walk
      have barred := narrowed.barred_walk walked
      simp only [enter_of_some there] at ends
      generalize s.walk .target linkLimit (p.start here) before.reverse = outcome at barred ends
      cases barred with
      | through =>
        simp only [narrowed.directories _ directory] at ends
        split at ends
        · cases ends
        · split at ends
          · cases ends
          · split at ends <;> cases ends
      | file found file =>
        simp only [found] at ends
        split at ends
        · next missing => cases missing
        · next same => cases same; cases file
        · cases ends
      | fault other => exact other (Except.error.inj ends)

/-- What such a path ends in is there, even if it is a file now. -/
theorem Narrowed.isSome_of_ending (narrowed : t.Narrowed s) (leads : t.Leads here p l) {parent : Location}
    (ends : s.ending here p = .ok (.name parent name)) : (s.get? (parent ++ [name])).isSome := by
  have placed : (⟨s, here, []⟩ : Workspace).place? p = some (parent ++ [name]) := by
    dsimp only [Workspace.place?]
    rw [ends]
  have before : (⟨t, here, []⟩ : Workspace).place? p = some (parent ++ [name]) :=
    Workspace.place?_of_keeps (w := ⟨s, here, []⟩) narrowed.keeps rfl (narrowed.directories _ leads.start) placed
  dsimp only [Workspace.place?] at before
  split at before
  · next ends' =>
    obtain ⟨e, way, found⟩ := leads.isWay_of_ending ends'
    rw [Option.some_inj.mp before] at found
    exact narrowed.isSome_of_isWay way found
  · cases before

end FileTree

namespace FileM

variable {w : Workspace} {p : Path} {l : Location}

theorem nonempty_of_components {n : Nat} (depth : p.components.length = n + 1) : p.text.isEmpty = false := by
  by_contra empty
  have text : p = ⟨""⟩ := by
    cases p
    simpa using empty
  have none : (⟨""⟩ : Path).components.length = 0 := by decide
  simp [text, none] at depth

variable {t : FileTree}

/-- A path that led to a directory before files came into its way names nothing that could be made. -/
theorem makeDirectory_of_narrowed (narrowed : t.Narrowed w.files) (leads : t.Leads w.directory p l)
    (nonempty : p.text.isEmpty = false) : ∃ fault, (makeDirectory p).exec w = (.error fault, w) ∧ fault ≠ .notFound := by
  rw [makeDirectory, TaskM.exec_bind, exec_ending]
  cases ends : w.files.ending w.directory p with
  | error fault =>
    exact ⟨fault, rfl, fun missing => narrowed.ending_ne_notFound leads nonempty (missing ▸ ends)⟩
  | ok e =>
    cases e with
    | here | up | root => exact ⟨_, rfl, by simp⟩
    | name parent name =>
      obtain ⟨there, found⟩ := Option.isSome_iff_exists.mp (narrowed.isSome_of_ending leads ends)
      simp only [TaskM.exec_bind, exec_entryAt?, found]
      exact ⟨_, rfl, by simp⟩

/-- A directory that is there cannot be made, and the fault is not that one above it is missing. -/
theorem makeDirectory_of_leads (leads : w.Leads p l) (nonempty : p.text.isEmpty = false) :
    ∃ fault, (makeDirectory p).exec w = (.error fault, w) ∧ fault ≠ .notFound :=
  makeDirectory_of_narrowed (.refl w.files) leads nonempty

/-- A path that cannot be looked up names no directory that could be made. -/
theorem makeDirectories_of_fault {fault : FileFault} (depth : p.components.length ≠ 0)
    (refused : FileTree.checkPath p = .error fault) : (makeDirectories p).exec w = (.error fault, w) := by
  obtain ⟨n, depth⟩ := Nat.exists_eq_succ_of_ne_zero depth
  have other := FileTree.checkPath_ne_notFound (nonempty_of_components depth) refused
  have unmade : (makeDirectory p).exec w = (.error fault, w) := by
    rw [makeDirectory, TaskM.exec_bind, exec_ending, FileTree.ending, refused]
    rfl
  have unfound : w.isDirectory p = false := by
    rw [Workspace.isDirectory, Workspace.entry?, Workspace.find, Workspace.locate, FileTree.locate, refused]
    rfl
  rw [makeDirectories, depth, makeDirectoriesWithin, TaskM.exec_tryCatch, makeDirectoryIfMissing, TaskM.exec_tryCatch]
  simp only [unmade, TaskM.exec_bind, TaskM.exec_get, unfound, Bool.false_eq_true, if_false, TaskM.exec_throw]
  split
  · exact absurd rfl other
  · rfl

/-- Making a directory that is there changes nothing, and fails just if its path cannot be looked up. -/
theorem exec_makeDirectories_of_leads (leads : w.Leads p l) : (makeDirectories p).exec w =
    (if p.components.length = 0 then .ok () else FileTree.checkPath p, w) := by
  split
  · next depth =>
    rw [makeDirectories, depth]
    rfl
  · next depth =>
    cases fits : FileTree.checkPath p with
    | error fault => exact makeDirectories_of_fault depth fits
    | ok _ =>
      obtain ⟨n, depth⟩ := Nat.exists_eq_succ_of_ne_zero depth
      obtain ⟨fault, refused, other⟩ := makeDirectory_of_leads leads (nonempty_of_components depth)
      have there : w.isDirectory p = true := by
        rw [Workspace.isDirectory, Workspace.entry?, Workspace.find, Workspace.locate, leads.locate, fits]
        simp [Except.map, bind, Except.bind, leads.directory, pure, Except.pure]
      rw [makeDirectories, depth, makeDirectoriesWithin, TaskM.exec_tryCatch, makeDirectoryIfMissing,
        TaskM.exec_tryCatch]
      simp only [refused, TaskM.exec_bind, TaskM.exec_get, there, if_true]
      rfl

theorem makeDirectories_of_leads (leads : w.Leads p l) : ((makeDirectories p).exec w).2 = w := by
  rw [exec_makeDirectories_of_leads leads]

end FileM

theorem Files.makeDirectories_of_leads {w : Workspace} {p : Path} {l : Location} (leads : w.Leads p l) :
    ((makeDirectories p).exec w).2 = w := by
  rw [makeDirectories, TaskM.exec_describe]
  exact FileM.makeDirectories_of_leads leads

/-- A directory that was made once, or was there, is made without a change where it is there. -/
theorem Files.makeDirectories_again {w v : Workspace} {p : Path} {l : Location}
    (made : ((makeDirectories p).exec w).1 = .ok ()) (leads : v.Leads p l) : (makeDirectories p).exec v = (.ok (), v) := by
  rw [makeDirectories, TaskM.exec_describe] at made ⊢
  rw [FileM.exec_makeDirectories_of_leads leads]
  split
  · rfl
  · next depth =>
    cases fits : FileTree.checkPath p with
    | ok _ => rfl
    | error fault =>
      rw [FileM.makeDirectories_of_fault depth fits] at made
      cases made

/-- The directories above an entry of a directory are there. What comes of making them is decided by their path. -/
theorem Files.exists_makeParent_join {p : Path} {name : String} (valid : IsName name) :
    ∃ outcome, ∀ (w : Workspace) (l : Location), w.Leads p l → (makeParent (p.join name)).exec w = (outcome, w) := by
  unfold makeParent
  cases above : (p.join name).parent? with
  | some parent =>
    refine ⟨(if parent.components.length = 0 then .ok () else FileTree.checkPath parent).mapError
      (.makeDirectory parent ·.message), fun w l leads => ?_⟩
    dsimp only
    rw [makeDirectories, TaskM.exec_describe,
      FileM.exec_makeDirectories_of_leads (FileTree.Leads.parent leads valid above)]
  | none => exact ⟨_, fun w l leads => rfl⟩

theorem Files.exec_makeParent_join {w : Workspace} {p : Path} {l : Location} {name : String} (leads : w.Leads p l)
    (valid : IsName name) : ∃ outcome, (Files.makeParent (p.join name)).exec w = (outcome, w) :=
  (exists_makeParent_join valid).imp fun _ made => made w l leads

/-- The directories above a name that can be looked up are made without a change where they are there. -/
theorem Files.makeParent_join {w : Workspace} {p : Path} {l : Location} {name : String} (leads : w.Leads p l)
    (valid : IsName name) (fits : FileTree.usable p name = .ok ()) :
    (Files.makeParent (p.join name)).exec w = (.ok (), w) := by
  rw [makeParent]
  cases above : (p.join name).parent? with
  | none => rfl
  | some parent =>
    dsimp only
    rw [makeDirectories, TaskM.exec_describe,
      FileM.exec_makeDirectories_of_leads (FileTree.Leads.parent leads valid above)]
    split
    · rfl
    · next depth =>
      obtain ⟨n, depth⟩ := Nat.exists_eq_succ_of_ne_zero depth
      rw [FileTree.checkPath_of_prefix (Path.parent?_prefix above) (FileM.nonempty_of_components depth)
        (FileTree.checkPath_of_usable fits)]
      rfl

open FileTree (Leads usable)

theorem FileTree.mem_places (t : FileTree) (l : Location) : l ∈ t.places l := by
  unfold places
  cases found : t.groups.find? (·.contains l) with
  | none => simp
  | some group => simpa using List.find?_some found

namespace FileM

variable {w : Workspace} {p q : Path} {l k : Location} {name other : String} {e : Entry}

/-- Nothing is copied under a name that cannot be used, or over a directory. -/
theorem copy_join_refused (leads : w.Leads p l) (valid : IsName name) (leads' : w.Leads q k) (valid' : IsName other)
    (refused : usable p name = .ok () → usable q other = .ok () → w.files.get? (k ++ [other]) = some .directory) :
    ∃ fault, (copy (p.join name) (q.join other)).exec w = (.error fault, w) := by
  rw [copy, TaskM.exec_bind, exec_look]
  cases found : w.find (p.join name) with
  | error fault => exact ⟨fault, rfl⟩
  | ok there =>
    have fits : usable p name = .ok () := by
      cases fits : usable p name with
      | ok _ => rfl
      | error fault =>
        rw [Workspace.find, Workspace.locate, FileTree.Leads.locate_join_of_fault leads valid fits] at found
        cases found
    dsimp only
    split
    · exact ⟨_, rfl⟩
    · rw [locateForWriting, TaskM.exec_bind, TaskM.exec_bind, exec_look, Workspace.locate]
      cases fits' : usable q other with
      | error fault =>
        rw [FileTree.Leads.locate_join_of_fault leads' valid' fits']
        exact ⟨fault, rfl⟩
      | ok _ =>
        have directory := refused fits fits'
        rw [FileTree.Leads.locate_join leads' valid' (.inr fun target => by simp [directory]), fits']
        simp only [Except.map, TaskM.exec_bind, exec_entryAt?, directory]
        exact ⟨_, rfl⟩

/-- Renaming a file to where it is changes nothing. -/
theorem rename_join_self (leads : w.Leads p l) (leads' : w.Leads q l) (valid : IsName name)
    (found : w.files.get? (l ++ [name]) = some e) :
    (rename (p.join name) (q.join name)).exec w =
      (usable p name >>= fun _ => usable q name, w) := by
  have same : (w.files.places (l ++ [name])).contains (l ++ [name]) := by
    simpa using w.files.mem_places (l ++ [name])
  rw [rename, TaskM.exec_bind, exec_ending, FileTree.Leads.ending_join leads valid]
  cases usable p name with
  | error fault => rfl
  | ok _ =>
    simp only [Except.map, TaskM.exec_bind, exec_ending, FileTree.Leads.ending_join leads' valid]
    cases usable q name with
    | error fault => rfl
    | ok _ =>
      simp only [TaskM.exec_bind, exec_entryAt?, found, p.endsInSlash_join valid, q.endsInSlash_join valid,
        Bool.or_false, Bool.and_false, Bool.false_eq_true, if_false, TaskM.exec_get, same, if_true]
      rfl

end FileM

namespace Files

open FileM (relocated)

variable {w : Workspace} {p q : Path} {l k : Location} {name other : String} {e : Entry}

theorem move_of_rename {source dest : Path} {v : Workspace} (parent : (makeParent dest).exec w = (.ok (), w))
    (renamed : (FileM.rename source dest).exec w = (.ok (), v)) : (move source dest).exec w = (.ok (), v) := by
  rw [move, TaskM.exec_bind, parent]
  dsimp only
  rw [TaskM.exec_bind, TaskM.exec_attempt, renamed]
  rfl

theorem move_of_parent_error {source dest : Path} {error : FileError}
    (parent : (makeParent dest).exec w = (.error error, w)) : (move source dest).exec w = (.error error, w) := by
  rw [move, TaskM.exec_bind, parent]

/-- A file that can neither be renamed nor copied stays where it is. -/
theorem move_refused {source dest : Path} {fault fault' : FileFault} (parent : (makeParent dest).exec w = (.ok (), w))
    (unrenamed : (FileM.rename source dest).exec w = (.error fault, w))
    (uncopied : (FileM.copy source dest).exec w = (.error fault', w)) :
    ∃ error, (move source dest).exec w = (.error error, w) := by
  rw [move, TaskM.exec_bind, parent]
  dsimp only
  rw [TaskM.exec_bind, TaskM.exec_attempt, unrenamed]
  dsimp only
  rw [TaskM.exec_describe, TaskM.exec_bind, uncopied]
  exact ⟨_, rfl⟩

/-- What is moved gets its new place, unless nothing changes. That is no failure just if it had the place before, under
a path that can be used. -/
theorem move_join (leads : w.Leads p l) (valid : IsName name) (leads' : w.Leads q k) (valid' : IsName other)
    (found : w.files.get? (l ++ [name]) = some e) (noDirectory : e ≠ .directory)
    (apart : ¬ l ++ [name] <+: k ++ [other]) (apart' : ¬ k ++ [other] <+: l ++ [name]) :
    (∃ outcome, (move (p.join name) (q.join other)).exec w = (outcome, w) ∧
      (outcome = .ok () → usable q other = .ok () ∧ k ++ [other] ∈ w.files.places (l ++ [name]))) ∨
    (move (p.join name) (q.join other)).exec w = (.ok (), relocated w (l ++ [name]) (k ++ [other])) ∧
      usable q other = .ok () ∧ k ++ [other] ∉ w.files.places (l ++ [name]) := by
  obtain ⟨outcome, parent⟩ := exec_makeParent_join leads' valid'
  have renamed := FileM.rename_join leads valid leads' valid' found noDirectory apart apart'
  have refused {fault : FileFault} (unrenamed : (FileM.rename (p.join name) (q.join other)).exec w = (.error fault, w))
      (parent : (makeParent (q.join other)).exec w = (.ok (), w)) (why : usable p name = .ok () →
        usable q other = .ok () → w.files.get? (k ++ [other]) = some .directory) :
      ∃ error, (move (p.join name) (q.join other)).exec w = (.error error, w) := by
    obtain ⟨_, uncopied⟩ := FileM.copy_join_refused leads valid leads' valid' why
    exact move_refused parent unrenamed uncopied
  cases outcome with
  | error error => exact .inl ⟨_, move_of_parent_error parent, fun ok => nomatch ok⟩
  | ok _ =>
    cases fits : usable p name with
    | error fault =>
      rw [fits] at renamed
      obtain ⟨error, failed⟩ := refused renamed parent fun fits' => nomatch fits.symm.trans fits'
      exact .inl ⟨_, failed, fun ok => nomatch ok⟩
    | ok _ =>
      cases fits' : usable q other with
      | error fault =>
        rw [fits, fits'] at renamed
        obtain ⟨error, failed⟩ := refused renamed parent fun _ fits'' => nomatch fits'.symm.trans fits''
        exact .inl ⟨_, failed, fun ok => nomatch ok⟩
      | ok _ =>
        simp only [fits, fits'] at renamed
        split at renamed
        · next shared =>
          exact .inl ⟨_, move_of_rename parent renamed, fun _ => ⟨rfl, by simpa using shared⟩⟩
        · next single =>
          split at renamed
          · next directory =>
            obtain ⟨error, failed⟩ := refused renamed parent fun _ _ => directory
            exact .inl ⟨_, failed, fun ok => nomatch ok⟩
          · exact .inr ⟨move_of_rename parent renamed, rfl, by simpa using single⟩

/-- What can be looked up is moved to a name that can be, unless it is that of a directory. -/
theorem exists_move_join (leads : w.Leads p l) (valid : IsName name) (leads' : w.Leads q k) (valid' : IsName other)
    (found : w.files.get? (l ++ [name]) = some e) (noDirectory : e ≠ .directory)
    (apart : ¬ l ++ [name] <+: k ++ [other]) (apart' : ¬ k ++ [other] <+: l ++ [name])
    (fits : usable p name = .ok ()) (fits' : usable q other = .ok ())
    (noRoom : w.files.get? (k ++ [other]) ≠ some .directory) :
    ∃ v, (move (p.join name) (q.join other)).exec w = (.ok (), v) := by
  have parent := makeParent_join leads' valid' fits'
  have renamed := FileM.rename_join leads valid leads' valid' found noDirectory apart apart'
  simp only [fits, fits'] at renamed
  split at renamed <;> exact ⟨_, move_of_rename parent renamed⟩

/-- What is not there is not moved. -/
theorem move_join_missing (leads : w.Leads p l) (valid : IsName name) (leads' : w.Leads q k) (valid' : IsName other)
    (missing : w.files.get? (l ++ [name]) = none) :
    ∃ error, (move (p.join name) (q.join other)).exec w = (.error error, w) := by
  obtain ⟨outcome, parent⟩ := exec_makeParent_join leads' valid'
  obtain ⟨fault, unrenamed⟩ := FileM.rename_join_missing leads valid leads' valid' missing
  have uncopied : ∃ fault, (FileM.copy (p.join name) (q.join other)).exec w = (.error fault, w) := by
    rw [FileM.copy, TaskM.exec_bind, FileM.exec_look, FileM.find_join leads valid (by simp [missing]), missing]
    cases usable p name <;> exact ⟨_, rfl⟩
  obtain ⟨fault', uncopied⟩ := uncopied
  cases outcome with
  | error error => exact ⟨_, move_of_parent_error parent⟩
  | ok _ => exact move_refused parent unrenamed uncopied

/-- Moving a file to where it is changes nothing. -/
theorem move_join_self (leads : w.Leads p l) (leads' : w.Leads q l) (valid : IsName name)
    (found : w.files.get? (l ++ [name]) = some e) :
    ∃ outcome, (move (p.join name) (q.join name)).exec w = (outcome, w) ∧
      (outcome = .ok () → usable q name = .ok ()) := by
  obtain ⟨outcome, parent⟩ := exec_makeParent_join leads' valid
  have renamed := FileM.rename_join_self leads leads' valid found
  cases outcome with
  | error error => exact ⟨_, move_of_parent_error parent, fun ok => nomatch ok⟩
  | ok _ =>
    cases both : usable p name >>= fun _ => usable q name with
    | ok _ =>
      refine ⟨_, move_of_rename parent (by rw [renamed, both]), fun _ => ?_⟩
      cases fits : usable p name with
      | error fault => simp [fits, bind, Except.bind] at both
      | ok _ => simpa [fits, bind, Except.bind] using both
    | error fault =>
      obtain ⟨_, uncopied⟩ := FileM.copy_join_refused leads valid leads' valid fun fits fits' => by
        simp [fits, fits', bind, Except.bind] at both
      obtain ⟨error, failed⟩ := move_refused parent (by rw [renamed, both]) uncopied
      exact ⟨_, failed, fun ok => nomatch ok⟩

end Files

end ReleaseMatrix
