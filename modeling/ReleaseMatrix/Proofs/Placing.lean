import ReleaseMatrix.Proofs.PathEnding
import ReleaseMatrix.Proofs.Reaching

namespace ReleaseMatrix

namespace FileTree

variable {t : FileTree} {here k l : Location} {p : Path} {name : String} {quarry : Quarry}

/-- A name ends the dots that lead on from a directory that was removed. -/
theorem enter_append (valid : IsName name) (before rest : List String) :
    t.enter here (before ++ name :: rest) = ((t.enter here before).1, (t.enter here before).2 ++ name :: rest) := by
  induction before generalizing here with
  | nil => simp [enter, valid.notHere, valid.notUp]
  | cons step before ih =>
    simp only [List.cons_append, enter]
    split
    · rfl
    · split
      · exact ih
      · split
        · exact ih
        · rfl

/-- What is found under a name is what the name stands for, unless that is a link. -/
theorem ending_join_of_locate (valid : IsName name) (located : t.locate here (p.join name) quarry = .ok l) :
    ∃ parent, t.ending here (p.join name) = .ok (.name parent name) ∧
      ((∀ target, t.get? (parent ++ [name]) ≠ some (.link target)) → l = parent ++ [name]) := by
  rw [locate, p.start_join valid here, p.lookupSteps_join valid, enter_append valid] at located
  rw [ending, p.start_join valid here, p.steps_join valid]
  cases checked : checkPath (p.join name) with
  | error fault => simp [checked, bind, Except.bind] at located
  | ok _ =>
    simp only [checked, bind, Except.bind] at located
    split at located
    · cases located
    · obtain ⟨parent, walk, directory⟩ := exists_walk_of_append located
      obtain ⟨m, same⟩ := walk_append quarry walk directory
      obtain ⟨jump, unfolded⟩ := t.walk_eq_walkWith quarry m
      rw [same name [] fun _ => valid.ne_closingStep, unfolded] at located
      have short : ¬ name.utf8ByteSize > nameLimit := by
        intro long
        rw [walkWith, directory] at located
        simp [valid.notHere, valid.notUp, valid.ne_closingStep, long] at located
      refine ⟨parent, ?_, fun noLink => ?_⟩
      · simp [bind, Except.bind, walk, directory, valid.notHere, valid.notUp, short, pure, Except.pure]
      · rw [walkWith_name valid directory (.inr noLink), if_neg short] at located
        exact (Except.ok.inj located).symm

/-- There is no link at `l` or below. -/
def Linkless (t : FileTree) (l : Location) : Prop :=
  ∀ k target, l <+: k → t.get? k ≠ some (.link target)

variable {s u : FileTree} {e : Entry} {first last : String}

theorem Linkless.congr (linkless : t.Linkless l) (same : ∀ k, l <+: k → s.get? k = t.get? k) : s.Linkless l := by
  intro k target inside
  rw [same k inside]
  exact linkless k target inside

theorem Linkless.put (linkless : t.Linkless l) (root : k ≠ []) (noLink : ∀ target, e ≠ .link target) :
    (t.put k e).Linkless l := by
  intro m target inside
  rw [get?_put root]
  split
  · simpa using noLink target
  · exact linkless m target inside

theorem Linkless.erase (linkless : t.Linkless l) (root : k ≠ []) : (t.erase k).Linkless l := by
  intro m target inside
  rw [get?_erase root]
  split
  · simp
  · exact linkless m target inside

/-- Where no directory stands, there is nothing below. -/
theorem Sound.linkless (sound : t.Sound) (noDirectory : t.get? l ≠ some .directory)
    (noLink : ∀ target, t.get? l ≠ some (.link target)) : t.Linkless l := by
  intro k target inside
  by_cases same : k = l
  · exact same ▸ noLink target
  · simp [sound.leaf noDirectory inside same]

/-- A place where there is no directory and no link now, or the same as before, which a directory was only if it
still is. -/
def Leafed (t s : FileTree) (l : Location) : Prop :=
  s.get? l = t.get? l ∨ (t.get? l ≠ some .directory ∧ ∀ e, s.get? l = some e → e.isWay = false)

theorem Leafed.trans (before : t.Leafed s l) (after : s.Leafed u l) : t.Leafed u l := by
  obtain same | ⟨noDirectory, noWay⟩ := after
  · obtain same' | ⟨noDirectory, noWay⟩ := before
    · exact .inl (same.trans same')
    · exact .inr ⟨noDirectory, fun e found => noWay e (same ▸ found)⟩
  · refine .inr ⟨fun directory => ?_, noWay⟩
    obtain same' | ⟨noDirectory', -⟩ := before
    · exact noDirectory (same'.trans directory)
    · exact noDirectory' directory

theorem Leafed.directory_iff (leafed : t.Leafed s l) : s.get? l = some .directory ↔ t.get? l = some .directory := by
  obtain same | ⟨noDirectory, noWay⟩ := leafed
  · rw [same]
  · refine ⟨fun found => ?_, fun found => absurd found noDirectory⟩
    have := noWay _ found
    cases this

theorem Leafed.noLink (leafed : t.Leafed s l) (noLink : ∀ target, t.get? l ≠ some (.link target)) (target : Path) :
    s.get? l ≠ some (.link target) := by
  obtain same | ⟨-, noWay⟩ := leafed
  · exact same ▸ noLink target
  · intro found
    have := noWay _ found
    cases this

/-- What a path names is in a directory that the path without its last name leads to. -/
theorem exists_walk_of_ending {parent : Location} (ends : t.ending here p = .ok (.name parent name)) :
    ∃ before, p.steps = before ++ [name] ∧ IsName name ∧ t.get? parent = some .directory ∧
      t.walk .target linkLimit (t.enter (p.start here) before).1 (t.enter (p.start here) before).2 = .ok parent := by
  rw [ending] at ends
  cases checked : checkPath p with
  | error fault => simp [checked, bind, Except.bind] at ends
  | ok _ =>
    simp only [checked, bind, Except.bind] at ends
    split at ends
    · cases ends
    · next last before shape =>
      have steps : p.steps = before.reverse ++ [last] := by
        rw [← List.reverse_cons, ← shape, List.reverse_reverse]
      cases walked : t.walk .target linkLimit (t.enter (p.start here) before.reverse).1
          (t.enter (p.start here) before.reverse).2 with
      | error fault => simp [walked] at ends
      | ok k =>
        simp only [walked] at ends
        split at ends
        · cases ends
        · next directory =>
          split at ends
          · cases ends
          · next notHere =>
            split at ends
            · cases ends
            · next notUp =>
              split at ends
              · cases ends
              · obtain ⟨rfl, rfl⟩ : k = parent ∧ last = name := by simpa [pure, Except.pure] using ends
                have member : last ∈ p.steps := by simp [steps]
                obtain ⟨nonempty, noSlash⟩ := Path.of_mem_steps member
                exact ⟨_, steps, ⟨nonempty, notHere, notUp, noSlash⟩, directory, walked⟩
        · cases ends

/-- What stands under the name that a path ends in is found by the path, unless that is a link. -/
theorem locate_of_ending {parent : Location} (ends : t.ending here p = .ok (.name parent name))
    (noLink : ∀ target, t.get? (parent ++ [name]) ≠ some (.link target)) (located : t.locate here p .target = .ok l) :
    l = parent ++ [name] := by
  obtain ⟨before, steps, valid, directory, walked⟩ := exists_walk_of_ending ends
  obtain ⟨m, through⟩ := walk_append .target walked directory
  obtain ⟨jump, unfolded⟩ := t.walk_eq_walkWith .target m
  obtain ⟨rest, closing, lookup⟩ : ∃ rest, (rest = [] ∨ rest = [Path.closingStep]) ∧
      p.lookupSteps = before ++ name :: rest := by
    rw [Path.lookupSteps, steps]
    split
    · exact ⟨_, .inr rfl, by simp⟩
    · exact ⟨_, .inl rfl, by simp⟩
  rw [locate, lookup, enter_append valid] at located
  cases checked : checkPath p with
  | error fault => simp [checked, bind, Except.bind] at located
  | ok _ =>
    simp only [checked, bind, Except.bind, reduceCtorEq, decide_false, Bool.false_and, Bool.false_eq_true,
      if_false] at located
    rw [through name rest (fun file => by cases file), unfolded, walkWith, directory] at located
    simp only [valid.notHere, valid.notUp, valid.ne_closingStep, decide_false, Bool.or_false, Bool.false_eq_true,
      reduceCtorEq, Bool.false_and, if_false] at located
    split at located
    · cases located
    · obtain rfl | rfl := closing
      · exact (Except.ok.inj located).symm
      · rw [walkWith] at located
        split at located
        · cases located
        · simpa [walkWith] using located.symm
        · cases located

/-- A walk whose last step is a slash ends in a directory. -/
theorem directory_of_walk_slash (walk : t.walk .target linkLimit here (steps ++ [Path.closingStep]) = .ok l) :
    t.get? l = some .directory := by
  obtain ⟨k, before, directory⟩ := exists_walk_of_append walk
  obtain ⟨m, through⟩ := walk_append .target before directory
  obtain ⟨jump, unfolded⟩ := t.walk_eq_walkWith .target m
  rw [through _ [] (fun file => by cases file), unfolded, walkWith, directory] at walk
  obtain rfl : k = l := by simpa [walkWith] using walk
  exact directory

/-- What is found under a path and is no directory has a name in a directory. It stands under that name itself, unless
that is a link. -/
theorem exists_ending_of_locate (sound : t.Sound) (start : t.get? (p.start here) = some .directory)
    (located : t.locate here p .target = .ok l) (noDirectory : t.get? l ≠ some .directory) :
    ∃ parent name, t.ending here p = .ok (.name parent name) ∧ p.endsInSlash = false ∧
      t.get? (parent ++ [name]) ≠ some .directory ∧
      ((∀ target, t.get? (parent ++ [name]) ≠ some (.link target)) → l = parent ++ [name]) := by
  have there : (t.get? (p.start here)).isSome := by simp [start]
  rw [locate, enter_of_some there] at located
  cases checked : checkPath p with
  | error fault => simp [checked, bind, Except.bind] at located
  | ok _ =>
    simp only [checked, bind, Except.bind, reduceCtorEq, decide_false, Bool.false_and, Bool.false_eq_true, if_false]
      at located
    have noSlash : p.endsInSlash = false := by
      by_contra slash
      rw [Bool.not_eq_false] at slash
      rw [Path.lookupSteps, if_pos slash] at located
      exact noDirectory (directory_of_walk_slash located)
    rw [Path.lookupSteps, if_neg (by simp [noSlash]), List.append_nil] at located
    rcases List.eq_nil_or_concat' p.steps with none | ⟨before, last, steps⟩
    · obtain rfl : p.start here = l := by
        obtain ⟨jump, unfolded⟩ := t.walk_eq_walkWith .target linkLimit
        simpa [none, unfolded, walkWith] using located
      exact absurd start noDirectory
    · rw [steps] at located
      obtain ⟨parent, walked, directory⟩ := exists_walk_of_append located
      obtain ⟨m, through⟩ := walk_append .target walked directory
      obtain ⟨jump, unfolded⟩ := t.walk_eq_walkWith .target m
      rw [through last [] (fun file => by cases file), unfolded] at located
      have notHere : last ≠ "." := by
        rintro rfl
        obtain rfl : parent = l := by simpa [walkWith, directory] using located
        exact noDirectory directory
      have notUp : last ≠ ".." := by
        rintro rfl
        obtain rfl : parent.dropLast = l := by simpa [walkWith, directory, Path.closingStep] using located
        exact noDirectory (sound.get?_dropLast directory)
      obtain ⟨nonempty, noSeparator⟩ := Path.of_mem_steps (show last ∈ p.steps by simp [steps])
      have valid : IsName last := ⟨nonempty, notHere, notUp, noSeparator⟩
      have short : ¬ last.utf8ByteSize > nameLimit := fun long => by
        simp [walkWith, directory, valid.notHere, valid.notUp, valid.ne_closingStep, long] at located
      have plain (noLink : ∀ target, t.get? (parent ++ [last]) ≠ some (.link target)) : l = parent ++ [last] := by
        rw [walkWith_name valid directory (.inr noLink), if_neg short] at located
        exact (Except.ok.inj located).symm
      refine ⟨parent, last, ?_, noSlash, fun found => ?_, plain⟩
      · rw [ending, checked]
        simp [steps, enter_of_some there, bind, Except.bind, walked, directory, notHere, notUp, short, pure, Except.pure]
      · exact noDirectory (plain (fun target link => by cases found.symm.trans link) ▸ found)

/-- A path that ends in the name of something finds that, unless it is a link. -/
theorem locate_eq_of_ending {parent : Location} (start : t.get? (p.start here) = some .directory)
    (ends : t.ending here p = .ok (.name parent name)) (noSlash : p.endsInSlash = false)
    (noLink : ∀ target, t.get? (parent ++ [name]) ≠ some (.link target)) :
    t.locate here p .target = .ok (parent ++ [name]) := by
  obtain ⟨before, steps, valid, directory, walked⟩ := exists_walk_of_ending ends
  have there : (t.get? (p.start here)).isSome := by simp [start]
  rw [enter_of_some there] at walked
  obtain ⟨m, through⟩ := walk_append .target walked directory
  obtain ⟨jump, unfolded⟩ := t.walk_eq_walkWith .target m
  have found := through name [] fun file => by cases file
  rw [unfolded, walkWith_name valid directory (.inr noLink)] at found
  rw [ending] at ends
  rw [locate, Path.lookupSteps, if_neg (by simp [noSlash]), List.append_nil, steps, enter_of_some there]
  cases checked : checkPath p with
  | error fault => simp [checked, bind, Except.bind] at ends
  | ok _ =>
    have short : ¬ name.utf8ByteSize > nameLimit := fun long => by
      simp [checked, steps, enter_of_some there, bind, Except.bind, walked, directory, valid.notHere, valid.notUp, long] at ends
    simp [bind, Except.bind, found, short]

/-- Where there are no links, a path along names stays below the first of them. -/
theorem Leads.ending_inside (leads : t.Leads here p l) (valid : IsName name) (validFirst : IsName first)
    (validLast : IsName last) (linkless : t.Linkless (l ++ [name])) {parent : Location} {other : String}
    (ends : t.ending here (((p.join name).join first).join last) = .ok (.name parent other)) :
    l ++ [name] <+: parent := by
  have there : (t.get? (p.start here)).isSome := by simp [leads.start]
  obtain ⟨before, steps, -, -, walked⟩ := exists_walk_of_ending ends
  rw [Path.steps_join _ validLast, Path.steps_join _ validFirst, Path.steps_join _ valid] at steps
  obtain ⟨rfl, -⟩ := List.append_inj' steps rfl
  rw [Path.start_join _ validLast, Path.start_join _ validFirst, Path.start_join _ valid, enter_of_some there,
    List.append_assoc] at walked
  obtain ⟨m, through⟩ := walk_append .target leads.walk leads.directory
  obtain ⟨jump, unfolded⟩ := t.walk_eq_walkWith .target m
  rw [List.singleton_append, through name [first] fun _ => valid.ne_closingStep, unfolded, walkWith,
    leads.directory] at walked
  simp only [valid.notHere, valid.notUp, valid.ne_closingStep, decide_false, Bool.or_false, Bool.false_eq_true,
    reduceCtorEq, Bool.false_and, if_false] at walked
  split at walked
  · cases walked
  · have noLink (target : Path) : t.get? (l ++ [name]) ≠ some (.link target) :=
      linkless _ target (List.prefix_refl _)
    split at walked
    · next target link => exact absurd link (noLink target)
    have plain : t.Plain (l ++ [name]) := fun k target inside _ => linkless k target inside
    have names : ∀ step ∈ [first], IsName step := by simpa using validFirst
    obtain ⟨-, ends⟩ : t.walkWith .target jump (l ++ [name]) [first] = t.walkWith .target jump (l ++ [name]) [first] ∧
        ∀ k, t.walkWith .target jump (l ++ [name]) [first] = .ok k → k = l ++ [name] ++ [first] :=
      walkWith_straight (fun _ _ => rfl) (plain.straight (List.prefix_refl _) _) names (List.prefix_refl _)
    exact ends parent walked ▸ List.prefix_append _ _

end FileTree

namespace Workspace

variable {w : Workspace} {p : Path} {name : String} {k : Location}

/-- What a name names is in a directory. -/
theorem exists_directory_of_place? (valid : IsName name) (placed : w.place? (p.join name) = some k) :
    ∃ dir, k = dir ++ [name] ∧ w.files.get? dir = some .directory := by
  obtain ⟨parent, other, ends, rfl⟩ := exists_ending_of_place? placed
  obtain ⟨before, steps, -, directory, -⟩ := FileTree.exists_walk_of_ending ends
  rw [p.steps_join valid] at steps
  obtain rfl : name = other := by simpa using (List.append_inj' steps rfl).2
  exact ⟨parent, rfl, directory⟩

/-- What stands in the place of a path is found by the path, unless that is a link. -/
theorem eq_of_place? {l : Location} (placed : w.place? p = some k)
    (noLink : ∀ target, w.files.get? k ≠ some (.link target)) (located : w.locate p .target = .ok l) : l = k := by
  obtain ⟨parent, name, ends, rfl⟩ := exists_ending_of_place? placed
  exact FileTree.locate_of_ending ends noLink located

/-- A file of a directory without links is below that directory. -/
theorem place?_inside {l : Location} {first last : String} (leads : w.Leads p l) (valid : IsName name)
    (validFirst : IsName first) (validLast : IsName last) (linkless : w.files.Linkless (l ++ [name]))
    (placed : w.place? (((p.join name).join first).join last) = some k) : l ++ [name] <+: k := by
  obtain ⟨parent, other, ends, rfl⟩ := exists_ending_of_place? placed
  exact (FileTree.Leads.ending_inside leads valid validFirst validLast linkless ends).trans (List.prefix_append _ _)

end Workspace

namespace FileM

variable {w : Workspace} {p : Path} {name : String}

/-- Writing changes what the path names, or nothing, if that is no link and no other place's file. -/
theorem write_cases (valid : IsName name)
    (tidy : ∀ k, w.place? (p.join name) = some k →
      (∀ target, w.files.get? k ≠ some (.link target)) ∧ w.files.Alone k) (content : Bytes) :
    (∃ fault, (write (p.join name) content).exec w = (.error fault, w)) ∨
      ∃ k e, w.place? (p.join name) = some k ∧ w.files.get? k ≠ some .directory ∧ e.isWay = false ∧
        (write (p.join name) content).exec w = (.ok (), changed w (·.put k e)) := by
  cases located : w.locate (p.join name) .newFile with
  | error fault => exact .inl ⟨fault, by simp [write, locateForWriting, TaskM.exec_bind, exec_look, located]⟩
  | ok l =>
    obtain ⟨parent, ends, same⟩ := FileTree.ending_join_of_locate valid located
    have placed := Workspace.place?_of_ending ends
    obtain ⟨noLink, alone⟩ := tidy _ placed
    obtain rfl := same noLink
    by_cases directory : w.files.get? (parent ++ [name]) = some .directory
    · exact .inl ⟨.isADirectory, by
        simp [write, locateForWriting, TaskM.exec_bind, exec_look, located, exec_entryAt?, directory]⟩
    · have there : (locateForWriting (p.join name)).exec w = (.ok (parent ++ [name]), w) := by
        rw [locateForWriting, TaskM.exec_bind, exec_look, located]
        simp only [TaskM.exec_bind, exec_entryAt?]
        rfl
      refine .inr ⟨_, ((w.files.get? (parent ++ [name])).getD (.file [] false)).withContent content, placed,
        directory, ?_, ?_⟩
      · cases found : w.files.get? (parent ++ [name]) with
        | none => rfl
        | some e => cases e <;> rfl
      · rw [write, TaskM.exec_bind, there]
        simp only [TaskM.exec_bind, exec_entryAt?, exec_update, alone.replace_eq, changed]

/-- Renaming `p` to `q` finds the entry `e` at `a`, and `b` for its other place. A slash is only put after the names of
directories. -/
structure Renames (p q : Path) (w : Workspace) (a b : Location) (e : Entry) : Prop where
  source : w.place? p = some a
  dest : w.place? q = some b
  found : w.files.get? a = some e
  slashes : e ≠ .directory → p.endsInSlash = false ∧ q.endsInSlash = false

/-- The entry `e` can be moved from `a` to `b`: these are not places of one file, neither of them is inside the other, and
a directory takes only the place of an empty directory, as nothing else does. -/
structure Movable (w : Workspace) (a b : Location) (e : Entry) : Prop where
  single : b ∉ w.files.places a
  apart : ¬ a <+: b
  apart' : ¬ b <+: a
  kind : ∀ f, w.files.get? b = some f → (f = .directory ↔ e = .directory)
  room : w.files.get? b = some .directory → w.files.names b = []

/-- Renaming does nothing where both paths are names of one file, and else moves what the first one names to the place
of the second one. Or it fails, and changes nothing. -/
theorem rename_exact (p q : Path) (w : Workspace) :
    (∃ fault, (rename p q).exec w = (.error fault, w)) ∨
      ∃ a b e, Renames p q w a b e ∧ (b ∈ w.files.places a ∧ (rename p q).exec w = (.ok (), w) ∨
        Movable w a b e ∧ (rename p q).exec w = (.ok (), relocated w a b)) := by
  cases ends : w.files.ending w.directory p with
  | error fault => exact .inl ⟨_, by rw [rename, TaskM.exec_bind, exec_ending, ends]⟩
  | ok e =>
    rw [rename, TaskM.exec_bind, exec_ending, ends]
    simp only [TaskM.exec_bind, exec_ending]
    cases ends' : w.files.ending w.directory q with
    | error fault => exact .inl ⟨_, rfl⟩
    | ok e' =>
      cases e with
      | here | up | root => exact .inl ⟨_, rfl⟩
      | name parent name =>
        cases e' with
        | here | up | root => exact .inl ⟨_, rfl⟩
        | name parent' name' =>
          simp only [TaskM.exec_bind, exec_entryAt?]
          cases found : w.files.get? (parent ++ [name]) with
          | none => exact .inl ⟨_, rfl⟩
          | some e =>
            simp only
            split
            · exact .inl ⟨_, rfl⟩
            · next noSlash =>
              have renames : Renames p q w (parent ++ [name]) (parent' ++ [name']) e :=
                ⟨Workspace.place?_of_ending ends, Workspace.place?_of_ending ends', found,
                  fun file => by simpa [file] using noSlash⟩
              simp only [TaskM.exec_bind, TaskM.exec_get]
              split
              · next shared => exact .inr ⟨_, _, e, renames, .inl ⟨by simpa using shared, rfl⟩⟩
              · next single =>
                split
                · exact .inl ⟨_, rfl⟩
                · next apart =>
                  split
                  · exact .inl ⟨_, rfl⟩
                  · next apart' =>
                    rw [FileTree.isPrefixOf_eq, decide_eq_true_iff] at apart apart'
                    have movable := Movable.mk (e := e) (by simpa using single) apart apart'
                    simp only [TaskM.exec_bind, exec_entryAt?]
                    cases there : w.files.get? (parent' ++ [name']) with
                    | none =>
                      have movable := movable (by simp [there]) (by simp [there])
                      cases e <;> exact .inr ⟨_, _, _, renames, .inr ⟨movable, rfl⟩⟩
                    | some d =>
                      by_cases both : e = .directory ∧ d = .directory
                      · obtain ⟨rfl, rfl⟩ := both
                        simp only [TaskM.exec_bind, TaskM.exec_get]
                        split
                        · next empty =>
                          have movable := movable (by simp [there]) fun _ => by simpa using empty
                          exact .inr ⟨_, _, _, renames, .inr ⟨movable, rfl⟩⟩
                        · exact .inl ⟨_, rfl⟩
                      · cases e <;> cases d <;>
                          first
                            | exact absurd ⟨rfl, rfl⟩ both
                            | exact .inl ⟨_, rfl⟩
                            | exact .inr ⟨_, _, _, renames, .inr ⟨movable (by simp [there]) (by simp [there]), rfl⟩⟩

/-- Whatever can be moved is moved. -/
theorem rename_of_renames {q : Path} {a b : Location} {e : Entry} (renames : Renames p q w a b e) :
    (b ∈ w.files.places a → (rename p q).exec w = (.ok (), w)) ∧
      (Movable w a b e → (rename p q).exec w = (.ok (), relocated w a b)) := by
  obtain ⟨parent, name, ends, rfl⟩ := Workspace.exists_ending_of_place? renames.source
  obtain ⟨parent', name', ends', rfl⟩ := Workspace.exists_ending_of_place? renames.dest
  have slashes : (decide (e ≠ .directory) && (p.endsInSlash || q.endsInSlash)) = false := by
    by_cases directory : e = .directory
    · simp [directory]
    · simp [renames.slashes directory]
  rw [rename, TaskM.exec_bind, exec_ending, ends]
  simp only [TaskM.exec_bind, exec_ending, ends', exec_entryAt?, renames.found, slashes, Bool.false_eq_true, if_false,
    TaskM.exec_get]
  refine ⟨fun shared => ?_, fun movable => ?_⟩
  · rw [if_pos (by simpa using shared)]
    rfl
  · rw [if_neg (by simpa using movable.single), if_neg (by simpa [FileTree.isPrefixOf_eq] using movable.apart),
      if_neg (by simpa [FileTree.isPrefixOf_eq] using movable.apart')]
    simp only [TaskM.exec_bind, exec_entryAt?]
    have kind := movable.kind
    cases there : w.files.get? (parent' ++ [name']) with
    | none => cases e <;> rfl
    | some f =>
      have kind := kind f there
      have room := movable.room
      by_cases directory : f = .directory
      · obtain rfl := directory
        obtain rfl := kind.mp rfl
        simp only [TaskM.exec_bind, TaskM.exec_get, room there, List.isEmpty_nil, if_true]
        rfl
      · have file := mt kind.mpr directory
        cases e <;> cases f <;> first | exact absurd rfl directory | exact absurd rfl file | rfl

/-- Renaming moves what the one path names to what the other one names, or changes nothing. -/
theorem rename_cases (p q : Path) (w : Workspace) :
    (∃ outcome, (rename p q).exec w = (outcome, w)) ∨
      ∃ a b e, w.place? p = some a ∧ w.place? q = some b ∧ w.files.get? a = some e ∧
        (e ≠ .directory → w.files.get? b ≠ some .directory) ∧ ¬ b <+: a ∧
        (rename p q).exec w = (.ok (), relocated w a b) := by
  obtain ⟨fault, failed⟩ | ⟨a, b, e, renames, ⟨-, same⟩ | ⟨movable, moved⟩⟩ := rename_exact p q w
  · exact .inl ⟨_, failed⟩
  · exact .inl ⟨_, same⟩
  · exact .inr ⟨a, b, e, renames.source, renames.dest, renames.found,
      fun file directory => file ((movable.kind _ directory).mp rfl), movable.apart', moved⟩

end FileM

end ReleaseMatrix
