import ReleaseMatrix.Proofs.FileWork

namespace ReleaseMatrix

open FileTree (usable)

namespace FileTree

/-- The two trees have the same directories and links. -/
def SameWays (t s : FileTree) : Prop :=
  t.Keeps s ∧ s.Keeps t

variable {t s : FileTree} {here k l : Location} {p : Path} {name step : String} {steps rest : List String}
variable {quarry : Quarry}

theorem SameWays.symm (same : t.SameWays s) : s.SameWays t :=
  ⟨same.2, same.1⟩

theorem SameWays.directory (same : t.SameWays s) : t.get? l = some .directory ↔ s.get? l = some .directory :=
  ⟨same.1 l .directory rfl, same.2 l .directory rfl⟩

theorem SameWays.link {target : Path} (same : t.SameWays s) :
    t.get? l = some (.link target) ↔ s.get? l = some (.link target) :=
  ⟨same.1 l (.link target) rfl, same.2 l (.link target) rfl⟩

/-- A walk meets nothing but directories and links before its end. -/
theorem walkWith_sameWays (same : t.SameWays s) {jump jump' : Location → List String → Except FileFault Location}
    (jumps : ∀ here steps l, jump here steps = .ok l → jump' here steps = .ok l)
    (walk : t.walkWith quarry jump here steps = .ok l) : s.walkWith quarry jump' here steps = .ok l := by
  induction steps generalizing here with
  | nil => simpa [walkWith] using walk
  | cons step rest ih =>
    unfold walkWith at walk ⊢
    split at walk
    · exact absurd walk (by simp)
    · next atHere =>
      rw [same.directory.mp atHere]
      dsimp only
      split at walk
      · next dot => simpa [dot] using ih walk
      · next notDot =>
        rw [if_neg notDot]
        split at walk
        · next up => rw [if_pos up]; exact ih walk
        · next notUp =>
          rw [if_neg notUp]
          split at walk
          · exact absurd walk (by simp)
          · next going =>
            rw [if_neg going]
            split at walk
            · exact absurd walk (by simp)
            · next short =>
              rw [if_neg short]
              split at walk
              · next target link =>
                rw [same.link.mp link]
                dsimp only
                split at walk
                · next last => rwa [if_pos last]
                · next more => rw [if_neg more]; exact jumps _ _ _ walk
              · next noLink =>
                have none (target : Path) : s.get? (here ++ [step]) ≠ some (.link target) := fun link =>
                  noLink target (same.link.mpr link)
                split
                · next target link => exact absurd link (none target)
                · exact ih walk
    · exact absurd walk (by simp)

theorem SameWays.walk (same : t.SameWays s) {n : Nat} (walk : t.walk quarry n here steps = .ok l) :
    s.walk quarry n here steps = .ok l := by
  induction n generalizing here steps l with
  | zero => exact walkWith_sameWays same (fun _ _ _ jump => absurd jump (by simp)) walk
  | succ n ih => exact walkWith_sameWays same (fun _ _ _ jump => ih jump) walk

/-- What is looked up from a directory that is there is found alike in both trees. -/
theorem SameWays.locate (same : t.SameWays s) (there : t.get? (p.start here) = some .directory)
    (located : t.locate here p quarry = .ok l) : s.locate here p quarry = .ok l := by
  have there' := same.directory.mp there
  rw [FileTree.locate, enter_of_some (by simp [there])] at located
  rw [FileTree.locate, enter_of_some (by simp [there'])]
  cases checked : checkPath p with
  | error fault => simp [checked, bind, Except.bind] at located
  | ok _ =>
    simp only [checked, bind, Except.bind, there, there', Option.isNone_some, Bool.and_false, Bool.false_and,
      Bool.false_eq_true, if_false] at located ⊢
    exact same.walk located

/-- A walk that takes a further step had come to a directory before it. -/
theorem exists_walkWith_of_append {jump jump' : Location → List String → Except FileFault Location}
    (jumps : ∀ here steps k, jump' here (steps ++ step :: rest) = .ok k →
      ∃ l, jump here steps = .ok l ∧ t.get? l = some .directory)
    (walk : t.walkWith quarry jump' here (steps ++ step :: rest) = .ok k) :
    ∃ l, t.walkWith .target jump here steps = .ok l ∧ t.get? l = some .directory := by
  induction steps generalizing here with
  | nil =>
    refine ⟨here, by simp [walkWith], ?_⟩
    rw [List.nil_append, walkWith] at walk
    split at walk
    · exact absurd walk (by simp)
    · next atHere => exact atHere
    · exact absurd walk (by simp)
  | cons first more ih =>
    rw [List.cons_append, walkWith] at walk
    unfold walkWith
    split at walk
    · exact absurd walk (by simp)
    · next atHere =>
      split at walk
      · next dot => simpa [dot] using ih walk
      · next notDot =>
        rw [if_neg notDot]
        split at walk
        · next up => rw [if_pos up]; exact ih walk
        · next notUp =>
          rw [if_neg notUp]
          split at walk
          · exact absurd walk (by simp)
          · split at walk
            · exact absurd walk (by simp)
            · next short =>
              simp only [reduceCtorEq, decide_false, Bool.false_and, Bool.and_false, Bool.false_eq_true, if_false,
                short]
              split at walk
              · next target link =>
                have going : (more ++ step :: rest).isEmpty = false := by cases more <;> rfl
                rw [going, Bool.false_and, if_neg (by simp), ← List.append_assoc] at walk
                exact jumps _ _ _ walk
              · exact ih walk
    · exact absurd walk (by simp)

theorem exists_walk_of_append {n : Nat} (walk : t.walk quarry n here (steps ++ step :: rest) = .ok k) :
    ∃ l, t.walk .target n here steps = .ok l ∧ t.get? l = some .directory := by
  induction n generalizing here steps k with
  | zero => exact exists_walkWith_of_append (fun _ _ _ jump => absurd jump (by simp)) walk
  | succ n ih => exact exists_walkWith_of_append (fun _ _ _ jump => ih jump) walk

/-- What is found under a name is found in a directory that the path before it leads to. -/
theorem Leads.of_locate_join (start : t.get? (p.start here) = some .directory) (valid : IsName name)
    (located : t.locate here (p.join name) quarry = .ok k) : ∃ l, t.Leads here p l := by
  have there : (t.get? (p.start here)).isSome := by simp [start]
  rw [FileTree.locate, p.start_join valid here, p.lookupSteps_join valid, enter_of_some there] at located
  cases checked : checkPath (p.join name) with
  | error fault => simp [checked, bind, Except.bind] at located
  | ok _ =>
    simp only [checked, bind, Except.bind, start, Option.isNone_some, Bool.and_false, Bool.false_and,
      Bool.false_eq_true, if_false] at located
    obtain ⟨l, walk, directory⟩ := exists_walk_of_append located
    exact ⟨l, start, walk, directory⟩

theorem Leads.of_ending_join (start : t.get? (p.start here) = some .directory) (valid : IsName name) {e : Ending}
    (ends : t.ending here (p.join name) = .ok e) : ∃ l, t.Leads here p l := by
  have there : (t.get? (p.start here)).isSome := by simp [start]
  rw [ending, p.start_join valid here, p.steps_join valid] at ends
  cases checked : checkPath (p.join name) with
  | error fault => simp [checked, bind, Except.bind] at ends
  | ok _ =>
    simp only [checked, bind, Except.bind, List.reverse_append, List.reverse_singleton, List.singleton_append,
      List.reverse_reverse, enter_of_some there] at ends
    cases walk : t.walk .target linkLimit (p.start here) p.steps with
    | error fault => simp [walk] at ends
    | ok l =>
      simp only [walk] at ends
      split at ends
      · cases ends
      · next directory => exact ⟨l, start, walk, directory⟩
      · cases ends

end FileTree

namespace FileTree

variable {t : FileTree} {l : Location}

/-- A file can be written at the place, and is no other place's: nothing is there, or a file of its own, or else a
directory, which no file replaces. -/
structure Fresh (t : FileTree) (l : Location) : Prop where
  kind : ∀ e, t.get? l = some e → e = .directory ∨ e.isFile
  alone : t.Alone l

theorem Fresh.noLink (fresh : t.Fresh l) (target : Path) : t.get? l ≠ some (.link target) := by
  intro link
  rcases fresh.kind _ link with directory | file
  · cases directory
  · cases file

theorem Fresh.put_file (fresh : t.Fresh l) (root : l ≠ []) (content : Bytes) (executable : Bool) :
    (t.put l (.file content executable)).Fresh l where
  kind e found := by
    rw [get?_put root, if_pos rfl] at found
    exact .inr (Option.some_inj.mp found ▸ rfl)
  alone := fresh.alone

@[simp] theorem put_put (t : FileTree) (l : Location) (d e : Entry) : (t.put l d).put l e = t.put l e := by
  simp [put, List.filter_filter]

/-- Trees that differ in one place have the same ways if neither has one there. -/
theorem sameWays_of_away {s : FileTree} (away : ∀ k, k ≠ l → s.get? k = t.get? k)
    (noWay : ∀ e, t.get? l = some e → e.isWay = false) (noWay' : ∀ e, s.get? l = some e → e.isWay = false) :
    t.SameWays s := by
  constructor
  · intro k e way found
    by_cases same : k = l
    · simp [noWay e (same ▸ found)] at way
    · rw [away k same, found]
  · intro k e way found
    by_cases same : k = l
    · simp [noWay' e (same ▸ found)] at way
    · rw [← away k same, found]

theorem sameWays_put (root : l ≠ []) (noWay : ∀ e, t.get? l = some e → e.isWay = false) (content : Bytes)
    (executable : Bool) : t.SameWays (t.put l (.file content executable)) := by
  refine sameWays_of_away (fun k other => by rw [get?_put root, if_neg other]) noWay fun e found => ?_
  rw [get?_put root, if_pos rfl] at found
  exact Option.some_inj.mp found ▸ rfl

/-- Only a directory has anything below it. -/
theorem Sound.leaf (sound : t.Sound) (noDirectory : t.get? l ≠ some .directory) {k : Location} (inside : l <+: k)
    (other : k ≠ l) : t.get? k = none := by
  cases found : t.get? k with
  | none => rfl
  | some e => exact absurd (sound.above found inside other.symm) noDirectory

/-- Moving what has nothing below it, to where nothing is below, changes its two places. -/
theorem get?_move_leaf {a b : Location} (rootA : a ≠ []) (rootB : b ≠ []) (apart : ¬ b <+: a)
    (leafA : ∀ k, a <+: k → k ≠ a → t.get? k = none) (leafB : ∀ k, b <+: k → k ≠ b → t.get? k = none)
    (k : Location) : (t.move a b).get? k = if k = b then t.get? a else if k = a then none else t.get? k := by
  by_cases below : b <+: k
  · obtain ⟨rest, rfl⟩ := below
    rw [get?_move_dest rootA rootB]
    by_cases last : rest = []
    · simp [last]
    · have notA : b ++ rest ≠ a := fun eq => apart ⟨rest, eq⟩
      rw [leafA _ (List.prefix_append _ _) (by simpa using last), if_neg (by simpa using last), if_neg notA,
        leafB _ (List.prefix_append _ _) (by simpa using last)]
  · have notB : k ≠ b := fun eq => below (eq ▸ List.prefix_refl _)
    rw [if_neg notB]
    by_cases inside : a <+: k
    · rw [get?_move_source rootA inside below]
      split
      · rfl
      · next other => exact (leafA k inside other).symm
    · have notA : k ≠ a := fun eq => inside (eq ▸ List.prefix_refl _)
      rw [get?_move inside below, if_neg notA]

theorem Fresh.noWay (fresh : t.Fresh l) (noDirectory : t.get? l ≠ some .directory) (e : Entry)
    (found : t.get? l = some e) : e.isWay = false := by
  rcases fresh.kind e found with rfl | file
  · exact absurd found noDirectory
  · cases e <;> first | rfl | cases file

end FileTree

namespace FileM

variable {p : Path} {l : Location} {name : String} {w : Workspace}

/-- A fresh file is written as a whole, or nothing changes. -/
theorem write_fresh (leads : w.Leads p l) (valid : IsName name) (fresh : w.files.Fresh (l ++ [name])) (content : Bytes) :
    (∃ fault, (write (p.join name) content).exec w = (.error fault, w)) ∨
      w.files.get? (l ++ [name]) ≠ some .directory ∧ usable p name = .ok () ∧
      ∃ executable, (write (p.join name) content).exec w =
        (.ok (), changed w (·.put (l ++ [name]) (.file content executable))) := by
  rw [write_join leads valid fresh.noLink fresh.alone]
  cases usable p name with
  | error fault => exact .inl ⟨fault, rfl⟩
  | ok _ =>
    cases found : w.files.get? (l ++ [name]) with
    | none => exact .inr ⟨by simp, rfl, false, rfl⟩
    | some e =>
      rcases fresh.kind e found with rfl | regular
      · exact .inl ⟨_, rfl⟩
      · cases e with
        | file | program => exact .inr ⟨by simp, rfl, _, rfl⟩
        | directory | void | queue | link => cases regular

/-- Nothing is written under a name that is refused. -/
theorem write_refused (leads : w.Leads p l) (valid : IsName name) {fault : FileFault}
    (refused : usable p name = .error fault) (content : Bytes) :
    (write (p.join name) content).exec w = (.error fault, w) := by
  simp [write, locateForWriting, TaskM.exec_bind, exec_look, Workspace.locate,
    FileTree.Leads.locate_join_of_fault leads valid refused]

end FileM

namespace Workspace

variable {w v : Workspace} {p : Path} {l : Location} {name : String}

/-- The place of what a path names itself, even if that is a link. -/
def place? (w : Workspace) (p : Path) : Option Location :=
  match w.files.ending w.directory p with
  | .ok (.name parent name) => some (parent ++ [name])
  | _ => none

theorem place?_of_ending {parent : Location} (ends : w.files.ending w.directory p = .ok (.name parent name)) :
    w.place? p = some (parent ++ [name]) := by
  rw [place?, ends]

theorem exists_ending_of_place? (placed : w.place? p = some l) :
    ∃ parent name, w.files.ending w.directory p = .ok (.name parent name) ∧ l = parent ++ [name] := by
  rw [place?] at placed
  split at placed
  · next parent name ends => exact ⟨parent, name, ends, (Option.some_inj.mp placed).symm⟩
  · cases placed

theorem place?_join (leads : w.Leads p l) (valid : IsName name) :
    w.place? (p.join name) = if usable p name = .ok () then some (l ++ [name]) else none := by
  rw [place?, FileTree.Leads.ending_join leads valid]
  cases usable p name with
  | error fault => simp [Except.map]
  | ok _ => simp [Except.map]

/-- What is found stays found while the ways stay and it does. -/
theorem find_of_sameWays {e : Entry} (same : w.files.SameWays v.files) (stays : v.directory = w.directory)
    (start : w.files.get? (p.start w.directory) = some .directory) (found : w.find p = .ok (l, e))
    (kept : v.files.get? l = w.files.get? l) : v.find p = .ok (l, e) := by
  unfold find locate at found ⊢
  cases located : w.files.locate w.directory p .target with
  | error fault => simp [located, bind, Except.bind] at found
  | ok k =>
    have located' := same.locate start located
    simp only [located, bind, Except.bind] at found
    rw [stays, located']
    cases atK : w.files.get? k with
    | none => simp [atK] at found
    | some d =>
      simp only [atK, pure, Except.pure, Except.ok.injEq, Prod.mk.injEq] at found
      obtain ⟨rfl, rfl⟩ := found
      simp [bind, Except.bind, kept, atK, pure, Except.pure]

theorem start_directory (home : w.files.get? w.directory = some .directory) (p : Path) :
    w.files.get? (p.start w.directory) = some .directory := by
  unfold Path.start
  split
  · exact FileTree.get?_root _
  · exact home

/-- What is found in a directory by its name was there when the tree had more ways. -/
theorem place?_of_keeps (keeps : w.files.Keeps v.files) (stays : v.directory = w.directory)
    (start : w.files.get? (p.start w.directory) = some .directory) (placed : w.place? p = some l) :
    v.place? p = some l := by
  have start' := keeps _ .directory rfl start
  rw [place?, FileTree.ending] at placed ⊢
  rw [stays]
  cases checked : FileTree.checkPath p with
  | error fault => simp [checked, bind, Except.bind] at placed
  | ok _ =>
    simp only [checked, bind, Except.bind] at placed ⊢
    cases steps : p.steps.reverse with
    | nil => simp [steps, pure, Except.pure] at placed
    | cons last before =>
      simp only [steps, FileTree.enter_of_some (Option.isSome_of_eq_some start),
        FileTree.enter_of_some (Option.isSome_of_eq_some start')] at placed ⊢
      cases walk : w.files.walk .target FileTree.linkLimit (p.start w.directory) before.reverse with
      | error fault => simp [walk] at placed
      | ok parent =>
        by_cases directory : w.files.get? parent = some .directory
        · rw [FileTree.walk_keeps keeps walk directory]
          simp only [keeps _ .directory rfl directory]
          simpa [walk, directory] using placed
        · simp only [walk] at placed
          split at placed
          · next name ends =>
            split at ends
            · cases ends
            · next there => exact absurd there directory
            · cases ends
          · cases placed

end Workspace

namespace FileM

section Up

variable {p : Path} {steps : List String} {w : Workspace}
variable (ends : p.steps = steps ++ [".."]) (noSlash : p.endsInSlash = false)
include ends

theorem ending_up : (∃ fault, w.files.ending w.directory p = .error fault) ∨ w.files.ending w.directory p = .ok .up := by
  have reversed : p.steps.reverse = ".." :: steps.reverse := by simp [ends]
  rw [FileTree.ending]
  cases FileTree.checkPath p with
  | error fault => exact .inl ⟨fault, rfl⟩
  | ok _ =>
    simp only [bind, Except.bind, reversed]
    split
    · exact .inl ⟨_, rfl⟩
    · split
      · exact .inl ⟨_, rfl⟩
      · exact .inr rfl
      · exact .inl ⟨_, rfl⟩

/-- Two dots at the end of a path name no entry. -/
theorem removeFile_up : ∃ fault, (removeFile p).exec w = (.error fault, w) := by
  obtain ⟨fault, eq⟩ | eq := ending_up (w := w) ends
  · exact ⟨fault, removeFile_of_fault eq⟩
  · exact ⟨.isADirectory, by rw [removeFile, TaskM.exec_bind, exec_ending, eq]; rfl⟩

theorem place?_up : w.place? p = none := by
  obtain ⟨fault, eq⟩ | eq := ending_up (w := w) ends <;> rw [Workspace.place?, eq]

include noSlash

/-- Where two dots lead there is a directory, if anything. -/
theorem write_up (sound : w.files.Sound) (start : w.files.get? (p.start w.directory) = some .directory)
    (content : Bytes) : ∃ fault, (write p content).exec w = (.error fault, w) := by
  cases located : w.locate p .newFile with
  | error fault => exact ⟨fault, by simp [write, locateForWriting, TaskM.exec_bind, exec_look, located]⟩
  | ok k =>
    have directory : w.files.get? k = some .directory := by
      have lookup : p.lookupSteps = steps ++ [".."] := by simp [Path.lookupSteps, ends, noSlash]
      rw [Workspace.locate, FileTree.locate, lookup, FileTree.enter_of_some (Option.isSome_of_eq_some start)] at located
      cases checked : FileTree.checkPath p with
      | error fault => simp [checked, bind, Except.bind] at located
      | ok _ =>
        simp only [checked, bind, Except.bind, start, Option.isNone_some, Bool.and_false, Bool.false_and,
          Bool.false_eq_true, if_false] at located
        obtain ⟨l, walk, there⟩ := FileTree.exists_walk_of_append located
        obtain ⟨m, same⟩ := FileTree.walk_append .newFile walk there
        obtain ⟨jump, unfolded⟩ := w.files.walk_eq_walkWith .newFile m
        rw [same ".." [] (fun _ => by decide), unfolded, FileTree.walkWith, there] at located
        have up : l.dropLast = k := by simpa [FileTree.walkWith, Path.closingStep] using located
        rw [← up]
        rcases List.eq_nil_or_concat l with rfl | ⟨above, name, rfl⟩
        · simp
        · rw [List.concat_eq_append] at there ⊢
          rw [List.dropLast_concat]
          exact sound _ _ _ there
    exact ⟨.isADirectory, by
      simp [write, locateForWriting, TaskM.exec_bind, exec_look, located, exec_entryAt?, directory]⟩

end Up

variable {p : Path} {name : String} {w : Workspace}

section Nowhere

variable (start : w.files.get? (p.start w.directory) = some .directory) (valid : IsName name)
variable (nowhere : ∀ l, ¬ w.Leads p l)
include start valid nowhere

theorem ending_nowhere : ∃ fault, w.files.ending w.directory (p.join name) = .error fault := by
  cases ends : w.files.ending w.directory (p.join name) with
  | error fault => exact ⟨fault, rfl⟩
  | ok e =>
    obtain ⟨l, leads⟩ := FileTree.Leads.of_ending_join start valid ends
    exact absurd leads (nowhere l)

theorem write_nowhere (content : Bytes) : ∃ fault, (write (p.join name) content).exec w = (.error fault, w) := by
  cases located : w.locate (p.join name) .newFile with
  | error fault =>
    exact ⟨fault, by simp [write, locateForWriting, TaskM.exec_bind, exec_look, located]⟩
  | ok k =>
    obtain ⟨l, leads⟩ := FileTree.Leads.of_locate_join start valid located
    exact absurd leads (nowhere l)

theorem place?_nowhere : w.place? (p.join name) = none := by
  obtain ⟨fault, ends⟩ := ending_nowhere start valid nowhere
  rw [Workspace.place?, ends]

theorem removeFile_nowhere : ∃ fault, (removeFile (p.join name)).exec w = (.error fault, w) := by
  obtain ⟨fault, ends⟩ := ending_nowhere start valid nowhere
  exact ⟨fault, removeFile_of_fault ends⟩

end Nowhere

variable {l : Location} {other : String}

/-- A file of its own that is renamed within a directory takes the other name, or nothing changes. -/
theorem rename_fresh (leads : w.Leads p l) (valid : IsName name) (valid' : IsName other) (differ : name ≠ other)
    {content : Bytes} {executable : Bool} (found : w.files.get? (l ++ [name]) = some (.file content executable))
    (alone : w.files.Alone (l ++ [name])) :
    (∃ fault, (rename (p.join name) (p.join other)).exec w = (.error fault, w)) ∨
      usable p other = .ok () ∧ w.files.get? (l ++ [other]) ≠ some .directory ∧
      (rename (p.join name) (p.join other)).exec w = (.ok (), relocated w (l ++ [name]) (l ++ [other])) := by
  have apart {x y : String} (ne : x ≠ y) : ¬ l ++ [x] <+: l ++ [y] := by simpa using ne
  rw [rename_join leads valid leads valid' found (by simp) (apart differ) (apart differ.symm)]
  cases usable p name with
  | error fault => exact .inl ⟨fault, rfl⟩
  | ok _ =>
    cases usable p other with
    | error fault => exact .inl ⟨fault, rfl⟩
    | ok _ =>
      have own : (w.files.places (l ++ [name])).contains (l ++ [other]) = false := by
        simp [alone.places_eq, differ.symm]
      simp only [own, Bool.false_eq_true, if_false]
      cases dest : w.files.get? (l ++ [other]) with
      | none => exact .inr ⟨trivial, by simp, rfl⟩
      | some e => cases e <;> first | exact .inl ⟨_, rfl⟩ | exact .inr ⟨trivial, by simp, rfl⟩

/-- Removing a file removes what the path names itself, or nothing. -/
theorem removeFile_cases (p : Path) (w : Workspace) :
    (∃ fault, (removeFile p).exec w = (.error fault, w)) ∨
      ∃ k, w.place? p = some k ∧ w.files.get? k ≠ some .directory ∧
        (removeFile p).exec w = (.ok (), changed w (·.erase k)) := by
  cases ends : w.files.ending w.directory p with
  | error fault => exact .inl ⟨fault, removeFile_of_fault ends⟩
  | ok e =>
    rw [removeFile, TaskM.exec_bind, exec_ending, ends]
    cases e with
    | name parent name =>
      have placed := Workspace.place?_of_ending ends
      simp only [TaskM.exec_bind, exec_entryAt?]
      cases found : w.files.get? (parent ++ [name]) with
      | none => exact .inl ⟨_, rfl⟩
      | some e =>
        cases e with
        | directory => exact .inl ⟨_, rfl⟩
        | _ =>
          dsimp only
          split
          · exact .inl ⟨_, rfl⟩
          · exact .inr ⟨_, placed, by simp [found], rfl⟩
    | here | up | root => exact .inl ⟨_, rfl⟩

end FileM

end ReleaseMatrix
