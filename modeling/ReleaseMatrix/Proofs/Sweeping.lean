import ReleaseMatrix.Proofs.Settling

namespace ReleaseMatrix

open FileTree (usable)

namespace FileTree

variable {t : FileTree} {here l : Location} {p : Path} {name : String}

theorem ne_directory_of_isFile {e : Entry} (found : t.get? l = some e) (file : e.isFile) : t.get? l ≠ some .directory := by
  rw [found]
  rintro ⟨⟩
  cases file

/-- Nothing else stands where something is above that is no directory. -/
theorem Sound.not_above_of_ne (sound : t.Sound) {k : Location} {e : Entry} (found : t.get? k = some e)
    (notDirectory : t.get? l ≠ some .directory) (other : l ≠ k) : ¬ l <+: k :=
  fun above => notDirectory (sound.above found above other)

/-- Only directories are above a directory. -/
theorem Sound.not_above (sound : t.Sound) {k : Location} (directory : t.get? k = some .directory)
    (notDirectory : t.get? l ≠ some .directory) : ¬ l <+: k :=
  sound.not_above_of_ne directory notDirectory fun same => notDirectory (same ▸ directory)

theorem Sound.not_above_name (sound : t.Sound) {k : Location} (directory : t.get? k = some .directory) (different : l ≠ k)
    (notDirectory : t.get? (l ++ [name]) ≠ some .directory) (other : String) : ¬ l ++ [name] <+: k ++ [other] := fun inside => by
  obtain same | above := List.prefix_concat_iff.mp inside
  · exact different (List.append_inj' same rfl).1
  · exact sound.not_above directory notDirectory above

theorem Leads.of_start {here' : Location} (leads : t.Leads here p l) (same : p.start here' = p.start here) : t.Leads here' p l :=
  ⟨same ▸ leads.start, same ▸ leads.walk, leads.directory⟩

end FileTree

namespace FileM

variable {t : FileTree} {w : Workspace} {p q a b : Path} {l k : Location} {name other : String} {e : Entry}

/-- Making the directories of a path that led to one before files came into its way changes nothing. -/
theorem makeDirectories_of_narrowed (narrowed : t.Narrowed w.files) (leads : t.Leads w.directory q l) :
    ∃ outcome, (makeDirectories q).exec w = (outcome, w) := by
  cases depth : q.components.length with
  | zero => exact ⟨_, by rw [makeDirectories, depth]; rfl⟩
  | succ n =>
    obtain ⟨fault, refused, other⟩ := makeDirectory_of_narrowed narrowed leads (nonempty_of_components depth)
    have tried : ∃ outcome, (makeDirectoryIfMissing q).exec w = (outcome, w) ∧ outcome ≠ .error .notFound := by
      rw [makeDirectoryIfMissing, TaskM.exec_tryCatch, refused]
      dsimp only
      rw [TaskM.exec_bind, TaskM.exec_get]
      dsimp only
      split
      · exact ⟨_, rfl, by simp⟩
      · exact ⟨_, rfl, by simpa using other⟩
    obtain ⟨outcome, unmade, other⟩ := tried
    rw [makeDirectories, depth, makeDirectoriesWithin, TaskM.exec_tryCatch, unmade]
    cases outcome with
    | ok _ => exact ⟨_, rfl⟩
    | error fault =>
      dsimp only
      split
      · exact absurd rfl other
      · exact ⟨_, rfl⟩

theorem rename_of_ending_error (unending : (∃ fault, w.files.ending w.directory a = .error fault) ∨
    ∃ fault, w.files.ending w.directory b = .error fault) : ∃ fault, (rename a b).exec w = (.error fault, w) := by
  rw [rename, TaskM.exec_bind, exec_ending]
  cases ends : w.files.ending w.directory a with
  | error fault => exact ⟨fault, rfl⟩
  | ok _ =>
    obtain ⟨_, refused⟩ | ⟨fault, refused⟩ := unending
    · cases ends.symm.trans refused
    · dsimp only
      rw [TaskM.exec_bind, exec_ending, refused]
      exact ⟨fault, rfl⟩

/-- Nothing is copied from a path or to a path that is not found. -/
theorem copy_of_locate_error (unlocated : (∃ fault, w.locate a .target = .error fault) ∨
    ∃ fault, w.locate b .newFile = .error fault) : ∃ fault, (copy a b).exec w = (.error fault, w) := by
  rw [copy, TaskM.exec_bind, exec_look]
  cases found : w.find a with
  | error fault => exact ⟨fault, rfl⟩
  | ok there =>
    obtain ⟨fault, refused⟩ | ⟨fault, refused⟩ := unlocated
    · rw [Workspace.find, refused] at found
      cases found
    · dsimp only
      split
      · exact ⟨_, rfl⟩
      · rw [locateForWriting, TaskM.exec_bind, TaskM.exec_bind, exec_look, refused]
        exact ⟨fault, rfl⟩

/-- A file does not take the name of a directory. -/
theorem rename_onto_directory (leads : w.Leads p l) (valid : IsName name) (leads' : w.Leads q k) (valid' : IsName other)
    (found : w.files.get? (l ++ [name]) = some e) (file : e.isFile)
    (directory : w.files.get? (k ++ [other]) = some .directory) :
    (∃ fault, (rename (p.join name) (q.join other)).exec w = (.error fault, w)) ∨
      (rename (p.join name) (q.join other)).exec w = (.ok (), w) ∧
        k ++ [other] ∈ w.files.places (l ++ [name]) := by
  have notDirectory : e ≠ .directory := by
    rintro rfl
    cases file
  rw [rename, TaskM.exec_bind, exec_ending, FileTree.Leads.ending_join leads valid]
  cases usable p name with
  | error fault => exact .inl ⟨fault, rfl⟩
  | ok _ =>
    simp only [Except.map, TaskM.exec_bind, exec_ending, FileTree.Leads.ending_join leads' valid']
    cases usable q other with
    | error fault => exact .inl ⟨fault, rfl⟩
    | ok _ =>
      simp only [TaskM.exec_bind, exec_entryAt?, found, p.endsInSlash_join valid, q.endsInSlash_join valid',
        Bool.or_false, Bool.and_false, Bool.false_eq_true, if_false, TaskM.exec_get]
      split
      · next twin => exact .inr ⟨rfl, by simpa using twin⟩
      · refine .inl ?_
        split
        · exact ⟨_, rfl⟩
        · split
          · exact ⟨_, rfl⟩
          · simp only [TaskM.exec_bind, exec_entryAt?, directory]
            cases e <;> first | exact absurd rfl notDirectory | exact ⟨_, rfl⟩

end FileM

namespace Files

open FileM (relocated)

variable {t : FileTree} {w : Workspace} {p q : Path} {l k : Location} {name other : String} {e : Entry}

theorem makeParent_of_narrowed (valid : IsName name) (narrowed : t.Narrowed w.files) (leads : t.Leads w.directory q l) :
    ∃ outcome, (makeParent (q.join name)).exec w = (outcome, w) := by
  rw [makeParent]
  cases above : (q.join name).parent? with
  | none => exact ⟨_, rfl⟩
  | some parent =>
    obtain ⟨outcome, made⟩ := FileM.makeDirectories_of_narrowed narrowed (leads.parent valid above)
    dsimp only
    rw [makeDirectories, TaskM.exec_describe, made]
    exact ⟨_, rfl⟩

/-- Nothing is moved while a path on which a file came into the way is one of the two. -/
theorem move_nowhere (valid : IsName name) (narrowed : t.Narrowed w.files) (leads : t.Leads w.directory p l)
    (leads' : t.Leads w.directory q k) (nowhere : (∀ l, ¬ w.Leads p l) ∨ ∀ k, ¬ w.Leads q k) :
    ∃ error, (move (p.join name) (q.join name)).exec w = (.error error, w) := by
  have start := narrowed.directories _ leads.start
  have start' := narrowed.directories _ leads'.start
  obtain ⟨fault, unrenamed⟩ := FileM.rename_of_ending_error (w := w) (a := p.join name) (b := q.join name)
    (nowhere.imp (FileM.ending_nowhere start valid) (FileM.ending_nowhere start' valid))
  have unlocated {r : Path} (start : w.files.get? (r.start w.directory) = some .directory) (nowhere : ∀ l, ¬ w.Leads r l)
      (quarry : Quarry) : ∃ fault, w.locate (r.join name) quarry = .error fault := by
    cases located : w.locate (r.join name) quarry with
    | error fault => exact ⟨fault, rfl⟩
    | ok k =>
      obtain ⟨l, leads⟩ := FileTree.Leads.of_locate_join start valid located
      exact absurd leads (nowhere l)
  obtain ⟨fault', uncopied⟩ := FileM.copy_of_locate_error (w := w) (a := p.join name) (b := q.join name)
    (nowhere.imp (unlocated start · .target) (unlocated start' · .newFile))
  obtain ⟨outcome, parent⟩ := makeParent_of_narrowed valid narrowed leads'
  cases outcome with
  | error error => exact ⟨_, move_of_parent_error parent⟩
  | ok _ => exact move_refused parent unrenamed uncopied

/-- A file that is moved to another directory gets its new place there, unless it has the place already or nothing changes. -/
theorem move_file (sound : w.files.Sound) (leads : w.Leads p l) (leads' : w.Leads q k) (valid : IsName name)
    (found : w.files.get? (l ++ [name]) = some e) (file : e.isFile) :
    (∃ error, (move (p.join name) (q.join name)).exec w = (.error error, w)) ∨
    ((move (p.join name) (q.join name)).exec w = (.ok (), w) ∧ k ++ [name] ∈ w.files.places (l ++ [name])) ∨
    ((move (p.join name) (q.join name)).exec w = (.ok (), relocated w (l ++ [name]) (k ++ [name])) ∧ l ≠ k ∧
      w.files.get? (k ++ [name]) ≠ some .directory ∧ k ++ [name] ∉ w.files.places (l ++ [name])) := by
  obtain ⟨outcome, parent⟩ := exec_makeParent_join leads' valid
  cases outcome with
  | error error => exact .inl ⟨_, move_of_parent_error parent⟩
  | ok _ =>
    by_cases same : l = k
    · subst same
      obtain ⟨outcome, unmoved, -⟩ := move_join_self leads leads' valid found
      cases outcome with
      | error error => exact .inl ⟨error, unmoved⟩
      | ok _ => exact .inr (.inl ⟨unmoved, w.files.mem_places _⟩)
    by_cases directory : w.files.get? (k ++ [name]) = some .directory
    · obtain ⟨fault, unrenamed⟩ | ⟨renamed, twin⟩ := FileM.rename_onto_directory leads valid leads' valid found file directory
      · obtain ⟨fault', uncopied⟩ := FileM.copy_join_refused leads valid leads' valid fun _ _ => directory
        exact .inl (move_refused parent unrenamed uncopied)
      · exact .inr (.inl ⟨move_of_rename parent renamed, twin⟩)
    · have apart := sound.not_above_name leads'.directory same (FileTree.ne_directory_of_isFile found file) name
      have apart' := sound.not_above_name leads.directory (Ne.symm same) directory name
      obtain ⟨outcome, unmoved, twin⟩ | ⟨moved, -, single⟩ := move_join leads valid leads' valid found (by rintro rfl; cases file)
        apart apart'
      · cases outcome with
        | error error => exact .inl ⟨error, unmoved⟩
        | ok _ => exact .inr (.inl ⟨unmoved, (twin rfl).2⟩)
      · exact .inr (.inr ⟨moved, same, directory, single⟩)

end Files

namespace FileTree

/-- The files with these names were moved from one directory to another, and nothing else changed. -/
structure Swept (proj out : Location) (names : List String) (t s : FileTree) : Prop where
  files : ∀ name ∈ names, ∃ e, t.get? (proj ++ [name]) = some e ∧ e.isFile ∧ s.get? (out ++ [name]) = some e
  gone : ∀ name ∈ names, s.get? (proj ++ [name]) = none
  free : ∀ name ∈ names, t.get? (out ++ [name]) ≠ some .directory
  stays : ∀ k, (∀ name ∈ names, k ≠ proj ++ [name] ∧ k ≠ out ++ [name]) → s.get? k = t.get? k

variable {t s : FileTree} {proj out k : Location} {name : String} {names : List String} {e : Entry}

theorem Swept.refl (proj out : Location) (t : FileTree) : Swept proj out [] t t where
  files _ member := nomatch member
  gone _ member := nomatch member
  free _ member := nomatch member
  stays _ _ := rfl

namespace Swept

variable (swept : Swept proj out names t s)
include swept

theorem apart (member : name ∈ names) : proj ≠ out := by
  rintro rfl
  obtain ⟨e, -, -, there⟩ := swept.files name member
  cases there.symm.trans (swept.gone name member)

/-- A file that was not moved is still at its place. -/
theorem source (new : name ∉ names) : s.get? (proj ++ [name]) = t.get? (proj ++ [name]) := by
  refine swept.stays _ fun other member => ⟨?_, ?_⟩
  · rintro same
    obtain rfl : name = other := by simpa using same
    exact new member
  · intro same
    exact swept.apart member (List.append_inj' same rfl).1

theorem isFile_source (member : name ∈ names) (found : t.get? (proj ++ [name]) = some e) : e.isFile := by
  obtain ⟨d, there, file, -⟩ := swept.files name member
  rwa [← Option.some_inj.mp (there.symm.trans found)]

theorem isFile_dest (member : name ∈ names) (found : s.get? (out ++ [name]) = some e) : e.isFile := by
  obtain ⟨d, -, file, there⟩ := swept.files name member
  rwa [← Option.some_inj.mp (there.symm.trans found)]

theorem narrowed : t.Narrowed s where
  keeps k e way found := by
    rw [← swept.stays k fun name member => ⟨?_, ?_⟩, found]
    · rintro rfl
      cases found.symm.trans (swept.gone name member)
    · rintro rfl
      simp [Entry.not_isWay_of_isFile (swept.isFile_dest member found)] at way
  directories k found := by
    rw [swept.stays k fun name member => ⟨?_, ?_⟩, found]
    · rintro rfl
      cases swept.isFile_source member found
    · rintro rfl
      exact swept.free name member found
  links k target found := by
    by_cases taken : ∃ name ∈ names, k = out ++ [name]
    · obtain ⟨name, member, rfl⟩ := taken
      obtain ⟨e, -, file, there⟩ := swept.files name member
      exact .inr ⟨e, there, file⟩
    · refine .inl ?_
      rw [swept.stays k fun name member => ⟨?_, fun same => taken ⟨name, member, same⟩⟩, found]
      rintro rfl
      cases swept.isFile_source member found

theorem sound (sound : t.Sound) (directory : t.get? out = some .directory) : s.Sound := fun l name e found => by
  refine swept.narrowed.directories l ?_
  by_cases taken : ∃ other ∈ names, l ++ [name] = out ++ [other]
  · obtain ⟨other, -, same⟩ := taken
    rwa [(List.append_inj' same rfl).1]
  · refine sound l name e ?_
    rw [← swept.stays _ fun other member => ⟨fun same => ?_, fun same => taken ⟨other, member, same⟩⟩, found]
    cases found.symm.trans (same ▸ swept.gone other member)

/-- One more file is moved. -/
theorem concat (soundS : s.Sound) (project : s.get? proj = some .directory) (different : proj ≠ out) (new : name ∉ names)
    (found : s.get? (proj ++ [name]) = some e) (file : e.isFile) (notDirectory : s.get? (out ++ [name]) ≠ some .directory) :
    Swept proj out (names ++ [name]) t (s.move (proj ++ [name]) (out ++ [name])) := by
  have apart (x y : String) : proj ++ [x] ≠ out ++ [y] := fun same => different (List.append_inj' same rfl).1
  -- Nothing is below the two places, so that the move changes no others.
  have after := get?_move_leaf (t := s) (a := proj ++ [name]) (b := out ++ [name]) (by simp) (by simp)
    (soundS.not_above_name project (Ne.symm different) notDirectory name)
    (fun _ => soundS.leaf (ne_directory_of_isFile found file)) (fun _ => soundS.leaf notDirectory)
  have other {x : String} (member : x ∈ names) (l : Location) : l ++ [x] ≠ l ++ [name] := fun same => by
    obtain rfl : x = name := by simpa using same
    exact new member
  refine ⟨?_, ?_, ?_, fun k away => ?_⟩
  · simp only [List.forall_mem_append, List.forall_mem_singleton]
    constructor
    · intro x member
      obtain ⟨d, before, isFile, now⟩ := swept.files x member
      exact ⟨d, before, isFile, by rw [after, if_neg (other member out), if_neg (apart name x).symm, now]⟩
    · exact ⟨e, (swept.source new).symm.trans found, file, by rw [after, if_pos rfl, found]⟩
  · simp only [List.forall_mem_append, List.forall_mem_singleton]
    constructor
    · intro x member
      rw [after, if_neg (apart x name), if_neg (other member proj), swept.gone x member]
    · rw [after, if_neg (apart name name), if_pos rfl]
  · simp only [List.forall_mem_append, List.forall_mem_singleton]
    exact ⟨swept.free, fun directory => notDirectory (swept.narrowed.directories _ directory)⟩
  · simp only [List.forall_mem_append, List.forall_mem_singleton] at away
    rw [after, if_neg away.2.2, if_neg away.2.1, swept.stays k away.1]

end Swept

theorem moved?_self {a b : Location} (awayA : ¬ a <+: k) (awayB : ¬ b <+: k) : moved? a b k = some k := by
  simp [moved?, awayA, awayB]

/-- A file away from both ends of a move takes its places along. -/
theorem places_move {a b l : Location} (awayA : ¬ a <+: l) (awayB : ¬ b <+: l) :
    (t.move a b).places l = (t.places l).filterMap (moved? a b) := by
  have same (group : List Location) : (group.filterMap (moved? a b)).contains l = group.contains l := by
    rw [Bool.eq_iff_iff, List.contains_iff_mem, List.contains_iff_mem, List.mem_filterMap]
    constructor
    · rintro ⟨k, member, moved⟩
      obtain ⟨-, rfl⟩ | ⟨-, -, rfl⟩ := moved?_eq_some moved
      · exact absurd (List.prefix_append _ _) awayB
      · exact member
    · exact fun member => ⟨l, member, moved?_self awayA awayB⟩
  simp only [places, move, List.find?_map, Function.comp_def, same]
  cases t.groups.find? (·.contains l) <;> simp [moved?_self awayA awayB]

theorem mem_places_move {a b l : Location} (awayA : ¬ a <+: l) (awayB : ¬ b <+: l) (away : ¬ a <+: k)
    (away' : ¬ b <+: k) : k ∈ (t.move a b).places l ↔ k ∈ t.places l := by
  rw [places_move awayA awayB, List.mem_filterMap]
  constructor
  · rintro ⟨m, member, moved⟩
    obtain ⟨-, rfl⟩ | ⟨-, -, rfl⟩ := moved?_eq_some moved
    · exact absurd (List.prefix_append _ _) away'
    · exact member
  · exact fun member => ⟨k, member, moved?_self away away'⟩

end FileTree

namespace Collection

open FileTree (Swept)

variable {source dest : Path} {proj out : Location} {w u : Workspace} {taken moved names : List String} {name : String}

/-- The names of a list whose files in one directory have not their places in the other one already. -/
def unshared (w : Workspace) (proj out : Location) (names : List String) : List String :=
  names.filter fun name => !(w.files.places (proj ++ [name])).contains (out ++ [name])

theorem mem_unshared : name ∈ unshared w proj out names ↔ name ∈ names ∧ out ++ [name] ∉ w.files.places (proj ++ [name]) := by
  simp [unshared]

/-- While a directory is swept into another one: the files that have been moved, where the two paths lead to without them,
and which files have another name in the other directory. -/
structure Sweeping (source dest : Path) (proj out : Location) (w : Workspace) (moved : List String) (u : Workspace) : Prop where
  swept : w.files.Swept proj out moved u.files
  leadsSource : w.files.Leads u.directory source proj
  leadsDest : w.files.Leads u.directory dest out
  twins : ∀ name, name ∉ moved → (out ++ [name] ∈ u.files.places (proj ++ [name]) ↔ out ++ [name] ∈ w.files.places (proj ++ [name]))

theorem Sweeping.refl (leadsSource : w.Leads source proj) (leadsDest : w.Leads dest out) :
    Sweeping source dest proj out w [] w :=
  ⟨.refl proj out w.files, leadsSource, leadsDest, fun _ _ => .rfl⟩

namespace Sweeping

variable (sweeping : Sweeping source dest proj out w moved u) (sound : w.files.Sound)
include sweeping sound

/-- A file is moved just if it has not the other name already, unless it cannot be moved. -/
theorem step (valid : IsName name) (loose : ∃ e, w.files.get? (proj ++ [name]) = some e ∧ e.isFile) (new : name ∉ moved) :
    let run := (Files.move (source.join name) (dest.join name)).exec u
    (∃ error, run = (.error error, u)) ∨ (run = (.ok (), u) ∧ out ++ [name] ∈ w.files.places (proj ++ [name])) ∨
      (run.1 = .ok () ∧ out ++ [name] ∉ w.files.places (proj ++ [name]) ∧
        Sweeping source dest proj out w (moved ++ [name]) run.2) := by
  intro run
  have narrowed := sweeping.swept.narrowed
  have soundU := sweeping.swept.sound sound sweeping.leadsDest.directory
  -- A file that was moved can be in the way of a path. A path that still leads somewhere leads where it led.
  by_cases leads : (∃ l, u.Leads source l) ∧ ∃ k, u.Leads dest k
  · obtain ⟨⟨l, leads⟩, k, leads'⟩ := leads
    obtain rfl : l = proj := (FileTree.Leads.keeps leads narrowed.keeps).unique sweeping.leadsSource
    obtain rfl : k = out := (FileTree.Leads.keeps leads' narrowed.keeps).unique sweeping.leadsDest
    obtain ⟨e, before, file⟩ := loose
    have found := (sweeping.swept.source new).trans before
    obtain failed | ⟨ok, twin⟩ | ⟨relocates, different, notDirectory, single⟩ := Files.move_file soundU leads leads' valid found file
    · exact .inl failed
    · exact .inr (.inl ⟨ok, (sweeping.twins name new).mp twin⟩)
    · have sourceLeaf := FileTree.ne_directory_of_isFile found file
      -- A path that does not start at the root starts in a directory, and no directory is moved.
      have start {p : Path} {m : Location} (there : u.Leads p m) :
          p.start (FileM.relocated u (l ++ [name]) (k ++ [name])).directory = p.start u.directory := by
        have home := there.start
        unfold Path.start at home ⊢
        split
        · rfl
        · next relative =>
          rw [if_neg relative] at home
          exact FileM.within_relocated.directory (not_or.mpr ⟨soundU.not_above home sourceLeaf, soundU.not_above home notDirectory⟩)
      refine .inr (.inr ⟨congrArg Prod.fst relocates, fun twin => single ((sweeping.twins name new).mpr twin), ?_⟩)
      rw [show run = _ from relocates]
      refine ⟨?_, sweeping.leadsSource.of_start (start leads), sweeping.leadsDest.of_start (start leads'), fun other away => ?_⟩
      · rw [FileM.relocated_files]
        exact sweeping.swept.concat soundU leads.directory different new found file notDirectory
      · obtain ⟨notMoved, otherName⟩ : other ∉ moved ∧ other ≠ name := by simpa using away
        rw [FileM.relocated_files, FileTree.mem_places_move (by simpa using otherName.symm)
          (soundU.not_above_name leads.directory (Ne.symm different) notDirectory other)
          (soundU.not_above_name leads'.directory different sourceLeaf other) (by simpa using otherName.symm)]
        exact sweeping.twins other notMoved
  · exact .inl (Files.move_nowhere valid narrowed sweeping.leadsSource sweeping.leadsDest
      ((not_and_or.mp leads).imp not_exists.mp not_exists.mp))

end Sweeping

theorem exec_moveAll_of_error {error : FileError} {v : Workspace}
    (stopped : (Files.move (source.join name) (dest.join name)).exec u = (.error error, v)) :
    (moveAll source dest (name :: names)).exec u = (.error error, v) := by
  rw [moveAll, List.mapM_cons, TaskM.exec_bind, TaskM.exec_bind, stopped]

theorem exec_moveAll_of_ok {v : Workspace} (passed : (Files.move (source.join name) (dest.join name)).exec u = (.ok (), v)) :
    (moveAll source dest (name :: names)).exec u =
      (((moveAll source dest names).exec v).1.map (dest.join name :: ·), ((moveAll source dest names).exec v).2) := by
  rw [moveAll, List.mapM_cons, TaskM.exec_bind, TaskM.exec_bind, passed]
  dsimp only [TaskM.exec_pure]
  rw [TaskM.exec_bind, ← moveAll]
  rcases (moveAll source dest names).exec v with ⟨_ | _, _⟩ <;> rfl

/-- What is told of the packages of a list that were taken: where all of them are now, or nothing if one of them could not
be moved. -/
inductive Told (dest : Path) (names : List String) : List String → Except FileError (List Path) → Prop
  | all : Told dest names names (.ok (names.map dest.join))
  | stopped {taken : List String} (start : taken <+: names) (error : FileError) : Told dest names taken (.error error)

namespace Told

variable {told : Except FileError (List Path)}

theorem cons (tells : Told dest names taken told) (name : String) :
    Told dest (name :: names) (name :: taken) (told.map (dest.join name :: ·)) := by
  cases tells with
  | all => exact .all
  | stopped start error => exact .stopped (List.cons_prefix_cons.mpr ⟨rfl, start⟩) error

theorem start (tells : Told dest names taken told) : taken <+: names := by
  cases tells with
  | all => exact List.prefix_refl _
  | stopped start _ => exact start

end Told

/-- The packages of a list are taken one by one. Those that have not the other place already are moved. -/
theorem Sweeping.moveAll (sound : w.files.Sound) (sweeping : Sweeping source dest proj out w moved u)
    (each : ∀ name ∈ names, IsName name ∧ ∃ e, w.files.get? (proj ++ [name]) = some e ∧ e.isFile)
    (nodup : names.Nodup) (new : ∀ name ∈ names, name ∉ moved) :
    let run := (Collection.moveAll source dest names).exec u
    ∃ taken, Told dest names taken run.1 ∧ Sweeping source dest proj out w (moved ++ unshared w proj out taken) run.2 := by
  -- The induction is on the names that are left, whatever was moved before them.
  induction names generalizing u moved with
  | nil => exact ⟨[], .all, by rwa [unshared, List.filter_nil, List.append_nil]⟩
  | cons name names ih =>
    obtain ⟨⟨valid, loose⟩, eachLater⟩ := List.forall_mem_cons.mp each
    obtain ⟨newName, newLater⟩ := List.forall_mem_cons.mp new
    obtain ⟨fresh, nodup⟩ := List.nodup_cons.mp nodup
    obtain ⟨error, stopped⟩ | ⟨passed, twin⟩ | ⟨passed, single, next⟩ := sweeping.step sound valid loose newName
    · rw [exec_moveAll_of_error stopped]
      exact ⟨[], .stopped List.nil_prefix error, by rwa [unshared, List.filter_nil, List.append_nil]⟩
    · rw [exec_moveAll_of_ok passed]
      obtain ⟨taken, told, after⟩ := ih sweeping eachLater nodup newLater
      refine ⟨name :: taken, told.cons name, ?_⟩
      rwa [unshared, List.filter_cons_of_neg (by simpa using twin)]
    · rw [exec_moveAll_of_ok (Prod.ext passed rfl)]
      have later (other : String) (member : other ∈ names) : other ∉ moved ++ [name] := by
        have different : other ≠ name := fun same => fresh (same ▸ member)
        simpa [different] using newLater other member
      obtain ⟨taken, told, after⟩ := ih next eachLater nodup later
      refine ⟨name :: taken, told.cons name, ?_⟩
      rw [unshared, List.filter_cons_of_pos (by simpa using single), ← unshared]
      simpa using after

end Collection

namespace Packaging

open Collection (Sweeping Told)

variable {p : Packaging} {w : Workspace} {proj out : Location}

/-- The names of the packages that a sweep is to take. -/
def sweptNames (p : Packaging) (w : Workspace) (proj : Location) : List String :=
  if Collection.isSameDirectory w p.config.projectDir p.config.outDir then [] else looseIn w proj

/-- What a sweep takes is told unless it stops. What it moves is part of that, and the rest was in the output directory under
another name of the same file. -/
theorem exists_swept (wellFormed : w.files.WellFormed) (leadsProject : w.Leads p.config.projectDir proj)
    (leadsOut : w.Leads p.config.outDir out) :
    let sweep := (Collection.run p.config.projectDir p.config.outDir).exec w
    ∃ taken moved, Told p.config.outDir (p.sweptNames w proj) taken sweep.1 ∧ moved.Sublist taken ∧
      (∀ name ∈ taken, name ∈ moved ∨ out ++ [name] ∈ w.files.places (proj ++ [name])) ∧
      w.files.Swept proj out moved sweep.2.files := by
  dsimp only
  rw [Collection.run, TaskM.exec_bind, TaskM.exec_get, sweptNames]
  dsimp only
  split
  · exact ⟨[], [], .all, .slnil, by simp, .refl proj out w.files⟩
  · rw [TaskM.exec_bind, TaskM.exec_describe, FileM.exec_look, looseNames_of_leads leadsProject]
    cases FileTree.checkPath p.config.projectDir with
    | error fault => exact ⟨[], [], .stopped List.nil_prefix _, .slnil, by simp, .refl proj out w.files⟩
    | ok _ =>
      have each (name : String) (member : name ∈ looseIn w proj) :
          IsName name ∧ ∃ e, w.files.get? (proj ++ [name]) = some e ∧ e.isFile := by
        obtain ⟨-, e, there, file⟩ := mem_looseIn.mp member
        exact ⟨(wellFormed.proper _ e there name (by simp)).1, e, there, file⟩
      obtain ⟨taken, told, after⟩ := (Sweeping.refl leadsProject leadsOut).moveAll wellFormed.sound each
        ((FileTree.nodup_names _ _).filter _) (by simp)
      refine ⟨taken, Collection.unshared w proj out taken, told, List.filter_sublist, fun name member => ?_, after.swept⟩
      rw [Collection.mem_unshared, and_iff_right member]
      exact (Classical.em _).symm

/-- What a report lists as collected: all packages that were taken if the sweep was completed, and none if it was not. These
are the packages that were moved out of the project just if all that were taken were moved, and if none was moved before the
sweep stopped. -/
theorem collected_accurate_iff (wellFormed : w.files.WellFormed) (leadsProject : w.Leads p.config.projectDir proj)
    (leadsOut : w.Leads p.config.outDir out) (o : Outcomes Archive) (results : List PackageResult) :
    let completed := ((Collection.run p.config.projectDir p.config.outDir).exec w).1.toBool
    let collected := ((p.finish o results).run w).1.collected
    ∃ taken moved, w.files.Swept proj out moved (p.gatheredIn w).files ∧
      (∀ name, name ∈ moved ↔ Loose proj w name ∧ (p.gatheredIn w).files.get? (proj ++ [name]) = none) ∧
      moved.Sublist taken ∧ taken <+: p.sweptNames w proj ∧
      (∀ name ∈ taken, name ∈ moved ∨ out ++ [name] ∈ w.files.places (proj ++ [name])) ∧
      collected = (if completed then (p.sweptNames w proj).map p.config.outDir.join else []) ∧
      (completed → taken = p.sweptNames w proj) ∧
      (collected = moved.map p.config.outDir.join ↔ if completed then moved = taken else moved = []) := by
  intro completed collected
  obtain ⟨taken, moved, told, part, names, swept⟩ := exists_swept wellFormed leadsProject leadsOut
  have listed : collected = ((Collection.run p.config.projectDir p.config.outDir).exec w).1.toOption.getD [] :=
    collected_finish p o results w
  have ran : completed = ((Collection.run p.config.projectDir p.config.outDir).exec w).1.toBool := rfl
  have loose (name : String) (member : name ∈ moved) : Loose proj w name := by
    have swept := told.start.subset (part.subset member)
    rw [sweptNames] at swept
    split at swept
    · cases swept
    · exact mem_looseIn.mp swept
  refine ⟨taken, moved, swept, fun name => ⟨fun member => ⟨loose name member, swept.gone name member⟩, ?_⟩, part, told.start,
    names, ?_⟩
  · rintro ⟨⟨-, e, there, -⟩, gone⟩
    by_contra new
    cases there.symm.trans ((swept.source new).symm.trans gone)
  · generalize ((Collection.run p.config.projectDir p.config.outDir).exec w).1 = ending at told listed ran
    rw [listed, ran]
    cases told with
    | all =>
      refine ⟨rfl, fun _ => rfl, fun same => ?_, fun same => by rw [same]; rfl⟩
      have lengths := congrArg List.length same
      exact part.eq_of_length (by simpa [Except.toOption] using lengths.symm)
    | stopped start error => simp [Except.toBool, Except.toOption]

namespace Swept

/-- Packaging in a project at a place of its own. -/
def packaging : Packaging :=
  ⟨ReleaseConfig.standard 1 ⟨"/p"⟩ "1.0.0", ⟨fun _ _ => pure ()⟩⟩

/-- A package lies loose, and a second one whose file is in the output directory too. -/
def twin : Workspace where
  files := ⟨[(["p"], .directory), (["p", "a.deb"], .file [1] false), (["p", "b.deb"], .file [2] false),
    (["p", "pkg"], .directory), (["p", "pkg", "b.deb"], .file [2] false)], [[["p", "b.deb"], ["p", "pkg", "b.deb"]]]⟩
  directory := ["p"]
  journal := []

/-- Two packages lie loose, and there is a directory with the name of the second one in the output directory. -/
def blocked : Workspace where
  files := ⟨[(["p"], .directory), (["p", "a.deb"], .file [1] false), (["p", "b.deb"], .file [2] false),
    (["p", "pkg"], .directory), (["p", "pkg", "b.deb"], .directory)], []⟩
  directory := ["p"]
  journal := []

end Swept

theorem collected_accurate_iff_twin :
    let p := Swept.packaging
    let w := Swept.twin
    w.files.WellFormed ∧ w.Leads p.config.projectDir ["p"] ∧ w.Leads p.config.outDir ["p", "pkg"] ∧
      ∃ taken moved, w.files.Swept ["p"] ["p", "pkg"] moved (p.gatheredIn w).files ∧ moved.Sublist taken ∧
        "a.deb" ∈ moved ∧ "b.deb" ∉ moved ∧
        ((p.finish ⟨[]⟩ []).run w).1.collected ≠ moved.map p.config.outDir.join := by
  intro p w
  have wellFormed : w.files.WellFormed := FileTree.wellFormed_of_nodes (by decide) (by decide) (by decide)
  have leadsProject : w.files.Leads w.directory p.config.projectDir ["p"] := by decide +kernel
  have leadsOut : w.files.Leads w.directory p.config.outDir ["p", "pkg"] := by decide +kernel
  obtain ⟨taken, moved, swept, mem, part, -, -, -, all, accurate⟩ :=
    collected_accurate_iff wellFormed leadsProject leadsOut ⟨[]⟩ []
  have completed : ((Collection.run p.config.projectDir p.config.outDir).exec w).1.toBool = true := by decide +kernel
  have first : "a.deb" ∈ moved := (mem _).mpr ⟨⟨by decide +kernel, _, rfl, rfl⟩, by decide +kernel⟩
  have second : "b.deb" ∉ moved := fun member => absurd ((mem _).mp member).2 (by decide +kernel)
  refine ⟨wellFormed, leadsProject, leadsOut, taken, moved, swept, part, first, second, fun same => second ?_⟩
  have whole := accurate.mp same
  rw [if_pos completed] at whole
  rw [whole, all completed]
  decide +kernel

/-- A package can be moved and not be told of, where the next one cannot be moved. -/
theorem collected_omits_moved :
    let p := Swept.packaging
    let w := Swept.blocked
    w.files.get? ["p", "a.deb"] = some (.file [1] false) ∧ (p.gatheredIn w).files.get? ["p", "a.deb"] = none ∧
      (p.gatheredIn w).files.get? ["p", "pkg", "a.deb"] = some (.file [1] false) ∧
      ((p.finish ⟨[]⟩ []).run w).1.collected = [] := by
  intro p w
  refine ⟨rfl, by decide +kernel, by decide +kernel, ?_⟩
  rw [collected_finish]
  decide +kernel

end Packaging

end ReleaseMatrix
