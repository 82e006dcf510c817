import ReleaseMatrix.Workspace.Change
import ReleaseMatrix.Proofs.Execution
import ReleaseMatrix.Proofs.Walking

namespace ReleaseMatrix

open FileTree (Leads usable)

namespace Workspace

/-- A path leads to the directory `l` in the workspace. -/
def Leads (w : Workspace) (p : Path) (l : Location) : Prop :=
  w.files.Leads w.directory p l

/-- The workspace has the directories and links of `t`, and is still in `here` if that is one of them. -/
structure Rests (t : FileTree) (here : Location) (w : Workspace) : Prop where
  keeps : t.Keeps w.files
  home : t.get? here = some .directory → w.directory = here

/-- The second workspace comes from the first by changes in an area. -/
structure Within (area : Location → Prop) (w v : Workspace) : Prop where
  files : ∀ k, ¬ area k → v.files.get? k = w.files.get? k
  alone : ∀ k, ¬ area k → w.files.Alone k → v.files.Alone k
  directory : ¬ area w.directory → v.directory = w.directory
  journal : w.journal <+: v.journal

/-- The second workspace has outside an area what the first has, and stays in the same directory if that is
outside too. -/
structure SameOutside (area : Location → Prop) (w v : Workspace) : Prop where
  files : ∀ k, ¬ area k → v.files.get? k = w.files.get? k
  directory : ¬ area w.directory → v.directory = w.directory

/-- At a place stands what stood there before, or a file. -/
def Refilled (l : Location) (w v : Workspace) : Prop :=
  v.files.get? l = w.files.get? l ∨ ∃ e, v.files.get? l = some e ∧ e.isFile

variable {t : FileTree} {here l : Location} {p : Path} {w v u : Workspace} {area : Location → Prop}

theorem Refilled.trans (first : Refilled l w v) (second : Refilled l v u) : Refilled l w u := by
  rcases second with same | file
  · rw [Refilled, same]
    exact first
  · exact .inr file

theorem Rests.leads (rests : w.Rests t here) (leads : t.Leads here p l) : w.Leads p l := by
  have start : p.start w.directory = p.start here := by
    by_cases absolute : p.isAbsolute
    · simp [Path.start, absolute]
    · have := leads.start
      simp only [Path.start, absolute, Bool.false_eq_true, if_false] at this ⊢
      exact rests.home this
  have kept := leads.keeps rests.keeps
  exact ⟨by rw [start, kept.start], by rw [start, kept.walk], kept.directory⟩

theorem Within.refl (area : Location → Prop) (w : Workspace) : Within area w w :=
  ⟨fun _ _ => rfl, fun _ _ alone => alone, fun _ => rfl, List.prefix_refl _⟩

theorem Within.trans (first : Within area w v) (second : Within area v u) : Within area w u where
  files k away := (second.files k away).trans (first.files k away)
  alone k away alone := second.alone k away (first.alone k away alone)
  directory away := by
    have stays := first.directory away
    rw [second.directory (stays ▸ away), stays]
  journal := first.journal.trans second.journal

theorem Within.mono {larger : Location → Prop} (within : Within area w v) (more : ∀ k, area k → larger k) :
    Within larger w v where
  files k away := within.files k fun inside => away (more k inside)
  alone k away := within.alone k fun inside => away (more k inside)
  directory away := within.directory fun inside => away (more _ inside)
  journal := within.journal

/-- A note of what happens changes no files. -/
theorem within_record (area : Location → Prop) (w : Workspace) (e : Event) : Within area w (w.record e) :=
  ⟨fun _ _ => rfl, fun _ _ alone => alone, fun _ => rfl, List.prefix_append _ _⟩

theorem SameOutside.refl (area : Location → Prop) (w : Workspace) : SameOutside area w w :=
  ⟨fun _ _ => rfl, fun _ => rfl⟩

theorem Within.sameOutside (within : Within area w v) : SameOutside area w v :=
  ⟨within.files, within.directory⟩

theorem SameOutside.mono {larger : Location → Prop} (same : SameOutside area w v) (more : ∀ k, area k → larger k) :
    SameOutside larger w v :=
  ⟨fun k away => same.files k fun inside => away (more k inside),
    fun away => same.directory fun inside => away (more _ inside)⟩

theorem SameOutside.trans (first : SameOutside area w v) (second : SameOutside area v u) : SameOutside area w u where
  files k away := (second.files k away).trans (first.files k away)
  directory away := by
    have stays := first.directory away
    rw [second.directory (stays ▸ away), stays]

/-- Changes away from the directories and links of a tree leave them in place. -/
theorem SameOutside.rests (same : SameOutside area w v)
    (away : ∀ k e, area k → t.get? k = some e → e.isWay = false) (rests : w.Rests t here) : v.Rests t here where
  keeps k e way found := by
    rw [same.files k fun inside => by simp [away k e inside found] at way]
    exact rests.keeps k e way found
  home there := by
    have stays := rests.home there
    rw [same.directory fun inside => ?_, stays]
    rw [stays] at inside
    exact absurd (away here _ inside there) (by simp [Entry.isWay])

theorem Within.rests (within : Within area w v) (away : ∀ k e, area k → t.get? k = some e → e.isWay = false)
    (rests : w.Rests t here) : v.Rests t here :=
  within.sameOutside.rests away rests

/-- Where no name below a directory is a link, what is found there depends only on what it holds, and is where the
names say. -/
theorem find_below {first last : String} (leads : w.Leads p l) (leads' : v.Leads p l)
    (same : ∀ k, l <+: k → w.files.get? k = v.files.get? k) (straight : w.files.Straight l [first, last])
    (validFirst : IsName first) (validLast : IsName last) :
    w.find ((p.join first).join last) = v.find ((p.join first).join last) ∧
      ∀ k e, w.find ((p.join first).join last) = .ok (k, e) →
        k = l ++ [first, last] ∧ w.files.get? (l ++ [first, last]) = some e := by
  obtain ⟨equal, ends⟩ := leads.locate_below .target leads' same straight validFirst validLast
  rw [find, find, locate, locate, ← equal]
  cases located : w.files.locate w.directory ((p.join first).join last) .target with
  | error fault => exact ⟨rfl, fun k e found => absurd found (by simp [bind, Except.bind])⟩
  | ok k =>
    obtain rfl := ends k located
    simp only [bind, Except.bind]
    rw [same _ (List.prefix_append l [first, last])]
    refine ⟨rfl, fun k e found => ?_⟩
    cases there : v.files.get? (l ++ [first, last]) with
    | none => simp [there] at found
    | some e' =>
      obtain ⟨rfl, rfl⟩ : l ++ [first, last] = k ∧ e' = e := by simpa [there, pure, Except.pure] using found
      exact ⟨rfl, rfl⟩

theorem rests_without (w : Workspace) (picks : Location → Bool) : w.Rests (w.files.without picks) w.directory where
  keeps k e _ found := by
    by_cases root : k = []
    · subst root
      simpa using found
    · rw [FileTree.get?_without root] at found
      split at found
      · exact absurd found (by simp)
      · exact found
  home _ := rfl

end Workspace

namespace FileM

variable {l : Location} {p : Path} {name : String} {w : Workspace}

/-- The workspace with other files. -/
def changed (w : Workspace) (f : FileTree → FileTree) : Workspace :=
  { w with files := f w.files }

theorem within_put {k : Location} {e : Entry} (root : k ≠ []) :
    Workspace.Within (k <+: ·) w (changed w (·.put k e)) where
  files m away := by
    rw [changed, FileTree.get?_put root, if_neg]
    rintro rfl
    exact away (List.prefix_refl _)
  alone _ _ alone := alone
  directory _ := rfl
  journal := List.prefix_refl _

theorem within_erase {k : Location} (root : k ≠ []) :
    Workspace.Within (k <+: ·) w (changed w (·.erase k)) where
  files m away := by
    rw [changed, FileTree.get?_erase root, if_neg]
    rintro rfl
    exact away (List.prefix_refl _)
  alone _ _ alone := alone.erase k
  directory _ := rfl
  journal := List.prefix_refl _

theorem exec_ending (p : Path) : (ending p).exec w = (w.files.ending w.directory p, w) :=
  exec_look _

theorem exec_entryAt? (l : Location) : (entryAt? l).exec w = (.ok (w.files.get? l), w) := rfl

theorem makeDirectory_join (leads : w.Leads p l) (valid : IsName name) :
    (makeDirectory (p.join name)).exec w =
      match usable p name, w.files.get? (l ++ [name]) with
      | .error fault, _ => (.error fault, w)
      | .ok _, some _ => (.error .alreadyExists, w)
      | .ok _, none => (.ok (), changed w (·.put (l ++ [name]) .directory)) := by
  rw [makeDirectory, TaskM.exec_bind, exec_ending, Leads.ending_join leads valid]
  cases usable p name with
  | error fault => rfl
  | ok _ =>
    simp only [Except.map, TaskM.exec_bind, exec_entryAt?]
    cases w.files.get? (l ++ [name]) <;> rfl

theorem removeFile_of_ending {parent : Location} (ends : w.files.ending w.directory p = .ok (.name parent name))
    (noSlash : p.endsInSlash = false) :
    (removeFile p).exec w =
      match w.files.get? (parent ++ [name]) with
      | none => (.error .notFound, w)
      | some .directory => (.error .isADirectory, w)
      | some _ => (.ok (), changed w (·.erase (parent ++ [name]))) := by
  rw [removeFile, TaskM.exec_bind, exec_ending, ends]
  simp only [TaskM.exec_bind, exec_entryAt?, noSlash]
  cases w.files.get? (parent ++ [name]) with
  | none => rfl
  | some e => cases e <;> rfl

theorem removeFile_of_fault {fault : FileFault} (ends : w.files.ending w.directory p = .error fault) :
    (removeFile p).exec w = (.error fault, w) := by
  rw [removeFile, TaskM.exec_bind, exec_ending, ends]

theorem removeFile_join (leads : w.Leads p l) (valid : IsName name) :
    (removeFile (p.join name)).exec w =
      match usable p name, w.files.get? (l ++ [name]) with
      | .error fault, _ => (.error fault, w)
      | .ok _, none => (.error .notFound, w)
      | .ok _, some .directory => (.error .isADirectory, w)
      | .ok _, some _ => (.ok (), changed w (·.erase (l ++ [name]))) := by
  have ends := Leads.ending_join leads valid
  cases fits : usable p name with
  | error fault => exact removeFile_of_fault (by rw [ends, fits]; rfl)
  | ok _ =>
    rw [removeFile_of_ending (by rw [ends, fits]; rfl) (p.endsInSlash_join valid)]
    cases w.files.get? (l ++ [name]) with
    | none => rfl
    | some e => cases e <;> rfl

theorem find_join (leads : w.Leads p l) (valid : IsName name)
    (noLink : ∀ target, w.files.get? (l ++ [name]) ≠ some (.link target)) :
    w.find (p.join name) =
      match usable p name, w.files.get? (l ++ [name]) with
      | .error fault, _ => .error fault
      | .ok _, none => .error .notFound
      | .ok _, some e => .ok (l ++ [name], e) := by
  rw [Workspace.find, Workspace.locate, Leads.locate_join leads valid (.inr noLink)]
  cases usable p name with
  | error fault => rfl
  | ok _ =>
    simp only [Except.map, bind, Except.bind]
    cases w.files.get? (l ++ [name]) <;> rfl

theorem entry?_join_of_fault (leads : w.Leads p l) (valid : IsName name) {fault : FileFault}
    (refused : usable p name = .error fault) : w.entry? (p.join name) = none := by
  rw [Workspace.entry?, Workspace.find, Workspace.locate, Leads.locate_join_of_fault leads valid refused]
  rfl

theorem exists_join (leads : w.Leads p l) (valid : IsName name)
    (noLink : ∀ target, w.files.get? (l ++ [name]) ≠ some (.link target)) :
    w.exists? (p.join name) = ((usable p name).toBool && (w.files.get? (l ++ [name])).isSome) := by
  rw [Workspace.exists?, Workspace.entry?, find_join leads valid noLink]
  cases usable p name with
  | error fault => rfl
  | ok _ => cases w.files.get? (l ++ [name]) <;> rfl

theorem usable_ne_notFound (valid : IsName name) {fault : FileFault} (refused : usable p name = .error fault) :
    fault ≠ .notFound := by
  rintro rfl
  have nonempty := p.text_join_ne_empty valid
  rw [FileTree.usable_eq, FileTree.checkPath, nonempty] at refused
  by_cases nul : '\x00' ∈ (p.join name).text.toList
  · simp [nul, Except.bind] at refused
  · by_cases long : (p.join name).text.utf8ByteSize ≥ FileTree.pathLimit
    · simp [nul, long, Except.bind] at refused
    · by_cases longName : name.utf8ByteSize > FileTree.nameLimit <;>
        simp [nul, long, longName, Except.bind] at refused

/-- Making a directory that may be there already: an entry with the name stays, and does no harm if it is a
directory or leads to one. -/
theorem makeDirectories_join (leads : w.Leads p l) (valid : IsName name) :
    (makeDirectories (p.join name)).exec w =
      match usable p name, w.files.get? (l ++ [name]) with
      | .error fault, _ => (.error fault, w)
      | .ok _, none => (.ok (), changed w (·.put (l ++ [name]) .directory))
      | .ok _, some _ => (if w.isDirectory (p.join name) then .ok () else .error .alreadyExists, w) := by
  obtain ⟨n, length⟩ : ∃ n, (p.join name).components.length = n + 1 :=
    Nat.exists_eq_add_one.mpr (List.length_pos_iff.mpr (p.components_join_ne_nil valid))
  have made := makeDirectory_join leads valid
  rw [makeDirectories, length, makeDirectoriesWithin, TaskM.exec_tryCatch, makeDirectoryIfMissing,
    TaskM.exec_tryCatch]
  cases fits : usable p name with
  | error fault =>
    have other := usable_ne_notFound valid fits
    have there : w.isDirectory (p.join name) = false := by
      rw [Workspace.isDirectory, entry?_join_of_fault leads valid fits]
      rfl
    simp only [fits] at made
    simp only [made, TaskM.exec_bind, TaskM.exec_get, there, if_false, TaskM.exec_throw, Bool.false_eq_true]
    split
    · next v eq => exact absurd rfl other
    · rfl
  | ok _ =>
    cases entry : w.files.get? (l ++ [name]) with
    | none =>
      simp only [fits, entry] at made
      simp [made]
    | some e =>
      simp only [fits, entry] at made
      simp only [made, TaskM.exec_bind, TaskM.exec_get]
      by_cases there : w.isDirectory (p.join name)
      · simp [there]
      · simp only [there, if_false, TaskM.exec_throw, Bool.false_eq_true]

/-- Writing to a name that is no link changes the file that has the name, at all its places. -/
theorem write_join_shared (leads : w.Leads p l) (valid : IsName name)
    (noLink : ∀ target, w.files.get? (l ++ [name]) ≠ some (.link target)) (content : Bytes) :
    (write (p.join name) content).exec w =
      match usable p name, w.files.get? (l ++ [name]) with
      | .error fault, _ => (.error fault, w)
      | .ok _, some .directory => (.error .isADirectory, w)
      | .ok _, e? =>
        (.ok (), changed w (·.replace (l ++ [name]) ((e?.getD (.file [] false)).withContent content))) := by
  have located : (locateForWriting (p.join name)).exec w =
      match usable p name, w.files.get? (l ++ [name]) with
      | .error fault, _ => (.error fault, w)
      | .ok _, some .directory => (.error .isADirectory, w)
      | .ok _, _ => (.ok (l ++ [name]), w) := by
    rw [locateForWriting, TaskM.exec_bind, exec_look, Workspace.locate,
      Leads.locate_join leads valid (.inr noLink)]
    cases usable p name with
    | error fault => rfl
    | ok _ =>
      simp only [Except.map, TaskM.exec_bind, exec_entryAt?]
      cases w.files.get? (l ++ [name]) with
      | none => rfl
      | some e => cases e <;> rfl
  rw [write, TaskM.exec_bind, located]
  cases usable p name with
  | error fault => rfl
  | ok _ =>
    cases found : w.files.get? (l ++ [name]) with
    | none => simp [TaskM.exec_bind, exec_entryAt?, found, changed]
    | some e =>
      cases e <;> simp [TaskM.exec_bind, exec_entryAt?, found, changed]

/-- Writing to a name that is no link, and whose file has no other place, changes what has the name. -/
theorem write_join (leads : w.Leads p l) (valid : IsName name)
    (noLink : ∀ target, w.files.get? (l ++ [name]) ≠ some (.link target))
    (alone : w.files.Alone (l ++ [name])) (content : Bytes) :
    (write (p.join name) content).exec w =
      match usable p name, w.files.get? (l ++ [name]) with
      | .error fault, _ => (.error fault, w)
      | .ok _, some .directory => (.error .isADirectory, w)
      | .ok _, e? =>
        (.ok (), changed w (·.put (l ++ [name]) ((e?.getD (.file [] false)).withContent content))) := by
  simp only [write_join_shared leads valid noLink, alone.replace_eq, changed]

/-- The workspace once what is strictly below a place is removed. -/
def emptied (w : Workspace) (l : Location) : Workspace :=
  ((clearDirectory l).exec w).2

/-- The workspace once a directory and all that is below it are removed. -/
def felled (w : Workspace) (l : Location) : Workspace :=
  let v := changed (emptied w l) (·.erase l)
  if v.directory = l then { v with directory := lostPlace l } else v

theorem exec_clearDirectory (l : Location) : (clearDirectory l).exec w = (.ok (), emptied w l) := rfl

theorem emptied_eq (w : Workspace) (l : Location) : emptied w l =
    if l.isPrefixOf w.directory && w.directory ≠ l then
      { changed w (·.clear l) with directory := lostPlace w.directory }
    else changed w (·.clear l) := rfl

theorem emptied_files (w : Workspace) (l : Location) : (emptied w l).files = w.files.clear l := by
  rw [emptied_eq]
  split <;> rfl

theorem emptied_journal (w : Workspace) (l : Location) : (emptied w l).journal = w.journal := by
  rw [emptied_eq]
  split <;> rfl

theorem emptied_directory (away : ¬ l <+: w.directory) : (emptied w l).directory = w.directory := by
  rw [emptied_eq, if_neg (by simp [FileTree.isPrefixOf_eq, away])]
  rfl

theorem within_emptied (w : Workspace) (l : Location) : Workspace.Within (l <+: ·) w (emptied w l) where
  files k away := by rw [emptied_files, FileTree.get?_clear, if_neg fun inside => away inside.1]
  alone k _ alone := by
    rw [emptied_files]
    exact alone.clear l
  directory away := emptied_directory away
  journal := by rw [emptied_journal]

theorem felled_files (w : Workspace) (l : Location) : (felled w l).files = (w.files.clear l).erase l := by
  rw [felled]
  split <;> simp [changed, emptied_files]

theorem felled_journal (w : Workspace) (l : Location) : (felled w l).journal = w.journal := by
  rw [felled]
  split <;> simp [changed, emptied_journal]

theorem get?_felled {k : Location} (root : l ≠ []) :
    (felled w l).files.get? k = if l <+: k then none else w.files.get? k := by
  rw [felled_files, FileTree.get?_erase root, FileTree.get?_clear]
  by_cases same : k = l
  · simp [same]
  · by_cases inside : l <+: k <;> simp [same, inside]

theorem within_felled (root : l ≠ []) : Workspace.Within (l <+: ·) w (felled w l) where
  files k away := by rw [get?_felled root, if_neg away]
  alone k _ alone := by
    rw [felled_files]
    exact (alone.clear l).erase l
  directory away := by
    have stays := emptied_directory away
    have other : w.directory ≠ l := by
      intro same
      exact away (same ▸ List.prefix_refl _)
    rw [felled, if_neg (by simpa [changed, stays] using other)]
    exact stays
  journal := by rw [felled_journal]

/-- Removing what has a name, with all that is below it. The directory must still be reached when only the
place itself is left. -/
theorem removeTree_join (leads : w.Leads p l) (after : (emptied w (l ++ [name])).Leads p l) (valid : IsName name) :
    (removeTree (p.join name)).exec w =
      match usable p name, w.files.get? (l ++ [name]) with
      | .error fault, _ => (.error fault, w)
      | .ok _, none => (.error .notFound, w)
      | .ok _, some (.link _) => (.ok (), changed w (·.erase (l ++ [name])))
      | .ok _, some .directory => (.ok (), felled w (l ++ [name]))
      | .ok _, some _ => (.error .notADirectory, w) := by
  have removed := removeFile_join leads valid
  rw [removeTree, TaskM.exec_bind, exec_look, Workspace.locate, Leads.locate_join leads valid (.inl rfl)]
  cases fits : usable p name with
  | error fault => rfl
  | ok _ =>
    simp only [Except.map, TaskM.exec_bind, exec_entryAt?]
    cases found : w.files.get? (l ++ [name]) with
    | none => rfl
    | some e =>
      cases e with
      | link target => simpa [fits, found] using removed
      | directory =>
        have there : (emptied w (l ++ [name])).files.get? (l ++ [name]) = some .directory := by
          rw [emptied_files, FileTree.get?_clear, if_neg (by simp), found]
        have empty : (emptied w (l ++ [name])).files.names (l ++ [name]) = [] := by
          rw [emptied_files, FileTree.names_clear]
        have directory : (removeDirectory (p.join name)).exec (emptied w (l ++ [name])) =
            (.ok (), felled w (l ++ [name])) := by
          rw [removeDirectory, TaskM.exec_bind, exec_ending, Leads.ending_join after valid, fits]
          simp only [Except.map, TaskM.exec_bind, exec_entryAt?, there, TaskM.exec_get, empty]
          rfl
        simp only [TaskM.exec_bind, exec_clearDirectory, TaskM.exec_tryCatch, directory]
      | _ => rfl

/-- Making a directory anew: what was there with the name is removed, unless it is a file or leads nowhere. The
directory above must still be reached when only the place itself is left, and when it is not. -/
theorem renew_join (leads : ∀ v, Workspace.Within (l ++ [name] <+: ·) w v → v.Leads p l) (valid : IsName name) :
    (do
      if (← get).exists? (p.join name) then removeTree (p.join name)
      makeDirectories (p.join name) : FileM Unit).exec w =
      match usable p name, w.files.get? (l ++ [name]) with
      | .error fault, _ => (.error fault, w)
      | .ok _, none => (.ok (), changed w (·.put (l ++ [name]) .directory))
      | .ok _, some .directory => (.ok (), changed (felled w (l ++ [name])) (·.put (l ++ [name]) .directory))
      | .ok _, some (.link _) =>
        if w.exists? (p.join name) then
          (.ok (), changed (changed w (·.erase (l ++ [name]))) (·.put (l ++ [name]) .directory))
        else (.error .alreadyExists, w)
      | .ok _, some _ => (.error .notADirectory, w) := by
  have root : l ++ [name] ≠ [] := by simp
  have here := leads w (.refl _ w)
  have removed := removeTree_join here (leads _ (within_emptied w _)) valid
  have made {v : Workspace} (within : Workspace.Within (l ++ [name] <+: ·) w v) := makeDirectories_join (leads v within) valid
  rw [TaskM.exec_bind, TaskM.exec_get]
  dsimp only
  cases fits : usable p name with
  | error fault =>
    have there : w.exists? (p.join name) = false := by
      rw [Workspace.exists?, entry?_join_of_fault here valid fits]
      rfl
    have result := made (.refl _ w)
    rw [fits] at result
    simpa [there] using result
  | ok _ =>
    have plain (noLink : ∀ target, w.files.get? (l ++ [name]) ≠ some (.link target)) :
        w.exists? (p.join name) = (w.files.get? (l ++ [name])).isSome := by
      rw [exists_join here valid noLink, fits]
      rfl
    cases found : w.files.get? (l ++ [name]) with
    | none =>
      have there := plain (by simp [found])
      have result := made (.refl _ w)
      simp only [fits, found, Option.isSome_none] at there result
      simpa [there] using result
    | some e =>
      have replaced {v : Workspace} (within : Workspace.Within (l ++ [name] <+: ·) w v)
          (free : v.files.get? (l ++ [name]) = none) :
          (makeDirectories (p.join name)).exec v = (.ok (), changed v (·.put (l ++ [name]) .directory)) := by
        rw [made within, fits, free]
      simp only [fits, found] at removed
      cases e with
      | directory =>
        have there := plain (by simp [found])
        simp only [found, Option.isSome_some] at there
        simp only [there, if_true, TaskM.exec_bind, removed]
        exact replaced (within_felled root) (by simp [get?_felled root])
      | link target =>
        by_cases there : w.exists? (p.join name)
        · simp only [there, if_true, TaskM.exec_bind, removed]
          exact replaced (within_erase root) (by simp [changed, FileTree.get?_erase root])
        · have noDirectory : w.isDirectory (p.join name) = false := by
            simp only [Workspace.exists?, Bool.not_eq_true, Option.isSome_eq_false_iff,
              Option.isNone_iff_eq_none] at there
            simp [Workspace.isDirectory, there]
          have result := made (.refl _ w)
          simp only [fits, found, noDirectory] at result
          simpa [there] using result
      | _ =>
        have there := plain (by simp [found])
        simp only [found, Option.isSome_some] at there
        simp only [there, if_true, TaskM.exec_bind, removed]

/-- The workspace once an entry is moved. -/
def relocated (w : Workspace) (source dest : Location) : Workspace :=
  ((moveEntry source dest).exec w).2

theorem relocated_eq (w : Workspace) (source dest : Location) : relocated w source dest =
    if source.isPrefixOf w.directory then
      { changed w (·.move source dest) with directory := dest ++ w.directory.drop source.length }
    else changed w (·.move source dest) := rfl

theorem relocated_files (w : Workspace) (source dest : Location) :
    (relocated w source dest).files = w.files.move source dest := by
  rw [relocated_eq]
  split <;> rfl

theorem get?_relocated_dest {source dest : Location} {e : Entry} (rootA : source ≠ []) (rootB : dest ≠ [])
    (found : w.files.get? source = some e) : (relocated w source dest).files.get? dest = some e := by
  rw [relocated_files]
  simpa [found] using FileTree.get?_move_dest (t := w.files) rootA rootB []

theorem within_relocated {source dest : Location} :
    Workspace.Within (fun k => source <+: k ∨ dest <+: k) w (relocated w source dest) where
  files k away := by
    obtain ⟨awayA, awayB⟩ := not_or.mp away
    rw [relocated_files, FileTree.get?_move awayA awayB]
  alone k away alone := by
    rw [relocated_files]
    exact alone.move (not_or.mp away).2
  directory away := by
    rw [relocated_eq, if_neg (by simp [FileTree.isPrefixOf_eq, (not_or.mp away).1])]
    rfl
  journal := by
    rw [relocated_eq]
    split <;> exact List.prefix_refl _

section Rename

variable {k : Location} {q : Path} {other : String} {e : Entry}

/-- Renaming what is no directory. -/
theorem rename_join (leads : w.Leads p l) (valid : IsName name) (leads' : w.Leads q k) (valid' : IsName other)
    (found : w.files.get? (l ++ [name]) = some e) (noDirectory : e ≠ .directory)
    (apart : ¬ l ++ [name] <+: k ++ [other]) (apart' : ¬ k ++ [other] <+: l ++ [name]) :
    (rename (p.join name) (q.join other)).exec w =
      match usable p name, usable q other with
      | .error fault, _ => (.error fault, w)
      | .ok _, .error fault => (.error fault, w)
      | .ok _, .ok _ =>
        if (w.files.places (l ++ [name])).contains (k ++ [other]) then (.ok (), w)
        else match w.files.get? (k ++ [other]) with
          | some .directory => (.error .isADirectory, w)
          | _ => (.ok (), relocated w (l ++ [name]) (k ++ [other])) := by
  rw [rename, TaskM.exec_bind, exec_ending, Leads.ending_join leads valid]
  cases usable p name with
  | error fault => rfl
  | ok _ =>
    simp only [Except.map, TaskM.exec_bind, exec_ending, Leads.ending_join leads' valid']
    cases usable q other with
    | error fault => rfl
    | ok _ =>
      simp only [TaskM.exec_bind, exec_entryAt?, found, p.endsInSlash_join valid,
        q.endsInSlash_join valid', FileTree.isPrefixOf_eq, apart, apart']
      simp only [Bool.or_false, Bool.and_false, Bool.false_eq_true, if_false, decide_false,
        TaskM.exec_bind, TaskM.exec_get]
      by_cases shared : (w.files.places (l ++ [name])).contains (k ++ [other]) = true
      · simp only [shared, if_true]
        rfl
      · simp only [shared, if_false, TaskM.exec_bind, exec_entryAt?, Bool.false_eq_true]
        cases target : w.files.get? (k ++ [other]) with
        | none => cases e <;> first | exact absurd rfl noDirectory | rfl
        | some d => cases e <;> cases d <;> first | exact absurd rfl noDirectory | rfl

theorem rename_join_missing (leads : w.Leads p l) (valid : IsName name) (leads' : w.Leads q k)
    (valid' : IsName other) (missing : w.files.get? (l ++ [name]) = none) :
    ∃ fault, (rename (p.join name) (q.join other)).exec w = (.error fault, w) := by
  rw [rename, TaskM.exec_bind, exec_ending, Leads.ending_join leads valid]
  cases usable p name with
  | error fault => exact ⟨fault, rfl⟩
  | ok _ =>
    simp only [Except.map, TaskM.exec_bind, exec_ending, Leads.ending_join leads' valid']
    cases usable q other with
    | error fault => exact ⟨fault, rfl⟩
    | ok _ => exact ⟨.notFound, by simp [TaskM.exec_bind, exec_entryAt?, missing]⟩

end Rename

end FileM

theorem Files.exec_removeDirectory (p : Path) (w : Workspace) :
    ((Files.removeDirectory p).exec w).2 = if w.exists? p then ((FileM.removeTree p).exec w).2 else w := by
  rw [Files.removeDirectory, TaskM.exec_bind]
  simp only [TaskM.exec_get]
  split <;> rfl

end ReleaseMatrix
