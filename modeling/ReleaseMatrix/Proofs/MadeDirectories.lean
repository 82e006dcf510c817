import ReleaseMatrix.Proofs.Placing
import Mathlib.Logic.Relation

namespace ReleaseMatrix

/-- `q` is what is left of `p` once components, at least one, are taken off its end. -/
def Path.IsAbove (q p : Path) : Prop :=
  Relation.TransGen (fun p q => p.parent? = some q) p q

namespace Workspace

/-- The second workspace has what the first one has, and new directories, each at the place of one of the paths. -/
structure Widened (along : Path → Prop) (w v : Workspace) : Prop where
  files : ∀ k, v.files.get? k = w.files.get? k ∨
    w.files.get? k = none ∧ v.files.get? k = some .directory ∧ ∃ q, along q ∧ v.place? q = some k
  groups : v.files.groups = w.files.groups
  directory : v.directory = w.directory
  journal : v.journal = w.journal

variable {w v u : Workspace} {along more : Path → Prop} {p : Path} {k : Location} {e : Entry}

theorem Widened.refl (along : Path → Prop) (w : Workspace) : Widened along w w :=
  ⟨fun _ => .inl rfl, rfl, rfl, rfl⟩

theorem Widened.mono (widened : Widened along w v) (weaker : ∀ q, along q → more q) : Widened more w v where
  files k := (widened.files k).imp_right fun ⟨free, made, q, of_q, placed⟩ => ⟨free, made, q, weaker q of_q, placed⟩
  groups := widened.groups
  directory := widened.directory
  journal := widened.journal

namespace Widened

variable (widened : Widened along w v)
include widened

theorem get?_eq (found : w.files.get? k = some e) : v.files.get? k = some e := by
  obtain same | ⟨free, -, -⟩ := widened.files k
  · rw [same, found]
  · cases free.symm.trans found

theorem keeps : w.files.Keeps v.files :=
  fun _ _ _ found => widened.get?_eq found

theorem home (home : w.files.get? w.directory = some .directory) : v.files.get? v.directory = some .directory := by
  rw [widened.directory]
  exact widened.get?_eq home

theorem place? (home : w.files.get? w.directory = some .directory) (placed : w.place? p = some k) :
    v.place? p = some k :=
  place?_of_keeps widened.keeps widened.directory (w.start_directory home p) placed

theorem trans (home : w.files.get? w.directory = some .directory) (later : Widened along v u) : Widened along w u where
  files k := by
    obtain same | ⟨free, made, q, of_q, placed⟩ := widened.files k
    · rw [← same]
      exact later.files k
    · exact .inr ⟨free, later.get?_eq made, q, of_q, later.place? (widened.home home) placed⟩
  groups := later.groups.trans widened.groups
  directory := later.directory.trans widened.directory
  journal := later.journal.trans widened.journal

/-- A directory is made in a directory. -/
theorem sound (sound : w.files.Sound) : v.files.Sound := fun l name e found => by
  obtain same | ⟨-, -, q, -, placed⟩ := widened.files (l ++ [name])
  · exact widened.get?_eq (sound l name e (same.symm.trans found))
  · obtain ⟨parent, other, ends, same⟩ := exists_ending_of_place? placed
    obtain ⟨-, -, -, directory, -⟩ := FileTree.exists_walk_of_ending ends
    obtain ⟨rfl, -⟩ := List.append_inj' same rfl
    exact directory

/-- No place of a file is one where a directory was made. -/
theorem alike (alike : w.files.Alike) (present : ∀ group ∈ w.files.groups, ∀ k ∈ group, (w.files.get? k).isSome) :
    v.files.Alike := fun group member k inside l inside' => by
  rw [widened.groups] at member
  have kept {k : Location} (inside : k ∈ group) : v.files.get? k = w.files.get? k := by
    obtain ⟨e, found⟩ := Option.isSome_iff_exists.mp (present group member k inside)
    rw [found, widened.get?_eq found]
  rw [kept inside, kept inside', alike group member k inside l inside']

end Widened

end Workspace

namespace FileM

variable {w : Workspace}

theorem widened_makeDirectory (p : Path) (home : w.files.get? w.directory = some .directory) :
    w.Widened (· = p) ((makeDirectory p).exec w).2 := by
  rw [makeDirectory, TaskM.exec_bind, exec_ending]
  cases ends : w.files.ending w.directory p with
  | error fault => exact .refl _ w
  | ok ending =>
    cases ending with
    | here | up | root => exact .refl _ w
    | name parent name =>
      simp only [TaskM.exec_bind, exec_entryAt?]
      cases free : w.files.get? (parent ++ [name]) with
      | some e => exact .refl _ w
      | none =>
        have looked (k : Location) : (w.files.put (parent ++ [name]) .directory).get? k =
            if k = parent ++ [name] then some .directory else w.files.get? k := FileTree.get?_put (by simp)
        have keeps : w.files.Keeps (w.files.put (parent ++ [name]) .directory) := fun k e _ found => by
          rw [looked, if_neg, found]
          rintro rfl
          cases free.symm.trans found
        have placed := Workspace.place?_of_ending ends
        refine ⟨fun k => ?_, rfl, rfl, rfl⟩
        by_cases made : k = parent ++ [name]
        · subst made
          refine .inr ⟨free, (looked _).trans (if_pos rfl), p, rfl, ?_⟩
          exact Workspace.place?_of_keeps keeps rfl (w.start_directory home p) placed
        · exact .inl ((looked k).trans (if_neg made))

theorem exec_makeDirectoryIfMissing (p : Path) (w : Workspace) :
    ((makeDirectoryIfMissing p).exec w).2 = ((makeDirectory p).exec w).2 := by
  rw [makeDirectoryIfMissing, TaskM.exec_tryCatch]
  rcases (makeDirectory p).exec w with ⟨_ | _, v⟩
  · simp only [TaskM.exec_bind, TaskM.exec_get]
    split <;> rfl
  · rfl

/-- Making directories along a path makes each of them at the place of the path or of one above it. -/
theorem widened_makeDirectoriesWithin (n : Nat) (p : Path) (home : w.files.get? w.directory = some .directory) :
    w.Widened (fun q => q = p ∨ q.IsAbove p) ((makeDirectoriesWithin n p).exec w).2 := by
  have once (w : Workspace) (home : w.files.get? w.directory = some .directory) (p : Path) :
      w.Widened (fun q => q = p ∨ q.IsAbove p) ((makeDirectoryIfMissing p).exec w).2 := by
    rw [exec_makeDirectoryIfMissing]
    exact (widened_makeDirectory p home).mono fun _ => .inl
  induction n generalizing p w with
  | zero => exact .refl _ w
  | succ n ih =>
    have first := once w home p
    rw [makeDirectoriesWithin, TaskM.exec_tryCatch]
    rcases tried : (makeDirectoryIfMissing p).exec w with ⟨fault | _, v⟩ <;> rw [tried] at first
    · dsimp only
      split
      · next parent above =>
        have upward (q : Path) : q = parent ∨ q.IsAbove parent → q = p ∨ q.IsAbove p := by
          rintro (rfl | further)
          · exact .inr (.single above)
          · exact .inr (.head above further)
        have second := first.trans home ((ih parent (first.home home)).mono upward)
        rw [TaskM.exec_bind]
        rcases made : (makeDirectoriesWithin n parent).exec v with ⟨_ | _, u⟩ <;> rw [made] at second
        · exact second
        · exact second.trans home (once u (second.home home) p)
      · exact first
    · exact first

end FileM

/-- Making the directories above a path makes no others. -/
theorem Files.widened_makeParent {w : Workspace} (p : Path) (home : w.files.get? w.directory = some .directory) :
    w.Widened (·.IsAbove p) ((makeParent p).exec w).2 := by
  rw [makeParent]
  split
  · next parent above =>
    refine (FileM.widened_makeDirectoriesWithin parent.components.length parent home).mono ?_
    rintro q (rfl | further)
    · exact .single above
    · exact .head above further
  · exact .refl _ w

end ReleaseMatrix
