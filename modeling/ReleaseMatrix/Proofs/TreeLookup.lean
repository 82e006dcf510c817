import ReleaseMatrix.FileTree
import Mathlib.Data.List.Infix

namespace ReleaseMatrix.FileTree

/-- No other place holds the file that stands at `l`. -/
def Alone (t : FileTree) (l : Location) : Prop :=
  ∀ group ∈ t.groups, l ∉ group

/-- The places of one file hold the same. -/
def Alike (t : FileTree) : Prop :=
  ∀ group ∈ t.groups, ∀ k ∈ group, ∀ l ∈ group, t.get? k = t.get? l

/-- Whatever stands in the tree stands in a directory of it. -/
def Sound (t : FileTree) : Prop :=
  ∀ l name e, t.get? (l ++ [name]) = some e → t.get? l = some .directory

/-- The tree without the places that `p` picks. -/
def without (t : FileTree) (p : Location → Bool) : FileTree :=
  { t with nodes := t.nodes.filter fun n => !p n.1 }

variable {t : FileTree} {a b k l : Location} {e : Entry} {name : String}

theorem find?_filter_at (nodes : List (Location × Entry)) (stays : Location → Bool) (k : Location) :
    (nodes.filter fun n => stays n.1).find? (·.1 = k) =
      if stays k then nodes.find? (·.1 = k) else none := by
  induction nodes with
  | nil => simp
  | cons n nodes ih =>
    by_cases same : n.1 = k
    · subst same
      by_cases kept : stays n.1 = true
      · simp [kept]
      · simp [kept, ih]
    · by_cases kept : stays n.1 = true <;> simp [kept, same, ih]

theorem get?_without {p : Location → Bool} (root : k ≠ []) :
    (t.without p).get? k = if p k then none else t.get? k := by
  simp only [get?, without, root, if_false, find?_filter_at t.nodes (fun l => !p l) k]
  cases p k <;> simp

theorem isPrefixOf_eq (l k : Location) : l.isPrefixOf k = decide (l <+: k) := by
  rw [Bool.eq_iff_iff, List.isPrefixOf_iff_prefix, decide_eq_true_iff]

theorem get?_clear (t : FileTree) (l k : Location) :
    (t.clear l).get? k = if l <+: k ∧ k ≠ l then none else t.get? k := by
  by_cases root : k = []
  · subst root
    have free : ¬ (l <+: [] ∧ [] ≠ l) := by
      rintro ⟨inside, other⟩
      exact other (List.prefix_nil.mp inside).symm
    rw [if_neg free, get?_root, get?_root]
  · have := find?_filter_at t.nodes (fun k => !(l.isPrefixOf k) || decide (k = l)) k
    simp only [get?, clear, root, if_false, this]
    by_cases inside : l <+: k
    · by_cases same : k = l <;> simp [inside, same, isPrefixOf_eq]
    · simp [inside, isPrefixOf_eq]

theorem Alone.places_eq (alone : t.Alone l) : t.places l = [l] := by
  have none : t.groups.find? (·.contains l) = none :=
    List.find?_eq_none.mpr fun group member => by simpa using alone group member
  rw [places, none, Option.getD_none]

theorem Alone.replace_eq (alone : t.Alone l) (e : Entry) : t.replace l e = t.put l e := by
  rw [replace, alone.places_eq]
  rfl

theorem Alone.put (alone : t.Alone l) (k : Location) (e : Entry) : (t.put k e).Alone l :=
  alone

theorem Alone.erase (alone : t.Alone l) (k : Location) : (t.erase k).Alone l := by
  intro group member inside
  obtain ⟨before, old, rfl⟩ := List.mem_map.mp member
  exact alone before old (List.mem_filter.mp inside).1

theorem Alone.clear (alone : t.Alone l) (k : Location) : (t.clear k).Alone l := by
  intro group member inside
  obtain ⟨before, old, rfl⟩ := List.mem_map.mp member
  exact alone before old (List.mem_filter.mp inside).1

theorem moved?_eq_some {a b k l : Location} (moved : moved? a b k = some l) :
    (a <+: k ∧ l = b ++ k.drop a.length) ∨ (¬ a <+: k ∧ ¬ b <+: k ∧ l = k) := by
  unfold moved? at moved
  split at moved
  · next inside => exact .inl ⟨by simpa using inside, by simpa using moved.symm⟩
  · next outside =>
    split at moved
    · exact absurd moved (by simp)
    · next free => exact .inr ⟨by simpa using outside, by simpa using free, by simpa using moved.symm⟩

/-- A place away from both ends of a move keeps its file to itself. -/
theorem Alone.move (alone : t.Alone l) (outside : ¬ b <+: l) : (t.move a b).Alone l := by
  intro group member inside
  obtain ⟨before, old, rfl⟩ := List.mem_map.mp member
  obtain ⟨k, from_k, moved⟩ := List.mem_filterMap.mp inside
  obtain ⟨-, rfl⟩ | ⟨-, -, rfl⟩ := moved?_eq_some moved
  · exact outside (List.prefix_append _ _)
  · exact alone before old from_k

theorem find?_move (nodes : List (Location × Entry)) (a b k source : Location)
    (onto : ∀ l, moved? a b l = some k ↔ l = source) :
    (nodes.filterMap fun n => (moved? a b n.1).map fun l => (l, n.2)).find? (·.1 = k) =
      (nodes.find? (·.1 = source)).map fun n => (k, n.2) := by
  induction nodes with
  | nil => rfl
  | cons n nodes ih =>
    by_cases here : n.1 = source
    · have moved := (onto n.1).mpr here
      rw [List.filterMap_cons, moved, Option.map_some, List.find?_cons_of_pos (by simp),
        List.find?_cons_of_pos (by simpa using here), Option.map_some]
    · have : moved? a b n.1 ≠ some k := fun moved => here ((onto n.1).mp moved)
      cases moved : moved? a b n.1 with
      | none => simp [moved, here, ih]
      | some l =>
        have other : l ≠ k := fun same => this (by rw [moved, same])
        simp [moved, here, other, ih]

/-- A move changes nothing away from its two ends. -/
theorem get?_move (awayA : ¬ a <+: k) (awayB : ¬ b <+: k) : (t.move a b).get? k = t.get? k := by
  by_cases root : k = []
  · simp [root]
  · have onto (l : Location) : moved? a b l = some k ↔ l = k := by
      constructor
      · intro moved
        obtain ⟨-, rfl⟩ | ⟨-, -, same⟩ := moved?_eq_some moved
        · exact absurd (List.prefix_append _ _) awayB
        · exact same.symm
      · rintro rfl
        simp [moved?, awayA, awayB]
    simp only [get?, move, root, if_false, find?_move t.nodes a b k k onto, Option.map_map]
    rfl

/-- What stood at the source of a move, or below it, stands at its destination. -/
theorem get?_move_dest (rootA : a ≠ []) (rootB : b ≠ []) (rest : Location) :
    (t.move a b).get? (b ++ rest) = t.get? (a ++ rest) := by
  have onto (l : Location) : moved? a b l = some (b ++ rest) ↔ l = a ++ rest := by
    constructor
    · intro moved
      obtain ⟨⟨more, rfl⟩, same⟩ | ⟨-, away, rfl⟩ := moved?_eq_some moved
      · have : rest = more := by simpa using same
        rw [this]
      · exact absurd (List.prefix_append _ _) away
    · rintro rfl
      simp [moved?]
  simp only [get?, move, List.append_eq_nil_iff, rootA, rootB, false_and, if_false,
    find?_move t.nodes a b (b ++ rest) (a ++ rest) onto, Option.map_map]
  rfl

theorem Alike.get?_eq (alike : t.Alike) (twin : k ∈ t.places l) : t.get? k = t.get? l := by
  rw [places] at twin
  cases found : t.groups.find? (·.contains l) with
  | none =>
    rw [found, Option.getD_none, List.mem_singleton] at twin
    rw [twin]
  | some group =>
    rw [found, Option.getD_some] at twin
    exact alike group (List.mem_of_find?_eq_some found) k twin l (by simpa using List.find?_some found)

theorem get?_of_moved (rootA : a ≠ []) (rootB : b ≠ []) (moved : moved? a b k = some l) :
    (t.move a b).get? l = t.get? k := by
  obtain ⟨⟨rest, rfl⟩, rfl⟩ | ⟨awayA, awayB, rfl⟩ := moved?_eq_some moved
  · simpa using get?_move_dest (t := t) rootA rootB rest
  · exact get?_move awayA awayB

/-- A file takes its other places along when it is moved. -/
theorem Alike.move (alike : t.Alike) (rootA : a ≠ []) (rootB : b ≠ []) : (t.move a b).Alike := by
  intro group member k inside l inside'
  obtain ⟨before, old, rfl⟩ := List.mem_map.mp member
  obtain ⟨k', from_k, moved⟩ := List.mem_filterMap.mp inside
  obtain ⟨l', from_l, moved'⟩ := List.mem_filterMap.mp inside'
  rw [get?_of_moved rootA rootB moved, get?_of_moved rootA rootB moved']
  exact alike before old k' from_k l' from_l

/-- Nothing is left where a move took place from. -/
theorem get?_move_source (rootA : a ≠ []) (inside : a <+: k) (away : ¬ b <+: k) : (t.move a b).get? k = none := by
  have root : k ≠ [] := by
    rintro rfl
    exact rootA (List.prefix_nil.mp inside)
  simp only [get?, move, root, if_false, Option.map_eq_none_iff, List.find?_eq_none]
  intro n member same
  obtain ⟨before, -, image⟩ := List.mem_filterMap.mp member
  obtain ⟨l, moved, rfl⟩ := Option.map_eq_some_iff.mp image
  have there : l = k := by simpa using same
  subst there
  obtain ⟨-, rfl⟩ | ⟨apart, -, rfl⟩ := moved?_eq_some moved
  · exact away (List.prefix_append _ _)
  · exact apart inside

theorem mem_insertName {other : String} {all : List String} :
    name ∈ insertName other all ↔ name = other ∨ name ∈ all := by
  induction all with
  | nil => simp [insertName]
  | cons next all ih =>
    unfold insertName
    split
    · simp
    · simp only [List.mem_cons, ih]
      exact or_left_comm

theorem mem_addName {other : String} {all : List String} : name ∈ addName other all ↔ name = other ∨ name ∈ all := by
  unfold addName
  split
  · next there =>
    refine ⟨.inr, ?_⟩
    rintro (rfl | member)
    · exact there
    · exact member
  · exact mem_insertName

theorem mem_sorted {below : List String} : name ∈ below.foldr addName [] ↔ name ∈ below := by
  induction below with
  | nil => simp
  | cons other below ih => rw [List.foldr_cons, mem_addName, ih, List.mem_cons]

theorem insertName_perm (name : String) (all : List String) : (insertName name all).Perm (name :: all) := by
  induction all with
  | nil => exact .refl _
  | cons next all ih =>
    unfold insertName
    split
    · exact .refl _
    · exact (ih.cons next).trans (.swap name next all)

theorem nodup_names (t : FileTree) (l : Location) : (t.names l).Nodup := by
  unfold names
  induction (t.nodes.filterMap _ : List String) with
  | nil => exact List.nodup_nil
  | cons name below ih =>
    rw [List.foldr_cons, addName]
    split
    · exact ih
    · next fresh => exact (insertName_perm name _).nodup_iff.mpr (List.nodup_cons.mpr ⟨fresh, ih⟩)

theorem mem_names : name ∈ t.names l ↔ (t.get? (l ++ [name])).isSome := by
  have found : (t.get? (l ++ [name])).isSome ↔ ∃ n ∈ t.nodes, n.1 = l ++ [name] := by
    simp [get?]
  rw [found, names, mem_sorted, List.mem_filterMap]
  refine exists_congr fun n => and_congr_right fun _ => ?_
  constructor
  · intro last
    split at last
    · next inside =>
      obtain ⟨nonempty, rfl⟩ := inside
      rw [List.getLast?_eq_some_getLast nonempty, Option.some_inj] at last
      rw [← last, List.dropLast_append_getLast]
    · exact absurd last (by simp)
  · intro same
    simp [same]

theorem names_eq_nil (empty : ∀ name, t.get? (l ++ [name]) = none) : t.names l = [] := by
  refine List.eq_nil_iff_forall_not_mem.mpr fun name member => ?_
  have := mem_names.mp member
  simp [empty name] at this

theorem names_clear (t : FileTree) (l : Location) : (t.clear l).names l = [] := by
  refine names_eq_nil fun name => ?_
  simp [get?_clear]

/-- Above everything that stands in a sound tree there are directories. -/
theorem sound_of_nodes (above : ∀ n ∈ t.nodes, t.get? n.1.dropLast = some .directory) : t.Sound := by
  intro l name e found
  simp only [get?, List.append_eq_nil_iff, List.cons_ne_self, and_false, if_false] at found
  obtain ⟨n, node, -⟩ := Option.map_eq_some_iff.mp found
  have place : n.1 = l ++ [name] := by simpa using List.find?_some node
  simpa [place] using above n (List.mem_of_find?_eq_some node)

theorem Sound.above (sound : t.Sound) (found : t.get? l = some e) (above : k <+: l) (other : k ≠ l) :
    t.get? k = some .directory := by
  obtain ⟨rest, rfl⟩ := above
  induction rest using List.reverseRecOn generalizing e with
  | nil => exact absurd (List.append_nil k).symm other
  | append_singleton rest name ih =>
    rw [← List.append_assoc] at found
    have parent := sound _ _ _ found
    by_cases last : rest = []
    · simpa [last] using parent
    · exact ih parent (by simpa using last)

theorem Sound.get?_dropLast (sound : t.Sound) (directory : t.get? l = some .directory) :
    t.get? l.dropLast = some .directory := by
  rcases List.eq_nil_or_concat' l with rfl | ⟨k, name, rfl⟩
  · exact directory
  · rw [List.dropLast_concat]
    exact sound k name _ directory

end ReleaseMatrix.FileTree
