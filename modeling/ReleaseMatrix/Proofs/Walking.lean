import ReleaseMatrix.Proofs.JoinedPath
import ReleaseMatrix.Proofs.TreeLookup

namespace ReleaseMatrix

/-- Whether a walk goes on from the entry: through a directory, or along a link. -/
def Entry.isWay : Entry → Bool
  | .directory | .link _ => true
  | _ => false

namespace FileTree

/-- Every directory and every link of `t` is in `s` too. -/
def Keeps (t s : FileTree) : Prop :=
  ∀ l e, e.isWay → t.get? l = some e → s.get? l = some e

/-- A path leads from `here` to the directory `l`. -/
structure Leads (t : FileTree) (here : Location) (p : Path) (l : Location) : Prop where
  start : t.get? (p.start here) = some .directory
  walk : t.walk .target linkLimit (p.start here) p.steps = .ok l
  directory : t.get? l = some .directory

instance (t : FileTree) (here : Location) (p : Path) (l : Location) : Decidable (t.Leads here p l) :=
  decidable_of_iff (t.get? (p.start here) = some .directory ∧
      t.walk .target linkLimit (p.start here) p.steps = .ok l ∧ t.get? l = some .directory)
    ⟨fun ⟨start, walk, directory⟩ => ⟨start, walk, directory⟩, fun ⟨start, walk, directory⟩ => ⟨start, walk, directory⟩⟩

/-- There is no link below `l`. -/
def Plain (t : FileTree) (l : Location) : Prop :=
  ∀ k target, l <+: k → k ≠ l → t.get? k ≠ some (.link target)

/-- No name is a link on a walk along names. -/
def Straight (t : FileTree) : Location → List String → Prop
  | _, [] => True
  | l, name :: names => (∀ target, t.get? (l ++ [name]) ≠ some (.link target)) ∧ t.Straight (l ++ [name]) names

/-- What a path below a directory names does not depend on the tree: the path can be refused. -/
def usable (p : Path) (name : String) : Except FileFault Unit := do
  checkPath (p.join name)
  if name.utf8ByteSize > nameLimit then throw .nameTooLong

variable {t s : FileTree} {here k l : Location} {p : Path} {name : String} {quarry : Quarry}

theorem Keeps.refl (t : FileTree) : t.Keeps t :=
  fun _ _ _ found => found

theorem Keeps.trans {u : FileTree} (first : t.Keeps s) (second : s.Keeps u) : t.Keeps u :=
  fun l e way found => second l e way (first l e way found)

theorem keeps_without {picks more : Location → Bool} (fewer : ∀ k, picks k → more k) :
    (t.without more).Keeps (t.without picks) := by
  intro k e _ found
  by_cases root : k = []
  · subst root
    simpa using found
  · rw [get?_without root] at found ⊢
    split at found
    · cases found
    · next unpicked => rwa [if_neg fun picked => unpicked (fewer k picked)]

theorem walkWith_of_no_way {jump : Location → List String → Except FileFault Location} {steps : List String}
    (walk : t.walkWith quarry jump here steps = .ok l) (notHere : t.get? here ≠ some .directory) :
    steps = [] ∧ l = here := by
  cases steps with
  | nil => simpa [walkWith, eq_comm] using walk
  | cons step rest =>
    unfold walkWith at walk
    split at walk
    · exact absurd walk (by simp)
    · next directory => exact absurd directory notHere
    · exact absurd walk (by simp)

/-- A walk to a directory goes the same way in a tree that keeps the directories and links. -/
theorem walkWith_keeps (keeps : t.Keeps s)
    {jump jump' : Location → List String → Except FileFault Location}
    (jumps : ∀ here steps l, jump here steps = .ok l → t.get? l = some .directory →
      jump' here steps = .ok l) {steps : List String}
    (walk : t.walkWith .target jump here steps = .ok l) (directory : t.get? l = some .directory) :
    s.walkWith .target jump' here steps = .ok l := by
  induction steps generalizing here with
  | nil => simpa [walkWith] using walk
  | cons step rest ih =>
    unfold walkWith at walk ⊢
    split at walk
    · exact absurd walk (by simp)
    · next atHere =>
      rw [keeps here .directory rfl atHere]
      split at walk
      · next dot => simpa [dot] using ih walk
      · next notDot =>
        split at walk
        · next up =>
          rw [if_neg notDot, if_pos up]
          exact ih walk
        · next notUp =>
          simp only [reduceCtorEq, decide_false, Bool.false_and, Bool.and_false,
            Bool.false_eq_true, if_false] at walk ⊢
          split at walk
          · exact absurd walk (by simp)
          · next short =>
            simp only [notDot, notUp, short, if_false]
            split at walk
            · next target link =>
              rw [keeps _ (.link target) rfl link]
              exact jumps _ _ _ walk directory
            · next noLink =>
              have goal : s.get? (here ++ [step]) = some .directory ∨ (rest = [] ∧ l = here ++ [step]) := by
                by_cases next : t.get? (here ++ [step]) = some .directory
                · exact .inl (keeps _ .directory rfl next)
                · exact .inr (walkWith_of_no_way walk next)
              have kept : s.get? (here ++ [step]) = some .directory := by
                rcases goal with kept | ⟨-, rfl⟩
                · exact kept
                · exact keeps _ .directory rfl directory
              rw [kept]
              exact ih walk
    · exact absurd walk (by simp)

theorem walk_keeps (keeps : t.Keeps s) {n : Nat} {steps : List String}
    (walk : t.walk .target n here steps = .ok l) (directory : t.get? l = some .directory) :
    s.walk .target n here steps = .ok l := by
  induction n generalizing here steps l with
  | zero =>
    refine walkWith_keeps keeps ?_ walk directory
    intro _ _ _ jump
    exact absurd jump (by simp)
  | succ n ih => exact walkWith_keeps keeps (fun _ _ _ jump there => ih jump there) walk directory

theorem Leads.keeps (leads : t.Leads here p l) (keeps : t.Keeps s) : s.Leads here p l where
  start := keeps _ .directory rfl leads.start
  walk := walk_keeps keeps leads.walk leads.directory
  directory := keeps _ .directory rfl leads.directory

theorem Leads.unique (first : t.Leads here p l) (second : t.Leads here p k) : l = k := by
  have := first.walk.symm.trans second.walk
  simpa using this

/-- A step may follow a walk to a directory: a slash at the end is no name of a file that is made. -/
def MayFollow (quarry : Quarry) (step : String) : Prop :=
  quarry = .newFile → step ≠ Path.closingStep

theorem walkWith_append {n : Nat} {jump jump' : Location → List String → Except FileFault Location}
    (unfolded : t.walkWith quarry jump' = t.walk quarry n)
    (jumps : ∀ here steps l, jump here steps = .ok l → t.get? l = some .directory →
      ∃ m, ∀ step rest, MayFollow quarry step →
        jump' here (steps ++ step :: rest) = t.walk quarry m l (step :: rest))
    {steps : List String} (walk : t.walkWith .target jump here steps = .ok l)
    (directory : t.get? l = some .directory) :
    ∃ m, ∀ step rest, MayFollow quarry step →
      t.walkWith quarry jump' here (steps ++ step :: rest) = t.walk quarry m l (step :: rest) := by
  induction steps generalizing here with
  | nil =>
    have same : here = l := by simpa [walkWith] using walk
    subst same
    exact ⟨n, fun step rest _ => by rw [List.nil_append, unfolded]⟩
  | cons first more ih =>
    unfold walkWith at walk
    split at walk
    · exact absurd walk (by simp)
    · next atHere =>
      split at walk
      · next dot =>
        obtain ⟨m, same⟩ := ih walk
        refine ⟨m, fun step rest may => ?_⟩
        rw [List.cons_append, walkWith, atHere]
        simpa [dot] using same step rest may
      · next notDot =>
        split at walk
        · next up =>
          obtain ⟨m, same⟩ := ih walk
          refine ⟨m, fun step rest may => ?_⟩
          rw [List.cons_append, walkWith, atHere]
          simp only [if_neg notDot, if_pos up]
          exact same step rest may
        · next notUp =>
          simp only [reduceCtorEq, decide_false, Bool.false_and, Bool.and_false,
            Bool.false_eq_true, if_false] at walk
          split at walk
          · exact absurd walk (by simp)
          · next short =>
            have onward (step : String) (rest : List String) (may : MayFollow quarry step) :
                (decide (quarry = .newFile) && decide (more ++ step :: rest = [Path.closingStep])) = false := by
              by_cases file : quarry = .newFile
              · have other := may file
                cases more <;> simp_all
              · simp [file]
            have going (step : String) (rest : List String) : (more ++ step :: rest).isEmpty = false := by
              cases more <;> rfl
            split at walk
            · next target link =>
              obtain ⟨m, same⟩ := jumps _ _ _ walk directory
              refine ⟨m, fun step rest may => ?_⟩
              rw [List.cons_append, walkWith, atHere]
              simp only [notDot, notUp, short, link, onward step rest may, going step rest, if_false,
                Bool.false_and, Bool.false_eq_true]
              rw [← List.append_assoc]
              exact same step rest may
            · next noLink =>
              obtain ⟨m, same⟩ := ih walk
              refine ⟨m, fun step rest may => ?_⟩
              rw [List.cons_append, walkWith, atHere]
              simp only [notDot, notUp, short, onward step rest may, if_false, Bool.false_eq_true]
              rw [← same step rest may]
    · exact absurd walk (by simp)

/-- A walk through a directory goes on from there, perhaps with fewer links left to follow. -/
theorem walk_append (quarry : Quarry) {n : Nat} {steps : List String} (walk : t.walk .target n here steps = .ok l)
    (directory : t.get? l = some .directory) :
    ∃ m, ∀ step rest, MayFollow quarry step →
      t.walk quarry n here (steps ++ step :: rest) = t.walk quarry m l (step :: rest) := by
  induction n generalizing here steps l with
  | zero =>
    refine walkWith_append (n := 0) rfl ?_ walk directory
    intro _ _ _ jump
    exact absurd jump (by simp)
  | succ n ih => exact walkWith_append (n := n + 1) rfl (fun _ _ _ jump there => ih jump there) walk directory

theorem enter_of_some {steps : List String} (there : (t.get? here).isSome) :
    t.enter here steps = (here, steps) := by
  cases steps <;> simp [enter, there]

/-- Whether a name can be looked up in a directory: its path is not refused and it is not too long. -/
theorem usable_eq (p : Path) (name : String) :
    usable p name = (checkPath (p.join name)).bind fun _ =>
      if name.utf8ByteSize > nameLimit then .error .nameTooLong else .ok () := by
  rfl

theorem checkPath_of_usable (fits : usable p name = .ok ()) : checkPath (p.join name) = .ok () := by
  rw [usable_eq] at fits
  cases checked : checkPath (p.join name) with
  | ok _ => rfl
  | error fault =>
    rw [checked] at fits
    cases fits

theorem walkWith_name {jump : Location → List String → Except FileFault Location} (valid : IsName name)
    (directory : t.get? l = some .directory)
    (noLink : quarry = .entry ∨ ∀ target, t.get? (l ++ [name]) ≠ some (.link target)) :
    t.walkWith quarry jump l [name] =
      if name.utf8ByteSize > nameLimit then .error .nameTooLong else .ok (l ++ [name]) := by
  rw [walkWith, directory]
  simp only [valid.notHere, valid.notUp, valid.ne_closingStep, decide_false, Bool.or_false, Bool.false_eq_true,
    if_false, List.nil_eq, reduceCtorEq, Bool.and_false, List.isEmpty_nil, Bool.true_and]
  split
  · rfl
  · split
    · next target link =>
      rcases noLink with entry | none
      · simp [entry]
      · exact absurd link (none target)
    · rfl

theorem walk_eq_walkWith (t : FileTree) (quarry : Quarry) (n : Nat) :
    ∃ jump, t.walk quarry n = t.walkWith quarry jump := by
  cases n with
  | zero => exact ⟨_, rfl⟩
  | succ n => exact ⟨_, rfl⟩

/-- The walk along a joined path ends at the name in the directory that the path before it leads to. -/
theorem Leads.walk_join (leads : t.Leads here p l) (quarry : Quarry) (valid : IsName name)
    (noLink : quarry = .entry ∨ ∀ target, t.get? (l ++ [name]) ≠ some (.link target)) :
    t.walk quarry linkLimit (p.start here) (p.steps ++ [name]) =
      if name.utf8ByteSize > nameLimit then .error .nameTooLong else .ok (l ++ [name]) := by
  obtain ⟨m, same⟩ := walk_append quarry leads.walk leads.directory
  obtain ⟨jump, unfolded⟩ := t.walk_eq_walkWith quarry m
  rw [same name [] fun _ => valid.ne_closingStep, unfolded]
  exact walkWith_name valid leads.directory noLink

theorem Leads.locate_join (leads : t.Leads here p l) (valid : IsName name)
    (noLink : quarry = .entry ∨ ∀ target, t.get? (l ++ [name]) ≠ some (.link target)) :
    t.locate here (p.join name) quarry = (usable p name).map fun _ => l ++ [name] := by
  have there : (t.get? (p.start here)).isSome := by simp [leads.start]
  have walked := leads.walk_join quarry valid noLink
  rw [locate, usable_eq, p.start_join valid here, p.lookupSteps_join valid, enter_of_some there]
  cases checkPath (p.join name) with
  | error fault => rfl
  | ok _ =>
    simp only [bind, Except.bind, leads.start, Option.isNone_some, Bool.and_false, Bool.false_and,
      Bool.false_eq_true, if_false, walked]
    split <;> rfl

/-- A name that cannot be looked up is not found, whatever has it. -/
theorem Leads.locate_join_of_fault (leads : t.Leads here p l) (valid : IsName name) {fault : FileFault}
    (refused : usable p name = .error fault) : t.locate here (p.join name) quarry = .error fault := by
  have there : (t.get? (p.start here)).isSome := by simp [leads.start]
  obtain ⟨m, same⟩ := walk_append quarry leads.walk leads.directory
  obtain ⟨jump, unfolded⟩ := t.walk_eq_walkWith quarry m
  have walked := same name [] fun _ => valid.ne_closingStep
  rw [usable_eq] at refused
  rw [FileTree.locate, p.start_join valid here, p.lookupSteps_join valid, enter_of_some there]
  cases checked : checkPath (p.join name) with
  | error other =>
    rw [checked] at refused
    simpa [bind, Except.bind] using refused
  | ok _ =>
    rw [checked] at refused
    simp only [Except.bind] at refused
    split at refused
    · next long =>
      simp only [bind, Except.bind, leads.start, Option.isNone_some, Bool.and_false, Bool.false_and,
        Bool.false_eq_true, if_false, walked, unfolded]
      rw [walkWith, leads.directory]
      simpa [valid.notHere, valid.notUp, valid.ne_closingStep, long] using refused
    · exact absurd refused (by simp)

theorem Leads.locate (leads : t.Leads here p l) :
    t.locate here p .target = (checkPath p).map fun _ => l := by
  have there : (t.get? (p.start here)).isSome := by simp [leads.start]
  have closed : t.walk .target linkLimit (p.start here) p.lookupSteps = .ok l := by
    by_cases slash : p.endsInSlash
    · obtain ⟨m, same⟩ := walk_append .target leads.walk leads.directory
      obtain ⟨jump, unfolded⟩ := t.walk_eq_walkWith .target m
      rw [Path.lookupSteps, if_pos slash, same _ [] (by simp [MayFollow]), unfolded, walkWith,
        leads.directory]
      simp [walkWith]
    · rw [Path.lookupSteps, if_neg slash, List.append_nil, leads.walk]
  rw [FileTree.locate, enter_of_some there]
  cases checkPath p with
  | error fault => rfl
  | ok _ => simp [bind, Except.bind, Except.map, closed]

theorem Leads.ending_join (leads : t.Leads here p l) (valid : IsName name) :
    t.ending here (p.join name) = (usable p name).map fun _ => .name l name := by
  have there : (t.get? (p.start here)).isSome := by simp [leads.start]
  rw [ending, usable_eq, p.start_join valid here, p.steps_join valid]
  cases checkPath (p.join name) with
  | error fault => rfl
  | ok _ =>
    simp only [bind, Except.bind, List.reverse_append, List.reverse_singleton, List.singleton_append,
      List.reverse_reverse, enter_of_some there, leads.walk, leads.directory, valid.notHere, valid.notUp, if_false]
    split <;> rfl

/-- A directory in a directory is reached by its name. -/
theorem Leads.join (leads : t.Leads here p l) (valid : IsName name)
    (directory : t.get? (l ++ [name]) = some .directory) (fits : usable p name = .ok ()) :
    t.Leads here (p.join name) (l ++ [name]) where
  start := by rw [p.start_join valid here, leads.start]
  walk := by
    have short : ¬ name.utf8ByteSize > nameLimit := by
      intro long
      rw [usable_eq] at fits
      cases checked : checkPath (p.join name) <;> simp [checked, Except.bind, long] at fits
    rw [p.start_join valid here, p.steps_join valid,
      leads.walk_join _ valid (.inr fun target link => by simp [directory] at link), if_neg short]
  directory := directory

theorem Plain.straight (plain : t.Plain l) (inside : l <+: here) (names : List String) : t.Straight here names := by
  induction names generalizing here with
  | nil => trivial
  | cons name names ih =>
    have further : l <+: here ++ [name] := inside.trans (List.prefix_append _ _)
    refine ⟨fun target => plain _ target further fun eq => ?_, ih further⟩
    have := inside.length_le
    rw [← eq, List.length_append, List.length_singleton] at this
    omega

/-- A walk is as straight in a tree that holds the same below its start. -/
theorem Straight.congr (same : ∀ k, l <+: k → s.get? k = t.get? k) {names : List String}
    (straight : t.Straight here names) (inside : l <+: here) : s.Straight here names := by
  induction names generalizing here with
  | nil => trivial
  | cons name names ih =>
    have further : l <+: here ++ [name] := inside.trans (List.prefix_append _ _)
    refine ⟨fun target => ?_, ih straight.2 further⟩
    rw [same _ further]
    exact straight.1 target

/-- A walk along names that are no links ends where they say, and depends on nothing that is not below its start. -/
theorem walkWith_straight {jump jump' : Location → List String → Except FileFault Location} {steps : List String}
    (same : ∀ k, l <+: k → t.get? k = s.get? k) (straight : t.Straight here steps)
    (names : ∀ step ∈ steps, IsName step) (inside : l <+: here) :
    t.walkWith quarry jump here steps = s.walkWith quarry jump' here steps ∧
      ∀ k, t.walkWith quarry jump here steps = .ok k → k = here ++ steps := by
  induction steps generalizing here with
  | nil =>
    refine ⟨rfl, fun k eq => ?_⟩
    have stayed : here = k := by simpa [walkWith] using eq
    rw [stayed, List.append_nil]
  | cons step rest ih =>
    have valid := names step (by simp)
    have further : l <+: here ++ [step] := inside.trans (List.prefix_append _ _)
    obtain ⟨noLink, onward⟩ := straight
    obtain ⟨equal, ends⟩ := ih onward (fun step member => names step (by simp [member])) further
    rw [walkWith, walkWith, ← same _ inside, ← same _ further]
    cases atHere : t.get? here with
    | none => exact ⟨rfl, fun k eq => absurd eq (by simp)⟩
    | some e =>
      cases e with
      | directory =>
        simp only [valid.notHere, valid.notUp, valid.ne_closingStep, decide_false, Bool.or_false,
          Bool.false_eq_true, if_false]
        split
        · exact ⟨rfl, fun k eq => absurd eq (by simp)⟩
        · split
          · exact ⟨rfl, fun k eq => absurd eq (by simp)⟩
          · exact ⟨equal, fun k eq => by simpa using ends k eq⟩
      | _ => exact ⟨rfl, fun k eq => absurd eq (by simp)⟩

section Below

variable {here' : Location} {first last : String}

/-- Where no name is a link, what a path names below `l` depends only on what is there. -/
theorem Leads.walk_below (leads : t.Leads here p l) (quarry : Quarry) (leads' : s.Leads here' p l)
    (same : ∀ k, l <+: k → t.get? k = s.get? k) {names : List String} (straight : t.Straight l names)
    (valid : ∀ name ∈ names, IsName name) (nonempty : names ≠ []) :
    t.walk quarry linkLimit (p.start here) (p.steps ++ names) =
        s.walk quarry linkLimit (p.start here') (p.steps ++ names) ∧
      ∀ k, t.walk quarry linkLimit (p.start here) (p.steps ++ names) = .ok k → k = l ++ names := by
  obtain ⟨first, rest, rfl⟩ := List.exists_cons_of_ne_nil nonempty
  have follows : MayFollow quarry first := fun _ => (valid first (by simp)).ne_closingStep
  obtain ⟨m, through⟩ := walk_append quarry leads.walk leads.directory
  obtain ⟨n, through'⟩ := walk_append quarry leads'.walk leads'.directory
  obtain ⟨jump, unfolded⟩ := t.walk_eq_walkWith quarry m
  obtain ⟨jump', unfolded'⟩ := s.walk_eq_walkWith quarry n
  rw [through first rest follows, through' first rest follows, unfolded, unfolded']
  exact walkWith_straight same straight valid (List.prefix_refl l)

theorem Leads.locate_below (leads : t.Leads here p l) (quarry : Quarry) (leads' : s.Leads here' p l)
    (same : ∀ k, l <+: k → t.get? k = s.get? k) (straight : t.Straight l [first, last])
    (validFirst : IsName first) (validLast : IsName last) :
    t.locate here ((p.join first).join last) quarry = s.locate here' ((p.join first).join last) quarry ∧
      ∀ k, t.locate here ((p.join first).join last) quarry = .ok k → k = l ++ [first, last] := by
  have there : (t.get? (p.start here)).isSome := by simp [leads.start]
  have there' : (s.get? (p.start here')).isSome := by simp [leads'.start]
  obtain ⟨equal, ends⟩ := leads.walk_below quarry leads' same straight
    (by simp [validFirst, validLast]) (by simp)
  have steps : ((p.join first).join last).lookupSteps = p.steps ++ [first, last] := by
    simp [Path.lookupSteps_join _ validLast, Path.steps_join _ validFirst]
  simp only [FileTree.locate, Path.start_join _ validLast, Path.start_join _ validFirst, steps,
    enter_of_some there, enter_of_some there', leads.start, leads'.start, equal]
  cases checkPath ((p.join first).join last) with
  | error fault => exact ⟨trivial, fun k eq => absurd eq (by simp [bind, Except.bind])⟩
  | ok _ =>
    refine ⟨by simp, fun k eq => ends k ?_⟩
    simpa [bind, Except.bind, equal] using eq

theorem Leads.ending_below (leads : t.Leads here p l) (leads' : s.Leads here' p l)
    (same : ∀ k, l <+: k → t.get? k = s.get? k) (straight : t.Straight l [first])
    (validFirst : IsName first) (validLast : IsName last) :
    t.ending here ((p.join first).join last) = s.ending here' ((p.join first).join last) ∧
      ((∃ fault, t.ending here ((p.join first).join last) = .error fault) ∨
        t.ending here ((p.join first).join last) = .ok (.name (l ++ [first]) last)) := by
  have there : (t.get? (p.start here)).isSome := by simp [leads.start]
  have there' : (s.get? (p.start here')).isSome := by simp [leads'.start]
  obtain ⟨equal, ends⟩ := leads.walk_below .target leads' same straight
    (by simp [validFirst]) (by simp)
  have steps : ((p.join first).join last).steps.reverse = last :: (p.steps ++ [first]).reverse := by
    simp [Path.steps_join _ validLast, Path.steps_join _ validFirst]
  simp only [ending, Path.start_join _ validLast, Path.start_join _ validFirst, steps, List.reverse_reverse,
    enter_of_some there, enter_of_some there']
  cases checkPath ((p.join first).join last) with
  | error fault => exact ⟨rfl, .inl ⟨fault, rfl⟩⟩
  | ok _ =>
    rw [← equal]
    cases walked : t.walk .target linkLimit (p.start here) (p.steps ++ [first]) with
    | error fault => exact ⟨rfl, .inl ⟨fault, rfl⟩⟩
    | ok parent =>
      obtain rfl := ends parent walked
      simp only [bind, Except.bind, ← same _ (List.prefix_append l [first])]
      refine ⟨trivial, ?_⟩
      cases t.get? (l ++ [first]) with
      | none => exact .inl ⟨_, rfl⟩
      | some e =>
        cases e with
        | directory =>
          simp only [validLast.notHere, validLast.notUp, if_false]
          split
          · exact .inl ⟨_, rfl⟩
          · exact .inr rfl
        | _ => exact .inl ⟨_, rfl⟩

end Below

end FileTree

end ReleaseMatrix
