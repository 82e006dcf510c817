import ReleaseMatrix.Proofs.ManifestWriting

namespace ReleaseMatrix

namespace FileTree

variable {t : FileTree} {here l : Location} {steps : List String} {quarry : Quarry} {p : Path}

/-- A walk to the place of a file that is written is one to what stands there. -/
theorem walkWith_target {jump jump' : Location → List String → Except FileFault Location}
    (jumps : ∀ here steps l, jump here steps = .ok l → jump' here steps = .ok l)
    (walk : t.walkWith .newFile jump here steps = .ok l) : t.walkWith .target jump' here steps = .ok l := by
  induction steps generalizing here with
  | nil => simpa [walkWith] using walk
  | cons step rest ih =>
    unfold walkWith at walk ⊢
    split at walk
    · cases walk
    · next atHere =>
      split at walk
      · next dot => simpa [dot] using ih walk
      · next notDot =>
        rw [if_neg notDot]
        split at walk
        · next up => rw [if_pos up]; exact ih walk
        · next notUp =>
          simp only [reduceCtorEq, decide_false, Bool.false_and, Bool.and_false, Bool.false_eq_true, if_false]
            at walk ⊢
          rw [if_neg notUp]
          split at walk
          · cases walk
          · split at walk
            · cases walk
            · next short =>
              rw [if_neg short]
              split at walk
              · exact jumps _ _ _ walk
              · exact ih walk
    · cases walk

theorem walk_target {n : Nat} (walk : t.walk .newFile n here steps = .ok l) : t.walk .target n here steps = .ok l := by
  induction n generalizing here steps l with
  | zero => exact walkWith_target (fun _ _ _ jump => absurd jump (by simp)) walk
  | succ n ih => exact walkWith_target (fun _ _ _ jump => ih jump) walk

/-- What is found at the end of a path, where links are followed, is no link. -/
theorem walkWith_ne_link (sound : t.Sound) {jump : Location → List String → Except FileFault Location}
    (jumps : ∀ here steps l, t.get? here = some .directory → jump here steps = .ok l →
      ∀ target, t.get? l ≠ some (.link target))
    (start : ∀ target, t.get? here ≠ some (.link target))
    (walk : t.walkWith .target jump here steps = .ok l) : ∀ target, t.get? l ≠ some (.link target) := by
  induction steps generalizing here with
  | nil =>
    obtain rfl : here = l := by simpa [walkWith] using walk
    exact start
  | cons step rest ih =>
    unfold walkWith at walk
    split at walk
    · cases walk
    · next atHere =>
      split at walk
      · exact ih start walk
      · split at walk
        · exact ih (fun target => by simp [sound.get?_dropLast atHere]) walk
        · simp only [reduceCtorEq, decide_false, Bool.false_and, Bool.and_false, Bool.false_eq_true, if_false] at walk
          split at walk
          · cases walk
          · split at walk
            · next target link =>
              refine jumps _ _ _ ?_ walk
              unfold Path.start
              split
              · exact t.get?_root
              · exact atHere
            · next noLink => exact ih noLink walk
    · cases walk

theorem walk_ne_link (sound : t.Sound) {n : Nat} (start : t.get? here = some .directory)
    (walk : t.walk .target n here steps = .ok l) : ∀ target, t.get? l ≠ some (.link target) := by
  have noLink {here : Location} (start : t.get? here = some .directory) (target : Path) :
      t.get? here ≠ some (.link target) := fun link => nomatch start.symm.trans link
  induction n generalizing here steps l with
  | zero => exact walkWith_ne_link sound (fun _ _ _ _ jump => absurd jump (by simp)) (noLink start) walk
  | succ n ih => exact walkWith_ne_link sound (fun _ _ _ start jump => ih start jump) (noLink start) walk

theorem locate_of_newFile (sound : t.Sound) (home : t.get? (p.start here) = some .directory)
    (located : t.locate here p .newFile = .ok l) :
    t.locate here p .target = .ok l ∧ ∀ target, t.get? l ≠ some (.link target) := by
  have there : (t.get? (p.start here)).isSome := by simp [home]
  rw [locate, enter_of_some there] at located ⊢
  cases checked : checkPath p with
  | error fault => simp [checked, bind, Except.bind] at located
  | ok _ =>
    simp only [checked, bind, Except.bind, home, Option.isNone_some, Bool.and_false, Bool.false_and, Bool.false_eq_true,
      if_false] at located ⊢
    have walk := walk_target located
    exact ⟨walk, walk_ne_link sound home walk⟩

end FileTree

theorem Entry.isWay_withContent (e : Entry) (content : Bytes) : (e.withContent content).isWay = false := by
  cases e <;> rfl

namespace FileM

variable {w v : Workspace} {p : Path} {content : Bytes}

/-- Writing to a path puts other content in the file that it leads to, at all places of that file, and no way changes. -/
theorem exists_replaced_of_write (sound : w.files.Sound) (alike : w.files.Alike)
    (home : w.files.get? w.directory = some .directory) (run : (write p content).exec w = (.ok (), v)) :
    ∃ l e, w.locate p .target = .ok l ∧ e = ((w.files.get? l).getD (.file [] false)).withContent content ∧
      (∀ k, v.files.get? k = if k ∈ w.files.places l then some e else w.files.get? k) ∧
      w.files.SameWays v.files ∧ v.directory = w.directory := by
  obtain ⟨l, u, place, run⟩ := TaskM.exec_bind_ok run
  obtain ⟨left, plain⟩ := exec_locateForWriting p w
  rw [place] at left plain
  obtain rfl : w = u := left.symm
  have noDirectory := plain l rfl
  have located : w.locate p .newFile = .ok l := locate_of_locateForWriting (by rw [place])
  obtain ⟨target, noLink⟩ := FileTree.locate_of_newFile sound (w.start_directory home p) located
  rw [TaskM.exec_bind, exec_entryAt?] at run
  have done : changed w (·.replace l (((w.files.get? l).getD (.file [] false)).withContent content)) = v :=
    congrArg Prod.snd run
  generalize written : ((w.files.get? l).getD (.file [] false)).withContent content = e at done
  subst done
  have looked (k : Location) : (changed w (·.replace l e)).files.get? k =
      if k ∈ w.files.places l then some e else w.files.get? k := alike.get?_replace noDirectory k
  have before (d : Entry) (there : w.files.get? l = some d) : d.isWay = false := by
    cases d with
    | directory => exact absurd there noDirectory
    | link target => exact absurd there (noLink target)
    | file | program | void | queue => rfl
  have after : e.isWay = false := written ▸ Entry.isWay_withContent _ _
  refine ⟨l, e, target, written.symm, looked, ⟨?_, ?_⟩, rfl⟩
  · intro k d way there
    rw [looked, if_neg, there]
    intro twin
    rw [alike.get?_eq twin] at there
    exact Bool.false_ne_true ((before d there).symm.trans way)
  · intro k d way there
    rw [looked] at there
    split at there
    · obtain rfl := Option.some_inj.mp there
      exact absurd (after.symm.trans way) Bool.false_ne_true
    · exact there

/-- What was written to a path that names a regular file then is read from it. -/
theorem read_of_write (sound : w.files.Sound) (alike : w.files.Alike) (home : w.files.get? w.directory = some .directory)
    (run : (write p content).exec w = (.ok (), v)) (file : v.isFile p) : v.read p = .ok content := by
  obtain ⟨l, e, target, written, looked, same, stays⟩ := exists_replaced_of_write sound alike home run
  have found : v.find p = .ok (l, e) := by
    have located : v.locate p .target = .ok l := by
      rw [Workspace.locate, stays]
      exact same.locate (w.start_directory home p) target
    simp [Workspace.find, located, looked, w.files.mem_places l, bind, Except.bind, pure, Except.pure]
  have regular : e.isFile := by simpa [Workspace.isFile, Workspace.entry?, found] using file
  have holds : e.content? = some content := by
    generalize (w.files.get? l).getD (.file [] false) = d at written
    subst written
    cases d <;> first | rfl | cases regular
  simp [Workspace.read, found, holds, bind, Except.bind, pure, Except.pure]

/-- What a path leads to is as before when a file was written, but for the content if it is that file. -/
theorem find_of_write (sound : w.files.Sound) (alike : w.files.Alike) (home : w.files.get? w.directory = some .directory)
    (run : (write p content).exec w = (.ok (), v)) {q : Path} {k : Location} {d : Entry}
    (found : w.find q = .ok (k, d)) :
    v.find q = .ok (k, d) ∨ d ≠ .directory ∧ v.find q = .ok (k, d.withContent content) := by
  obtain ⟨l, e, -, written, looked, same, stays⟩ := exists_replaced_of_write sound alike home run
  unfold Workspace.find at found ⊢
  cases located : w.locate q .target with
  | error fault => simp [located, bind, Except.bind] at found
  | ok place =>
    have located' : v.locate q .target = .ok place := by
      rw [Workspace.locate, stays]
      exact same.locate (w.start_directory home q) located
    cases there : w.files.get? place with
    | none => simp [located, there, bind, Except.bind] at found
    | some entry =>
      obtain ⟨rfl, rfl⟩ : place = k ∧ entry = d := by
        simpa [located, there, bind, Except.bind, pure, Except.pure] using found
      by_cases twin : place ∈ w.files.places l
      · have before : w.files.get? l = some entry := (alike.get?_eq twin).symm.trans there
        rw [before, Option.getD_some] at written
        refine .inr ⟨?_, ?_⟩
        · rintro rfl
          have kept := same.directory.mp there
          rw [looked, if_pos twin, written] at kept
          cases kept
        · simp [located', looked, twin, written, bind, Except.bind, pure, Except.pure]
      · exact .inl (by simp [located', looked, twin, there, bind, Except.bind, pure, Except.pure])

end FileM

namespace Checksums

variable {w v : Workspace} {dir dir' : Path} {s name : String}

/-- A directory holds an artifact with a digest: a regular file stands there under its name, perhaps behind a link, and
the digest is that of its bytes. -/
def Holds (w : Workspace) (dir : Path) (name digest : String) : Prop :=
  isListed name ∧ (∃ names, w.list dir = .ok names ∧ name ∈ names) ∧ w.isFile (dir.join name) ∧
    ∃ content, w.read (dir.join name) = .ok content ∧ digest = hex (Sha256.digest content)

/-- Writing the manifest of a directory leaves a regular file with a text. -/
def Publishes (w : Workspace) (dir : Path) (s : String) : Prop :=
  ∃ p v, (write dir manifestName).exec w = (.ok p, v) ∧ v.isFile p ∧ v.readText p = .ok s

/-- A name can be taken for that of one artifact and the record of another, each on a line of its own. -/
def Splits (name : String) : Prop :=
  ∃ before digest after, isListed before ∧ isDigest digest ∧ name = before ++ "\n" ++ digest ++ "  " ++ after

/-- What a reader of a manifest takes for the name and the digest of an artifact. -/
structure IsEntry (entry : String × String) : Prop where
  listed : isListed entry.1
  digest : isDigest entry.2
  whole : ¬ Splits entry.1

theorem exists_list_of_text (made : text w dir = .ok s) : ∃ names, w.list dir = .ok names := by
  cases listed : w.list dir with
  | ok names => exact ⟨names, rfl⟩
  | error fault => simp [text, listedNames, listed, Except.mapError, bind, Except.bind] at made

theorem text_of_publishes (sound : w.files.Sound) (alike : w.files.Alike)
    (home : w.files.get? w.directory = some .directory) (publishes : Publishes w dir s) : text w dir = .ok s := by
  obtain ⟨p, v, run, file, read⟩ := publishes
  obtain ⟨x, u, look, run⟩ := TaskM.exec_bind_ok run
  obtain ⟨rfl, rfl⟩ : w = x ∧ w = u := by simpa using look
  obtain ⟨made, u, first, run⟩ := TaskM.exec_bind_ok run
  obtain ⟨text, rfl⟩ : text w dir = .ok made ∧ w = u := by simpa using first
  obtain ⟨_, u, put, run⟩ := TaskM.exec_bind_ok run
  obtain ⟨rfl, rfl⟩ : dir.join manifestName = p ∧ u = v := by simpa using run
  obtain ⟨_, x, above, put⟩ := TaskM.exec_bind_ok put
  obtain ⟨names, listed⟩ := exists_list_of_text text
  obtain ⟨l, found, -⟩ := exists_find_of_list listed
  obtain ⟨outcome, parent⟩ := Files.exec_makeParent_join (Workspace.leads_of_find home found).1 isName_manifestName
  obtain ⟨-, rfl⟩ := Prod.ext_iff.mp (parent.symm.trans above)
  have stored := FileM.read_of_write sound alike home (TaskM.exec_describe_ok put) file
  rw [text]
  simpa [Workspace.readText, stored, bind, Except.bind, pure, Except.pure, Text.Utf8.decode?_encode] using read

/-- A front without line breaks is before the first line break of the same text. -/
theorem prefix_of_append_eq {before after front rest : List Char} (plain : '\n' ∉ front)
    (same : before ++ '\n' :: after = front ++ rest) : front <+: before := by
  have whole : front <+: before ++ '\n' :: after := same ▸ List.prefix_append front rest
  rcases List.prefix_or_prefix_of_prefix whole (List.prefix_append before _) with shorter | ⟨more, rfl⟩
  · exact shorter
  · rw [List.append_assoc, List.append_cancel_left_eq] at same
    cases more with
    | nil => simp
    | cons c more =>
      obtain ⟨rfl, -⟩ := List.cons.inj same
      simp at plain

theorem newline_not_mem_of_isDigest {digest : String} (valid : isDigest digest) : '\n' ∉ digest.toList := by
  intro member
  have letters := (Bool.and_eq_true_iff.mp valid).2
  have lower := of_decide_eq_true (List.all_eq_true.mp letters _ member)
  revert lower
  decide

/-- The characters of the lines for some entries. -/
def lettersOf (entries : List (String × String)) : List Char :=
  entries.flatMap fun entry => entry.2.toList ++ ' ' :: ' ' :: entry.1.toList ++ ['\n']

theorem toList_join_lines (entries : List (String × String)) :
    (String.join (entries.map fun entry => line entry.2 entry.1)).toList = lettersOf entries := by
  rw [String.toList_join, List.flatMap_map]
  exact List.flatMap_congr fun entry _ => by simp [line]

/-- Where the rest of a longer name and what follows it are lines, the longer name splits. -/
theorem splits_of_lines {longer shorter : String} {more tail : List Char} {entries : List (String × String)}
    (listed : isListed shorter) (digests : ∀ entry ∈ entries, isDigest entry.2)
    (name : longer.toList = shorter.toList ++ '\n' :: more) (lines : more ++ '\n' :: tail = lettersOf entries) :
    Splits longer := by
  cases entries with
  | nil => simp [lettersOf] at lines
  | cons entry entries =>
    have digest := digests entry List.mem_cons_self
    have plain : '\n' ∉ entry.2.toList ++ [' ', ' '] := by
      simpa using newline_not_mem_of_isDigest digest
    have front : entry.2.toList ++ [' ', ' '] <+: more := by
      have split : lettersOf (entry :: entries) =
          (entry.2.toList ++ [' ', ' ']) ++ (entry.1.toList ++ '\n' :: lettersOf entries) := by simp [lettersOf]
      exact prefix_of_append_eq plain (lines.trans split)
    obtain ⟨after, rfl⟩ := front
    refine ⟨shorter, entry.2, String.ofList after, listed, digest, ?_⟩
    rw [← String.toList_inj, name]
    simp

/-- Lines are those of one list of entries. -/
theorem eq_of_lettersOf_eq {xs ys : List (String × String)} (valid : ∀ x ∈ xs, IsEntry x) (valid' : ∀ y ∈ ys, IsEntry y)
    (same : lettersOf xs = lettersOf ys) : xs = ys := by
  induction xs generalizing ys with
  | nil =>
    cases ys with
    | nil => rfl
    | cons y ys => simp [lettersOf] at same
  | cons x xs ih =>
    cases ys with
    | nil => simp [lettersOf] at same
    | cons y ys =>
      obtain ⟨first, others⟩ := List.forall_mem_cons.mp valid
      obtain ⟨first', others'⟩ := List.forall_mem_cons.mp valid'
      have lines : x.2.toList ++ (' ' :: ' ' :: (x.1.toList ++ '\n' :: lettersOf xs)) =
          y.2.toList ++ (' ' :: ' ' :: (y.1.toList ++ '\n' :: lettersOf ys)) := by
        simpa [lettersOf] using same
      have length : x.2.toList.length = y.2.toList.length := by
        have size := (Bool.and_eq_true_iff.mp first.digest).1
        have size' := (Bool.and_eq_true_iff.mp first'.digest).1
        rw [String.length_toList, String.length_toList, of_decide_eq_true size, of_decide_eq_true size']
      obtain ⟨digest, rest⟩ := List.append_inj lines length
      have rest : x.1.toList ++ '\n' :: lettersOf xs = y.1.toList ++ '\n' :: lettersOf ys := by simpa using rest
      rcases List.append_eq_append_iff.mp rest with ⟨more, name, tail⟩ | ⟨more, name, tail⟩
      · cases more with
        | nil =>
          have names : x.1 = y.1 := String.toList_inj.mp (by simpa using name.symm)
          have entry : x = y := Prod.ext names (String.toList_inj.mp digest)
          rw [entry, ih others others' (by simpa using tail)]
        | cons c more =>
          obtain ⟨rfl, later⟩ := List.cons.inj tail
          exact absurd (splits_of_lines first.listed (fun entry member => (others entry member).digest) name later.symm)
            first'.whole
      · cases more with
        | nil =>
          have names : x.1 = y.1 := String.toList_inj.mp (by simpa using name)
          have entry : x = y := Prod.ext names (String.toList_inj.mp digest)
          rw [entry, ih others others' (by simpa using tail.symm)]
        | cons c more =>
          obtain ⟨rfl, later⟩ := List.cons.inj tail
          exact absurd (splits_of_lines first'.listed (fun entry member => (others' entry member).digest) name later.symm)
            first.whole

theorem digestOf_eq_ok {p : Path} {digest : String} : digestOf w p = .ok digest ↔
    ∃ content, w.read p = .ok content ∧ digest = hex (Sha256.digest content) := by
  rw [digestOf]
  cases w.read p <;> simp [Except.mapError, Except.map, eq_comm]

theorem linesOf_cons (name : String) (names : List String) : linesOf w dir (name :: names) =
    (digestOf w (dir.join name)).bind fun digest => (linesOf w dir names).map (line digest name :: ·) := by
  rw [linesOf, List.mapM_cons]
  cases digestOf w (dir.join name) with
  | error error => rfl
  | ok digest =>
    change ((linesOf w dir names).bind fun others => .ok (line digest name :: others)) = (linesOf w dir names).map _
    cases linesOf w dir names <;> rfl

theorem exists_entries_of_linesOf {names lines : List String} (made : linesOf w dir names = .ok lines) :
    ∃ entries : List (String × String), lines = entries.map (fun entry => line entry.2 entry.1) ∧
      ∀ name digest, (name, digest) ∈ entries ↔ name ∈ names ∧ digestOf w (dir.join name) = .ok digest := by
  induction names generalizing lines with
  | nil =>
    obtain rfl := Except.ok.inj made
    exact ⟨[], rfl, by simp⟩
  | cons first names ih =>
    rw [linesOf_cons] at made
    cases hashed : digestOf w (dir.join first) with
    | error error => simp [hashed, Except.bind] at made
    | ok digest =>
      cases rest : linesOf w dir names with
      | error error => simp [hashed, rest, Except.bind, Except.map] at made
      | ok others =>
        obtain ⟨entries, rfl, each⟩ := ih rest
        obtain rfl : line digest first :: _ = lines := by simpa [hashed, rest, Except.bind, Except.map] using made
        refine ⟨(first, digest) :: entries, rfl, fun name other => ?_⟩
        rw [List.mem_cons, List.mem_cons, each, Prod.mk.injEq]
        constructor
        · rintro (⟨rfl, rfl⟩ | ⟨member, told⟩)
          · exact ⟨.inl rfl, hashed⟩
          · exact ⟨.inr member, told⟩
        · rintro ⟨rfl | member, told⟩
          · exact .inl ⟨rfl, Except.ok.inj (told.symm.trans hashed)⟩
          · exact .inr ⟨member, told⟩

/-- A manifest has a line for each artifact that the directory holds, and no other. -/
theorem exists_entries (made : text w dir = .ok s) : ∃ entries : List (String × String),
    s = String.join (entries.map fun entry => line entry.2 entry.1) ∧
      ∀ name digest, (name, digest) ∈ entries ↔ Holds w dir name digest := by
  obtain ⟨names, listed⟩ := exists_list_of_text made
  rw [text_of_list listed] at made
  cases lines : linesOf w dir (names.filter fun name => w.isFile (dir.join name) && isListed name) with
  | error error => simp [lines, Except.map] at made
  | ok all =>
    rw [lines] at made
    obtain rfl : String.join all = s := Except.ok.inj made
    obtain ⟨entries, rfl, each⟩ := exists_entries_of_linesOf lines
    refine ⟨entries, rfl, fun name digest => ?_⟩
    rw [each, List.mem_filter, Bool.and_eq_true, digestOf_eq_ok, Holds, listed]
    constructor
    · rintro ⟨⟨member, file, artifact⟩, read⟩
      exact ⟨artifact, ⟨names, rfl, member⟩, file, read⟩
    · rintro ⟨artifact, ⟨others, same, member⟩, file, read⟩
      obtain rfl := Except.ok.inj same
      exact ⟨⟨member, file, artifact⟩, read⟩

theorem isEntry_of_holds {digest : String} (holds : Holds w dir name digest) (whole : ¬ Splits name) :
    IsEntry (name, digest) := by
  obtain ⟨listed, -, -, content, -, rfl⟩ := holds
  exact ⟨listed, isDigest_hex content, whole⟩

/-- Whoever reads the manifest of a directory as lines for artifacts reads just what the directory holds, unless a name
splits. -/
theorem mem_iff_of_text (made : text w dir = .ok s) (whole : ∀ name digest, Holds w dir name digest → ¬ Splits name)
    {entries : List (String × String)} (valid : ∀ entry ∈ entries, IsEntry entry)
    (read : s = String.join (entries.map fun entry => line entry.2 entry.1)) (name digest : String) :
    (name, digest) ∈ entries ↔ Holds w dir name digest := by
  obtain ⟨written, lines, each⟩ := exists_entries made
  have same : lettersOf entries = lettersOf written := by
    rw [← toList_join_lines, ← toList_join_lines, ← read, ← lines]
  have valid' : ∀ entry ∈ written, IsEntry entry := fun entry member =>
    have holds := (each entry.1 entry.2).mp member
    isEntry_of_holds holds (whole _ _ holds)
  rw [eq_of_lettersOf_eq valid valid' same, each]

/-- Two directories with the same manifest hold the same artifacts with the same digests, and a reader of the manifest
reads these, unless a name splits. -/
theorem same_pairs (sound : w.files.Sound) (alike : w.files.Alike) (home : w.files.get? w.directory = some .directory)
    (sound' : v.files.Sound) (alike' : v.files.Alike) (home' : v.files.get? v.directory = some .directory)
    (publishes : Publishes w dir s) (publishes' : Publishes v dir' s)
    (whole : ∀ name digest, Holds w dir name digest → ¬ Splits name)
    (whole' : ∀ name digest, Holds v dir' name digest → ¬ Splits name) :
    (∀ name digest, Holds w dir name digest ↔ Holds v dir' name digest) ∧
      ∀ entries : List (String × String), (∀ entry ∈ entries, IsEntry entry) →
        s = String.join (entries.map fun entry => line entry.2 entry.1) →
        ∀ name digest, (name, digest) ∈ entries ↔ Holds w dir name digest := by
  have made := text_of_publishes sound alike home publishes
  have made' := text_of_publishes sound' alike' home' publishes'
  have reads {entries : List (String × String)} (valid : ∀ entry ∈ entries, IsEntry entry)
      (read : s = String.join (entries.map fun entry => line entry.2 entry.1)) (name digest : String) :
      (name, digest) ∈ entries ↔ Holds w dir name digest := mem_iff_of_text made whole valid read name digest
  refine ⟨fun name digest => ?_, fun entries valid read => reads valid read⟩
  obtain ⟨written, lines, each⟩ := exists_entries made'
  have valid : ∀ entry ∈ written, IsEntry entry := fun entry member =>
    have holds := (each entry.1 entry.2).mp member
    isEntry_of_holds holds (whole' _ _ holds)
  rw [← reads valid lines, each]

theorem not_splits_of_plain (plain : '\n' ∉ name.toList) : ¬ Splits name := by
  rintro ⟨before, digest, after, -, -, rfl⟩
  simp at plain

/-- What is read of the manifest of a directory once it is written, if it is a regular file. -/
def published? (w : Workspace) (dir : Path) : Option String :=
  let run := (write dir manifestName).exec w
  run.1.toOption.bind fun p => if run.2.isFile p then (run.2.readText p).toOption else none

theorem publishes_of_published? (published : published? w dir = some s) : Publishes w dir s := by
  obtain ⟨p, done, read⟩ := Option.bind_eq_some_iff.mp published
  split at read
  · next file => exact ⟨p, _, Prod.ext (TaskM.eq_ok_of_toOption done) rfl, file, TaskM.eq_ok_of_toOption read⟩
  · cases read

/-- A directory `d` with files of some names and nothing in them, beside a link to it. -/
def shelf (names : List String) : Workspace where
  files := ⟨(["d"], .directory) :: (["link"], .link ⟨"d"⟩) :: names.map fun name => (["d", name], .file [] false), []⟩
  directory := []
  journal := []

theorem sound_shelf (names : List String) : (shelf names).files.Sound := by
  refine FileTree.sound_of_nodes fun n member => ?_
  obtain rfl | rfl | ⟨name, -, rfl⟩ : n = (["d"], .directory) ∨ n = (["link"], .link ⟨"d"⟩) ∨
      ∃ name ∈ names, (["d", name], .file [] false) = n := by
    simpa [shelf] using member
  all_goals rfl

theorem alike_shelf (names : List String) : (shelf names).files.Alike := fun _ member => nomatch member

theorem list_shelf : (shelf ["a.zip"]).list ⟨"d"⟩ = .ok ["a.zip"] ∧
    (shelf ["notes", "a.zip"]).list ⟨"link/"⟩ = .ok ["a.zip", "notes"] := ⟨rfl, rfl⟩

theorem whole_of_list {names : List String} (listed : w.list dir = .ok names) (plain : ∀ name ∈ names, '\n' ∉ name.toList)
    (name digest : String) (holds : Holds w dir name digest) : ¬ Splits name := by
  obtain ⟨-, ⟨others, same, member⟩, -⟩ := holds
  obtain rfl := Except.ok.inj (listed.symm.trans same)
  exact not_splits_of_plain (plain name member)

/-- The digest of an empty file. -/
def emptyDigest : String :=
  "e3b0c44298fc1c149afbf4c8996fb92427ae41e4649b934ca495991b7852b855"

theorem same_pairs_shelf : ∃ s, Publishes (shelf ["a.zip"]) ⟨"d"⟩ s ∧ Publishes (shelf ["notes", "a.zip"]) ⟨"link/"⟩ s ∧
    ∀ name digest, Holds (shelf ["a.zip"]) ⟨"d"⟩ name digest ↔ Holds (shelf ["notes", "a.zip"]) ⟨"link/"⟩ name digest := by
  have published : published? (shelf ["a.zip"]) ⟨"d"⟩ = some (line emptyDigest "a.zip") ∧
      published? (shelf ["notes", "a.zip"]) ⟨"link/"⟩ = some (line emptyDigest "a.zip") := by
    decide +kernel
  have publishes := publishes_of_published? published.1
  have publishes' := publishes_of_published? published.2
  obtain ⟨same, -⟩ := same_pairs (sound_shelf _) (alike_shelf _) rfl (sound_shelf _) (alike_shelf _) rfl publishes publishes'
    (whole_of_list list_shelf.1 (by decide)) (whole_of_list list_shelf.2 (by decide))
  exact ⟨_, publishes, publishes', same⟩

/-- The name of a file that is recorded as two files are. -/
def doubleName : String :=
  "a.zip\n" ++ emptyDigest ++ "  b.zip"

/-- Two directories have the same manifest, and hold other artifacts: in one of them there is a file with a line break in
its name. -/
theorem other_pairs : ∃ s, Publishes (shelf ["a.zip", "b.zip"]) ⟨"d"⟩ s ∧ Publishes (shelf [doubleName]) ⟨"d"⟩ s ∧
    '/' ∉ doubleName.toList ∧ '\x00' ∉ doubleName.toList ∧
    Holds (shelf ["a.zip", "b.zip"]) ⟨"d"⟩ "a.zip" emptyDigest ∧
    ∀ digest, ¬ Holds (shelf [doubleName]) ⟨"d"⟩ "a.zip" digest := by
  have published : published? (shelf ["a.zip", "b.zip"]) ⟨"d"⟩ =
        some (line emptyDigest "a.zip" ++ line emptyDigest "b.zip") ∧
      published? (shelf [doubleName]) ⟨"d"⟩ = some (line emptyDigest "a.zip" ++ line emptyDigest "b.zip") := by
    decide +kernel
  have names : '/' ∉ doubleName.toList ∧ '\x00' ∉ doubleName.toList ∧ "a.zip" ≠ doubleName := by decide +kernel
  have read : (shelf ["a.zip", "b.zip"]).read ⟨"d/a.zip"⟩ = .ok [] := TaskM.eq_ok_of_toOption (by decide +kernel)
  have holds : Holds (shelf ["a.zip", "b.zip"]) ⟨"d"⟩ "a.zip" emptyDigest :=
    ⟨by decide +kernel, ⟨["a.zip", "b.zip"], rfl, by decide⟩, by decide +kernel, [], read, by decide +kernel⟩
  refine ⟨_, publishes_of_published? published.1, publishes_of_published? published.2, names.1, names.2.1, holds, ?_⟩
  rintro digest ⟨-, ⟨all, listed, member⟩, -⟩
  have alone : (shelf [doubleName]).list ⟨"d"⟩ = .ok [doubleName] := rfl
  obtain rfl := Except.ok.inj (alone.symm.trans listed)
  exact names.2.2 (List.mem_singleton.mp member)

end Checksums

end ReleaseMatrix
