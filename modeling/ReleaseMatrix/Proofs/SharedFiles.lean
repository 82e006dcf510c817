import ReleaseMatrix.Proofs.Filing
import ReleaseMatrix.Proofs.PackageStage

namespace ReleaseMatrix

namespace FileTree

/-- The places of one file hold the same, something stands at each of them, and no place belongs to two files. -/
structure Linked (t : FileTree) : Prop where
  alike : t.Alike
  present : ∀ group ∈ t.groups, ∀ k ∈ group, (t.get? k).isSome
  single : ∀ a ∈ t.groups, ∀ b ∈ t.groups, ∀ k, k ∈ a → k ∈ b → a = b

variable {t : FileTree} {a b k l : Location} {e : Entry}

theorem moved?_inj {m : Location} (moved : moved? a b k = some m) (moved' : moved? a b l = some m) : k = l := by
  obtain ⟨⟨rest, rfl⟩, rfl⟩ | ⟨-, away, rfl⟩ := moved?_eq_some moved
  · obtain ⟨⟨rest', rfl⟩, same⟩ | ⟨-, away, same⟩ := moved?_eq_some moved'
    · simpa using same
    · exact absurd (same ▸ List.prefix_append _ _) away
  · obtain ⟨-, rfl⟩ | ⟨-, -, same⟩ := moved?_eq_some moved'
    · exact absurd (List.prefix_append _ _) away
    · exact same

theorem get?_foldl_put {all : List Location} (root : [] ∉ all) :
    (all.foldl (fun t l => t.put l e) t).get? k = if k ∈ all then some e else t.get? k := by
  induction all generalizing t with
  | nil => simp
  | cons l all ih =>
    obtain ⟨here, later⟩ := List.ne_and_not_mem_of_not_mem_cons root
    rw [List.foldl_cons, ih later, get?_put (Ne.symm here)]
    by_cases same : k = l <;> simp [same]

theorem groups_foldl_put (all : List Location) : (all.foldl (fun t l => t.put l e) t).groups = t.groups := by
  induction all generalizing t with
  | nil => rfl
  | cons l all ih => exact ih

/-- What is written to a file is found at all its places. -/
theorem Alike.get?_replace (alike : t.Alike) (noDirectory : t.get? l ≠ some .directory) (k : Location) :
    (t.replace l e).get? k = if k ∈ t.places l then some e else t.get? k := by
  refine get?_foldl_put fun inside => ?_
  have same := alike.get?_eq inside
  rw [get?_root] at same
  exact noDirectory same.symm

theorem groups_replace (t : FileTree) (l : Location) (e : Entry) : (t.replace l e).groups = t.groups :=
  groups_foldl_put _

namespace Linked

variable (linked : t.Linked)
include linked

/-- Where nothing stands, there is no place of a file. -/
theorem alone_of_free (free : t.get? l = none) : t.Alone l := fun group member inside => by
  have some := linked.present group member l inside
  simp [free] at some

theorem put (alone : t.Alone l) (root : l ≠ []) : (t.put l e).Linked := by
  have kept {group : List Location} (member : group ∈ t.groups) {k : Location} (inside : k ∈ group) :
      (t.put l e).get? k = t.get? k := by
    rw [get?_put root, if_neg]
    rintro rfl
    exact alone group member inside
  exact {
    alike := fun group member k inside m inside' => by
      rw [kept member inside, kept member inside']
      exact linked.alike group member k inside m inside'
    present := fun group member k inside => by
      rw [kept member inside]
      exact linked.present group member k inside
    single := linked.single }

/-- The places of one file are its whole group. -/
theorem mem_places_iff {group : List Location} (member : group ∈ t.groups) (inside : k ∈ group) :
    k ∈ t.places l ↔ l ∈ group := by
  rw [places]
  cases found : t.groups.find? (·.contains l) with
  | none =>
    have away : ∀ other ∈ t.groups, l ∉ other := by simpa using found
    simp only [Option.getD_none, List.mem_singleton]
    refine ⟨fun same => same ▸ inside, fun inside' => absurd inside' (away group member)⟩
  | some other =>
    have member' := List.mem_of_find?_eq_some found
    have inside' : l ∈ other := by simpa using List.find?_some found
    simp only [Option.getD_some]
    refine ⟨fun with_k => ?_, fun with_l => ?_⟩
    · rwa [linked.single group member other member' k inside with_k]
    · rwa [← linked.single group member other member' l with_l inside']

/-- What is written to a file is at all its places. -/
theorem replace (noDirectory : t.get? l ≠ some .directory) : (t.replace l e).Linked := by
  have looked := linked.alike.get?_replace (e := e) noDirectory
  have groups := groups_replace t l e
  constructor
  · intro group member k inside m inside'
    rw [groups] at member
    simp only [looked, linked.mem_places_iff member inside, linked.mem_places_iff member inside',
      linked.alike group member k inside m inside']
  · intro group member k inside
    rw [groups] at member
    rw [looked]
    split
    · rfl
    · exact linked.present group member k inside
  · rw [groups]
    exact linked.single

/-- What takes places out of the tree leaves the others as they were. -/
theorem cut {s : FileTree} {stays : Location → Bool} (groups : s.groups = t.groups.map (·.filter stays))
    (kept : ∀ k, stays k → s.get? k = t.get? k) : s.Linked := by
  constructor
  · intro group member k inside m inside'
    rw [groups] at member
    obtain ⟨before, old, rfl⟩ := List.mem_map.mp member
    obtain ⟨from_k, stays_k⟩ := List.mem_filter.mp inside
    obtain ⟨from_m, stays_m⟩ := List.mem_filter.mp inside'
    rw [kept k stays_k, kept m stays_m]
    exact linked.alike before old k from_k m from_m
  · intro group member k inside
    rw [groups] at member
    obtain ⟨before, old, rfl⟩ := List.mem_map.mp member
    obtain ⟨from_k, stays_k⟩ := List.mem_filter.mp inside
    rw [kept k stays_k]
    exact linked.present before old k from_k
  · intro c member d member' k inside inside'
    rw [groups] at member member'
    obtain ⟨before, old, rfl⟩ := List.mem_map.mp member
    obtain ⟨before', old', rfl⟩ := List.mem_map.mp member'
    rw [linked.single before old before' old' k (List.mem_filter.mp inside).1 (List.mem_filter.mp inside').1]

theorem erase (root : l ≠ []) : (t.erase l).Linked := by
  refine linked.cut rfl fun k stays => ?_
  rw [get?_erase root, if_neg (by simpa using stays)]

theorem clear (l : Location) : (t.clear l).Linked := by
  refine linked.cut rfl fun k stays => ?_
  rw [get?_clear, if_neg]
  rintro ⟨inside, below⟩
  simp [isPrefixOf_eq, inside, below] at stays

theorem move (rootA : a ≠ []) (rootB : b ≠ []) : (t.move a b).Linked where
  alike := linked.alike.move rootA rootB
  present group member k inside := by
    obtain ⟨before, old, rfl⟩ := List.mem_map.mp member
    obtain ⟨k', from_k, moved⟩ := List.mem_filterMap.mp inside
    rw [get?_of_moved rootA rootB moved]
    exact linked.present before old k' from_k
  single c member d member' k inside inside' := by
    obtain ⟨before, old, rfl⟩ := List.mem_map.mp member
    obtain ⟨before', old', rfl⟩ := List.mem_map.mp member'
    obtain ⟨l, from_c, moved⟩ := List.mem_filterMap.mp inside
    obtain ⟨l', from_d, moved'⟩ := List.mem_filterMap.mp inside'
    rw [linked.single before old before' old' l from_c (moved?_inj moved moved' ▸ from_d)]

end Linked

end FileTree

namespace TaskM

variable {ε δ α β : Type}

/-- The work leaves the places of one file alike. -/
def KeepsLinks (x : TaskM ε α) : Prop :=
  ∀ w, w.files.Linked → (x.exec w).2.files.Linked

namespace KeepsLinks

theorem pure (a : α) : (Pure.pure a : TaskM ε α).KeepsLinks := fun _ linked => linked

theorem throw (e : ε) : (MonadExcept.throw e : TaskM ε α).KeepsLinks := fun _ linked => linked

theorem get : (MonadState.get : TaskM ε Workspace).KeepsLinks := fun _ linked => linked

theorem ofExcept (x : Except ε α) : (MonadExcept.ofExcept x : TaskM ε α).KeepsLinks := fun w linked => by
  rwa [exec_ofExcept]

theorem bind {x : TaskM ε α} {f : α → TaskM ε β} (first : x.KeepsLinks) (next : ∀ a, (f a).KeepsLinks) :
    (x >>= f).KeepsLinks := fun w linked => by
  have kept := first w linked
  rw [exec_bind]
  rcases run : x.exec w with ⟨_ | a, v⟩ <;> rw [run] at kept
  · exact kept
  · exact next a v kept

theorem describe {x : TaskM ε α} (kept : x.KeepsLinks) (describe : ε → δ) : (x.describe describe).KeepsLinks := kept

theorem attempt {x : TaskM ε α} (kept : x.KeepsLinks) : (x.attempt : TaskM δ (Except ε α)).KeepsLinks := kept

theorem tryCatch {x : TaskM ε α} {handle : ε → TaskM ε α} (kept : x.KeepsLinks)
    (handled : ∀ e, (handle e).KeepsLinks) : (MonadExcept.tryCatch x handle).KeepsLinks := fun w linked => by
  have kept := kept w linked
  rw [exec_tryCatch]
  rcases run : x.exec w with ⟨e | _, v⟩ <;> rw [run] at kept
  · exact handled e v kept
  · exact kept

theorem mapM {f : α → TaskM ε β} {l : List α} (each : ∀ a, (f a).KeepsLinks) : (l.mapM f).KeepsLinks := by
  induction l with
  | nil => exact .pure []
  | cons a l ih =>
    rw [List.mapM_cons]
    exact .bind (each a) fun _ => .bind ih fun _ => .pure _

end KeepsLinks

end TaskM

namespace FileM

variable {α : Type}

theorem keepsLinks_look (f : Workspace → Except FileFault α) : (look f).KeepsLinks :=
  .bind .get fun _ => .ofExcept _

theorem keepsLinks_makeDirectory (p : Path) : (makeDirectory p).KeepsLinks := by
  refine .bind (keepsLinks_look _) fun ending => ?_
  cases ending with
  | here | up | root => exact .throw _
  | name parent name =>
    intro w linked
    rw [TaskM.exec_bind, exec_entryAt?]
    cases free : w.files.get? (parent ++ [name]) with
    | some _ => exact linked
    | none => exact linked.put (linked.alone_of_free free) (by simp)

theorem keepsLinks_makeDirectories (p : Path) : (makeDirectories p).KeepsLinks := by
  have missing (p : Path) : (makeDirectoryIfMissing p).KeepsLinks :=
    .tryCatch (keepsLinks_makeDirectory p) fun fault => .bind .get fun w => by
      cases w.isDirectory p
      · exact .throw fault
      · exact .pure ()
  have within (n : Nat) (p : Path) : (makeDirectoriesWithin n p).KeepsLinks := by
    induction n generalizing p with
    | zero => exact .pure ()
    | succ n ih =>
      refine .tryCatch (missing p) fun fault => ?_
      split
      · exact .bind (ih _) fun _ => missing p
      · exact .throw _
  exact within _ p

/-- What is located for writing is no directory. -/
theorem exec_locateForWriting (p : Path) (w : Workspace) : ((locateForWriting p).exec w).2 = w ∧
    ∀ l, ((locateForWriting p).exec w).1 = .ok l → w.files.get? l ≠ some .directory := by
  rw [locateForWriting, TaskM.exec_bind, exec_look]
  cases w.locate p .newFile with
  | error fault => exact ⟨rfl, fun _ ok => by cases ok⟩
  | ok l =>
    dsimp only
    rw [TaskM.exec_bind, exec_entryAt?]
    cases found : w.files.get? l with
    | none =>
      refine ⟨rfl, fun k ok => ?_⟩
      obtain rfl : l = k := Except.ok.inj ok
      simp [found]
    | some e =>
      cases e with
      | directory => exact ⟨rfl, fun _ ok => by cases ok⟩
      | file | program | void | queue | link =>
        refine ⟨rfl, fun k ok => ?_⟩
        obtain rfl : l = k := Except.ok.inj ok
        simp [found]

theorem locate_of_locateForWriting {p : Path} {w : Workspace} {l : Location}
    (located : ((locateForWriting p).exec w).1 = .ok l) : w.locate p .newFile = .ok l := by
  rw [locateForWriting, TaskM.exec_bind, exec_look] at located
  cases found : w.locate p .newFile with
  | error fault => simp [found] at located
  | ok k =>
    simp only [found, TaskM.exec_bind, exec_entryAt?] at located
    split at located
    · cases located
    · simpa using located

theorem keepsLinks_locateForWriting_bind {p : Path} {f : Location → FileM α}
    (next : ∀ l w, w.files.get? l ≠ some .directory → w.files.Linked → ((f l).exec w).2.files.Linked) :
    (locateForWriting p >>= f).KeepsLinks := fun w linked => by
  obtain ⟨left, noDirectory⟩ := exec_locateForWriting p w
  rw [TaskM.exec_bind]
  rcases run : (locateForWriting p).exec w with ⟨_ | l, v⟩ <;> rw [run] at left noDirectory
  · exact left ▸ linked
  · obtain rfl : v = w := left
    exact next l v (noDirectory l rfl) linked

theorem keepsLinks_write (p : Path) (content : Bytes) : (write p content).KeepsLinks :=
  keepsLinks_locateForWriting_bind fun _ _ noDirectory linked => linked.replace noDirectory

theorem keepsLinks_copy (a b : Path) : (copy a b).KeepsLinks := by
  refine .bind (keepsLinks_look _) fun ⟨source, e⟩ => ?_
  dsimp only
  split
  · exact fun _ linked => linked
  · refine keepsLinks_locateForWriting_bind fun dest w noDirectory linked => ?_
    rw [TaskM.exec_bind, exec_entryAt?]
    dsimp only
    split
    · exact linked.replace noDirectory
    · exact linked

theorem keepsLinks_removeFile (p : Path) : (removeFile p).KeepsLinks := by
  refine .bind (keepsLinks_look _) fun ending => ?_
  cases ending with
  | here | up | root => exact .throw _
  | name parent name =>
    refine .bind (fun _ linked => linked) fun e? => ?_
    split
    · exact .throw _
    · exact .throw _
    · split
      · exact .throw _
      · exact fun _ linked => linked.erase (by simp)

theorem keepsLinks_clearDirectory (l : Location) : (clearDirectory l).KeepsLinks := fun w linked => by
  rw [exec_clearDirectory, emptied_files]
  exact linked.clear l

theorem keepsLinks_removeDirectory (p : Path) : (removeDirectory p).KeepsLinks := by
  refine .bind (keepsLinks_look _) fun ending => ?_
  cases ending with
  | here | up | root => exact .throw _
  | name parent name =>
    refine .bind (fun _ linked => linked) fun e? => ?_
    split
    · exact .throw _
    · refine .bind .get fun w => ?_
      split
      · refine .bind (fun _ linked => linked.erase (by simp)) fun _ v linked => ?_
        rw [TaskM.exec_modify]
        split <;> exact linked
      · exact .throw _
    · exact .throw _

theorem keepsLinks_removeTree (p : Path) : (removeTree p).KeepsLinks := by
  refine .bind (keepsLinks_look _) fun l => .bind (fun _ linked => linked) fun e? => ?_
  split
  · exact .throw _
  · exact keepsLinks_removeFile p
  · refine .bind (keepsLinks_clearDirectory l) fun _ => .tryCatch (keepsLinks_removeDirectory p) fun fault => ?_
    split
    · exact .pure ()
    · exact .throw fault
  · exact .throw _

theorem keepsLinks_moveEntry {source dest : Location} (rootA : source ≠ []) (rootB : dest ≠ []) :
    (moveEntry source dest).KeepsLinks :=
  .bind (fun _ linked => linked.move rootA rootB) fun _ v linked => by
    rw [TaskM.exec_modify]
    split <;> exact linked

theorem keepsLinks_rename (a b : Path) : (rename a b).KeepsLinks := by
  refine .bind (keepsLinks_look _) fun ending => .bind (keepsLinks_look _) fun ending' => ?_
  split
  · have moved (parent parent' : Location) (name name' : String) :
        (moveEntry (parent ++ [name]) (parent' ++ [name'])).KeepsLinks :=
      keepsLinks_moveEntry (by simp) (by simp)
    refine .bind (fun _ linked => linked) fun e? => ?_
    split
    · exact .throw _
    · split
      · exact .throw _
      · refine .bind .get fun w => ?_
        split
        · exact .pure ()
        · split
          · exact .throw _
          · split
            · exact .throw _
            · refine .bind (fun _ linked => linked) fun e'? => ?_
              split
              · refine .bind .get fun w => ?_
                split
                · exact moved _ _ _ _
                · exact .throw _
              · exact .throw _
              · exact .throw _
              · exact moved _ _ _ _
  · exact .throw _

end FileM

namespace Files

theorem keepsLinks_removeDirectory (p : Path) : (removeDirectory p).KeepsLinks :=
  .bind .get fun w => by
    split
    · exact (FileM.keepsLinks_removeTree p).describe _
    · exact .pure ()

theorem keepsLinks_makeParent (p : Path) : (makeParent p).KeepsLinks := by
  unfold makeParent
  split
  · exact (FileM.keepsLinks_makeDirectories _).describe _
  · exact .pure ()

theorem keepsLinks_move (source dest : Path) : (move source dest).KeepsLinks := by
  refine .bind (keepsLinks_makeParent dest) fun _ => .bind (FileM.keepsLinks_rename source dest).attempt fun ending => ?_
  split
  · exact .pure ()
  · exact (TaskM.KeepsLinks.bind (FileM.keepsLinks_copy source dest) fun _ =>
      FileM.keepsLinks_removeFile source).describe _

end Files

/-- A compiler that leaves the places of one file alike, when the directory it installs to is empty. -/
def Compiler.KeepsLinks (c : Compiler) : Prop :=
  ∀ q w l, w.Leads q.installDir l → (∀ k, l <+: k → k ≠ l → w.files.get? k = none) → w.files.Linked →
    ((c.compile q).exec w).2.files.Linked

/-- A packager that leaves the places of one file alike, when it is given an empty directory. -/
def Packager.KeepsLinks (p : Packager) : Prop :=
  ∀ q dir w l, w.Leads dir l → w.files.Vacant l → w.files.Linked → ((p.pack q dir).exec w).2.files.Linked

namespace PackageBuilder.Site

variable {b : PackageBuilder} {base : FileTree} {here out l : Location} {dir : Path} {a : Archive} {s : PackageSpec}
variable {w : Workspace} (site : b.Site base here out) (keeps : b.packager.KeepsLinks)
include keeps

theorem linked_packIn (leads : w.Leads dir l) (vacant : w.files.Vacant l) (linked : w.files.Linked)
    (r : PackageRequest) : ((b.packIn dir r).exec w).2.files.Linked := by
  have packed := keeps r dir (w.record (.packed r)) l leads vacant linked
  rw [exec_packIn]
  rcases run : (b.packager.pack r dir).exec (w.record (.packed r)) with ⟨stop | _, u⟩ <;> rw [run] at packed
  · exact packed
  · dsimp only
    cases produced? u dir r.outputName r.spec.format with
    | none => exact packed
    | some found =>
      dsimp only
      exact Files.keepsLinks_move found (b.outDir.join (r.spec.releaseName b.product r.version))
        (u.record (.produced r ((u.read found).toOption.getD []))) packed

include site

theorem linked_buildOne (ready : Ready base here out w) (linked : w.files.Linked) :
    ((b.buildOne a s).exec w).2.files.Linked := by
  obtain ⟨stop, eq⟩ | ⟨archive, dir, l, outcome, v, room, free, packed, eq⟩ :=
    site.exec_buildOne (a := a) (s := s) ready.rests
  · rw [eq]
    exact linked
  · obtain ⟨n, rfl⟩ := room.named
    obtain ⟨-, rests, directory, vacant⟩ := site.opened_of_free ready free
    have opened := linked.put (e := .directory) (linked.alone_of_free free) (by simp)
    have kept := linked_packIn keeps (room.leads _ rests directory) vacant opened
      ⟨b.product, a.version, s, archive, s.outputName b.product a.version⟩
    rw [packed] at kept
    rw [eq]
    exact FileM.keepsLinks_removeTree dir v kept

theorem linked_buildAll (confined : b.packager.Confined) (plainVersion : '/' ∉ a.version.toList)
    (ready : Ready base here out w) (linked : w.files.Linked) :
    Ready base here out ((b.buildAll a).exec w).2 ∧ ((b.buildAll a).exec w).2.files.Linked := by
  refine (TaskM.exec_mapM_keeps (fun w => Ready base here out w ∧ w.files.Linked) (fun _ _ => True) ?_
    ⟨ready, linked⟩).1
  rintro s member w ⟨ready, linked⟩
  rw [exec_buildAll_step]
  exact ⟨⟨(site.built_buildOne confined ready plainVersion member).ready, site.linked_buildOne keeps ready linked⟩,
    fun _ _ => trivial, fun _ _ => trivial⟩

/-- Making packages leaves the places of one file alike. -/
theorem linked_buildEach (confined : b.packager.Confined) {archives : List Archive} {version : String}
    (plainVersion : '/' ∉ version.toList) (versions : ∀ a ∈ archives, a.version = version)
    (ready : Ready base here out w) (linked : w.files.Linked) : ((b.buildEach archives).run w).2.files.Linked := by
  induction archives generalizing w with
  | nil => exact linked
  | cons a archives ih =>
    obtain rfl := versions a (by simp)
    obtain ⟨ready, linked⟩ := site.linked_buildAll keeps confined plainVersion ready linked
    rw [buildEach_cons]
    exact ih (fun a member => versions a (by simp [member])) ready linked

end PackageBuilder.Site

namespace Release

variable {r : Release} {targets : List Target} {base : FileTree} {here scratch out : Location} {t : Target}
variable {w : Workspace}

theorem keepsLinks_writeDraft (binary : Path) (entry : String) (path : Path) :
    (Archiver.writeDraft binary entry path).KeepsLinks :=
  .bind ((FileM.keepsLinks_look _).describe _) fun _ => TaskM.KeepsLinks.describe
    (.bind (FileM.keepsLinks_write _ _) fun _ => .bind (FileM.keepsLinks_look _) fun _ => FileM.keepsLinks_write _ _) _

theorem keepsLinks_reset (p : Path) : (Scratch.reset p).KeepsLinks := by
  refine TaskM.KeepsLinks.describe (.bind .get fun w => ?_) _
  split
  · exact .bind (FileM.keepsLinks_removeTree p) fun _ => FileM.keepsLinks_makeDirectories p
  · exact FileM.keepsLinks_makeDirectories p

theorem keepsLinks_removeScratch (root : Path) (t : Target) : (removeScratch root t).KeepsLinks := by
  unfold removeScratch
  split
  · exact .bind (Files.keepsLinks_removeDirectory _).attempt fun _ => .pure _
  · exact .pure _

/-- A step of a worker leaves the places of one file alike. -/
theorem Site.linked_next (site : r.Site targets base here scratch out) (keeps : r.compiler.KeepsLinks)
    (confined : r.compiler.Confined) (member : t ∈ targets) {stage : Stage}
    (kept : r.Kept base here scratch out t stage w) (linked : w.files.Linked) :
    (stage.next r t w).2.files.Linked := by
  cases stage with
  | reset =>
    simp only [Stage.next]
    cases Scratch.directory r.config.scratchDir t with
    | error error => exact linked
    | ok p => exact keepsLinks_reset p w linked
  | compile q =>
    exact keeps q _ _ (site.leads_compile member kept.rests kept.ready) kept.ready.2.2.2 linked
  | locate q =>
    simp only [Stage.next, Builder.exec_waitForBinary (b := r.builder) (w := w) (confined.prompt q)]
    exact linked
  | draft binary =>
    simp only [Stage.next]
    exact keepsLinks_writeDraft binary (Archive.entryName binary t) (Stage.archivePath r t) w linked
  | undo error =>
    simp only [Stage.next]
    exact FileM.keepsLinks_removeFile (Archive.draft (Stage.archivePath r t)) w linked
  | rename binary =>
    simp only [Stage.next]
    exact FileM.keepsLinks_rename (Archive.draft (Stage.archivePath r t)) (Stage.archivePath r t) w linked
  | unlink binary =>
    simp only [Stage.next]
    exact FileM.keepsLinks_removeFile binary w linked
  | sweep archived =>
    simp only [Stage.next]
    exact keepsLinks_removeScratch r.config.scratchDir t w linked
  | done ending => exact linked

/-- A crew whose workers do not break down leaves the places of one file alike. -/
theorem Crew.Reach.linked {jobs : Nat} {crew : Crew} (keeps : r.compiler.KeepsLinks) (confined : r.compiler.Confined)
    (nodup : targets.Nodup) (names : ∀ t ∈ targets, IsName t.id) (ground : r.Ground targets scratch out w)
    (linked : w.files.Linked)
    (reach : Crew.Reach r targets scratch out (fun _ => False) (.initial jobs targets w) crew) :
    crew.workspace.files.Linked := by
  induction reach with
  | start => exact linked
  | next reach step ih =>
    cases step with
    | start | join | finish => exact ih
    | advance _ at_i atStage =>
      exact (ground.site names).linked_next keeps confined (List.mem_of_getElem? at_i)
        ((reach.tended confined nodup names ground).kept _ _ _ at_i atStage) ih
    | fail _ _ breaking => exact breaking.elim

end Release

end ReleaseMatrix
