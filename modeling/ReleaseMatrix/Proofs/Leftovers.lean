import ReleaseMatrix.Proofs.Footing
import ReleaseMatrix.Proofs.ReportEntries
import ReleaseMatrix.Proofs.SoloRun
import ReleaseMatrix.Proofs.Waiting

namespace ReleaseMatrix

open Workspace (Within)

/-- Whether a place is in a directory that one of some targets is built in. -/
def isRoom (targets : List Target) (scratch k : Location) : Bool :=
  targets.any fun t => (scratch ++ [t.id]).isPrefixOf k

/-- Two workspaces hold the same except for what the directories hold that some targets are built in. Such a directory
may be missing. What else stands in its place stands there in both. -/
structure Leftovers (targets : List Target) (scratch : Location) (w v : Workspace) : Prop where
  directory : w.directory = v.directory
  same : ∀ k, (∀ t ∈ targets, ¬ scratch ++ [t.id] <+: k) → w.files.get? k = v.files.get? k
  others : ∀ t ∈ targets, ∀ e, e ≠ .directory →
    (w.files.get? (scratch ++ [t.id]) = some e ↔ v.files.get? (scratch ++ [t.id]) = some e)

section

variable {targets : List Target} {scratch l : Location} {sources : Location → Prop} {t : Target}
variable {w v u : Workspace} {b : Builder} {q : BuildRequest} {root : Path}

theorem isRoom_eq_true {k : Location} : isRoom targets scratch k = true ↔ ∃ t ∈ targets, scratch ++ [t.id] <+: k := by
  simp [isRoom]

namespace Leftovers

/-- Both workspaces rest on what one of them holds elsewhere. -/
theorem rests (leftovers : Leftovers targets scratch w v) {picks : Location → Bool}
    (covers : ∀ t ∈ targets, ∀ k, scratch ++ [t.id] <+: k → picks k) :
    v.Rests (w.files.without picks) w.directory where
  keeps k e _ found := by
    by_cases top : k = []
    · subst top
      simpa using found
    · rw [FileTree.get?_without top] at found
      split at found
      · cases found
      · next unpicked =>
        rw [← leftovers.same k fun t member inside => unpicked (covers t member k inside)]
        exact found
  home _ := leftovers.directory.symm

theorem rooted (leftovers : Leftovers targets scratch w v) (member : t ∈ targets)
    (rooted : Release.Rooted scratch t w) : Release.Rooted scratch t v := by
  intro target link
  exact rooted target ((leftovers.others t member _ (by simp)).mpr link)

end Leftovers

namespace Builder

/-- A run of the compiler put a binary where it is: at a moment after the run the binary is found at a place where there
was nothing when the run began. -/
def Wrote (b : Builder) (q : BuildRequest) (u : Workspace) (binary : Path) : Prop :=
  ∃ moment k e, (b.seen q ((b.compiler.compile q).exec u).2 moment).find binary = .ok (k, e) ∧
    u.files.get? k = none

/-- What the compiler is asked for when a target is built. -/
def request (b : Builder) (t : Target) (root : Path) : BuildRequest :=
  ⟨t, b.profile t, root.join t.id⟩

/-- The workspace that the compiler is called in when a target is built. -/
def called (b : Builder) (t : Target) (root : Path) (w : Workspace) : Workspace :=
  ((Scratch.reset (root.join t.id)).exec w).2.record (.compiled (b.request t root))

/-- A binary that was waited for with success was there at some moment. -/
theorem exists_moment_of_waitForBinary {binary : Path} (ok : ((b.waitForBinary q).exec w).1 = .ok binary) :
    binary = b.chosen q w ∧ ∃ moment, (b.seen q w moment).exists? binary := by
  rw [exec_waitForBinary_eq] at ok
  dsimp only at ok
  split at ok
  · next settled =>
    obtain rfl : b.chosen q w = binary := by simpa using ok
    have waits : b.barrier.Waits b.clock.elapsed (b.view q w (b.chosen q w)) 0 none
        (b.barrier.verdict b.clock (b.view q w (b.chosen q w))) :=
      (Barrier.waits_iff_verdict b.clock).mpr rfl
    have shown := waits.shows settled
    simp only [view, Workspace.isSome_size?_look, Workspace.isRegular_look] at shown
    exact ⟨rfl, shown.elim (fun present => ⟨_, present⟩) fun regular => ⟨_, Workspace.exists?_of_isFile regular⟩⟩
  · cases ok

/-- In empty directories a compiler that reads nothing but sources comes to the same, and so does waiting for its
binary. -/
theorem compileAndWait_alike (product : IsName b.product) (installs : b.compiler.Installs b.product)
    (depends : b.compiler.Depends sources)
    (leads : ∀ u, Within (fun k => l <+: k ∧ k ≠ l) w u → u.Leads q.installDir l)
    (leads' : ∀ u, Within (fun k => l <+: k ∧ k ≠ l) v u → u.Leads q.installDir l)
    (empty : ∀ k, l <+: k → k ≠ l → w.files.get? k = none ∧ v.files.get? k = none)
    (apart : ∀ k, sources k → ¬ l <+: k) (same : ∀ k, sources k → w.files.get? k = v.files.get? k) :
    ((b.compileAndWait q).exec w).1 = ((b.compileAndWait q).exec v).1 ∧
      ∀ binary, ((b.compileAndWait q).exec w).1 = .ok binary → b.Wrote q (w.record (.compiled q)) binary := by
  have calledW := Workspace.within_record (fun k => l <+: k ∧ k ≠ l) w (.compiled q)
  have calledV := Workspace.within_record (fun k => l <+: k ∧ k ≠ l) v (.compiled q)
  have withinW := calledW.trans (installs.within q _ l (leads _ calledW))
  have withinV := calledV.trans (installs.within q _ l (leads' _ calledV))
  obtain ⟨ended, below⟩ := depends.reads q _ _ l (leads _ calledW) (leads' _ calledV) empty same
  have unlinked := installs.unlinked q _ l (leads _ calledW) fun k inside other => (empty k inside other).1
  rw [Release.Stage.exec_compileAndWait, Release.Stage.exec_compileAndWait, TaskM.exec_bind, TaskM.exec_bind]
  unfold Wrote
  generalize (b.compiler.compile q).exec (w.record (.compiled q)) = ranW at withinW ended below unlinked ⊢
  generalize (b.compiler.compile q).exec (v.record (.compiled q)) = ranV at withinV ended below ⊢
  obtain ⟨x, w'⟩ := ranW
  obtain ⟨y, v'⟩ := ranV
  obtain rfl : x = y := ended
  cases x with
  | error stop => exact ⟨rfl, fun binary ok => by cases ok⟩
  | ok _ =>
    dsimp only
    have laterW (n : Nat) := withinW.trans (installs.withinLater q n w' l (leads _ withinW))
    have laterV (n : Nat) := withinV.trans (installs.withinLater q n v' l (leads' _ withinV))
    have unlinkedLater (n : Nat) := installs.unlinkedLater q n w' l (leads _ withinW) (unlinked rfl)
    have kept (k : Location) (source : sources k) : w'.files.get? k = v'.files.get? k := by
      rw [withinW.files k fun inside => apart k source inside.1, withinV.files k fun inside => apart k source inside.1]
      exact same k source
    obtain ⟨result, last, ranW, ranV⟩ := waitForBinary_alike product (fun n => leads _ (laterW n))
      (fun n => leads' _ (laterV n))
      (fun n => depends.later q n w' v' l (leads _ withinW) (leads' _ withinV) below kept) unlinkedLater
    refine ⟨by rw [ranW, ranV], fun binary ok => ?_⟩
    obtain ⟨rfl, moment, present⟩ := exists_moment_of_waitForBinary ok
    obtain ⟨file, spells, named⟩ := Scratch.exists_spells q.installDir b.product q.target (b.seen q w' 0) (b.seen q w' 1)
    rw [chosen, named] at present ⊢
    obtain ⟨-, place⟩ := Workspace.find_below (leads _ (laterW moment)) (leads _ (laterW moment)) (fun _ _ => rfl)
      (unlinkedLater moment file spells) Release.isName_bin (spells.isName product)
    rw [Workspace.exists?, Workspace.entry?] at present
    cases found : (b.seen q w' moment).find ((q.installDir.join "bin").join file) with
    | error fault => simp [found] at present
    | ok there =>
      obtain ⟨k, e⟩ := there
      obtain ⟨rfl, -⟩ := place k e found
      exact ⟨moment, _, e, found, (empty _ (List.prefix_append _ _) (by simp)).1⟩

/-- Building a target comes to the same whatever its directory holds before. A binary that is reported was put there by
the compiler that the build called. -/
theorem build_alike {base : FileTree} {here : Location} (product : IsName b.product)
    (installs : b.compiler.Installs b.product) (depends : b.compiler.Depends sources)
    (apart : ∀ k, sources k → ¬ scratch ++ [t.id] <+: k) (leads : base.Leads here root scratch)
    (away : ∀ k e, scratch ++ [t.id] <+: k → base.get? k = some e → e.isWay = false) (restsW : w.Rests base here)
    (restsV : v.Rests base here) (soundW : w.files.Sound) (soundV : v.files.Sound) (rooted : Release.Rooted scratch t w)
    (others : ∀ e, e ≠ .directory →
      (w.files.get? (scratch ++ [t.id]) = some e ↔ v.files.get? (scratch ++ [t.id]) = some e))
    (same : ∀ k, sources k → w.files.get? k = v.files.get? k) :
    ((b.build t root).exec w).1 = ((b.build t root).exec v).1 ∧
      ∀ binary, ((b.build t root).exec w).1 = .ok binary → b.Wrote (b.request t root) (b.called t root w) binary := by
  cases named : Scratch.directory root t with
  | error error =>
    rw [Release.Stage.build_of_no_directory named, WorkM.exec_fail, WorkM.exec_fail]
    exact ⟨rfl, fun binary ok => by cases ok⟩
  | ok p =>
    have valid := Scratch.isName_of_directory named
    have reach {x y : Workspace} (rests : x.Rests base here) (within : Within (scratch ++ [t.id] <+: ·) x y) :
        y.Leads root scratch := (within.rests away rests).leads leads
    have renewedW := Scratch.renewed_reset (fun _ => reach restsW) valid fun k e inside below found =>
      soundW.above found inside (Ne.symm below)
    have renewedV := Scratch.renewed_reset (fun _ => reach restsV) valid fun k e inside below found =>
      soundV.above found inside (Ne.symm below)
    have alike := Scratch.reset_alike (fun _ => reach restsW) (fun _ => reach restsV) valid rooted others
    obtain rfl := Scratch.eq_of_directory named
    rw [Release.Stage.build_of_directory named, TaskM.exec_bind, TaskM.exec_bind, WorkM.exec_ofTask, WorkM.exec_ofTask,
      called]
    generalize (Scratch.reset (root.join t.id)).exec w = emptiedW at renewedW alike ⊢
    generalize (Scratch.reset (root.join t.id)).exec v = emptiedV at renewedV alike ⊢
    obtain ⟨x, w'⟩ := emptiedW
    obtain ⟨y, v'⟩ := emptiedV
    obtain ⟨error, ranW, ranV⟩ | ⟨okW, okV⟩ := alike
    · rw [ranW, ranV]
      exact ⟨rfl, fun binary ok => by cases ok⟩
    · obtain rfl : x = .ok () := okW
      obtain rfl : y = .ok () := okV
      obtain ⟨fits, directoryW, emptyW⟩ := renewedW.made rfl
      obtain ⟨-, directoryV, emptyV⟩ := renewedV.made rfl
      have inside {z z' u : Workspace} (rests : z.Rests base here) (within : Within (scratch ++ [t.id] <+: ·) z z')
          (directory : z'.files.get? (scratch ++ [t.id]) = some .directory)
          (later : Within (fun k => scratch ++ [t.id] <+: k ∧ k ≠ scratch ++ [t.id]) z' u) :
          u.Leads (root.join t.id) (scratch ++ [t.id]) :=
        (reach rests (within.trans (later.mono fun _ => And.left))).join valid
          ((later.files _ fun own => own.2 rfl).trans directory) fits
      have kept (k : Location) (source : sources k) : w'.files.get? k = v'.files.get? k := by
        rw [renewedW.within.files k (apart k source), renewedV.within.files k (apart k source)]
        exact same k source
      exact compileAndWait_alike (q := b.request t root) product installs depends
        (fun u => inside restsW renewedW.within directoryW) (fun u => inside restsV renewedV.within directoryV)
        (fun k beside below => ⟨emptyW k beside below, emptyV k beside below⟩) apart kept

end Builder

namespace Release

variable {r : Release} {base : FileTree} {here out : Location} {stage : Stage} {jobs jobs' : Nat} {crew crew' : Crew}

/-- The archive of a target is the same in two workspaces, and so is what is below it. -/
def SameArchive (r : Release) (out : Location) (t : Target) (w v : Workspace) : Prop :=
  ∀ k, r.archivePlace out t <+: k → w.files.get? k = v.files.get? k

namespace Site

variable (site : r.Site targets base here scratch out) (installs : r.compiler.Installs r.config.product)
variable (depends : r.compiler.Depends fun k => ¬ scratch <+: k ∧ ¬ out <+: k)
include site installs depends

/-- What is left of the work on a target comes to the same where workspaces agree. -/
theorem exec_remaining_agree (member : t ∈ targets) (keptW : r.Kept base here scratch out t stage w)
    (keptV : r.Kept base here scratch out t stage v) (rooted : Rooted scratch t w)
    (agree : r.Agree targets scratch out t w v) :
    ((stage.remaining r t).exec w).1 = ((stage.remaining r t).exec v).1 ∧
      r.Agree targets scratch out t ((stage.remaining r t).exec w).2 ((stage.remaining r t).exec v).2 := by
  -- The workers take the same steps, so the steps that one of them has left carry the induction.
  induction steps : stage.left using Nat.strongRecOn generalizing stage w v with
  | ind n ih =>
    by_cases finished : stage.left = 0
    · cases stage with
      | done ending =>
        simp only [Stage.remaining, TaskM.exec_ofExcept]
        exact ⟨trivial, agree⟩
      | _ => simp [Stage.left] at finished
    · have fewer := Stage.left_next (r := r) (t := t) stage w
      obtain ⟨alike, agree', rooted'⟩ := site.next_agree installs depends member keptW keptV rooted agree
      have keptW' := (site.next_kept installs member keptW).2
      have keptV' := (site.next_kept installs member keptV).2
      rw [← alike] at keptV'
      rw [← Stage.exec_remaining_next stage w, ← Stage.exec_remaining_next stage v, ← alike]
      exact ih _ (by omega) keptW' keptV' rooted' agree' rfl

/-- Building a target comes to the same outcome and archive whatever its directory holds before. -/
theorem buildTarget_alike (member : t ∈ targets) (keptW : r.Kept base here scratch out t .reset w)
    (keptV : r.Kept base here scratch out t .reset v) (rooted : Rooted scratch t w)
    (others : ∀ e, e ≠ .directory →
      (w.files.get? (scratch ++ [t.id]) = some e ↔ v.files.get? (scratch ++ [t.id]) = some e))
    (agree : ∀ k, ¬ scratch ++ [t.id] <+: k → (∀ s ∈ targets, s ≠ t → ¬ r.Area scratch out s k) →
      w.files.get? k = v.files.get? k) :
    ((r.buildTarget t).exec w).1 = ((r.buildTarget t).exec v).1 ∧
      r.SameArchive out t ((r.buildTarget t).exec w).2 ((r.buildTarget t).exec v).2 := by
  have outside {k : Location} (archive : r.archivePlace out t <+: k) : ¬ scratch ++ [t.id] <+: k :=
    fun inside => site.scratch_apart_out member member inside archive (.inr rfl)
  -- A target whose directory cannot be made anew is swept at once.
  have refused (error : BuildError) :
      (((Stage.sweep (.error (.build error))).remaining r t).exec w).1 =
          (((Stage.sweep (.error (.build error))).remaining r t).exec v).1 ∧
        r.SameArchive out t (((Stage.sweep (.error (.build error))).remaining r t).exec w).2
          (((Stage.sweep (.error (.build error))).remaining r t).exec v).2 := by
    simp only [Stage.remaining, Stage.exec_sweeping]
    refine ⟨trivial, fun k archive => ?_⟩
    rw [(site.within_removeScratch member keptW.rests).files k (outside archive),
      (site.within_removeScratch member keptV.rests).files k (outside archive)]
    exact agree k (outside archive) fun s memberS other area =>
      site.areas_disjoint memberS member other area (.inr (.inr archive))
  have begun (x : Workspace) : (r.buildTarget t).exec x =
      ((Stage.reset.next r t x).1.remaining r t).exec (Stage.reset.next r t x).2 :=
    (Stage.exec_remaining_next .reset x).symm
  have nextW := (site.next_kept installs member keptW).2
  have nextV := (site.next_kept installs member keptV).2
  rw [begun w, begun v]
  simp only [Stage.next] at nextW nextV ⊢
  cases named : Scratch.directory r.config.scratchDir t with
  | error error =>
    simp only [Stage.resetting]
    exact refused error
  | ok p =>
    obtain rfl := Scratch.eq_of_directory named
    rw [named] at nextW nextV
    simp only [Stage.resetting, WorkM.exec_ofTask] at nextW nextV ⊢
    obtain ⟨error, ranW, ranV⟩ | ⟨okW, okV⟩ := Scratch.reset_alike (fun _ => site.leads_scratch member keptW.rests)
      (fun _ => site.leads_scratch member keptV.rests) (site.names t member) rooted others
    · rw [ranW, ranV]
      simp only [Except.mapError, Stage.after]
      exact refused error
    · obtain ⟨agree', rooted'⟩ := Agree.of_renewed (site.renewed_reset member keptW.rests keptW.ready)
        (site.renewed_reset member keptV.rests keptV.ready) okW okV agree
      rw [okW] at nextW ⊢
      rw [okV] at nextV ⊢
      obtain ⟨alike, agree''⟩ := site.exec_remaining_agree installs depends member nextW nextV rooted' agree'
      exact ⟨alike, fun k archive => site.agree_own member agree'' (.inr (.inr archive))⟩

end Site

/-- Files that some workers can work on are files that fewer can work on. -/
theorem Ground.mono {more : List Target} (ground : r.Ground more scratch out w) (fewer : targets ⊆ more) :
    r.Ground targets scratch out w := by
  have keeps : (w.files.without (r.isUsed more scratch out)).Keeps (w.files.without (r.isUsed targets scratch out)) :=
    FileTree.keeps_without fun k used => by
      obtain ⟨t, member, inside⟩ := isUsed_eq_true.mp used
      exact isUsed_eq_true.mpr ⟨t, fewer member, inside⟩
  exact { ground with
    leadsScratch := ground.leadsScratch.keeps keeps
    leadsOut := ground.leadsOut.keeps keeps
    tidy := fun t member => ground.tidy t (fewer member) }

section

variable (installs : r.compiler.Installs r.config.product)
variable (depends : r.compiler.Depends fun k => ¬ scratch <+: k ∧ ¬ out <+: k)
variable (names : ∀ t ∈ targets, IsName t.id) (rooted : ∀ t ∈ targets, Rooted scratch t w)
variable (groundW : r.Ground targets scratch out w) (groundV : r.Ground targets scratch out v)
variable (leftovers : Leftovers targets scratch w v)
include installs depends names rooted groundW groundV leftovers

theorem buildTarget_of_leftovers (member : t ∈ targets) :
    ((r.buildTarget t).exec w).1 = ((r.buildTarget t).exec v).1 ∧
      r.SameArchive out t ((r.buildTarget t).exec w).2 ((r.buildTarget t).exec v).2 := by
  have keptV : r.Kept (w.files.without (r.isUsed targets scratch out)) w.directory scratch out t .reset v :=
    ⟨leftovers.rests fun s memberS k inside => isUsed_eq_true.mpr ⟨s, memberS, .inl inside⟩, groundV.tidy t member,
      fun _ _ inside below found => groundV.sound.above found inside (Ne.symm below)⟩
  refine (groundW.site names).buildTarget_alike installs depends member (groundW.kept member) keptV (rooted t member)
    (leftovers.others t member) fun k outside away => leftovers.same k fun s memberS inside => ?_
  by_cases own : s = t
  · exact outside (own ▸ inside)
  · exact away s memberS own (.inl inside)

/-- In whatever order two crews work and whatever else breaks in them, a target comes to the same. -/
theorem Crew.Reach.of_leftovers {ids : List String} {c : Catalog} {o o' : Outcomes Archive}
    (accepted : Catalog.ofIds ids = .ok c) (listed : c.targets ⊆ targets) (member : t ∈ c.targets)
    (reach : Crew.Reach r c.targets scratch out (· ≠ t) (.initial jobs c.targets w) crew)
    (returned : crew.pool.outcomes? c.targets = some o)
    (reach' : Crew.Reach r c.targets scratch out (· ≠ t) (.initial jobs' c.targets v) crew')
    (returned' : crew'.pool.outcomes? c.targets = some o') :
    o.get? t = o'.get? t ∧ r.SameArchive out t crew.workspace crew'.workspace := by
  have rootedV := leftovers.rooted (listed member) (rooted t (listed member))
  obtain ⟨outcome, archive⟩ := reach.works_alone accepted installs depends (groundW.mono listed)
    (rooted t (listed member)) member returned
  obtain ⟨outcome', archive'⟩ := reach'.works_alone accepted installs depends (groundV.mono listed) rootedV member
    returned'
  obtain ⟨same, left⟩ := buildTarget_of_leftovers installs depends names rooted groundW groundV leftovers (listed member)
  exact ⟨by rw [outcome, outcome', same],
    fun k inside => (archive k inside).trans ((left k inside).trans (archive' k inside).symm)⟩

/-- One build after the other comes to the same outcomes and archives. -/
theorem buildArchives_of_leftovers {ids : List String} {c : Catalog} (accepted : Catalog.ofIds ids = .ok c)
    (listed : c.targets ⊆ targets) :
    (r.buildArchives c.targets w).1 = (r.buildArchives c.targets v).1 ∧
      ∀ t ∈ c.targets, r.SameArchive out t (r.buildArchives c.targets w).2 (r.buildArchives c.targets v).2 := by
  obtain ⟨nodup, -⟩ := Catalog.targets_of_ofIds accepted
  have each (t : Target) (member : t ∈ c.targets) :
      (r.buildArchives c.targets w).1.get? t = (r.buildArchives c.targets v).1.get? t ∧
        r.SameArchive out t (r.buildArchives c.targets w).2 (r.buildArchives c.targets v).2 := by
    obtain ⟨crew, reach, left, returned⟩ :=
      Crew.exists_reach_buildArchives r c.targets scratch out (· ≠ t) 1 w
    obtain ⟨crew', reach', left', returned'⟩ :=
      Crew.exists_reach_buildArchives r c.targets scratch out (· ≠ t) 1 v
    rw [← left, ← left']
    exact reach.of_leftovers installs depends names rooted groundW groundV leftovers accepted listed member returned
      reach' returned'
  have order (x : Workspace) : (r.buildArchives c.targets x).1.entries.map Prod.fst = c.targets := by
    obtain ⟨crew, reach, -, returned⟩ := Crew.exists_reach_buildArchives r c.targets scratch out (fun _ => False) 1 x
    exact (reach.outcomes returned).1
  exact ⟨Outcomes.eq_of_get? ((order w).trans (order v).symm) ((order w).symm ▸ nodup) fun t member =>
    (each t (order w ▸ member)).1, fun t member => (each t member).2⟩

end

/-- What earlier runs left in the directories that targets are built in never gets into a release. A build of a target
ends alike whatever is there, and the binary that it reports was put there by the compiler that it called. The builds
of a catalog come to the same outcomes and archives, in whatever order the workers take their steps and whatever breaks
in the work on other targets. The compiler reads nothing but sources, which are neither in the scratch directory nor in
the output directory, and links are neither in the places of those directories nor of drafts nor on the way to
binaries. -/
theorem leftovers_never_leak (product : IsName r.config.product) (installs : r.compiler.Installs r.config.product)
    (depends : r.compiler.Depends sources) (apart : ∀ k, sources k → ¬ scratch <+: k)
    (leads : (w.files.without (isRoom targets scratch)).Leads w.directory r.config.scratchDir scratch)
    (soundW : w.files.Sound) (soundV : v.files.Sound) (rooted : ∀ t ∈ targets, Rooted scratch t w)
    (leftovers : Leftovers targets scratch w v) :
    (∀ b : Builder, b.compiler = r.compiler → b.product = r.config.product → ∀ t ∈ targets,
      ((b.build t r.config.scratchDir).exec w).1 = ((b.build t r.config.scratchDir).exec v).1 ∧
        ∀ binary, ((b.build t r.config.scratchDir).exec w).1 = .ok binary →
          b.Wrote (b.request t r.config.scratchDir) (b.called t r.config.scratchDir w) binary) ∧
    ∀ ids c out, Catalog.ofIds ids = .ok c → c.targets ⊆ targets → (∀ t ∈ targets, IsName t.id) →
      (∀ k, sources k → ¬ out <+: k) → r.Ground targets scratch out w → r.Ground targets scratch out v →
      (∀ t ∈ c.targets, ∀ jobs crew o jobs' crew' o',
        Crew.Reach r c.targets scratch out (· ≠ t) (.initial jobs c.targets w) crew →
        crew.pool.outcomes? c.targets = some o →
        Crew.Reach r c.targets scratch out (· ≠ t) (.initial jobs' c.targets v) crew' →
        crew'.pool.outcomes? c.targets = some o' →
        o.get? t = o'.get? t ∧ r.SameArchive out t crew.workspace crew'.workspace) ∧
      (r.buildArchives c.targets w).1 = (r.buildArchives c.targets v).1 ∧
      ∀ t ∈ c.targets, r.SameArchive out t (r.buildArchives c.targets w).2 (r.buildArchives c.targets v).2 := by
  refine ⟨fun b compiler product' t member => ?_, fun ids c out accepted listed names apart' groundW groundV => ?_⟩
  · have below {k : Location} (inside : scratch ++ [t.id] <+: k) : scratch <+: k :=
      (List.prefix_append _ _).trans inside
    refine Builder.build_alike (product' ▸ product) (compiler ▸ product' ▸ installs) (compiler ▸ depends)
      (fun k source inside => apart k source (below inside)) leads (fun k e inside found => ?_)
      (Workspace.rests_without w _) (leftovers.rests fun s memberS k inside => isRoom_eq_true.mpr ⟨s, memberS, inside⟩)
      soundW soundV (rooted t member) (leftovers.others t member)
      fun k source => leftovers.same k fun s _ inside => apart k source ((List.prefix_append _ _).trans inside)
    have top : k ≠ [] := by
      rintro rfl
      simp at inside
    rw [FileTree.get?_without top, if_pos (isRoom_eq_true.mpr ⟨t, member, inside⟩)] at found
    cases found
  · have depends' : r.compiler.Depends fun k => ¬ scratch <+: k ∧ ¬ out <+: k :=
      depends.mono fun k source => ⟨apart k source, apart' k source⟩
    exact ⟨fun t member jobs crew o jobs' crew' o' reach returned reach' returned' =>
      reach.of_leftovers installs depends' names rooted groundW groundV leftovers accepted listed member returned reach'
        returned',
      buildArchives_of_leftovers installs depends' names rooted groundW groundV leftovers accepted listed⟩

/-- A workspace with entries in a directory that a target is built in. -/
def littered (w : Workspace) (room : Location) (entries : List (Location × Entry)) : Workspace :=
  FileM.changed w fun files => (files.put room .directory).fill room entries

theorem leftovers_littered {entries : List (Location × Entry)} (member : t ∈ targets)
    (below : ∀ n ∈ entries, n.1 ≠ []) (free : w.files.get? (scratch ++ [t.id]) = none) :
    Leftovers targets scratch (littered w (scratch ++ [t.id]) entries) w := by
  have top : scratch ++ [t.id] ≠ [] := by simp
  have elsewhere (k : Location) (outside : ¬ scratch ++ [t.id] <+: k) :
      (littered w (scratch ++ [t.id]) entries).files.get? k = w.files.get? k := by
    have other : k ≠ scratch ++ [t.id] := fun same => outside (same ▸ List.prefix_refl _)
    rw [littered, FileM.changed, FileTree.get?_fill_of_away below fun inside => outside inside.1,
      FileTree.get?_put top, if_neg other]
  refine ⟨rfl, fun k outside => elsewhere k (outside t member), fun s _ e file => ?_⟩
  by_cases own : scratch ++ [t.id] <+: scratch ++ [s.id]
  · rw [← own.eq_of_length (by simp), free, littered, FileM.changed,
      FileTree.get?_fill_of_away below fun inside => inside.2 rfl, FileTree.get?_put top, if_pos rfl]
    simpa using Ne.symm file
  · rw [elsewhere _ own]

end Release

end

namespace Release

theorem leftovers_never_leak_stale_binary :
    let r := fixed "." "1.0.0" [("x86_64-linux", []), ("riscv64-linux", binary)]
    let v := project [(["p", "pkg"], .directory)] []
    let w := littered v ["p", ".release-scratch", "x86_64-linux"] binary
    let targets := [⟨"x86_64-linux"⟩, ⟨"riscv64-linux"⟩]
    w.isFile ⟨".release-scratch/x86_64-linux/bin/mufiz"⟩ ∧
    ((r.builder.build ⟨"x86_64-linux"⟩ r.config.scratchDir).exec w).1 =
      ((r.builder.build ⟨"x86_64-linux"⟩ r.config.scratchDir).exec v).1 ∧
    ((r.builder.build ⟨"x86_64-linux"⟩ r.config.scratchDir).exec v).1.toBool = false ∧
    (r.buildArchives targets w).1 = (r.buildArchives targets v).1 ∧
    ((r.buildArchives targets v).1.get? ⟨"riscv64-linux"⟩).map Except.toBool = some true := by
  intro r v w targets
  let outputs := [("x86_64-linux", []), ("riscv64-linux", binary)]
  have below : ∀ o ∈ outputs, ∀ n ∈ o.2, n.1 ≠ [] := by decide
  have noLink : ∀ o ∈ outputs, ∀ n ∈ o.2, ∀ target, n.2 ≠ .link target := by
    have plain : ∀ o ∈ outputs, ∀ n ∈ o.2, n.2 = .directory ∨ n.2 = .file [7] true := by decide
    intro o member n inside target
    rcases plain o member n inside with same | same <;> simp [same]
  have confined : r.compiler.Confined := Compiler.confined_fixed (exists_output below) (exists_output noLink)
  have depends : r.compiler.Depends fun k => ¬ ["p", ".release-scratch"] <+: k ∧ ¬ ["p", "pkg"] <+: k :=
    (Compiler.reads_fixed (exists_output below) ⟨by decide, by decide⟩).depends confined.toEnclosed
  have free : ∀ x ∈ [w, v], ∀ t ∈ targets, x.files.get? (r.draftPlace ["p", "pkg"] t) = none := by decide +kernel
  have soundW : w.files.Sound := FileTree.sound_of_nodes (by decide +kernel)
  have soundV : v.files.Sound := FileTree.sound_of_nodes (by decide +kernel)
  have groundW : r.Ground targets ["p", ".release-scratch"] ["p", "pkg"] w := {
    product := ⟨by decide, by decide, by decide, by decide⟩
    version := by decide
    leadsScratch := ⟨by decide +kernel, by decide +kernel, by decide +kernel⟩
    leadsOut := ⟨by decide +kernel, by decide +kernel, by decide +kernel⟩
    apart := by decide
    sound := soundW
    tidy := fun t member => ⟨fun target => by simp [free w (by simp) t member], by
      simp [FileTree.Alone, w, littered, FileM.changed, FileTree.groups_fill, v, project, FileTree.put]⟩ }
  have groundV : r.Ground targets ["p", ".release-scratch"] ["p", "pkg"] v := { groundW with
    leadsScratch := ⟨by decide +kernel, by decide +kernel, by decide +kernel⟩
    leadsOut := ⟨by decide +kernel, by decide +kernel, by decide +kernel⟩
    sound := soundV
    tidy := fun t member => ⟨fun target => by simp [free v (by simp) t member], by simp [FileTree.Alone, v, project]⟩ }
  have vacant : ∀ t ∈ targets, ∀ e, w.files.get? (["p", ".release-scratch"] ++ [t.id]) = some e → e = .directory := by
    decide +kernel
  have leftovers : Leftovers targets ["p", ".release-scratch"] w v :=
    leftovers_littered (t := ⟨"x86_64-linux"⟩) (by simp [targets]) (by simp [binary]) (by decide +kernel)
  have names : ∀ t ∈ targets, IsName t.id := by
    simp only [targets, List.forall_mem_cons]
    exact ⟨⟨by decide, by decide, by decide, by decide⟩, ⟨by decide, by decide, by decide, by decide⟩,
      List.forall_mem_nil _⟩
  have accepted : Catalog.ofIds ["x86_64-linux", "riscv64-linux"] = .ok ⟨targets, none⟩ := by decide
  obtain ⟨builds, releases⟩ := leftovers_never_leak groundW.product (confined.installs _) depends (fun _ => And.left)
    ⟨by decide +kernel, by decide +kernel, by decide +kernel⟩ soundW soundV
    (fun t member target link => by cases vacant t member _ link) leftovers
  obtain ⟨-, outcomes, -⟩ := releases _ _ _ accepted (List.Subset.refl _) names (fun _ => And.right) groundW groundV
  exact ⟨by decide +kernel, (builds r.builder rfl rfl _ (by simp [targets])).1, by decide +kernel, outcomes,
    by decide +kernel⟩

/-- A release of a project with the toolchain of `fixed`, and what is left in the directory of one target. -/
structure Litter where
  ids : List String
  owner : String
  project : String
  version : String
  outputs : List (String × List (Location × Entry))
  nodes : List (Location × Entry)
  entries : List (Location × Entry)

namespace Litter

def release (s : Litter) : Release :=
  fixed s.project s.version s.outputs

def targets (s : Litter) : List Target :=
  s.ids.map Target.mk

def clean (s : Litter) : Workspace :=
  Release.project s.nodes []

def start (s : Litter) : Workspace :=
  littered s.clean ["p", ".release-scratch", s.owner] s.entries

/-- A target comes to another outcome or another archive than without what was left. -/
def Leaks (s : Litter) : Prop :=
  let dirty := s.release.buildArchives s.targets s.start
  let clean := s.release.buildArchives s.targets s.clean
  ∃ t ∈ s.targets, (dirty.1.get? t).map Except.toBool ≠ (clean.1.get? t).map Except.toBool ∨
    dirty.2.files.get? (s.release.archivePlace ["p", "pkg"] t) ≠
      clean.2.files.get? (s.release.archivePlace ["p", "pkg"] t)

instance (s : Litter) : Decidable s.Leaks :=
  inferInstanceAs (Decidable (∃ _ ∈ _, _))

/-- Catalog and toolchain are as they should be, and the files differ in what was left alone. -/
structure Admitted (s : Litter) : Prop where
  accepted : Catalog.ofIds s.ids = .ok ⟨s.targets, none⟩
  soundStart : s.start.files.Sound
  soundClean : s.clean.files.Sound
  enclosed : s.release.compiler.Enclosed
  depends : s.release.compiler.Depends fun k => ¬ ["p", ".release-scratch"] <+: k ∧ ¬ ["p", "pkg"] <+: k
  leftovers : Leftovers (⟨s.owner⟩ :: s.targets) ["p", ".release-scratch"] s.start s.clean

def all : List Litter := [
  -- The draft is a link into what was left.
  { ids := ["a"], owner := "c", project := ".", version := "1", outputs := [("a", binary)],
    nodes := [(["p", "pkg"], .directory),
      (["p", "pkg", "mufiz_1_a.zip.partial"], .link ⟨"../.release-scratch/c/x"⟩)],
    entries := [] },
  -- The toolchain makes a link to what was left.
  { ids := ["a"], owner := "c", project := ".", version := "1", outputs := [("a", [(["bin"], .link ⟨"../c/bin"⟩)])],
    nodes := [(["p", "pkg"], .directory)], entries := binary },
  -- The directory of the target is a link to the one where it was left.
  { ids := ["a"], owner := "c", project := ".", version := "1", outputs := [("a", binary)],
    nodes := [(["p", "pkg"], .directory), (["p", ".release-scratch", "a"], .link ⟨"c"⟩)], entries := [] },
  -- The version has slashes, and archives end up where it was left.
  { ids := ["a"], owner := "c", project := ".", version := "/../../.release-scratch/c/x", outputs := [("a", binary)],
    nodes := [(["p", "pkg"], .directory), (["p", "pkg", "mufiz_"], .directory)], entries := [] },
  -- The place of an archive is the directory where it was left.
  { ids := ["a"], owner := "mufiz_1_a.zip", project := ".", version := "1", outputs := [("a", binary)],
    nodes := [(["p", "pkg"], .link ⟨".release-scratch"⟩)], entries := [] },
  -- The path of the project goes through what was left.
  { ids := ["a"], owner := "c", project := "./.release-scratch/c/l", version := "1", outputs := [("a", binary)],
    nodes := [(["p", "pkg"], .directory)], entries := [(["l"], .link ⟨"../.."⟩)] }]

theorem leaks_all : ∀ s ∈ all, s.Leaks := by
  -- The scenes are run one by one, so that only one run at a time is held in memory.
  simp only [all, List.forall_mem_cons]
  refine ⟨?_, ?_, ?_, ?_, ?_, ?_, List.forall_mem_nil _⟩ <;> decide +kernel

theorem admitted_all : ∀ s ∈ all, s.Admitted := by
  intro s member
  have below : (∀ o ∈ s.outputs, ∀ n ∈ o.2, n.1 ≠ []) ∧ ∀ n ∈ s.entries, n.1 ≠ [] := by
    revert s
    decide
  have sited : Catalog.ofIds s.ids = .ok ⟨s.targets, none⟩ ∧
      (∀ n ∈ s.start.files.nodes, s.start.files.get? n.1.dropLast = some .directory) ∧
      (∀ n ∈ s.clean.files.nodes, s.clean.files.get? n.1.dropLast = some .directory) ∧
      s.clean.files.get? (["p", ".release-scratch"] ++ [s.owner]) = none := by
    revert s
    decide +kernel
  obtain ⟨accepted, nodes, nodes', free⟩ := sited
  have enclosed : s.release.compiler.Enclosed := Compiler.enclosed_fixed (exists_output below.1)
  exact ⟨accepted, FileTree.sound_of_nodes nodes, FileTree.sound_of_nodes nodes', enclosed,
    (Compiler.reads_fixed (exists_output below.1) ⟨by decide, by decide⟩).depends enclosed,
    leftovers_littered (t := ⟨s.owner⟩) List.mem_cons_self below.2 free⟩

/-- Two targets whose binaries are different. -/
def pair : Release :=
  fixed "." "1" [("a", binary), ("c", [(["bin"], .directory), (["bin", "mufiz"], .file [8] true)])]

/-- The files of a project where the drafts of these targets are one file, and nothing was left by builds. -/
def shared : Workspace :=
  let drafts := [["p", "pkg", "mufiz_1_a.zip.partial"], ["p", "pkg", "mufiz_1_c.zip.partial"]]
  Release.project ((["p", "pkg"], .directory) :: drafts.map fun k => (k, .file [] false)) [drafts]

/-- Two crews that start alike come to different archives of the first target. -/
def Wavers (r : Release) (w : Workspace) : Prop :=
  ∃ crew crew' o o',
    Crew.Reach r [⟨"a"⟩, ⟨"c"⟩] ["p", ".release-scratch"] ["p", "pkg"] (fun _ => False)
      (.initial 1 [⟨"a"⟩, ⟨"c"⟩] w) crew ∧ crew.pool.outcomes? [⟨"a"⟩, ⟨"c"⟩] = some o ∧
    Crew.Reach r [⟨"a"⟩, ⟨"c"⟩] ["p", ".release-scratch"] ["p", "pkg"] (fun _ => False)
      (.initial 1 [⟨"a"⟩, ⟨"c"⟩] w) crew' ∧ crew'.pool.outcomes? [⟨"a"⟩, ⟨"c"⟩] = some o' ∧
    crew.workspace.files.get? (r.archivePlace ["p", "pkg"] ⟨"a"⟩) ≠
      crew'.workspace.files.get? (r.archivePlace ["p", "pkg"] ⟨"a"⟩)

/-- What a crew comes to whose workers take their turns in an order. -/
def worked (order : List Nat) : Crew :=
  order.foldl (Crew.turn pair [⟨"a"⟩, ⟨"c"⟩]) (.initial 1 [⟨"a"⟩, ⟨"c"⟩] shared)

theorem reach_worked (order : List Nat) :
    Crew.Reach pair [⟨"a"⟩, ⟨"c"⟩] ["p", ".release-scratch"] ["p", "pkg"] (fun _ => False)
      (.initial 1 [⟨"a"⟩, ⟨"c"⟩] shared) (worked order) :=
  Crew.Reach.start.turns order

/-- Where two drafts are one file, an archive depends on the order of the builds. -/
theorem wavers_pair : Wavers pair shared := by
  -- A worker is done after ten turns.
  let first := List.replicate 10 0
  let second := List.replicate 10 1
  have ran : ((worked (first ++ second)).pool.outcomes? [⟨"a"⟩, ⟨"c"⟩]).isSome ∧
      ((worked (second ++ first)).pool.outcomes? [⟨"a"⟩, ⟨"c"⟩]).isSome ∧
      (worked (first ++ second)).workspace.files.get? (pair.archivePlace ["p", "pkg"] ⟨"a"⟩) ≠
        (worked (second ++ first)).workspace.files.get? (pair.archivePlace ["p", "pkg"] ⟨"a"⟩) := by
    decide +kernel
  obtain ⟨returned, returned', apart⟩ := ran
  obtain ⟨o, returned⟩ := Option.isSome_iff_exists.mp returned
  obtain ⟨o', returned'⟩ := Option.isSome_iff_exists.mp returned'
  exact ⟨_, _, o, o', reach_worked _, returned, reach_worked _, returned', apart⟩

/-- Where a draft or the directory of a target is a link, or the toolchain makes links, or the version has slashes, or
the output directory is the scratch directory, or the path of the project goes through the directory of a target, what
was left there can decide what a release comes to. Where two drafts are one file, the order of the builds can. -/
theorem each_leaks : (all.Forall fun s => s.Admitted ∧ s.Leaks) ∧ Wavers pair shared := by
  refine ⟨?_, wavers_pair⟩
  rw [List.forall_iff_forall_mem]
  exact fun s member => ⟨admitted_all s member, leaks_all s member⟩

end Litter

end Release

end ReleaseMatrix
