import ReleaseMatrix.Proofs.FixedCompiler

namespace ReleaseMatrix

/-- Whatever is there shows a size. -/
@[simp] theorem Workspace.isSome_size?_look (w : Workspace) (p : Path) : (w.look p).size?.isSome = w.exists? p := by
  rw [look, exists?]
  split <;> simp_all

@[simp] theorem Workspace.isRegular_look (w : Workspace) (p : Path) : (w.look p).isRegular = w.isFile p := by
  rw [look, isFile]
  split <;> simp_all [Entry.isFile]

theorem Workspace.exists?_of_isFile {w : Workspace} {p : Path} (regular : w.isFile p) : w.exists? p := by
  rw [isFile] at regular
  rw [exists?]
  cases found : w.entry? p with
  | none => simp [found] at regular
  | some e => rfl

/-- Two looks at the same thing agree if there is something. -/
theorem Look.agrees_self (look : Look) : look.agrees look.size? = look.size?.isSome := by
  simp [agrees]

theorem Look.agrees_none (look : Look) : look.agrees none = false := by
  cases look with
  | mk size? isRegular => cases size? <;> rfl

namespace Barrier

/-- How a wait that nothing bounds ends, from look number `k` on, `last` being the size at the look before: its
verdict, and the number of its last look. -/
inductive Waits (b : Barrier) (elapsed : Nat → Nat) (view : Nat → Look) : Nat → Option Nat → Bool × Nat → Prop
  | settled {k : Nat} {last : Option Nat} (agrees : (view k).agrees last) : Waits b elapsed view k last (true, k)
  | expired {k : Nat} {last : Option Nat} (unsettled : ¬ (view k).agrees last) (late : b.timeout ≤ elapsed k) :
      Waits b elapsed view k last ((view k).isRegular, k)
  | again {k : Nat} {last : Option Nat} {verdict : Bool × Nat} (unsettled : ¬ (view k).agrees last)
      (early : elapsed k < b.timeout) (rest : Waits b elapsed view (k + 1) (view k).size? verdict) :
      Waits b elapsed view k last verdict

variable {b : Barrier} {elapsed : Nat → Nat} {view : Nat → Look} {k n : Nat} {last : Option Nat}
variable {verdict verdict' : Bool × Nat}

theorem Waits.unique (waits : b.Waits elapsed view k last verdict) (waits' : b.Waits elapsed view k last verdict') :
    verdict = verdict' := by
  induction waits with
  | settled agrees =>
    cases waits' with
    | settled => rfl
    | expired unsettled | again unsettled => exact absurd agrees unsettled
  | expired unsettled late =>
    cases waits' with
    | settled agrees => exact absurd agrees unsettled
    | expired => rfl
    | again _ early => exact absurd late (Nat.not_le.mpr early)
  | again unsettled early _ ih =>
    cases waits' with
    | settled agrees => exact absurd agrees unsettled
    | expired _ late => exact absurd late (Nat.not_le.mpr early)
    | again _ _ rest => exact ih rest

/-- A wait is over at the first look that comes when the time is up, if not before. -/
theorem exists_waits (reached : b.timeout ≤ elapsed n) (ahead : k ≤ n) (last : Option Nat) :
    ∃ verdict, b.Waits elapsed view k last verdict ∧ verdict.2 ≤ n := by
  -- The looks that are left until the time is up carry the induction.
  induction rest : n - k generalizing k last with
  | zero =>
    obtain rfl : k = n := by omega
    by_cases agrees : (view k).agrees last
    · exact ⟨_, .settled agrees, Nat.le_refl _⟩
    · exact ⟨_, .expired agrees reached, Nat.le_refl _⟩
  | succ m ih =>
    by_cases agrees : (view k).agrees last
    · exact ⟨_, .settled agrees, ahead⟩
    by_cases late : b.timeout ≤ elapsed k
    · exact ⟨_, .expired agrees late, ahead⟩
    obtain ⟨verdict, waits, bound⟩ := ih (k := k + 1) (by omega) (view k).size? (by omega)
    exact ⟨verdict, .again agrees (Nat.not_le.mp late) waits, bound⟩

theorem waits_verdictFrom (clock : Clock) (reached : b.timeout ≤ clock.elapsed (k + n)) :
    b.Waits clock.elapsed view k last (b.verdictFrom clock view n k last) := by
  induction n generalizing k last with
  | zero =>
    rw [verdictFrom]
    by_cases agrees : (view k).agrees last
    · rw [agrees, Bool.true_or]
      exact .settled agrees
    · rw [Bool.not_eq_true] at agrees
      rw [agrees, Bool.false_or]
      exact .expired (by simp [agrees]) reached
  | succ n ih =>
    rw [verdictFrom]
    split
    · next agrees => exact .settled agrees
    · next agrees =>
      split
      · next late => exact .expired agrees late
      · next late => exact .again agrees (Nat.not_le.mp late) (ih (by rwa [Nat.add_assoc, Nat.add_comm 1]))

/-- The bound on its looks never ends a wait: every clock lets the time be up before. -/
theorem waits_iff_verdict (clock : Clock) :
    b.Waits clock.elapsed view 0 none verdict ↔ verdict = b.verdict clock view := by
  have waits : b.Waits clock.elapsed view 0 none (b.verdict clock view) :=
    waits_verdictFrom clock (by simpa using clock.le_elapsed b.timeout)
  exact ⟨fun waits' => waits'.unique waits, fun same => same ▸ waits⟩

/-- A wait that ends in vain looked until the time was up, saw no size twice, and no regular file in the end. -/
theorem waits_false_iff : b.Waits elapsed view k last (false, n) ↔
    k ≤ n ∧ b.timeout ≤ elapsed n ∧ (∀ j, k ≤ j → j < n → elapsed j < b.timeout) ∧ ¬ (view k).agrees last ∧
      (∀ j, k ≤ j → j < n → ¬ (view (j + 1)).agrees (view j).size?) ∧ (view n).isRegular = false := by
  constructor
  · intro waits
    generalize vain : (false, n) = verdict at waits
    induction waits with
    | settled => simp at vain
    | @expired k last unsettled late =>
      obtain ⟨regular, rfl⟩ := Prod.mk.inj vain
      exact ⟨Nat.le_refl _, late, fun j _ _ => by omega, unsettled, fun j _ _ => by omega, regular.symm⟩
    | @again k last verdict unsettled early rest ih =>
      obtain ⟨ahead, late, before, first, apart, regular⟩ := ih vain
      refine ⟨by omega, late, fun j from_k until_n => ?_, unsettled, fun j from_k until_n => ?_, regular⟩
      · obtain rfl | later := Nat.eq_or_lt_of_le from_k
        · exact early
        · exact before j later until_n
      · obtain rfl | later := Nat.eq_or_lt_of_le from_k
        · exact first
        · exact apart j later until_n
  · rintro ⟨ahead, late, before, first, apart, regular⟩
    induction rest : n - k generalizing k last with
    | zero =>
      obtain rfl : k = n := by omega
      exact regular ▸ .expired first late
    | succ m ih =>
      refine .again first (before k (Nat.le_refl _) (by omega)) ?_
      exact ih (by omega) (fun j from_k => before j (by omega)) (apart k (Nat.le_refl _) (by omega))
        (fun j from_k => apart j (by omega)) (by omega)

/-- A wait succeeds only at a look that shows something. -/
theorem Waits.shows (waits : b.Waits elapsed view k last verdict) (ended : verdict.1 = true) :
    (view verdict.2).size?.isSome ∨ (view verdict.2).isRegular := by
  induction waits with
  | settled agrees => exact .inl (Bool.and_eq_true_iff.mp agrees).1
  | expired => exact .inr ended
  | again _ _ _ ih => exact ih ended

/-- Waiting for a path in files that do not change ends for every timing, at the latest when the time is up. The
verdict is whether the path is a regular file, except that anything else that is there will do at a second look, which
is taken unless the time is up at once. -/
theorem waits_unchanging {w : Workspace} {p : Path} (reached : ∃ m, b.timeout ≤ elapsed m) :
    ∃ ended last, (∀ verdict, b.Waits elapsed (fun _ => w.look p) 0 none verdict ↔ verdict = (ended, last)) ∧
      (∀ m, b.timeout ≤ elapsed m → last ≤ m) ∧
      ended = (if b.timeout ≤ elapsed 0 then w.isFile p else w.exists? p) ∧
      (ended = w.isFile p ↔ b.timeout ≤ elapsed 0 ∨ (w.exists? p → w.isFile p)) ∧
      ∀ clock : Clock, clock.elapsed = elapsed → b.verdict clock (fun _ => w.look p) = (ended, last) := by
  have ends (m : Nat) (late : b.timeout ≤ elapsed m) :
      ∃ verdict, b.Waits elapsed (fun _ => w.look p) 0 none verdict ∧ verdict.2 ≤ m :=
    exists_waits late (Nat.zero_le m) none
  obtain ⟨m, late⟩ := reached
  obtain ⟨⟨ended, last⟩, waits, -⟩ := ends m late
  have first : ¬ (w.look p).agrees none := by simp [Look.agrees_none]
  have told : ended = (if b.timeout ≤ elapsed 0 then w.isFile p else w.exists? p) := by
    split
    · next atOnce =>
      rw [← Workspace.isRegular_look]
      exact congrArg Prod.fst (waits.unique (.expired first atOnce))
    · next early =>
      cases present : w.exists? p with
      | true =>
        have again : (w.look p).agrees (w.look p).size? := by rw [Look.agrees_self, Workspace.isSome_size?_look, present]
        exact congrArg Prod.fst (waits.unique (.again first (Nat.not_le.mp early) (.settled again)))
      | false =>
        refine Bool.eq_false_iff.mpr fun success => ?_
        have shows := waits.shows success
        rw [Workspace.isSome_size?_look, Workspace.isRegular_look] at shows
        exact absurd (shows.elim id Workspace.exists?_of_isFile) (by simp [present])
  refine ⟨ended, last, fun verdict => ⟨fun waits' => waits'.unique waits, fun same => same ▸ waits⟩, fun m' late' => ?_,
    told, ?_, ?_⟩
  · obtain ⟨verdict, waits', bound⟩ := ends m' late'
    obtain rfl := waits.unique waits'
    exact bound
  · rw [told]
    split
    · next atOnce => simp [atOnce]
    · next early =>
      rw [or_iff_right early]
      constructor
      · intro same present
        exact same ▸ present
      · intro regular
        rw [Bool.eq_iff_iff]
        exact ⟨regular, Workspace.exists?_of_isFile⟩
  · rintro clock rfl
    exact ((waits_iff_verdict clock).mp waits).symm

theorem waits_unchanging_empty_file :
    let w : Workspace := ⟨⟨[(["mufiz"], .file [] true)], []⟩, [], []⟩
    let clock := Clock.steady 200
    (∃ m, Barrier.default.timeout ≤ clock.elapsed m) ∧
      ∃ last, (∀ m, Barrier.default.timeout ≤ clock.elapsed m → last ≤ m) ∧
        Barrier.default.verdict clock (fun _ => w.look ⟨"mufiz"⟩) = (true, last) := by
  intro w clock
  have reached : ∃ m, Barrier.default.timeout ≤ clock.elapsed m := ⟨50, by decide⟩
  obtain ⟨ended, last, -, bound, told, -, verdict⟩ := waits_unchanging (w := w) (p := ⟨"mufiz"⟩) reached
  obtain rfl : ended = true := told
  exact ⟨reached, last, bound, verdict clock rfl⟩

/-- With time to look twice a directory counts as settled, although it is no file, and without it does not. -/
theorem settles_directory :
    let w : Workspace := ⟨⟨[(["d"], .directory)], []⟩, [], []⟩
    w.isFile ⟨"d"⟩ = false ∧ wait ⟨0, 0, 50⟩ w ⟨"d"⟩ = true ∧ wait ⟨0, 0, 0⟩ w ⟨"d"⟩ = false := by
  decide +kernel

end Barrier

namespace Builder

variable {b : Builder} {t : Target} {q : BuildRequest} {w u v : Workspace} {p : Path}

/-- The name of a binary with the suffix that binaries of its target have. -/
def fullName (b : Builder) (q : BuildRequest) : Path :=
  (q.installDir.join "bin").join (b.product ++ q.target.exeSuffix)

/-- The name of a binary without a suffix. -/
def bareName (b : Builder) (q : BuildRequest) : Path :=
  (q.installDir.join "bin").join b.product

/-- A wait for `p` in vain, whose last look is number `last`: the first one for which the time is up, after no two
looks in a row agreed. It shows no regular file. -/
structure Misses (b : Builder) (q : BuildRequest) (w : Workspace) (p : Path) (last : Nat) : Prop where
  late : b.barrier.timeout ≤ b.clock.elapsed last
  early : ∀ k < last, b.clock.elapsed k < b.barrier.timeout
  apart : ∀ k < last, ¬ (b.view q w p (k + 1)).agrees (b.view q w p k).size?
  missing : (b.seen q w (2 * last + 3)).isFile p = false

theorem misses_iff {last : Nat} :
    b.Misses q w p last ↔ b.barrier.verdict b.clock (b.view q w p) = (false, last) := by
  rw [eq_comm, ← Barrier.waits_iff_verdict, Barrier.waits_false_iff]
  constructor
  · intro misses
    exact ⟨Nat.zero_le _, misses.late, fun k _ => misses.early k, by simp [Look.agrees_none],
      fun k _ => misses.apart k, by simpa [view] using misses.missing⟩
  · rintro ⟨-, late, early, -, apart, missing⟩
    exact ⟨late, fun k => early k (Nat.zero_le _), fun k => apart k (Nat.zero_le _), by simpa [view] using missing⟩

/-- A wait for what is never there is in vain. -/
theorem exists_misses (absent : ∀ moment, (b.seen q w moment).exists? p = false) : ∃ last, b.Misses q w p last := by
  refine ⟨(b.barrier.verdict b.clock (b.view q w p)).2, misses_iff.mpr (Prod.ext ?_ rfl)⟩
  have waits : b.barrier.Waits b.clock.elapsed (b.view q w p) 0 none (b.barrier.verdict b.clock (b.view q w p)) :=
    (Barrier.waits_iff_verdict b.clock).mpr rfl
  refine Bool.eq_false_iff.mpr fun success => ?_
  obtain sized | regular := waits.shows success
  · simp [view, absent] at sized
  · have present := Workspace.exists?_of_isFile (by simpa [view] using regular)
    simp [absent] at present

/-- The name is chosen by what is there before the waiting begins. -/
theorem chosen_eq : b.chosen q w =
    if (b.seen q w 0).exists? (b.fullName q) ∨ ¬ (b.seen q w 1).exists? (b.bareName q)
      then b.fullName q else b.bareName q := by
  by_cases plain : q.target.exeSuffix = ""
  · have same : b.fullName q = b.bareName q := by rw [fullName, bareName, plain, String.append_empty]
    simp [chosen, Scratch.binaryBetween, plain, same, bareName]
  · simp only [chosen, Scratch.binaryBetween]
    change (if _ && !(b.seen q w 0).exists? (b.fullName q) && (b.seen q w 1).exists? (b.bareName q) then b.bareName q
      else b.fullName q) = _
    cases (b.seen q w 0).exists? (b.fullName q) <;> cases (b.seen q w 1).exists? (b.bareName q) <;> simp [plain]

/-- A build whose compiler has succeeded reports that there is no binary just if it waited in vain for the name that
it had chosen before. What it misses when the time is up is a binary under the other name: the bare one where the
suffixed one was there at first or the bare one was not, and the suffixed one where it was not there and the bare
one was. -/
theorem binaryMissing_iff {root installDir : Path} (named : Scratch.directory root t = .ok installDir)
    (emptied : (Scratch.reset installDir).exec w = (.ok (), u))
    (compiled : (b.compiler.compile ⟨t, b.profile t, installDir⟩).exec
      (u.record (.compiled ⟨t, b.profile t, installDir⟩)) = (.ok (), v)) :
    let q : BuildRequest := ⟨t, b.profile t, installDir⟩
    (∀ id p, ((b.build t root).exec w).1 = .error (.failed (.binaryMissing id p)) ↔
      id = t.id ∧ p = b.chosen q v ∧ ∃ last, b.Misses q v p last) ∧
    ∀ last, b.Misses q v (b.chosen q v) last →
      let late := b.seen q v (2 * last + 3)
      (late.isFile (b.fullName q) ∨ late.isFile (b.bareName q) ↔ t.exeSuffix ≠ "" ∧
        if (b.seen q v 0).exists? (b.fullName q) ∨ ¬ (b.seen q v 1).exists? (b.bareName q)
          then late.isFile (b.bareName q) else late.isFile (b.fullName q)) := by
  intro q
  have ran : (b.build t root).exec w = (b.waitForBinary q).exec v := by
    rw [Release.Stage.build_of_directory named, TaskM.exec_bind, WorkM.exec_ofTask, emptied]
    dsimp only [Except.mapError]
    rw [Release.Stage.exec_compileAndWait, TaskM.exec_bind, compiled]
  refine ⟨fun id p => ?_, fun last misses => ?_⟩
  · rw [ran, exec_waitForBinary_eq]
    constructor
    · intro reported
      dsimp only at reported
      split at reported
      · cases reported
      · next vain =>
        obtain ⟨rfl, rfl⟩ : t.id = id ∧ b.chosen q v = p := by simpa using reported
        exact ⟨rfl, rfl, _, misses_iff.mpr (Prod.ext (Bool.not_eq_true _ ▸ vain) rfl)⟩
    · rintro ⟨rfl, rfl, last, misses⟩
      rw [misses_iff.mp misses]
      rfl
  · have missing := misses.missing
    rw [chosen_eq] at missing
    by_cases plain : t.exeSuffix = ""
    · have same : b.fullName q = b.bareName q := by rw [fullName, bareName, plain, String.append_empty]
      simp only [same, ite_self] at missing
      simp [plain, same, missing]
    · dsimp only
      split at missing
      · next before =>
        rw [if_pos before]
        simp [plain, missing]
      · next before =>
        rw [if_neg before]
        simp [plain, missing]

end Builder

/-- A toolchain that leaves the binary of a target under its bare name, but not before the name that is waited for
has been chosen. -/
def Compiler.tardy (bin : Location) : Compiler :=
  ⟨fun _ => pure (), fun _ moment files =>
    if moment < 2 then files else (files.put bin .directory).put (bin ++ ["mufiz"]) (.file [77, 90] true)⟩

namespace Builder

theorem binaryMissing_iff_tardy :
    let w : Workspace := ⟨⟨[(["s"], .directory)], []⟩, [], []⟩
    let t : Target := ⟨"x86_64-windows"⟩
    let installDir : Path := ⟨"/s/x86_64-windows"⟩
    let b : Builder := ⟨.tardy ["s", "x86_64-windows", "bin"], "mufiz", "", ⟨0, 200, 400⟩, .steady 200⟩
    let q : BuildRequest := ⟨t, b.profile t, installDir⟩
    let u := ((Scratch.reset installDir).exec w).2
    Scratch.directory ⟨"/s"⟩ t = .ok installDir ∧ (Scratch.reset installDir).exec w = (.ok (), u) ∧
      (b.compiler.compile q).exec (u.record (.compiled q)) = (.ok (), u.record (.compiled q)) ∧
      ∃ last, b.Misses q (u.record (.compiled q)) ⟨"/s/x86_64-windows/bin/mufiz.exe"⟩ last := by
  intro w t installDir b q u
  have named : Scratch.directory ⟨"/s"⟩ t = .ok installDir := by
    rw [Scratch.directory, if_pos (by decide +kernel)]
    exact congrArg Except.ok (by decide)
  have emptied : (Scratch.reset installDir).exec w = (.ok (), u) :=
    TaskM.exec_eq_of_toBool (by decide +kernel) rfl
  have reported : ((b.build t ⟨"/s"⟩).exec w).1 =
      .error (.failed (.binaryMissing t.id ⟨"/s/x86_64-windows/bin/mufiz.exe"⟩)) := by decide +kernel
  obtain ⟨-, chosen, misses⟩ := ((binaryMissing_iff (b := b) named emptied rfl).1 _ _).mp reported
  exact ⟨named, emptied, rfl, chosen ▸ misses⟩

/-- A binary that comes late is missed where its name was not the one that was chosen, and so is one that is there
all the time beside a directory that has the name with the suffix. -/
theorem binary_missed :
    let w : Workspace := ⟨⟨[(["s"], .directory)], []⟩, [], []⟩
    let t : Target := ⟨"x86_64-windows"⟩
    let late : Builder := ⟨.tardy ["s", "x86_64-windows", "bin"], "mufiz", "", ⟨0, 200, 400⟩, .steady 200⟩
    let beside : Builder := { late with
      compiler := .fixed [] fun _ => some [(["bin"], .directory), (["bin", "mufiz.exe"], .directory),
        (["bin", "mufiz"], .file [77, 90] true)]
      barrier := ⟨0, 0, 0⟩ }
    [late, beside].Forall fun b => ((b.build t ⟨"/s"⟩).exec w).1 =
      .error (.failed (.binaryMissing t.id ⟨"/s/x86_64-windows/bin/mufiz.exe"⟩)) ∧
        ((b.build t ⟨"/s"⟩).exec w).2.isFile ⟨"/s/x86_64-windows/bin/mufiz"⟩ := by
  decide +kernel

end Builder

end ReleaseMatrix
