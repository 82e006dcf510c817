import ReleaseMatrix.Proofs.Isolation

namespace ReleaseMatrix.Release

theorem buildArchives_nil (r : Release) (w : Workspace) : r.buildArchives [] w = (⟨[]⟩, w) := rfl

theorem buildArchives_cons (r : Release) (t : Target) (targets : List Target) (w : Workspace) :
    r.buildArchives (t :: targets) w =
      let first := (r.buildTarget t).exec w
      let rest := r.buildArchives targets (first.2.record (.finished t))
      (⟨(t, Schedule.settle first.1) :: rest.1.entries⟩, rest.2) := by
  rw [buildArchives, Schedule.run_cons, Schedule.runOne_eq]
  rfl

namespace Stage

variable {r : Release} {t : Target} {s u : Stage} {w v : Workspace}

/-- How many steps a worker still takes at most. -/
def left : Stage → Nat
  | .reset => 7
  | .compile _ => 6
  | .locate _ => 5
  | .draft _ => 4
  | .undo _ | .rename _ => 3
  | .unlink _ => 2
  | .sweep _ => 1
  | .done _ => 0

theorem left_after {α : Type} {next : α → Stage} {n : Nat} (going : ∀ a, (next a).left ≤ n) (some_ : 1 ≤ n)
    (ending : Except (Stop BuildError) α) : (after next ending).left ≤ n := by
  rcases ending with (error | crash) | a
  · exact some_
  · exact Nat.zero_le n
  · exact going a

/-- A worker that is not done gets on with each step. -/
theorem left_next (s : Stage) (w : Workspace) : (s.next r t w).1.left ≤ s.left - 1 := by
  cases s with
  | reset =>
    simp only [next]
    cases Scratch.directory r.config.scratchDir t with
    | error error => simp [resetting, left]
    | ok p =>
      simp only [resetting]
      exact left_after (fun _ => by simp [left]) (by simp [left]) _
  | compile request =>
    simp only [next]
    exact left_after (fun _ => by simp [left]) (by simp [left]) _
  | locate request =>
    simp only [next]
    exact left_after (fun _ => by simp [left]) (by simp [left]) _
  | draft binary =>
    simp only [next]
    cases ((Archiver.writeDraft binary (Archive.entryName binary t) (archivePath r t)).exec w).1 <;>
      simp [afterDraft, left]
  | rename binary =>
    simp only [next]
    cases ((FileM.rename (Archive.draft (archivePath r t)) (archivePath r t)).exec w).1 <;>
      simp [afterRename, left]
  | undo error | unlink binary | sweep archived | done ending => simp [next, left]

theorem Works.first (works : Works r t (s.next r t w).1 (s.next r t w).2 u v) : Works r t s w u v := by
  induction works with
  | start => exact .next .start
  | next _ ih => exact .next ih

/-- Every worker is done in the end, if its steps are not broken off. -/
theorem exists_works_done (r : Release) (t : Target) (s : Stage) (w : Workspace) :
    ∃ ending v, Works r t s w (.done ending) v := by
  induction steps : s.left using Nat.strongRecOn generalizing s w with
  | ind n ih =>
    by_cases finished : s.left = 0
    · cases s with
      | done ending => exact ⟨ending, w, .start⟩
      | _ => simp [left] at finished
    · have fewer := left_next (r := r) (t := t) s w
      obtain ⟨ending, v, works⟩ := ih _ (by omega) (s.next r t w).1 (s.next r t w).2 rfl
      exact ⟨ending, v, works.first⟩

/-- The steps of a worker are what building its target comes to. -/
theorem works_buildTarget (r : Release) (t : Target) (w : Workspace) :
    Works r t .reset w (.done ((r.buildTarget t).exec w).1) ((r.buildTarget t).exec w).2 := by
  obtain ⟨ending, v, works⟩ := exists_works_done r t .reset w
  rwa [works.exec_buildTarget]

end Stage

namespace Crew

variable {r : Release} {targets : List Target} {scratch out : Location} {breaks : Target → Prop} {t : Target} {jobs i : Nat}
variable {pool : Schedule.Pool Archive} {stages : List Stage} {s u : Stage} {w v : Workspace} {start : Crew}

/-- A running worker can take all its steps while the others rest. -/
theorem Reach.works (reach : Reach r targets scratch out breaks start ⟨pool, stages.set i s, w⟩)
    (running : pool.phases[i]? = some .running) (at_i : targets[i]? = some t) (bound : i < stages.length)
    (works : Stage.Works r t s w u v) :
    Reach r targets scratch out breaks start ⟨pool, stages.set i u, v⟩ := by
  induction works with
  | start => exact reach
  | @next u v _ ih =>
    have step := ih.next (.advance running at_i (List.getElem?_set_self bound))
    rwa [List.set_set] at step

/-- One worker after the other is one of the orders in which a crew can work. -/
theorem Reach.inOrder {free : Nat} (before waiting : List Target) (ended : List (Schedule.End Archive))
    (done : List Stage) (split : targets = before ++ waiting) (ends : ended.length = before.length)
    (stops : done.length = before.length)
    (reach : Reach r targets scratch out breaks start
      ⟨⟨free + 1, ended.map .joined ++ List.replicate waiting.length .waiting⟩,
        done ++ List.replicate waiting.length .reset, w⟩) :
    ∃ crew, Reach r targets scratch out breaks start crew ∧
      crew.workspace = (r.buildArchives waiting w).2 ∧
      crew.pool.phases.mapM Schedule.Phase.outcome? =
        some (ended.map Schedule.settle ++ (r.buildArchives waiting w).1.entries.map Prod.snd) := by
  induction waiting generalizing ended done before w with
  | nil =>
    refine ⟨_, reach, rfl, ?_⟩
    rw [Schedule.mapM_eq_some_iff, buildArchives_nil]
    simp [Function.comp_def, Schedule.Phase.outcome?]
  | cons t waiting ih =>
    have at_i : targets[ended.length]? = some t := by simp [split, ends]
    have found (phase : Schedule.Phase Archive) (phases : List (Schedule.Phase Archive)) :
        (ended.map Schedule.Phase.joined ++ phase :: phases)[ended.length]? = some phase := by simp
    have placed (phase after : Schedule.Phase Archive) (phases : List (Schedule.Phase Archive)) :
        (ended.map Schedule.Phase.joined ++ phase :: phases).set ended.length after =
          ended.map Schedule.Phase.joined ++ after :: phases := by
      simp
    have staged (stage after : Stage) (stages : List Stage) :
        (done ++ stage :: stages).set ended.length after = done ++ after :: stages := by
      rw [ends, ← stops]
      simp
    simp only [List.length_cons, List.replicate_succ] at reach
    have started := reach.next (.start (.start (found _ _)))
    rw [placed, ← staged .reset .reset] at started
    have worked := started.works (found _ _) at_i (by simp [ends, stops]) (Stage.works_buildTarget r t w)
    rw [staged] at worked
    have stopped (stage : Stage) (stages : List Stage) : (done ++ stage :: stages)[ended.length]? = some stage := by
      simp [ends, stops]
    have finished := worked.next (.finish at_i (stopped _ _) (.finish (found _ _)))
    rw [placed] at finished
    have joined := finished.next (.join (.join (found _ _)))
    rw [placed] at joined
    obtain ⟨crew, reached, leaves, outcomes⟩ := ih (before ++ [t]) (ended ++ [((r.buildTarget t).exec w).1])
      (done ++ [.done ((r.buildTarget t).exec w).1]) (by simp [split]) (by simp [ends]) (by simp [stops])
      (by simpa using joined)
    rw [buildArchives_cons]
    exact ⟨crew, reached, leaves, by simpa using outcomes⟩

theorem exists_reach_buildArchives (r : Release) (targets : List Target) (scratch out : Location)
    (breaks : Target → Prop) (jobs : Nat) (w : Workspace) :
    ∃ crew, Reach r targets scratch out breaks (.initial jobs targets w) crew ∧
      crew.workspace = (r.buildArchives targets w).2 ∧
      crew.pool.outcomes? targets = some (r.buildArchives targets w).1 := by
  obtain ⟨free, permits⟩ := Schedule.exists_permit jobs
  have begun : Crew.initial jobs targets w =
      ⟨⟨free + 1, List.replicate targets.length .waiting⟩, List.replicate targets.length .reset, w⟩ := by
    simp [initial, Schedule.Pool.initial, permits]
  have reached : Reach r targets scratch out breaks (.initial jobs targets w)
      ⟨⟨free + 1, List.replicate targets.length .waiting⟩, List.replicate targets.length .reset, w⟩ :=
    begun ▸ .start
  obtain ⟨crew, reach, leaves, outcomes⟩ := reached.inOrder [] targets [] [] rfl rfl rfl
  refine ⟨crew, reach, leaves, ?_⟩
  obtain ⟨ends, length, entries, -⟩ := Schedule.exists_ends r.buildTarget targets w
  have order : (r.buildArchives targets w).1.entries.map Prod.fst = targets := by
    rw [buildArchives, entries]
    exact List.map_fst_zip (by simp [length])
  rw [Schedule.Pool.outcomes?, outcomes]
  simp only [List.map_nil, List.nil_append, Option.map_some, ← List.zip_of_prod order rfl]

/-- The crew after the next move of one of its workers, if there is one. -/
def turn (r : Release) (targets : List Target) (crew : Crew) (i : Nat) : Crew :=
  let phases := crew.pool.phases
  match crew.pool.free, phases[i]?, targets[i]?, crew.stages[i]? with
  | free + 1, some .waiting, _, _ => { crew with pool := ⟨free, phases.set i .running⟩ }
  | free, some .running, some t, some (.done ending) =>
    ⟨⟨free + 1, phases.set i (.ended ending)⟩, crew.stages, crew.workspace.record (.finished t)⟩
  | _, some .running, some t, some stage =>
    ⟨crew.pool, crew.stages.set i (stage.next r t crew.workspace).1, (stage.next r t crew.workspace).2⟩
  | free, some (.ended ending), _, _ => { crew with pool := ⟨free, phases.set i (.joined ending)⟩ }
  | _, _, _, _ => crew

theorem Reach.turn {crew : Crew} (reach : Reach r targets scratch out breaks start crew) (i : Nat) :
    Reach r targets scratch out breaks start (crew.turn r targets i) := by
  obtain ⟨⟨free, phases⟩, stages, w⟩ := crew
  unfold Crew.turn
  dsimp only
  split
  · next waiting => exact reach.next (.start (.start waiting))
  · next running at_i done => exact reach.next (.finish at_i done (.finish running))
  · next running at_i found => exact reach.next (.advance running at_i found)
  · next ended => exact reach.next (.join (.join ended))
  · exact reach

/-- Workers can take turns in any order. -/
theorem Reach.turns {crew : Crew} (reach : Reach r targets scratch out breaks start crew) (order : List Nat) :
    Reach r targets scratch out breaks start (order.foldl (Crew.turn r targets) crew) := by
  induction order generalizing crew with
  | nil => exact reach
  | cons i order ih => exact ih (reach.turn i)

end Crew

end ReleaseMatrix.Release
