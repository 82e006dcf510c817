import ReleaseMatrix.Proofs.WorkerAgreement
import ReleaseMatrix.Proofs.WorkerPool

namespace ReleaseMatrix.Release

open Workspace (Within)

/-- Workers on the files that they share: the pool they are in, and the stage of each one. -/
structure Crew where
  pool : Schedule.Pool Archive
  stages : List Stage
  workspace : Workspace

namespace Crew

def initial (jobs : Nat) (targets : List Target) (w : Workspace) : Crew :=
  ⟨.initial jobs targets.length, targets.map fun _ => .reset, w⟩

end Crew

/-- The stages that follow a failure or a breakdown. -/
def Stage.IsFailure : Stage → Prop
  | .undo _ | .sweep (.error _) | .done (.error _) => True
  | _ => False

/-- One move of a crew. A running worker does the next step of its work. The worker of a target that `breaks` may
also fail or break down in the middle of a step, with anything done to its own area by then. -/
inductive Crew.Step (r : Release) (targets : List Target) (scratch out : Location) (breaks : Target → Prop) :
    Crew → Crew → Prop
  | start {i : Nat} {pool pool' : Schedule.Pool Archive} {stages : List Stage} {w : Workspace} :
      Schedule.Step pool (.start i) pool' →
      Step r targets scratch out breaks ⟨pool, stages, w⟩ ⟨pool', stages, w⟩
  | advance {i : Nat} {t : Target} {stage : Stage} {pool : Schedule.Pool Archive} {stages : List Stage}
      {w : Workspace} : pool.phases[i]? = some .running → targets[i]? = some t → stages[i]? = some stage →
      Step r targets scratch out breaks ⟨pool, stages, w⟩
        ⟨pool, stages.set i (stage.next r t w).1, (stage.next r t w).2⟩
  | fail {i : Nat} {t : Target} {failure : Stage} {pool : Schedule.Pool Archive} {stages : List Stage}
      {w v : Workspace} : pool.phases[i]? = some .running → targets[i]? = some t → breaks t →
      failure.IsFailure → Within (r.Area scratch out t) w v → r.Tidy out t v →
      Step r targets scratch out breaks ⟨pool, stages, w⟩ ⟨pool, stages.set i failure, v⟩
  | finish {i : Nat} {t : Target} {ending : Except (Stop TargetFailure) Archive}
      {pool pool' : Schedule.Pool Archive} {stages : List Stage} {w : Workspace} :
      targets[i]? = some t → stages[i]? = some (.done ending) → Schedule.Step pool (.finish i ending) pool' →
      Step r targets scratch out breaks ⟨pool, stages, w⟩ ⟨pool', stages, w.record (.finished t)⟩
  | join {i : Nat} {pool pool' : Schedule.Pool Archive} {stages : List Stage} {w : Workspace} :
      Schedule.Step pool (.join i) pool' →
      Step r targets scratch out breaks ⟨pool, stages, w⟩ ⟨pool', stages, w⟩

/-- What a crew comes to by moves of its own. -/
inductive Crew.Reach (r : Release) (targets : List Target) (scratch out : Location) (breaks : Target → Prop)
    (start : Crew) : Crew → Prop
  | start : Reach r targets scratch out breaks start start
  | next {crew crew' : Crew} : Reach r targets scratch out breaks start crew →
      Crew.Step r targets scratch out breaks crew crew' → Reach r targets scratch out breaks start crew'

variable {r : Release} {targets : List Target} {base : FileTree} {here scratch out : Location}
variable {breaks : Target → Prop} {own t : Target} {jobs i : Nat} {w : Workspace} {crew crew' : Crew}

theorem Crew.Reach.pool (reach : Crew.Reach r targets scratch out breaks (.initial jobs targets w) crew) :
    ∃ moves, Schedule.Reach jobs targets.length moves crew.pool := by
  induction reach with
  | start => exact ⟨[], .start⟩
  | next _ step ih =>
    obtain ⟨moves, reach⟩ := ih
    cases step with
    | start step => exact ⟨_, reach.next step⟩
    | advance => exact ⟨_, reach⟩
    | fail => exact ⟨_, reach⟩
    | finish _ _ step => exact ⟨_, reach.next step⟩
    | join step => exact ⟨_, reach.next step⟩

theorem Crew.Step.mono {breaks' : Target → Prop} (step : Crew.Step r targets scratch out breaks crew crew')
    (more : ∀ t, breaks t → breaks' t) : Crew.Step r targets scratch out breaks' crew crew' := by
  cases step with
  | start step => exact .start step
  | advance running at_i atStage => exact .advance running at_i atStage
  | fail running at_i breaking failed within tidy => exact .fail running at_i (more _ breaking) failed within tidy
  | finish at_i done step => exact .finish at_i done step
  | join step => exact .join step

/-- What a crew comes to, it also comes to where more of its workers may break down. -/
theorem Crew.Reach.mono {breaks' : Target → Prop} {start : Crew} (reach : Crew.Reach r targets scratch out breaks start crew)
    (more : ∀ t, breaks t → breaks' t) : Crew.Reach r targets scratch out breaks' start crew := by
  induction reach with
  | start => exact .start
  | next _ step ih => exact ih.next (step.mono more)

/-- What holds while a crew works: every worker finds what it needs, and the worker of one target is where it
would be if it worked alone in the workspace it started in, up to the areas of the others. -/
structure Crew.Isolated (r : Release) (targets : List Target) (base : FileTree) (here scratch out : Location)
    (own : Target) (i : Nat) (w : Workspace) (crew : Crew) : Prop where
  length : crew.stages.length = targets.length
  kept : ∀ (j : Nat) (t : Target) (stage : Stage), targets[j]? = some t → crew.stages[j]? = some stage →
    r.Kept base here scratch out t stage crew.workspace
  alone : ∃ stage v, crew.stages[i]? = some stage ∧ Stage.Works r own .reset w stage v ∧
    r.Kept base here scratch out own stage v ∧ r.Agree targets scratch out own crew.workspace v ∧
    Rooted scratch own crew.workspace
  ended : ∀ ending, crew.pool.phases[i]? = some (.ended ending) ∨ crew.pool.phases[i]? = some (.joined ending) →
    crew.stages[i]? = some (.done ending)

theorem Stage.IsFailure.ready {stage : Stage} (failure : stage.IsFailure) (w : Workspace) :
    stage.Ready r scratch out t w := by
  cases stage with
  | undo _ | sweep _ | done _ => trivial
  | reset | compile _ | locate _ | draft _ | rename _ | unlink _ => exact failure.elim

/-- The worker at a stage is the one that came to it last, or another one, whose stage is still the same. -/
theorem Crew.stage_cases {stages : List Stage} {now stage : Stage} {s : Target} {j : Nat} (at_i : targets[i]? = some t)
    (at_j : targets[j]? = some s) (found : (stages.set i now)[j]? = some stage) :
    (i = j ∧ t = s ∧ now = stage) ∨ (i ≠ j ∧ stages[j]? = some stage) := by
  by_cases same : i = j
  · subst same
    obtain rfl : t = s := by simpa using at_i.symm.trans at_j
    obtain ⟨-, rfl⟩ : (∃ x, stages[i]? = some x) ∧ now = stage := by simpa [List.getElem?_set_self'] using found
    exact .inl ⟨rfl, rfl, rfl⟩
  · rw [List.getElem?_set_ne same] at found
    exact .inr ⟨same, found⟩

theorem Crew.target_ne (nodup : targets.Nodup) {s : Target} {j : Nat} (at_i : targets[i]? = some t)
    (at_j : targets[j]? = some s) (other : i ≠ j) : t ≠ s := by
  rintro rfl
  obtain ⟨bound, -⟩ := List.getElem?_eq_some_iff.mp at_i
  exact other ((List.getElem?_inj bound nodup).mp (at_i.trans at_j.symm))

namespace Site

variable (site : r.Site targets base here scratch out)
include site

/-- A worker that changes its own area takes nothing from the others. -/
theorem kept_set (nodup : targets.Nodup) {stages : List Stage} {v : Workspace} {stage : Stage}
    (at_i : targets[i]? = some t) (within : Within (r.Area scratch out t) w v)
    (kept : ∀ (j : Nat) (s : Target) (stage : Stage), targets[j]? = some s → stages[j]? = some stage →
      r.Kept base here scratch out s stage w)
    (now : r.Kept base here scratch out t stage v) (j : Nat) (s : Target) (stage' : Stage)
    (at_j : targets[j]? = some s) (found : (stages.set i stage)[j]? = some stage') :
    r.Kept base here scratch out s stage' v := by
  have memberT := List.mem_of_getElem? at_i
  have memberS := List.mem_of_getElem? at_j
  obtain ⟨rfl, rfl, rfl⟩ | ⟨apart, found⟩ := Crew.stage_cases at_i at_j found
  · exact now
  · have other := Crew.target_ne nodup at_i at_j apart
    obtain ⟨rests, tidy, ready⟩ := kept j s stage' at_j found
    exact ⟨site.rests memberT within rests, site.tidy_of_other memberT memberS other within tidy,
      site.ready_of_other memberT memberS other within ready⟩

/-- Every move of a crew keeps its workers apart. -/
theorem isolated_step (installs : r.compiler.Installs r.config.product)
    (depends : r.compiler.Depends fun k => ¬ scratch <+: k ∧ ¬ out <+: k) (nodup : targets.Nodup)
    (at_i : targets[i]? = some own) (isolated : crew.Isolated r targets base here scratch out own i w)
    (step : Crew.Step r targets scratch out (· ≠ own) crew crew') :
    crew'.Isolated r targets base here scratch out own i w := by
  obtain ⟨length, kept, ⟨stage, v, atStage, works, keptV, agree, rooted⟩, ended⟩ := isolated
  have member := List.mem_of_getElem? at_i
  cases step with
  | start step =>
    exact ⟨length, kept, ⟨stage, v, atStage, works, keptV, agree, rooted⟩, fun ending phase =>
      ended ending (step.ended_before (by simp) phase)⟩
  | join step =>
    exact ⟨length, kept, ⟨stage, v, atStage, works, keptV, agree, rooted⟩, fun ending phase =>
      ended ending (step.ended_before (by simp) phase)⟩
  | @finish j s e _ _ _ _ at_j done step =>
    refine ⟨length, fun j s stage found at_stage => ?_, ⟨stage, v, atStage, works, keptV, agree, rooted⟩,
      fun ending phase => ?_⟩
    · obtain ⟨rests, tidy, ready⟩ := kept j s stage found at_stage
      exact ⟨⟨rests.keeps, rests.home⟩, ⟨tidy.noLink, tidy.alone⟩, ready.congr fun _ _ => rfl⟩
    · by_cases own : Schedule.Move.finish j e = .finish i ending
      · obtain ⟨rfl, rfl⟩ : j = i ∧ e = ending := by simpa using own
        exact done
      · exact ended ending (step.ended_before own phase)
  | @advance j t stage' _ _ _ running at_j atStage' =>
    have memberT := List.mem_of_getElem? at_j
    obtain ⟨within, now⟩ := site.next_kept installs memberT (kept j t stage' at_j atStage')
    refine ⟨by simp [length], site.kept_set nodup at_j within kept now, ?_, ?_⟩
    · by_cases same : j = i
      · subst same
        obtain rfl : t = own := by simpa using at_j.symm.trans at_i
        obtain rfl : stage' = stage := by simpa using atStage'.symm.trans atStage
        obtain ⟨sameStage, agree', rooted'⟩ :=
          site.next_agree installs depends member (kept j t stage' at_j atStage') keptV rooted agree
        obtain ⟨bound, -⟩ := List.getElem?_eq_some_iff.mp atStage'
        refine ⟨_, _, ?_, works.next, (site.next_kept installs member keptV).2, agree', rooted'⟩
        rw [← sameStage]
        simp [bound]
      · have other := Crew.target_ne nodup at_j at_i same
        refine ⟨stage, v, by rw [List.getElem?_set_ne same, atStage], works, keptV,
          agree.of_other memberT other within, fun target => ?_⟩
        rw [within.files _ (site.areas_disjoint member memberT (Ne.symm other) (.inl (List.prefix_refl _)))]
        exact rooted target
    · intro ending phase
      by_cases same : j = i
      · subst same
        simp [running] at phase
      · rw [List.getElem?_set_ne same]
        exact ended ending phase
  | @fail j t failure _ _ _ v' running at_j other failed within tidy =>
    have memberT := List.mem_of_getElem? at_j
    have same : j ≠ i := by
      rintro rfl
      exact other (by simpa using at_j.symm.trans at_i)
    have now : r.Kept base here scratch out t failure v' :=
      ⟨site.rests memberT within (kept i own stage at_i atStage).rests, tidy, failed.ready v'⟩
    refine ⟨by simp [length], site.kept_set nodup at_j within kept now,
      ⟨stage, v, by rw [List.getElem?_set_ne same, atStage], works, keptV, agree.of_other memberT other within,
        fun target => ?_⟩, fun ending phase => ?_⟩
    · rw [within.files _ (site.areas_disjoint member memberT (Ne.symm other) (.inl (List.prefix_refl _)))]
      exact rooted target
    · rw [List.getElem?_set_ne same]
      exact ended ending phase

end Site

end ReleaseMatrix.Release
