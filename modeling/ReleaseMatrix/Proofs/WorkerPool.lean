import ReleaseMatrix.Schedule
import Mathlib.Data.List.Basic
import Mathlib.Data.List.Induction

namespace ReleaseMatrix.Schedule

variable {α : Type}

/-- How the work on a target ends: with an outcome, or with the breakdown of its worker. -/
abbrev End (α : Type) := Except (Stop TargetFailure) α

/-- How far the work on a target is. Only a running task holds a permit. -/
inductive Phase (α : Type)
  | waiting
  | running
  | ended (e : End α)
  | joined (e : End α)

/-- The free permits, and the phase of every target by its position in the list. -/
structure Pool (α : Type) where
  free : Nat
  phases : List (Phase α)

/-- What happens next in a pool: a target takes a permit, a task ends, an ended worker is joined. -/
inductive Move (α : Type)
  | start (i : Nat)
  | finish (i : Nat) (e : End α)
  | join (i : Nat)

namespace Phase

def isRunning : Phase α → Bool
  | running => true
  | _ => false

/-- The outcome of a target, once its worker is joined. -/
def outcome? : Phase α → Option (Except TargetFailure α)
  | joined e => some (settle e)
  | _ => none

/-- The moves that lead a target to a phase. -/
def history (i : Nat) : Phase α → List (Move α)
  | waiting => []
  | running => [.start i]
  | ended e => [.start i, .finish i e]
  | joined e => [.start i, .finish i e, .join i]

end Phase

def Move.position : Move α → Nat
  | start i | finish i _ | join i => i

namespace Pool

/-- All targets wait, and there is a permit for each worker. -/
def initial (jobs n : Nat) : Pool α :=
  ⟨workers jobs, List.replicate n .waiting⟩

def running (p : Pool α) : Nat :=
  p.phases.countP Phase.isRunning

/-- What a run returns once every worker is joined. -/
def outcomes? (p : Pool α) (targets : List Target) : Option (Outcomes α) :=
  (p.phases.mapM Phase.outcome?).map fun outcomes => ⟨targets.zip outcomes⟩

end Pool

/-- One move in a pool. A permit is given back when its holder ends, however it ends. -/
inductive Step : Pool α → Move α → Pool α → Prop
  | start {free i : Nat} {phases : List (Phase α)} : phases[i]? = some .waiting →
      Step ⟨free + 1, phases⟩ (.start i) ⟨free, phases.set i .running⟩
  | finish {free i : Nat} {phases : List (Phase α)} {e : End α} : phases[i]? = some .running →
      Step ⟨free, phases⟩ (.finish i e) ⟨free + 1, phases.set i (.ended e)⟩
  | join {free i : Nat} {phases : List (Phase α)} {e : End α} : phases[i]? = some (.ended e) →
      Step ⟨free, phases⟩ (.join i) ⟨free, phases.set i (.joined e)⟩

/-- The pools that moves lead to when `jobs` are asked for and `n` targets are to be worked on. -/
inductive Reach (jobs n : Nat) : List (Move α) → Pool α → Prop
  | start : Reach jobs n [] (.initial jobs n)
  | next {moves : List (Move α)} {move : Move α} {p q : Pool α} :
      Reach jobs n moves p → Step p move q → Reach jobs n (moves ++ [move]) q

theorem Step.permits {p q : Pool α} {move : Move α} (step : Step p move q) :
    q.free + q.running = p.free + p.running := by
  have positive {phases : List (Phase α)} {i : Nat} (at_i : phases[i]? = some .running) :
      0 < phases.countP Phase.isRunning :=
    List.countP_pos_iff.mpr ⟨.running, List.mem_of_getElem? at_i, rfl⟩
  cases step with
  | start waiting =>
    obtain ⟨bound, value⟩ := List.getElem?_eq_some_iff.mp waiting
    simp only [Pool.running, List.countP_set bound, value, Phase.isRunning]
    grind
  | finish running =>
    obtain ⟨bound, value⟩ := List.getElem?_eq_some_iff.mp running
    have := positive running
    simp only [Pool.running, List.countP_set bound, value, Phase.isRunning]
    grind
  | join ended =>
    obtain ⟨bound, value⟩ := List.getElem?_eq_some_iff.mp ended
    simp only [Pool.running, List.countP_set bound, value, Phase.isRunning]
    grind

theorem Reach.permits {jobs n : Nat} {moves : List (Move α)} {p : Pool α} (reach : Reach jobs n moves p) :
    p.free + p.running = workers jobs := by
  induction reach with
  | start => simp [Pool.initial, Pool.running, List.countP_replicate, Phase.isRunning]
  | next _ step ih => rw [step.permits, ih]

theorem Step.length_phases {p q : Pool α} {move : Move α} (step : Step p move q) :
    q.phases.length = p.phases.length := by
  cases step <;> simp

theorem Step.phases_ne {p q : Pool α} {move : Move α} {i : Nat} (step : Step p move q)
    (other : move.position ≠ i) : q.phases[i]? = p.phases[i]? := by
  cases step <;> exact List.getElem?_set_ne other

/-- Only the end of its own task ends the work on a target. -/
theorem Step.ended_before {p q : Pool α} {move : Move α} {i : Nat} {e : End α} (step : Step p move q)
    (notEnd : move ≠ .finish i e)
    (ended : q.phases[i]? = some (.ended e) ∨ q.phases[i]? = some (.joined e)) :
    p.phases[i]? = some (.ended e) ∨ p.phases[i]? = some (.joined e) := by
  by_cases here : move.position = i
  · cases step with
    | @start _ k _ waiting =>
      obtain rfl : k = i := here
      obtain ⟨bound, -⟩ := List.getElem?_eq_some_iff.mp waiting
      simp [bound] at ended
    | @finish _ k _ d running =>
      obtain rfl : k = i := here
      obtain ⟨bound, -⟩ := List.getElem?_eq_some_iff.mp running
      have same : d = e := by simpa [bound] using ended
      exact absurd (by rw [same]) notEnd
    | @join _ k _ d found =>
      obtain rfl : k = i := here
      obtain ⟨bound, -⟩ := List.getElem?_eq_some_iff.mp found
      have same : d = e := by simpa [bound] using ended
      exact .inl (same ▸ found)
  · rwa [step.phases_ne here] at ended

theorem Reach.length_phases {jobs n : Nat} {moves : List (Move α)} {p : Pool α}
    (reach : Reach jobs n moves p) : p.phases.length = n := by
  induction reach with
  | start => simp [Pool.initial]
  | next _ step ih => rw [step.length_phases, ih]

/-- A move is the next one in the history of its own position, and changes no other position. -/
theorem Step.history {p q : Pool α} {move : Move α} (step : Step p move q) (i : Nat) :
    ((q.phases[i]?).map (Phase.history i)).getD [] =
      ((p.phases[i]?).map (Phase.history i)).getD [] ++ [move].filter (·.position = i) := by
  have moved {phases : List (Phase α)} {k : Nat} {before after : Phase α} {move : Move α}
      (current : phases[k]? = some before) (same : move.position = k)
      (extended : Phase.history k after = Phase.history k before ++ [move]) :
      (((phases.set k after)[i]?).map (Phase.history i)).getD [] =
        ((phases[i]?).map (Phase.history i)).getD [] ++ [move].filter (·.position = i) := by
    obtain ⟨bound, value⟩ := List.getElem?_eq_some_iff.mp current
    by_cases here : k = i
    · subst here
      simp [bound, value, extended, same]
    · simp [here, same]
  cases step with
  | start waiting => exact moved waiting rfl rfl
  | finish running => exact moved running rfl rfl
  | join ended => exact moved ended rfl rfl

/-- The moves made so far are, position by position, the history of the phase reached there. -/
theorem Reach.history {jobs n : Nat} {moves : List (Move α)} {p : Pool α} (reach : Reach jobs n moves p)
    (i : Nat) : moves.filter (·.position = i) = ((p.phases[i]?).map (Phase.history i)).getD [] := by
  induction reach with
  | start =>
    simp only [Pool.initial, List.getElem?_replicate]
    split <;> simp [Phase.history]
  | next _ step ih => rw [List.filter_append, ih, step.history]

theorem mapM_eq_some_iff {β γ : Type} {f : β → Option γ} {l : List β} {out : List γ} :
    l.mapM f = some out ↔ l.map f = out.map some := by
  induction l generalizing out with
  | nil => cases out <;> simp
  | cons b l ih =>
    cases out with
    | nil => simp [List.mapM_cons, Option.bind_eq_some_iff]
    | cons c out => simp [List.mapM_cons, Option.bind_eq_some_iff, ih]

theorem mapM_eq_none_iff {β γ : Type} {f : β → Option γ} {l : List β} :
    l.mapM f = none ↔ ∃ b ∈ l, f b = none := by
  induction l with
  | nil => simp
  | cons b l ih => cases value : f b <;> cases rest : l.mapM f <;> simp_all [List.mapM_cons]

theorem Pool.outcomes?_eq_none_iff {p : Pool α} {targets : List Target} :
    p.outcomes? targets = none ↔ ∃ phase ∈ p.phases, phase.outcome? = none := by
  simp [Pool.outcomes?, mapM_eq_none_iff]

/-- A returned list has the targets in their order, each with the outcome its worker was joined with. -/
theorem Pool.outcomes?_eq_some {p : Pool α} {targets : List Target} {o : Outcomes α}
    (returned : p.outcomes? targets = some o) (length : p.phases.length = targets.length) :
    o.entries.map Prod.fst = targets ∧ ∀ (i : Nat) (t : Target), targets[i]? = some t →
      ∃ e : End α, p.phases[i]? = some (.joined e) ∧ o.entries[i]? = some (t, settle e) := by
  obtain ⟨outcomes, joined, rfl⟩ := Option.map_eq_some_iff.mp returned
  rw [mapM_eq_some_iff] at joined
  have lengths : outcomes.length = targets.length := by
    rw [← length]
    simpa using (congrArg List.length joined).symm
  refine ⟨List.map_fst_zip (by omega), ?_⟩
  intro i t at_i
  obtain ⟨bound, -⟩ := List.getElem?_eq_some_iff.mp at_i
  have phase := congrArg (·[i]?) joined
  obtain ⟨outcome, at_outcome⟩ : ∃ outcome, outcomes[i]? = some outcome :=
    ⟨outcomes[i], List.getElem?_eq_getElem (by omega)⟩
  simp only [List.getElem?_map, at_outcome, Option.map_some, Option.map_eq_some_iff] at phase
  obtain ⟨phase, at_phase, value⟩ := phase
  cases phase with
  | joined e =>
    cases Option.some.inj value
    exact ⟨e, at_phase, by simp [List.getElem?_zip_eq_some, at_i, at_outcome]⟩
  | waiting | running | ended _ => cases value

theorem Phase.history_prefix (i : Nat) (phase : Phase α) :
    ∃ e, phase.history i <+: [.start i, .finish i e, .join i] := by
  cases phase with
  | waiting => exact ⟨.error (.crashed ⟨""⟩), List.nil_prefix⟩
  | running => exact ⟨.error (.crashed ⟨""⟩), [.finish i _, .join i], rfl⟩
  | ended e => exact ⟨e, [.join i], rfl⟩
  | joined e => exact ⟨e, List.prefix_rfl⟩

/-- No target is started, ended or joined twice. -/
theorem Reach.history_prefix {jobs n : Nat} {moves : List (Move α)} {p : Pool α}
    (reach : Reach jobs n moves p) (i : Nat) :
    ∃ e, moves.filter (·.position = i) <+: [.start i, .finish i e, .join i] := by
  rw [reach.history i]
  cases p.phases[i]? with
  | none => exact ⟨.error (.crashed ⟨""⟩), List.nil_prefix⟩
  | some phase => exact phase.history_prefix i

theorem Reach.position_lt {jobs n : Nat} {moves : List (Move α)} {p : Pool α} (reach : Reach jobs n moves p)
    {move : Move α} (made : move ∈ moves) : move.position < n := by
  have own : move ∈ moves.filter (·.position = move.position) := by simpa using made
  rw [reach.history] at own
  cases phase : p.phases[move.position]? with
  | none => simp [phase] at own
  | some _ =>
    obtain ⟨bound, -⟩ := List.getElem?_eq_some_iff.mp phase
    rwa [reach.length_phases] at bound

theorem length_le_of_positions {n : Nat} {moves : List (Move α)} (within : ∀ move ∈ moves, move.position < n)
    (few : ∀ i, (moves.filter (·.position = i)).length ≤ 3) : moves.length ≤ 3 * n := by
  induction n generalizing moves with
  | zero => simpa [List.eq_nil_iff_forall_not_mem] using within
  | succ n ih =>
    have split := moves.length_eq_length_filter_add fun move => decide (move.position = n)
    have below : (moves.filter fun move => !decide (move.position = n)).length ≤ 3 * n := by
      refine ih (fun move made => ?_) fun i => ?_
      · obtain ⟨made, other⟩ := List.mem_filter.mp made
        have := within move made
        have : move.position ≠ n := by simpa using other
        omega
      · exact Nat.le_trans (List.filter_sublist.filter _).length_le (few i)
    have := few n
    omega

/-- A pool with a target that has no outcome can go on, whatever end the running tasks are to come to. -/
theorem Reach.progress {jobs n : Nat} {moves : List (Move α)} {p : Pool α} (reach : Reach jobs n moves p)
    (task : Nat → End α) {phase : Phase α} (member : phase ∈ p.phases) (unsettled : phase.outcome? = none) :
    ∃ move q, Step p move q ∧ ∀ i e, move = .finish i e → e = task i := by
  obtain ⟨free, phases⟩ := p
  by_cases ended : ∃ (i : Nat) (e : End α), phases[i]? = some (.ended e)
  · obtain ⟨i, e, current⟩ := ended
    exact ⟨_, _, .join current, by simp⟩
  by_cases running : ∃ i : Nat, phases[i]? = some .running
  · obtain ⟨i, current⟩ := running
    exact ⟨_, _, .finish (e := task i) current, by rintro _ _ ⟨⟩; rfl⟩
  obtain ⟨i, bound, value⟩ := List.getElem_of_mem member
  have current : phases[i]? = some phase := List.getElem?_eq_some_iff.mpr ⟨bound, value⟩
  have idle : phases.countP Phase.isRunning = 0 := by
    refine List.countP_eq_zero.mpr fun other inside => ?_
    obtain ⟨k, within, found⟩ := List.getElem_of_mem inside
    cases other with
    | running => exact absurd ⟨k, List.getElem?_eq_some_iff.mpr ⟨within, found⟩⟩ running
    | waiting | ended _ | joined _ => simp [Phase.isRunning]
  have permits := reach.permits
  simp only [Pool.running, idle, Nat.add_zero, workers] at permits
  cases phase with
  | waiting =>
    obtain ⟨left, rfl⟩ : ∃ left, free = left + 1 := ⟨free - 1, by omega⟩
    exact ⟨_, _, .start current, by simp⟩
  | running => exact absurd ⟨i, current⟩ running
  | ended e => exact absurd ⟨i, e, current⟩ ended
  | joined e => cases unsettled

/-- The targets done first are joined, and the others still wait. -/
def Pool.upTo (jobs n : Nat) (ends : List (End α)) : Pool α :=
  ⟨workers jobs, ends.map .joined ++ List.replicate (n - ends.length) .waiting⟩

theorem exists_permit (jobs : Nat) : ∃ free, workers jobs = free + 1 :=
  ⟨max jobs 1 - 1, by unfold workers; omega⟩

/-- Working on one target after the other is one of the orders that a pool admits. -/
theorem reach_upTo (jobs n : Nat) (ends : List (End α)) (bound : ends.length ≤ n) :
    ∃ moves, Reach jobs n moves (.upTo jobs n ends) := by
  induction ends using List.reverseRecOn with
  | nil => exact ⟨[], by simpa [Pool.upTo, Pool.initial] using (Reach.start : Reach jobs n [] _)⟩
  | append_singleton ends e ih =>
    rw [List.length_append, List.length_singleton] at bound
    obtain ⟨moves, reach⟩ := ih (by omega)
    obtain ⟨rest, remaining⟩ : ∃ rest, n - ends.length = rest + 1 := ⟨n - ends.length - 1, by omega⟩
    obtain ⟨free, permits⟩ := exists_permit jobs
    have found (phase : Phase α) (phases : List (Phase α)) :
        (ends.map .joined ++ phase :: phases)[ends.length]? = some phase := by simp
    have placed (phase after : Phase α) (phases : List (Phase α)) :
        (ends.map Phase.joined ++ phase :: phases).set ends.length after = ends.map Phase.joined ++ after :: phases := by
      simp
    simp only [Pool.upTo, remaining, permits, List.replicate_succ] at reach
    have started := reach.next (.start (found _ _))
    rw [placed] at started
    have finished := started.next (.finish (e := e) (found _ _))
    rw [placed] at finished
    have joined := finished.next (.join (found _ _))
    rw [placed] at joined
    have arrived : Pool.upTo jobs n (ends ++ [e]) =
        ⟨free + 1, ends.map .joined ++ .joined e :: List.replicate rest .waiting⟩ := by
      simp [Pool.upTo, permits, show n - (ends.length + 1) = rest by omega]
    exact ⟨_, arrived ▸ joined⟩

theorem runOne_eq (work : Target → WorkM TargetFailure α) (t : Target) (w : Workspace) :
    runOne work t w = ((t, settle ((work t).run w).1), ((work t).run w).2.record (.finished t)) := rfl

theorem run_cons (work : Target → WorkM TargetFailure α) (t : Target) (targets : List Target) (w : Workspace) :
    run work (t :: targets) w =
      let first := runOne work t w
      let rest := run work targets first.2
      (⟨first.1 :: rest.1.entries⟩, rest.2) := by
  simp only [run, List.mapM_cons]
  rfl

/-- The list that working on one target after the other returns pairs each target with its own end. -/
theorem exists_ends (work : Target → WorkM TargetFailure α) (targets : List Target) (w : Workspace) :
    ∃ ends : List (End α), ends.length = targets.length ∧
      (run work targets w).1.entries = targets.zip (ends.map settle) ∧
      ∀ task : Target → End α, (∀ t w, ((work t).run w).1 = task t) → ends = targets.map task := by
  induction targets generalizing w with
  | nil => exact ⟨[], rfl, rfl, fun _ _ => rfl⟩
  | cons t targets ih =>
    obtain ⟨ends, length, entries, own⟩ := ih (((work t).run w).2.record (.finished t))
    refine ⟨((work t).run w).1 :: ends, by simp [length], ?_, ?_⟩
    · rw [List.map_cons, List.zip_cons_cons, ← entries, run_cons]
      rfl
    · intro task same
      rw [List.map_cons, ← own task same, same]

/-- What a run one target after the other returns is what a pool returns that worked in that order. -/
theorem exists_reach_run (work : Target → WorkM TargetFailure α) (jobs : Nat) (targets : List Target)
    (w : Workspace) : ∃ (moves : List (Move α)) (p : Pool α), Reach jobs targets.length moves p ∧
      p.outcomes? targets = some (run work targets w).1 := by
  obtain ⟨ends, length, entries, -⟩ := exists_ends work targets w
  obtain ⟨moves, reach⟩ := reach_upTo jobs targets.length ends (by omega)
  refine ⟨moves, _, reach, ?_⟩
  have joined : (ends.map Phase.joined).mapM Phase.outcome? = some (ends.map settle) :=
    mapM_eq_some_iff.mpr (by simp [Phase.outcome?])
  simp only [Pool.outcomes?, Pool.upTo, length, Nat.sub_self, List.replicate_zero, List.append_nil, joined,
    Option.map_some]
  exact congrArg some (congrArg Outcomes.mk entries.symm)

end ReleaseMatrix.Schedule
