import ReleaseMatrix.Error
import ReleaseMatrix.Target
import ReleaseMatrix.Workspace

namespace ReleaseMatrix

/-- What became of each target, in the order of the catalog. -/
structure Outcomes (α : Type) where
  entries : List (Target × Except TargetFailure α)

namespace Outcomes

variable {α : Type}

/-- The first outcome that is listed for a target. -/
def get? (o : Outcomes α) (t : Target) : Option (Except TargetFailure α) :=
  (o.entries.find? (·.1 = t)).map (·.2)

def successes (o : Outcomes α) : List α :=
  o.entries.filterMap (·.2.toOption)

def failedCount (o : Outcomes α) : Nat :=
  o.entries.countP (!·.2.toBool)

def size (o : Outcomes α) : Nat :=
  o.entries.length

def isEmpty (o : Outcomes α) : Bool :=
  o.entries.isEmpty

theorem length_successes_add_failedCount (o : Outcomes α) :
    o.successes.length + o.failedCount = o.size := by
  obtain ⟨entries⟩ := o
  simp only [successes, failedCount, size]
  induction entries with
  | nil => rfl
  | cons entry entries ih =>
    obtain ⟨t, outcome | outcome⟩ := entry <;>
      simp [Except.toOption, Except.toBool] at ih ⊢ <;> omega

end Outcomes

end ReleaseMatrix

namespace ReleaseMatrix.Schedule

/-- How many targets are worked on at once when `jobs` are asked for. -/
def workers (jobs : Nat) : Nat :=
  max jobs 1

/-- The outcome of a target whose work ended so. When a worker breaks down, only its own target fails. -/
def settle {α : Type} : Except (Stop TargetFailure) α → Except TargetFailure α
  | .ok a => .ok a
  | .error (.failed failure) => .error failure
  | .error (.crashed crash) => .error (.aborted crash.cause)

/-- Does the work of one target. -/
def runOne {α : Type} (work : Target → WorkM TargetFailure α) (t : Target) :
    StateM Workspace (Target × Except TargetFailure α) := do
  let outcome ← (work t).run
  modify (·.record (.finished t))
  pure (t, settle outcome)

/-- Does the work of every target, in their order. -/
def run {α : Type} (work : Target → WorkM TargetFailure α) (targets : List Target) :
    StateM Workspace (Outcomes α) := do
  pure ⟨← targets.mapM (runOne work)⟩

/-- How many targets are done. -/
def progress (w : Workspace) : Nat :=
  w.journal.countP fun
    | .finished _ => true
    | _ => false

end ReleaseMatrix.Schedule
