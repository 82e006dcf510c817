import ReleaseMatrix.Proofs.WorkerAgreement

namespace ReleaseMatrix

open Workspace (Within)

namespace FileTree

/-- The tree with entries put below a place. -/
def fill (t : FileTree) (l : Location) (entries : List (Location × Entry)) : FileTree :=
  entries.foldl (fun t n => t.put (l ++ n.1) n.2) t

variable {t s : FileTree} {l k : Location} {entries : List (Location × Entry)}

theorem get?_fill_of_away (below : ∀ n ∈ entries, n.1 ≠ []) (away : ¬ (l <+: k ∧ k ≠ l)) :
    (t.fill l entries).get? k = t.get? k := by
  induction entries generalizing t with
  | nil => rfl
  | cons n entries ih =>
    have inside : n.1 ≠ [] := below n (by simp)
    have other : k ≠ l ++ n.1 := by
      rintro rfl
      exact away ⟨List.prefix_append _ _, by simpa using inside⟩
    change ((t.put (l ++ n.1) n.2).fill l entries).get? k = _
    rw [ih fun m member => below m (by simp [member]), get?_put (by simp [inside]), if_neg other]

/-- Entries that are put alike into two trees leave alike what was alike. -/
theorem get?_fill_congr (below : ∀ n ∈ entries, n.1 ≠ []) (same : t.get? k = s.get? k) :
    (t.fill l entries).get? k = (s.fill l entries).get? k := by
  induction entries generalizing t s with
  | nil => exact same
  | cons n entries ih =>
    have inside : n.1 ≠ [] := below n (by simp)
    refine ih (fun m member => below m (by simp [member])) ?_
    rw [get?_put (by simp [inside]), get?_put (by simp [inside]), same]

theorem groups_fill : (t.fill l entries).groups = t.groups := by
  induction entries generalizing t with
  | nil => rfl
  | cons n entries ih => exact ih

theorem Plain.fill (plain : t.Plain l) (below : ∀ n ∈ entries, n.1 ≠ [])
    (noLinks : ∀ n ∈ entries, ∀ target, n.2 ≠ .link target) : (t.fill l entries).Plain l := by
  induction entries generalizing t with
  | nil => exact plain
  | cons n entries ih =>
    have inside : n.1 ≠ [] := below n (by simp)
    refine ih ?_ (fun m member => below m (by simp [member])) fun m member => noLinks m (by simp [member])
    intro k target beside other
    rw [get?_put (by simp [inside])]
    split
    · simpa using noLinks n (by simp) target
    · exact plain k target beside other

end FileTree

/-- A toolchain that puts the same entries into the directory of a target every time it builds it. It fails
where its source is missing, and for a target that it does not know. -/
def Compiler.fixed (source : Location) (outputs : Target → Option (List (Location × Entry))) : Compiler :=
  .prompt fun q => do
    match (← get).files.get? source, outputs q.target with
    | some _, some entries =>
      let l ← WorkM.ofTask ((FileM.look (·.locate q.installDir .target)).describe (.scratch q.installDir ·.message))
      modify fun w => { w with files := w.files.fill l entries }
    | _, _ => WorkM.fail (.toolchainFailed q.target.id none)

namespace Compiler

variable {source l : Location} {outputs : Target → Option (List (Location × Entry))} {q : BuildRequest}
variable {w : Workspace}

theorem exec_fixed (q : BuildRequest) (w : Workspace) :
    ((fixed source outputs).compile q).exec w =
      match w.files.get? source, outputs q.target with
      | some _, some entries =>
        match w.locate q.installDir .target with
        | .ok l => (.ok (), FileM.changed w (·.fill l entries))
        | .error fault => (.error (.failed (.scratch q.installDir fault.message)), w)
      | _, _ => (.error (.failed (.toolchainFailed q.target.id none)), w) := by
  rw [fixed, prompt]
  dsimp only
  rw [TaskM.exec_bind, TaskM.exec_get]
  dsimp only
  cases w.files.get? source with
  | none => rfl
  | some e =>
    cases outputs q.target with
    | none => rfl
    | some entries =>
      dsimp only
      rw [TaskM.exec_bind, WorkM.exec_ofTask, TaskM.exec_describe, FileM.exec_look]
      cases w.locate q.installDir .target with
      | error fault => rfl
      | ok l => rfl

theorem exec_fixed_of_leads (leads : w.Leads q.installDir l) :
    ((fixed source outputs).compile q).exec w =
      match w.files.get? source, outputs q.target with
      | some _, some entries =>
        match FileTree.checkPath q.installDir with
        | .ok _ => (.ok (), FileM.changed w (·.fill l entries))
        | .error fault => (.error (.failed (.scratch q.installDir fault.message)), w)
      | _, _ => (.error (.failed (.toolchainFailed q.target.id none)), w) := by
  rw [exec_fixed, Workspace.locate, leads.locate]
  cases FileTree.checkPath q.installDir <;> rfl

theorem enclosed_fixed (below : ∀ t entries, outputs t = some entries → ∀ n ∈ entries, n.1 ≠ []) :
    (fixed source outputs).Enclosed where
  prompt _ _ _ := rfl
  within q w l leads := by
    rw [exec_fixed_of_leads leads]
    split
    · next entries _ found =>
      split
      · exact ⟨fun _ away => FileTree.get?_fill_of_away (below _ _ found) away,
          fun k _ alone => by rwa [FileM.changed, FileTree.Alone, FileTree.groups_fill], fun _ => rfl,
          List.prefix_refl _⟩
      · exact .refl _ w
    · exact .refl _ w

theorem confined_fixed (below : ∀ t entries, outputs t = some entries → ∀ n ∈ entries, n.1 ≠ [])
    (noLinks : ∀ t entries, outputs t = some entries → ∀ n ∈ entries, ∀ target, n.2 ≠ .link target) :
    (fixed source outputs).Confined where
  toEnclosed := enclosed_fixed below
  plain q w l leads plain := by
    rw [exec_fixed_of_leads leads]
    split
    · next entries _ found =>
      split
      · exact plain.fill (below _ _ found) (noLinks _ _ found)
      · exact plain
    · exact plain

theorem reads_fixed {sources : Location → Prop}
    (below : ∀ t entries, outputs t = some entries → ∀ n ∈ entries, n.1 ≠ []) (member : sources source) :
    (fixed source outputs).Reads sources := by
  intro q w v l leads leads' empty same
  have inside {k : Location} (beside : l <+: k) : w.files.get? k = v.files.get? k := by
    by_cases root : k = l
    · rw [root, leads.directory, leads'.directory]
    · rw [(empty k beside root).1, (empty k beside root).2]
  rw [exec_fixed_of_leads leads, exec_fixed_of_leads leads', ← same source member]
  split
  · next entries _ found =>
    split
    · exact ⟨rfl, fun k beside => FileTree.get?_fill_congr (below _ _ found) (inside beside)⟩
    · exact ⟨rfl, fun k => inside⟩
  · exact ⟨rfl, fun k => inside⟩

end Compiler

end ReleaseMatrix
