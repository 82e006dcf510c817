import ReleaseMatrix.Workspace
import Mathlib.Data.List.Forall2

namespace ReleaseMatrix.TaskM

variable {ε δ α β : Type} {w : Workspace}

/-- What the work gives in a workspace, and the workspace it leaves. -/
def exec (x : TaskM ε α) (w : Workspace) : Except ε α × Workspace :=
  x.run w

@[simp] theorem exec_pure (a : α) : (pure a : TaskM ε α).exec w = (.ok a, w) := rfl

@[simp] theorem exec_throw (e : ε) : (throw e : TaskM ε α).exec w = (.error e, w) := rfl

@[simp] theorem exec_get : (get : TaskM ε Workspace).exec w = (.ok w, w) := rfl

@[simp] theorem exec_set (v : Workspace) : (set v : TaskM ε PUnit).exec w = (.ok ⟨⟩, v) := rfl

@[simp] theorem exec_modify (f : Workspace → Workspace) :
    (modify f : TaskM ε PUnit).exec w = (.ok ⟨⟩, f w) := rfl

theorem exec_bind (x : TaskM ε α) (f : α → TaskM ε β) :
    (x >>= f).exec w = match x.exec w with
      | (.ok a, v) => (f a).exec v
      | (.error e, v) => (.error e, v) := by
  change ((x.run >>= ExceptT.bindCont f) : StateM Workspace (Except ε β)) w = _
  change (match (x.exec w) with | (a, v) => (ExceptT.bindCont f a : StateM Workspace (Except ε β)) v) = _
  rcases x.exec w with ⟨_ | _, v⟩ <;> rfl

theorem exec_tryCatch (x : TaskM ε α) (handle : ε → TaskM ε α) :
    (tryCatch x handle).exec w = match x.exec w with
      | (.ok a, v) => (.ok a, v)
      | (.error e, v) => (handle e).exec v := by
  change (match (x.exec w) with
    | (a, v) => ((match a with
      | .ok a => pure (.ok a)
      | .error e => handle e : StateM Workspace (Except ε α))) v) = _
  rcases x.exec w with ⟨_ | _, v⟩ <;> rfl

theorem exec_describe (describe : ε → δ) (x : TaskM ε α) :
    (x.describe describe).exec w = ((x.exec w).1.mapError describe, (x.exec w).2) := rfl

theorem exec_attempt (x : TaskM ε α) :
    (x.attempt : TaskM δ (Except ε α)).exec w = (.ok (x.exec w).1, (x.exec w).2) := rfl

@[simp] theorem exec_ofExcept (x : Except ε α) : (MonadExcept.ofExcept x : TaskM ε α).exec w = (x, w) := by
  cases x <;> rfl

/-- Work that has a result did everything before its last step. -/
theorem exec_bind_ok {x : TaskM ε α} {f : α → TaskM ε β} {b : β} {u : Workspace}
    (run : (x >>= f).exec w = (.ok b, u)) :
    ∃ a v, x.exec w = (.ok a, v) ∧ (f a).exec v = (.ok b, u) := by
  rw [exec_bind] at run
  split at run
  · next a v first => exact ⟨a, v, first, run⟩
  · exact absurd run (by simp)

theorem exec_describe_ok {describe : ε → δ} {x : TaskM ε α} {a : α} {v : Workspace}
    (run : (x.describe describe).exec w = (.ok a, v)) : x.exec w = (.ok a, v) := by
  rw [exec_describe] at run
  cases ending : x.exec w with
  | mk outcome u => cases outcome <;> simp_all [Except.mapError]

theorem eq_ok_of_toOption {x : Except ε α} {a : α} (some : x.toOption = some a) : x = .ok a := by
  cases x with
  | error error => cases some
  | ok b => exact congrArg Except.ok (Option.some_inj.mp some)

theorem exec_eq_of_toBool {x : TaskM ε Unit} {v : Workspace} (ok : (x.exec w).1.toBool)
    (left : (x.exec w).2 = v) : x.exec w = (.ok (), v) := by
  rcases exec : x.exec w with ⟨error | _, u⟩ <;> rw [exec] at ok left
  · cases ok
  · exact congrArg _ left

/-- Work that cannot fail is the same as a part of work that can. -/
theorem exec_liftM_ok {x : StateM Workspace α} {a : α} {v : Workspace}
    (run : (liftM x : TaskM ε α).exec w = (.ok a, v)) : x.run w = (a, v) :=
  Prod.ext (Except.ok.inj (congrArg Prod.fst run)) (congrArg Prod.snd run :)

/-- Each result of a list of tasks is that of its task, in some workspace. -/
theorem forall₂_of_exec_mapM {f : α → TaskM ε β} {l : List α} {v : Workspace} {bs : List β}
    (run : (l.mapM f).exec w = (.ok bs, v)) :
    List.Forall₂ (fun a b => ∃ w v, (f a).exec w = (.ok b, v)) l bs := by
  induction l generalizing w v bs with
  | nil =>
    obtain rfl : [] = bs := by simpa using congrArg Prod.fst run
    exact .nil
  | cons a l ih =>
    rw [List.mapM_cons] at run
    obtain ⟨b, u, first, run⟩ := exec_bind_ok run
    obtain ⟨rest, x, others, run⟩ := exec_bind_ok run
    obtain rfl : b :: rest = bs := by simpa using congrArg Prod.fst run
    exact .cons ⟨w, u, first⟩ (ih others)

/-- What each task of a list keeps, and what holds of its result and stays so, holds when all of them are done. -/
theorem exec_mapM_keeps {f : α → TaskM ε β} {l : List α} (holds : Workspace → Prop) (about : β → Workspace → Prop)
    (step : ∀ a ∈ l, ∀ w, holds w → holds ((f a).exec w).2 ∧
      (∀ b, ((f a).exec w).1 = .ok b → about b ((f a).exec w).2) ∧ ∀ b, about b w → about b ((f a).exec w).2)
    (begun : holds w) : holds ((l.mapM f).exec w).2 ∧
      (∀ bs, ((l.mapM f).exec w).1 = .ok bs → ∀ b ∈ bs, about b ((l.mapM f).exec w).2) ∧
      ∀ b, about b w → about b ((l.mapM f).exec w).2 := by
  induction l generalizing w with
  | nil =>
    refine ⟨begun, fun bs ok b member => ?_, fun _ => id⟩
    obtain rfl : [] = bs := by simpa using ok
    cases member
  | cons a l ih =>
    obtain ⟨first, made, kept⟩ := step a (by simp) w begun
    rw [List.mapM_cons, exec_bind]
    rcases one : (f a).exec w with ⟨error | b, u⟩
    · rw [one] at first kept
      exact ⟨first, fun _ ok => (nomatch ok), kept⟩
    · rw [one] at first made kept
      obtain ⟨rest, mades, keeps⟩ := ih (fun a member => step a (by simp [member])) first
      dsimp only
      rw [exec_bind]
      rcases more : (l.mapM f).exec u with ⟨error | bs, v⟩
      · rw [more] at rest keeps
        exact ⟨rest, fun _ ok => (nomatch ok), fun b before => keeps b (kept b before)⟩
      · rw [more] at rest mades keeps
        refine ⟨rest, fun all ok d member => ?_, fun d before => keeps d (kept d before)⟩
        obtain rfl : b :: bs = all := by simpa using ok
        rcases List.mem_cons.mp member with rfl | later
        · exact keeps d (made d rfl)
        · exact mades bs rfl d later

end ReleaseMatrix.TaskM

namespace ReleaseMatrix

variable {ε α : Type} {w v : Workspace}

theorem WorkM.exec_ofTask (x : TaskM ε α) :
    (WorkM.ofTask x).exec w = ((x.exec w).1.mapError .failed, (x.exec w).2) := rfl

theorem WorkM.exec_ofTask_ok {x : TaskM ε α} {a : α} (run : (WorkM.ofTask x).exec w = (.ok a, v)) :
    x.exec w = (.ok a, v) :=
  TaskM.exec_describe_ok run

theorem WorkM.exec_outcome (x : WorkM ε α) :
    (x.outcome).exec w = match x.exec w with
      | (.ok a, v) => (.ok (.ok a), v)
      | (.error (.failed error), v) => (.ok (.error error), v)
      | (.error (.crashed crash), v) => (.error crash, v) := by
  rw [outcome, TaskM.exec_bind, TaskM.exec_attempt]
  rcases x.exec w with ⟨(_ | _) | _, v⟩ <;> rfl

@[simp] theorem WorkM.exec_fail (error : ε) :
    (WorkM.fail error : WorkM ε α).exec w = (.error (.failed error), w) := rfl

theorem FileM.exec_look (f : Workspace → Except FileFault α) : (FileM.look f).exec w = (f w, w) := by
  rw [FileM.look, TaskM.exec_bind, TaskM.exec_get]
  exact TaskM.exec_ofExcept (f w)

@[simp] theorem FileM.exec_update (f : FileTree → FileTree) :
    (FileM.update f).exec w = (.ok (), { w with files := f w.files }) := rfl

end ReleaseMatrix
