import ReleaseMatrix.CommandLine.Run
import ReleaseMatrix.Proofs.ReportEntries
import ReleaseMatrix.Proofs.ReportText
import Mathlib.Algebra.BigOperators.Group.List.Basic
import Mathlib.Algebra.GroupWithZero.Nat

namespace ReleaseMatrix

namespace Report

/-- What a line of a report is about. -/
inductive Subject
  | target (r : TargetReport)
  | package (r : PackageReport)
  | collected (p : Path)
  | summary (r : Report)
  | checksums (p : Path)

namespace Subject

def line : Subject → String
  | target r => outcomeLine r.target.id r.outcome
  | package r => "    " ++ outcomeLine r.format.name r.outcome
  | collected p => marks.note ++ " collected " ++ p.text
  | summary r => r.summaryLine
  | checksums p => "  Checksums: " ++ p.text

def isFailedTarget : Subject → Bool
  | target r => r.isFailed
  | _ => false

/-- Whether the line tells of a failure: that of a target or that of a package. -/
def isFailed : Subject → Bool
  | target r => r.isFailed
  | package r => r.isFailed
  | _ => false

end Subject

/-- What the lines of a report are about, in their order. -/
def subjects (r : Report) : List Subject :=
  r.targets.flatMap (fun t => .target t :: t.packages.map .package) ++ r.collected.map .collected ++
    [.summary r] ++ (r.checksums?.map .checksums).toList

/-- Whether the first character of a line that is no blank is the failure mark. -/
def isMarked (line : String) : Bool :=
  line.toList.find? (!Text.isBlank ·) == some '✗'

/-- A text that has these lines. -/
def textOf (lines : List String) : String :=
  String.join (lines.map (· ++ "\n"))

theorem lines_eq (r : Report) : r.lines = r.subjects.map Subject.line := by
  simp only [lines, subjects, List.map_append, List.map_flatMap, List.map_map, List.map_cons, List.map_nil,
    ← Option.toList_map, Option.map_map]
  rfl

theorem isMarked_append {start : String} (solid : start.toList.any (!Text.isBlank ·)) (rest : String) :
    isMarked (start ++ rest) = isMarked start := by
  obtain ⟨c, member, visible⟩ := List.any_eq_true.mp solid
  have found : (start.toList.find? (!Text.isBlank ·)).isSome := List.find?_isSome.mpr ⟨c, member, visible⟩
  rw [isMarked, isMarked, String.toList_append, List.find?_append, Option.or_of_isSome found]

theorem startsWith_append {start mark : String} (long : mark.toList.length ≤ start.toList.length) (rest : String) :
    (start ++ rest).startsWith mark = mark.toList.isPrefixOf start.toList := by
  rw [Bool.eq_iff_iff, String.startsWith_eq_startsWith_toSlice, String.Slice.startsWith_string_iff,
    String.copy_toSlice, List.isPrefixOf_iff_prefix, String.toList_append]
  exact ⟨fun inside => List.prefix_of_prefix_length_le inside (List.prefix_append _ _) long,
    fun inside => inside.trans (List.prefix_append _ _)⟩

namespace Subject

/-- How a line that starts so is marked. -/
structure Starts (start : String) (failed failedTarget : Bool) : Prop where
  solid : start.toList.any (!Text.isBlank ·)
  marked : isMarked start = failed
  first : marks.failure.toList.isPrefixOf start.toList = failedTarget
  long : marks.failure.toList.length ≤ start.toList.length

instance (start : String) (failed failedTarget : Bool) : Decidable (Starts start failed failedTarget) :=
  decidable_of_iff ((start.toList.any (!Text.isBlank ·)) ∧ isMarked start = failed ∧
      marks.failure.toList.isPrefixOf start.toList = failedTarget ∧
      marks.failure.toList.length ≤ start.toList.length)
    ⟨fun ⟨solid, marked, first, long⟩ => ⟨solid, marked, first, long⟩,
      fun starts => ⟨starts.solid, starts.marked, starts.first, starts.long⟩⟩

/-- A line starts with the failure mark just if it tells of a failed target. It starts with blanks and the mark if it
tells of a failed package. -/
theorem exists_start (s : Subject) : ∃ start rest, s.line = start ++ rest ∧ Starts start s.isFailed s.isFailedTarget := by
  match s with
  | target ⟨t, .ok p, packages⟩ =>
    exact ⟨marks.success, " " ++ t.id ++ " -> " ++ p.text, by simp [line, outcomeLine, String.append_assoc],
      (by decide : Starts marks.success false false)⟩
  | target ⟨t, .error message, packages⟩ =>
    exact ⟨marks.failure, " " ++ t.id ++ ": " ++ message, by simp [line, outcomeLine, String.append_assoc],
      (by decide : Starts marks.failure true true)⟩
  | package ⟨f, .ok p⟩ =>
    exact ⟨"    " ++ marks.success, " " ++ f.name ++ " -> " ++ p.text,
      by simp [line, outcomeLine, String.append_assoc], (by decide : Starts ("    " ++ marks.success) false false)⟩
  | package ⟨f, .error message⟩ =>
    exact ⟨"    " ++ marks.failure, " " ++ f.name ++ ": " ++ message,
      by simp [line, outcomeLine, String.append_assoc], (by decide : Starts ("    " ++ marks.failure) true false)⟩
  | collected p =>
    exact ⟨marks.note, " collected " ++ p.text, by simp [line, String.append_assoc],
      (by decide : Starts marks.note false false)⟩
  | summary r =>
    obtain ⟨rest, tail⟩ : ∃ rest, r.summaryLine = (if r.hasFailures then marks.warning else marks.success) ++ rest := by
      simp only [summaryLine, String.append_assoc]
      exact ⟨_, rfl⟩
    by_cases failed : r.hasFailures
    · rw [if_pos failed] at tail
      exact ⟨marks.warning, rest, tail, (by decide : Starts marks.warning false false)⟩
    · rw [if_neg failed] at tail
      exact ⟨marks.success, rest, tail, (by decide : Starts marks.success false false)⟩
  | checksums p => exact ⟨"  Checksums: ", p.text, rfl, (by decide : Starts "  Checksums: " false false)⟩

/-- The lines with the failure mark are those that tell of a failure. -/
theorem isMarked_line (s : Subject) : isMarked s.line = s.isFailed := by
  obtain ⟨start, rest, line, starts⟩ := s.exists_start
  rw [line, isMarked_append starts.solid, starts.marked]

/-- Only the lines of failed targets have nothing before the failure mark. -/
theorem startsWith_line (s : Subject) : s.line.startsWith marks.failure = s.isFailedTarget := by
  obtain ⟨start, rest, line, starts⟩ := s.exists_start
  rw [line, startsWith_append starts.long, starts.first]

end Subject

/-- The lines about these subjects of a report, in their order. -/
def linesAbout (r : Report) (about : Subject → Bool) : List String :=
  (r.subjects.filter about).map Subject.line

theorem filter_startsWith (r : Report) :
    r.lines.filter (·.startsWith marks.failure) = r.linesAbout Subject.isFailedTarget := by
  rw [lines_eq, List.filter_map, linesAbout]
  congr 2
  exact funext Subject.startsWith_line

theorem hasFailures_iff (r : Report) : r.hasFailures = true ↔ ∃ t ∈ r.targets, t.hasFailures = true := by
  rw [hasFailures, decide_eq_true_eq, failedCount, GT.gt, List.countP_pos_iff]

theorem target_mem_subjects {r : Report} {t : TargetReport} : .target t ∈ r.subjects ↔ t ∈ r.targets := by
  simp [subjects]

theorem package_mem_subjects {r : Report} {p : PackageReport} :
    .package p ∈ r.subjects ↔ ∃ t ∈ r.targets, p ∈ t.packages := by
  simp [subjects]

/-- A report without failures has no line about one. -/
theorem failureLines_eq (r : Report) : r.failureLines = r.linesAbout Subject.isFailedTarget := by
  rw [failureLines, filter_startsWith]
  split
  · rfl
  · next none =>
    rw [linesAbout, List.filter_eq_nil_iff.mpr, List.map_nil]
    intro s member failed
    cases s with
    | target t => exact none (r.hasFailures_iff.mpr ⟨t, target_mem_subjects.mp member, Bool.or_eq_true_iff.mpr (.inl failed)⟩)
    | _ => cases failed

end Report

/-- Something of a release failed: a target, or a package. -/
def SomeFailed (o : Outcomes Archive) (results : List PackageResult) : Prop :=
  (∃ entry ∈ o.entries, entry.2.toBool = false) ∨ ∃ x ∈ results, x.isFailed

/-- How many outcomes are listed for a target. -/
def Outcomes.times {α : Type} (o : Outcomes α) (t : Target) : Nat :=
  (o.entries.map Prod.fst).count t

/-- How the showing of a report ends. -/
def CommandLine.ending (style : OutputStyle) (r : Report) (o : Output) (w : Workspace) : Except Failure Unit :=
  (((conclude style r).run.run o).run w).1.1

theorem CommandLine.ending_eq (style : OutputStyle) (r : Report) (o : Output) (w : Workspace) :
    ending style r o w =
      if r.hasFailures then .error (.ofRelease (.targetsFailed r.failedCount r.targets.length)) else .ok () := by
  unfold ending conclude
  split <;> rfl

/-- The status that is told of something that ended so. -/
def statusOf : Except String Path → String
  | .ok _ => "ok"
  | .error _ => "failed"

namespace Json

/-- The statuses in the value of a target: its own, and those of its packages. -/
def targetStatuses? (v : Json) : Option (List String) := do
  pure ((← v.textAt? "status") :: (← v.itemsAt? (textAt? "status") "packages"))

/-- The statuses in the value of a report, target by target. -/
def statuses? (v : Json) : Option (List String) := do
  pure (← v.itemsAt? targetStatuses? "targets").flatten

end Json

theorem PackageReport.status_toJson (r : PackageReport) : r.toJson.textAt? "status" = some (statusOf r.outcome) := by
  obtain ⟨format, outcome⟩ := r
  cases outcome <;> simp [toJson, outcomeMembers, Json.textAt?, statusOf]

/-- The statuses that are told of a target and its packages. -/
def TargetReport.statuses (r : TargetReport) : List String :=
  statusOf r.outcome :: r.packages.map fun p => statusOf p.outcome

theorem TargetReport.targetStatuses?_toJson (r : TargetReport) : r.toJson.targetStatuses? = some r.statuses := by
  obtain ⟨t, outcome, packages⟩ := r
  have read := mapM_map_of_read PackageReport.status_toJson packages
  cases outcome <;> cases packages <;>
    simp_all [toJson, outcomeMembers, itemsMember, Json.targetStatuses?, Json.textAt?, Json.itemsAt?, statuses, statusOf]

theorem Report.statuses?_toJson (r : Report) :
    r.toJson.statuses? = some (r.targets.flatMap TargetReport.statuses) := by
  have read := mapM_map_of_read TargetReport.targetStatuses?_toJson r.targets
  simp [Json.statuses?, toJson, Json.itemsAt?, read, List.flatMap]

section Counts

variable {o : Outcomes Archive} {results : List PackageResult}

theorem sum_map_ite_one {α : Type} (picks : α → Bool) (l : List α) :
    (l.map fun a => if picks a then 1 else 0).sum = l.countP picks := by
  induction l with
  | nil => rfl
  | cons a l ih => rw [List.map_cons, List.sum_cons, ih, List.countP_cons, Nat.add_comm]

/-- Taken target by target, each result counts once for every outcome of its target. -/
theorem sum_countP_filter (o : Outcomes Archive) (results : List PackageResult) (picks : PackageResult → Bool) :
    (o.entries.map fun entry => (results.filter (·.target = entry.1)).countP picks).sum =
      ((results.filter picks).map fun x => o.times x.target).sum := by
  obtain ⟨entries⟩ := o
  simp only [Outcomes.times]
  -- The induction is on the outcomes: each adds the results of its own target.
  induction entries with
  | nil => simp
  | cons entry entries ih =>
    have here : (results.filter (·.target = entry.1)).countP picks =
        ((results.filter picks).map fun x => if entry.1 == x.target then 1 else 0).sum := by
      rw [sum_map_ite_one, List.countP_filter, List.countP_filter]
      exact List.countP_congr fun x _ => by simp [and_comm, @eq_comm _ entry.1 x.target]
    rw [List.map_cons, List.sum_cons, ih, here, ← List.sum_map_add]
    simp only [List.map_cons, List.count_cons, Nat.add_comm]

theorem Outcomes.times_eq_one {t : Target} (nodup : (o.entries.map Prod.fst).Nodup) (listed : t ∈ o.entries.map Prod.fst) :
    o.times t = 1 :=
  List.count_eq_one_of_mem nodup listed

/-- The lines of a report that tell of failures, and the statuses in its text, are those of the outcomes and the results. Where
a target has several outcomes, its packages are told with each of them. -/
structure Report.Agrees (r : Report) (o : Outcomes Archive) (results : List PackageResult) : Prop where
  ends : ∀ style output w, (∃ f, CommandLine.ending style r output w = .error f) ↔ SomeFailed o results
  failure : ∀ style output w f, CommandLine.ending style r output w = .error f →
    f = .ofRelease (.targetsFailed r.failedCount o.size)
  marked : (∃ line ∈ r.lines, isMarked line) ↔ SomeFailed o results
  statuses : ∃ statuses, (Json.parse? r.toJson.pretty).bind Json.statuses? = some statuses ∧
    ("failed" ∈ statuses ↔ SomeFailed o results)
  markedLines : r.lines.countP isMarked =
    o.failedCount + ((results.filter PackageResult.isFailed).map fun x => o.times x.target).sum
  lines : r.lines.length = o.size + (results.map fun x => o.times x.target).sum + r.collected.length + 1 +
    r.checksums?.toList.length
  failedCount : r.failedCount = o.entries.countP fun entry =>
    !entry.2.toBool || results.any fun x => x.target = entry.1 && x.isFailed
  bounded : r.failedCount ≤ o.size

variable {r : Report}

theorem TargetReport.isFailed_ofOutcome (t : Target) (outcome : Except TargetFailure Archive) :
    (ofOutcome t outcome results).isFailed = !outcome.toBool := by
  cases outcome <;> rfl

theorem TargetReport.countP_packages (t : Target) (outcome : Except TargetFailure Archive)
    {picks : PackageReport → Bool} {picks' : PackageResult → Bool} (same : ∀ x, picks (.ofResult x) = picks' x) :
    (ofOutcome t outcome results).packages.countP picks = (results.filter (·.target = t)).countP picks' := by
  rw [ofOutcome, List.countP_map]
  exact congrArg (List.countP · _) (funext same)

namespace Report

theorem countP_subjects (about : Subject → Bool) (r : Report) :
    r.subjects.countP about =
      r.targets.countP (about ∘ .target) + (r.targets.map fun t => t.packages.countP (about ∘ .package)).sum +
        r.collected.countP (about ∘ .collected) + (if about (.summary r) then 1 else 0) +
        r.checksums?.toList.countP (about ∘ .checksums) := by
  have each : (fun t => (Subject.target t :: t.packages.map Subject.package).countP about) =
      fun t : TargetReport => (if (about ∘ .target) t then 1 else 0) + t.packages.countP (about ∘ .package) :=
    funext fun t => by rw [List.countP_cons, List.countP_map, Nat.add_comm]; rfl
  have targets : (r.targets.flatMap fun t => Subject.target t :: t.packages.map Subject.package).countP about =
      r.targets.countP (about ∘ .target) + (r.targets.map fun t => t.packages.countP (about ∘ .package)).sum := by
    rw [List.countP_flatMap, Function.comp_def, each, List.sum_map_add, sum_map_ite_one]
  rw [subjects, List.countP_append, List.countP_append, List.countP_append, targets, List.countP_map,
    List.countP_singleton, Option.toList_map, List.countP_map]

variable (targets : r.targets = o.entries.map fun entry => .ofOutcome entry.1 entry.2 results)
include targets

/-- What is counted target by target is counted once for every outcome of a result's target. -/
theorem sum_countP_packages {picks : PackageReport → Bool} {picks' : PackageResult → Bool}
    (same : ∀ x, picks (.ofResult x) = picks' x) :
    (r.targets.map fun t => t.packages.countP picks).sum = ((results.filter picks').map fun x => o.times x.target).sum := by
  rw [targets, List.map_map, ← sum_countP_filter]
  exact congrArg List.sum (List.map_congr_left fun entry _ => TargetReport.countP_packages entry.1 entry.2 same)

theorem countP_isMarked : r.lines.countP isMarked =
    o.failedCount + ((results.filter PackageResult.isFailed).map fun x => o.times x.target).sum := by
  have failures : r.targets.countP (Subject.isFailed ∘ .target) = o.failedCount := by
    rw [targets, List.countP_map]
    exact congrArg (List.countP · _) (funext fun entry => TargetReport.isFailed_ofOutcome entry.1 entry.2)
  have packages : (r.targets.map fun t => t.packages.countP (Subject.isFailed ∘ .package)).sum = _ :=
    sum_countP_packages targets isFailed_ofResult
  rw [lines_eq, List.countP_map, show isMarked ∘ Subject.line = Subject.isFailed from funext Subject.isMarked_line,
    countP_subjects, failures, packages]
  simp [Subject.isFailed, Function.comp_def]

theorem length_lines : r.lines.length =
    o.size + (results.map fun x => o.times x.target).sum + r.collected.length + 1 + r.checksums?.toList.length := by
  have packages : (r.targets.map fun t => t.packages.countP fun _ => true).sum =
      ((results.filter fun _ => true).map fun x => o.times x.target).sum :=
    sum_countP_packages targets fun _ => rfl
  have size : r.targets.length = o.size := by rw [targets, List.length_map]; rfl
  simp only [List.filter_true, List.countP_true] at packages
  rw [lines_eq, List.length_map, ← List.countP_true, countP_subjects]
  simp only [Function.comp_def, packages, List.countP_true, size, if_true]

/-- A target of the report has a failure just if its outcome is one or a result for it is. -/
theorem failedCount_eq : r.failedCount = o.entries.countP fun entry =>
    !entry.2.toBool || results.any fun x => x.target = entry.1 && x.isFailed := by
  rw [failedCount, targets, List.countP_map]
  refine List.countP_congr fun entry _ => ?_
  rw [Function.comp_apply, TargetReport.hasFailures, TargetReport.isFailed_ofOutcome, TargetReport.ofOutcome, List.any_map,
    List.any_filter]
  simp only [Function.comp_def, isFailed_ofResult]

theorem hasFailures_iff_someFailed (own : ∀ x ∈ results, x.target ∈ o.entries.map Prod.fst) :
    r.hasFailures = true ↔ SomeFailed o results := by
  have each (entry : Target × Except TargetFailure Archive) :
      (!entry.2.toBool || results.any fun x => x.target = entry.1 && x.isFailed) = true ↔
        entry.2.toBool = false ∨ ∃ x ∈ results, x.target = entry.1 ∧ x.isFailed := by simp
  rw [hasFailures, decide_eq_true_eq, GT.gt, failedCount_eq targets, List.countP_pos_iff]
  simp only [each]
  constructor
  · rintro ⟨entry, listed, failed | ⟨x, member, -, failed⟩⟩
    · exact .inl ⟨entry, listed, failed⟩
    · exact .inr ⟨x, member, failed⟩
  · rintro (⟨entry, listed, failed⟩ | ⟨x, member, failed⟩)
    · exact ⟨entry, listed, .inl failed⟩
    · obtain ⟨entry, listed, same⟩ := List.mem_map.mp (own x member)
      exact ⟨entry, listed, .inr ⟨x, member, same.symm, failed⟩⟩

end Report

end Counts

namespace Report

theorem exists_failed_iff (r : Report) : (∃ s ∈ r.subjects, s.isFailed = true) ↔ r.hasFailures = true := by
  rw [hasFailures_iff]
  constructor
  · rintro ⟨s, member, failed⟩
    cases s with
    | target t => exact ⟨t, target_mem_subjects.mp member, Bool.or_eq_true_iff.mpr (.inl failed)⟩
    | package p =>
      obtain ⟨t, listed, own⟩ := package_mem_subjects.mp member
      exact ⟨t, listed, Bool.or_eq_true_iff.mpr (.inr (List.any_eq_true.mpr ⟨p, own, failed⟩))⟩
    | _ => cases failed
  · rintro ⟨t, listed, failed⟩
    rcases Bool.or_eq_true_iff.mp failed with failed | failed
    · exact ⟨.target t, target_mem_subjects.mpr listed, failed⟩
    · obtain ⟨p, own, failed⟩ := List.any_eq_true.mp failed
      exact ⟨.package p, package_mem_subjects.mpr ⟨t, listed, own⟩, failed⟩

theorem exists_isMarked_iff (r : Report) : (∃ line ∈ r.lines, isMarked line = true) ↔ r.hasFailures = true := by
  rw [lines_eq, ← exists_failed_iff]
  simp only [List.mem_map, exists_exists_and_eq_and, Subject.isMarked_line]

theorem failed_mem_statuses_iff (r : Report) :
    "failed" ∈ r.targets.flatMap TargetReport.statuses ↔ r.hasFailures = true := by
  have told (outcome : Except String Path) : "failed" = statusOf outcome ↔ (!outcome.toBool) = true := by
    cases outcome <;> simp [statusOf, Except.toBool]
  rw [hasFailures_iff, List.mem_flatMap]
  refine exists_congr fun t => and_congr_right fun _ => ?_
  rw [TargetReport.statuses, List.mem_cons, List.mem_map, TargetReport.hasFailures, Bool.or_eq_true, List.any_eq_true,
    told]
  exact or_congr_right (exists_congr fun p => and_congr_right fun _ => (eq_comm.trans (told p.outcome)))

/-- The exit status, the lines and the JSON text of a report agree on whether something failed, and the counts are those
of what failed. -/
theorem verdicts_agree {o : Outcomes Archive} {results : List PackageResult}
    (own : ∀ x ∈ results, x.target ∈ o.entries.map Prod.fst) (version : String) (outDir : Path) (collected : List Path)
    (checksums? : Option Path) :
    let r := { ofOutcomes version outDir o results with collected := collected, checksums? := checksums? }
    r.Agrees o results ∧ ((o.entries.map Prod.fst).Nodup →
      r.lines.countP isMarked = o.failedCount + results.countP PackageResult.isFailed ∧
      r.lines.length = o.size + results.length + collected.length + 1 + checksums?.toList.length) := by
  intro r
  have targets : r.targets = o.entries.map fun entry => .ofOutcome entry.1 entry.2 results := rfl
  have size : r.targets.length = o.size := List.length_map _
  have verdict := hasFailures_iff_someFailed targets own
  refine ⟨⟨fun style output w => ?_, fun style output w f ends => ?_, r.exists_isMarked_iff.trans verdict, ?_,
    countP_isMarked targets, length_lines targets, failedCount_eq targets, ?_⟩, fun nodup => ?_⟩
  · rw [← verdict, CommandLine.ending_eq]
    split <;> simp_all
  · rw [CommandLine.ending_eq] at ends
    split at ends
    · rw [← size]
      exact (Except.error.inj ends).symm
    · cases ends
  · exact ⟨_, by rw [r.textual.parse?_pretty, Option.bind_some, r.statuses?_toJson],
      r.failed_mem_statuses_iff.trans verdict⟩
  · rw [← size]
    exact List.countP_le_length
  · have once (l : List PackageResult) (part : ∀ x ∈ l, x ∈ results) :
        (l.map fun x => o.times x.target).sum = l.length := by
      rw [List.map_congr_left fun x member => Outcomes.times_eq_one nodup (own x (part x member)), List.map_const',
        List.sum_replicate]
      simp
    rw [countP_isMarked targets, length_lines targets, once results fun _ => id,
      once _ fun x member => List.mem_of_mem_filter member, List.countP_eq_length_filter]
    exact ⟨rfl, rfl⟩

theorem verdicts_agree_mixed :
    let o : Outcomes Archive := ⟨[(⟨"x86_64-linux"⟩, .ok ⟨⟨"x86_64-linux"⟩, "1.0.0", ⟨"pkg/a.zip"⟩⟩),
      (⟨"aarch64-macos"⟩, .error (.aborted "✗ stopped")), (⟨"aarch64-linux"⟩, .ok ⟨⟨"aarch64-linux"⟩, "1.0.0", ⟨"pkg/b.zip"⟩⟩)]⟩
    let results : List PackageResult := [⟨⟨"x86_64-linux"⟩, .deb, .ok ⟨"pkg/a.deb"⟩⟩,
      ⟨⟨"x86_64-linux"⟩, .rpm, .error (.aborted "x86_64-linux" "\n✗")⟩]
    let r := { ofOutcomes "1.0.0" ⟨"pkg"⟩ o results with
      collected := [⟨"pkg/c.deb"⟩], checksums? := some ⟨"pkg/SHA256SUMS"⟩ }
    (∀ x ∈ results, x.target ∈ o.entries.map Prod.fst) ∧ r.Agrees o results ∧
      r.lines.countP isMarked = 2 ∧ r.lines.length = 8 ∧ r.failedCount = 2 := by
  intro o results r
  have own : ∀ x ∈ results, x.target ∈ o.entries.map Prod.fst := by decide
  obtain ⟨agrees, distinct⟩ :=
    verdicts_agree own "1.0.0" ⟨"pkg"⟩ [⟨"pkg/c.deb"⟩] (some ⟨"pkg/SHA256SUMS"⟩)
  obtain ⟨marked, length⟩ := distinct (by decide)
  exact ⟨own, agrees, marked, length, agrees.failedCount⟩

/-- Where two outcomes are listed for a target, its packages are told and counted twice. -/
theorem recounts_packages :
    let outcome : Except TargetFailure Archive := .ok ⟨⟨"x86_64-linux"⟩, "1.0.0", ⟨"pkg/a.zip"⟩⟩
    let o : Outcomes Archive := ⟨[(⟨"x86_64-linux"⟩, outcome), (⟨"x86_64-linux"⟩, outcome)]⟩
    let results : List PackageResult := [⟨⟨"x86_64-linux"⟩, .deb, .error (.outputMissing "x86_64-linux" "deb")⟩]
    let r := ofOutcomes "1.0.0" ⟨"pkg"⟩ o results
    (∀ x ∈ results, x.target ∈ o.entries.map Prod.fst) ∧
      r.lines.countP isMarked ≠ o.failedCount + results.countP PackageResult.isFailed ∧
      r.lines.length ≠ o.size + results.length + r.collected.length + 1 + r.checksums?.toList.length := by
  decide +kernel

end Report

namespace CommandLine.Output

open Report (Subject)

theorem foldl_errorLine (texts : List String) {o : Output} (success : o.exitCode = 0) :
    (texts.map errorLine).foldl followedBy o = ⟨0, o.standard, o.errors ++ Report.textOf texts⟩ := by
  induction texts generalizing o with
  | nil => simp [Report.textOf, ← success]
  | cons text texts ih =>
    rw [List.map_cons, List.foldl_cons, ih rfl]
    simp [followedBy, errorLine, Report.textOf, String.append_assoc]

theorem length_textOf (lines : List String) : (Report.textOf lines).length = (lines.map fun line => line.length + 1).sum := by
  rw [Report.textOf, String.length_join, List.map_map]
  exact congrArg List.sum (List.map_congr_left fun line _ => String.length_append _ _)

/-- Where lines are left out, the text is a shorter one. -/
theorem eq_of_textOf_eq {few many : List String} (part : few.Sublist many)
    (same : Report.textOf few = Report.textOf many) : few = many := by
  -- The texts need not show where a line ends, since a message can have line breaks in it. So the lengths are compared.
  have lengths := congrArg String.length same
  rw [length_textOf, length_textOf] at lengths
  suffices general : (few.map fun line => line.length + 1).sum ≤ (many.map fun line => line.length + 1).sum ∧
      ((few.map fun line => line.length + 1).sum = (many.map fun line => line.length + 1).sum → few = many) from
    general.2 lengths
  clear same lengths
  induction part with
  | slnil => exact ⟨le_rfl, fun _ => rfl⟩
  | cons line part ih =>
    rw [List.map_cons, List.sum_cons]
    exact ⟨by omega, fun same => by omega⟩
  | cons_cons line part ih =>
    rw [List.map_cons, List.map_cons, List.sum_cons, List.sum_cons]
    exact ⟨by omega, fun same => congrArg _ (ih.2 (by omega))⟩

/-- Quiet output is the lines of the failed targets, on the standard error stream. It has every line about a failure just
if no package failed. -/
theorem quiet_tells_failed_targets (verbosity : Nat) (r : Report) :
    r.lines = r.subjects.map Subject.line ∧
    report ⟨verbosity, true, false⟩ r = ⟨0, "", Report.textOf (r.linesAbout Subject.isFailedTarget)⟩ ∧
    ((report ⟨verbosity, true, false⟩ r).errors = Report.textOf (r.linesAbout Subject.isFailed) ↔
      ∀ t ∈ r.targets, ∀ p ∈ t.packages, p.isFailed = false) := by
  have shown : report ⟨verbosity, true, false⟩ r = ⟨0, "", Report.textOf (r.linesAbout Subject.isFailedTarget)⟩ := by
    rw [report, if_neg Bool.false_ne_true, if_pos rfl, foldl_errorLine _ rfl, Report.failureLines_eq]
    simp [empty]
  refine ⟨r.lines_eq, shown, ?_⟩
  rw [shown]
  constructor
  · intro same t listed p own
    have part : (r.subjects.filter Subject.isFailedTarget).Sublist (r.subjects.filter Subject.isFailed) :=
      List.monotone_filter_right _ fun s failed => by cases s <;> first | exact failed | cases failed
    have lengths := congrArg List.length (eq_of_textOf_eq (part.map Subject.line) same)
    rw [List.length_map, List.length_map] at lengths
    have all := part.eq_of_length lengths
    by_contra failed
    have listed' : .package p ∈ r.subjects.filter Subject.isFailed :=
      List.mem_filter.mpr ⟨Report.package_mem_subjects.mpr ⟨t, listed, own⟩, (Bool.not_eq_false _).mp failed⟩
    rw [← all] at listed'
    cases (List.mem_filter.mp listed').2
  · intro succeeded
    rw [Report.linesAbout, Report.linesAbout]
    refine congrArg (fun all => Report.textOf (all.map Subject.line)) (List.filter_congr fun s member => ?_)
    cases s with
    | package p =>
      obtain ⟨t, listed, own⟩ := Report.package_mem_subjects.mp member
      exact (succeeded t listed p own).symm
    | _ => rfl

/-- A package that failed can have no line in quiet output, where its target was built. -/
theorem quiet_conceals_package :
    let r : Report := ⟨"1.0.0", ⟨"pkg"⟩, [⟨⟨"x86_64-linux"⟩, .ok ⟨"pkg/mufiz_1.0.0_x86_64-linux.zip"⟩,
      [⟨.deb, .error "deb packaging failed for 'x86_64-linux' (exit code Some(1))"⟩]⟩], [], none⟩
    r.linesAbout Subject.isFailed = ["    ✗ deb: deb packaging failed for 'x86_64-linux' (exit code Some(1))"] ∧
      report ⟨0, true, false⟩ r = ⟨0, "", ""⟩ := by
  decide +kernel

end CommandLine.Output

end ReleaseMatrix
