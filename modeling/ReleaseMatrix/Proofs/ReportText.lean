import ReleaseMatrix.Proofs.JsonSpelling
import ReleaseMatrix.Report

namespace ReleaseMatrix

namespace Json

/-- The value of the first member with this key. -/
def member? (key : String) : Json → Option Json
  | .object members => (members.find? (·.1 == some key)).map (·.2)
  | _ => none

/-- The text of a string. -/
def toText? : Json → Option String
  | .string text? => text?
  | _ => none

/-- The path that a string spells. -/
def toPath? (v : Json) : Option Path :=
  v.toText?.map Path.mk

def textAt? (key : String) (v : Json) : Option String :=
  (v.member? key).bind toText?

@[simp]
theorem member?_nil (key : String) : (ofMembers []).member? key = none := rfl

@[simp]
theorem member?_cons (key name : String) (v : Json) (members : List (String × Json)) :
    (ofMembers ((name, v) :: members)).member? key = if name = key then some v else (ofMembers members).member? key := by
  by_cases same : name = key <;> simp [ofMembers, member?, same]

@[simp]
theorem toText?_text (s : String) : (text s).toText? = some s := rfl

theorem toPath?_text (p : Path) : (text p.text).toPath? = some p := rfl

/-- The items of an array that a member holds, each as it is read; no member, no items. -/
def itemsAt? {α : Type} (read : Json → Option α) (key : String) (v : Json) : Option (List α) :=
  match v.member? key with
  | none => some []
  | some (.array items) => items.mapM read
  | some _ => none

end Json

/-- What the members say about how something ended. The place of what was made has the given key. -/
def outcomeOf? (key : String) (v : Json) : Option (Except String Path) := do
  let status ← v.textAt? "status"
  if status = "ok" then pure (.ok ⟨← v.textAt? key⟩)
  else if status = "failed" then pure (.error (← v.textAt? "error"))
  else none

def PackageReport.ofJson? (v : Json) : Option PackageReport := do
  let name ← v.textAt? "format"
  pure ⟨← PackageFormat.all.find? (·.name == name), ← outcomeOf? "path" v⟩

def TargetReport.ofJson? (v : Json) : Option TargetReport := do
  pure ⟨⟨← v.textAt? "target"⟩, ← outcomeOf? "archive" v, ← v.itemsAt? PackageReport.ofJson? "packages"⟩

namespace Report

/-- The report that a value tells of. Members that are absent say that there is nothing to tell. -/
def ofJson? (v : Json) : Option Report := do
  let version ← v.textAt? "version"
  let outDir ← v.textAt? "out_dir"
  let targets ← v.itemsAt? TargetReport.ofJson? "targets"
  let collected ← v.itemsAt? Json.toPath? "collected"
  pure ⟨version, ⟨outDir⟩, targets, collected, (v.textAt? "checksums").map Path.mk⟩

/-- The report that a text tells of. -/
def ofText? (s : String) : Option Report :=
  (Json.parse? s).bind ofJson?

end Report

theorem PackageFormat.find?_name (f : PackageFormat) : all.find? (·.name == f.name) = some f := by
  cases f <;> decide

theorem PackageReport.ofJson?_toJson (r : PackageReport) : ofJson? r.toJson = some r := by
  obtain ⟨format, outcome⟩ := r
  cases outcome <;>
    simp [toJson, ofJson?, outcomeMembers, outcomeOf?, Json.textAt?, PackageFormat.find?_name]

theorem TargetReport.ofJson?_toJson (r : TargetReport) : ofJson? r.toJson = some r := by
  obtain ⟨t, outcome, packages⟩ := r
  have read := mapM_map_of_inverse PackageReport.ofJson?_toJson packages
  cases outcome <;> cases packages <;>
    simp_all [toJson, ofJson?, outcomeMembers, outcomeOf?, itemsMember, Json.textAt?, Json.itemsAt?]

theorem Report.ofJson?_toJson (r : Report) : ofJson? r.toJson = some r := by
  obtain ⟨version, outDir, targets, collected, checksums?⟩ := r
  have readTargets := mapM_map_of_inverse TargetReport.ofJson?_toJson targets
  have readCollected := mapM_map_of_inverse Json.toPath?_text collected
  cases collected <;> cases checksums? <;>
    simp_all [toJson, ofJson?, itemsMember, Json.textAt?, Json.itemsAt?]

theorem textual_outcomeMembers (key : String) (outcome : Except String Path) :
    ∀ member ∈ outcomeMembers key outcome, Json.Textual member.2 := by
  cases outcome <;> simp [outcomeMembers, Json.Textual.text]

theorem textual_itemsMember {items : List Json} (each : ∀ v ∈ items, Json.Textual v) (key : String) :
    ∀ member ∈ itemsMember key items, Json.Textual member.2 := by
  unfold itemsMember
  split
  · simp
  · simpa using Json.Textual.array each

theorem PackageReport.textual (r : PackageReport) : Json.Textual r.toJson :=
  .object (List.forall_mem_cons.mpr ⟨.text _, textual_outcomeMembers _ _⟩)

theorem TargetReport.textual (r : TargetReport) : Json.Textual r.toJson := by
  have packages : ∀ v ∈ r.packages.map PackageReport.toJson, Json.Textual v := by
    simpa using fun p _ => p.textual
  refine .object fun member listed => ?_
  rcases List.mem_append.mp listed with first | last
  · exact List.forall_mem_cons.mpr ⟨.text _, textual_outcomeMembers _ _⟩ member first
  · exact textual_itemsMember packages _ member last

theorem Report.textual (r : Report) : Json.Textual r.toJson := by
  have targets : ∀ v ∈ r.targets.map TargetReport.toJson, Json.Textual v := by
    simpa using fun t _ => t.textual
  have collected : ∀ v ∈ r.collected.map fun p => Json.text p.text, Json.Textual v := by
    simpa using fun (p : Path) _ => Json.Textual.text p.text
  refine .object fun member listed => ?_
  simp only [List.mem_append, List.mem_cons, List.not_mem_nil, or_false, Option.mem_toList] at listed
  obtain ((rfl | rfl | rfl) | found) | found := listed
  · exact .text _
  · exact .text _
  · exact .array targets
  · exact textual_itemsMember collected _ member found
  · obtain ⟨p, -, rfl⟩ := Option.map_eq_some_iff.mp found
    exact .text _

namespace Report

/-- The text of a report tells the whole report: a reader finds it again, so that no two reports have one text. -/
theorem lossless : (∀ r : Report, ofText? r.toJson.pretty = some r) ∧
    ∀ r s : Report, r.toJson.pretty = s.toJson.pretty → r = s := by
  have read (r : Report) : ofText? r.toJson.pretty = some r := by
    rw [ofText?, r.textual.parse?_pretty, Option.bind_some, ofJson?_toJson]
  refine ⟨read, fun r s same => ?_⟩
  have both := read r
  rw [same, read s] at both
  exact (Option.some_inj.mp both).symm

end Report

end ReleaseMatrix
