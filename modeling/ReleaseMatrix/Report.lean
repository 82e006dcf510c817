import ReleaseMatrix.Archive
import ReleaseMatrix.Schedule
import ReleaseMatrix.Package
import ReleaseMatrix.Json

namespace ReleaseMatrix

/-- What is reported about one package: where it is, or an error message. -/
structure PackageReport where
  format : PackageFormat
  outcome : Except String Path

/-- What is reported about one target: where its archive is, or an error message, and its packages. -/
structure TargetReport where
  target : Target
  outcome : Except String Path
  packages : List PackageReport

/-- What is reported about a release. -/
structure Report where
  version : String
  outDir : Path
  targets : List TargetReport
  /-- Packages that were not built by the release but found in the project. -/
  collected : List Path
  checksums? : Option Path

namespace PackageReport

def ofResult (r : PackageResult) : PackageReport :=
  ⟨r.format, r.outcome.mapError PackageError.message⟩

def isFailed (r : PackageReport) : Bool :=
  !r.outcome.toBool

end PackageReport

namespace TargetReport

/-- The report of a target, with those of the packages that are its own. -/
def ofOutcome (t : Target) (outcome : Except TargetFailure Archive) (packages : List PackageResult) :
    TargetReport :=
  ⟨t, (outcome.mapError TargetFailure.message).map Archive.path,
    (packages.filter (·.target = t)).map .ofResult⟩

def isFailed (r : TargetReport) : Bool :=
  !r.outcome.toBool

/-- Whether the target or a package of it failed. -/
def hasFailures (r : TargetReport) : Bool :=
  r.isFailed || r.packages.any PackageReport.isFailed

end TargetReport

namespace Report

def ofOutcomes (version : String) (outDir : Path) (outcomes : Outcomes Archive)
    (packages : List PackageResult) : Report where
  version := version
  outDir := outDir
  targets := outcomes.entries.map fun (t, outcome) => .ofOutcome t outcome packages
  collected := []
  checksums? := none

/-- How many targets have a failure of their own or of a package. -/
def failedCount (r : Report) : Nat :=
  r.targets.countP TargetReport.hasFailures

def hasFailures (r : Report) : Bool :=
  r.failedCount > 0

def archiveCount (r : Report) : Nat :=
  r.targets.countP (!TargetReport.isFailed ·)

def packageCount (r : Report) : Nat :=
  (r.targets.flatMap TargetReport.packages).countP (!PackageReport.isFailed ·)

end Report

/-- The members that tell how something ended. The place of what was made has the given key. -/
def outcomeMembers (key : String) : Except String Path → List (String × Json)
  | .ok path => [("status", .text "ok"), (key, .text path.text)]
  | .error message => [("status", .text "failed"), ("error", .text message)]

def PackageReport.toJson (r : PackageReport) : Json :=
  .ofMembers (("format", .text r.format.name) :: outcomeMembers "path" r.outcome)

/-- The member with these items; no items, no member. -/
def itemsMember (key : String) (items : List Json) : List (String × Json) :=
  if items.isEmpty then [] else [(key, .array items)]

def TargetReport.toJson (r : TargetReport) : Json :=
  .ofMembers (("target", .text r.target.id) :: outcomeMembers "archive" r.outcome ++
    itemsMember "packages" (r.packages.map PackageReport.toJson))

def Report.toJson (r : Report) : Json :=
  .ofMembers ([("version", .text r.version), ("out_dir", .text r.outDir.text),
      ("targets", .array (r.targets.map TargetReport.toJson))] ++
    itemsMember "collected" (r.collected.map fun p => .text p.text) ++
    (r.checksums?.map fun p => ("checksums", Json.text p.text)).toList)

/-- The marks that output lines start with. -/
structure Marks where
  success : String
  failure : String
  warning : String
  note : String

def Marks.standard : Marks := ⟨"✓", "✗", "⚠", "ℹ"⟩

namespace Report

def marks : Marks := .standard

/-- The line that tells how something ended. -/
def outcomeLine (name : String) : Except String Path → String
  | .ok path => marks.success ++ " " ++ name ++ " -> " ++ path.text
  | .error message => marks.failure ++ " " ++ name ++ ": " ++ message

def targetLines (r : TargetReport) : List String :=
  outcomeLine r.target.id r.outcome ::
    r.packages.map fun p => "    " ++ outcomeLine p.format.name p.outcome

def summaryLine (r : Report) : String :=
  (if r.hasFailures then marks.warning else marks.success) ++ " mufiz " ++ r.version ++ ": " ++
    toString r.archiveCount ++ " archive(s), " ++ toString r.packageCount ++ " package(s), " ++
    toString r.failedCount ++ " of " ++ toString r.targets.length ++ " target(s) failed"

/-- The report as lines of text. -/
def lines (r : Report) : List String :=
  r.targets.flatMap targetLines ++
    r.collected.map (fun p => marks.note ++ " collected " ++ p.text) ++
    [r.summaryLine] ++
    (r.checksums?.map fun p => "  Checksums: " ++ p.text).toList

/-- The lines that are shown even when output is to be quiet. -/
def failureLines (r : Report) : List String :=
  if r.hasFailures then r.lines.filter (·.startsWith marks.failure) else []

end Report

end ReleaseMatrix
