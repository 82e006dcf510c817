import ReleaseMatrix.Catalog.Stored
import ReleaseMatrix.CommandLine.Invocation
import ReleaseMatrix.Version.Resolve
import ReleaseMatrix.Catalog
import ReleaseMatrix.CommandLine.Help
import ReleaseMatrix.Release
import ReleaseMatrix.Report
import ReleaseMatrix.Tool

namespace ReleaseMatrix.CommandLine

/-- What caused a command to fail. -/
inductive Cause
  | config (error : ConfigError)
  | files (error : FileError)
  | fault (fault : FileFault)

def Cause.message : Cause → String
  | config error => error.message
  | files error => error.message
  | fault f => f.message

/-- Why a command fails: a message, and the causes behind it, the nearest one first. -/
structure Failure where
  message : String
  causes : List Cause

namespace Failure

/-- The failure of a release. The error inside of it counts as a cause too. -/
def ofRelease (e : ReleaseError) : Failure :=
  ⟨e.message, match e with
    | .config error => [.config error]
    | .files error => [.files error]
    | .targetsFailed .. => []⟩

end Failure

/-- Loads the catalog of a project. -/
def loadCatalog (w : Workspace) (o : CatalogOptions) : Except Failure Catalog :=
  (Catalog.load w o.catalogPath).mapError fun e =>
    ⟨"Failed to load target catalog " ++ o.catalogPath.text, [.config e]⟩

/-- The list without what occurs in it earlier. -/
def distinct (formats : List PackageFormat) : List PackageFormat :=
  formats.foldl (fun seen f => if f ∈ seen then seen else seen ++ [f]) []

/-- The configuration of a release or of a packaging run. The project's directory is made absolute, since
the toolchain runs in it. -/
def configure (processors : Nat) (w : Workspace) (project : ProjectOptions) (package : PackageOptions)
    (catalog : Catalog) : Except Failure ReleaseConfig := do
  let projectDir ← (w.canonical project.catalog.projectDir).mapError fun fault =>
    (⟨"Project directory " ++ project.catalog.projectDir.text ++ " does not exist",
      [.fault fault]⟩ : Failure)
  let version ← (Version.resolve w project.version? projectDir).mapError fun e =>
    (⟨"Failed to determine the release version", [.config e]⟩ : Failure)
  let config := ReleaseConfig.standard processors projectDir version
  pure { config with
    outDir := project.outDir?.getD config.outDir
    product := project.product?.getD config.product
    formats := if package.formats.isEmpty then config.formats else distinct package.formats
    restrictedTarget := catalog.restricted?.getD config.restrictedTarget }

/-- The configuration with what is said about building. -/
def BuildOptions.apply (o : BuildOptions) (processors : Nat) (config : ReleaseConfig) : ReleaseConfig :=
  { config with
    jobs := ReleaseConfig.effectiveJobs processors o.jobs
    barrier := { config.barrier with minDelay := o.settleMs }
    skipNative := o.skipNative }

/-- What a command line prints, and its exit code. -/
structure Output where
  exitCode : Nat
  standard : String
  errors : String
deriving DecidableEq, Repr

namespace Output

def empty : Output :=
  ⟨0, "", ""⟩

def line (text : String) : Output :=
  ⟨0, text ++ "\n", ""⟩

def errorLine (text : String) : Output :=
  ⟨0, "", text ++ "\n"⟩

/-- One output after the other. The later exit code counts. -/
def followedBy (a b : Output) : Output :=
  ⟨b.exitCode, a.standard ++ b.standard, a.errors ++ b.errors⟩

def lines (texts : List String) : Output :=
  (texts.map line).foldl followedBy empty

def json (v : Json) : Output :=
  line v.pretty

/-- A line for people, which is left out if output is quiet or for programs. -/
def note (style : OutputStyle) (text : String) : Output :=
  if style.isQuiet || style.isJson then empty else line text

def failure (style : OutputStyle) (f : Failure) : Output :=
  let causes := f.causes.map Cause.message
  let shown :=
    if style.isJson then
      errorLine (Json.ofMembers
        [("causes", .array (causes.map Json.text)), ("error", .text f.message)]).compact
    else
      (errorLine (Report.marks.failure ++ " Error: " ++ f.message)).followedBy
        ((causes.map fun cause => errorLine ("  caused by: " ++ cause)).foldl followedBy empty)
  { shown with exitCode := 1 }

def report (style : OutputStyle) (r : Report) : Output :=
  if style.isJson then json r.toJson
  else if style.isQuiet then (r.failureLines.map errorLine).foldl followedBy empty
  else lines r.lines

end Output

/-- What a command prints before it ends or fails. -/
abbrev CommandM := ExceptT Failure (StateT Output (StateM Workspace))

namespace CommandM

def print (o : Output) : CommandM Unit :=
  modify (·.followedBy o)

/-- Work on the workspace as part of a command. -/
def task {ε α : Type} (describe : ε → Failure) (x : TaskM ε α) : CommandM α := do
  let outcome ← (x.run : StateM Workspace _)
  MonadExcept.ofExcept (outcome.mapError describe)

def workspace : CommandM Workspace :=
  (get : StateM Workspace Workspace)

end CommandM

open CommandM (print task workspace)

/-- Shows the report of a release, and fails if something in it failed. -/
def conclude (style : OutputStyle) (r : Report) : CommandM Unit := do
  print (.report style r)
  if r.hasFailures then
    throw (.ofRelease (.targetsFailed r.failedCount r.targets.length))

def runRelease (m : Machine) (style : OutputStyle) (project : ProjectOptions) (build : BuildOptions)
    (package : PackageOptions) : CommandM Unit := do
  let w ← workspace
  let catalog ← MonadExcept.ofExcept (loadCatalog w project.catalog)
  let config ← MonadExcept.ofExcept (configure m.processors w project package catalog)
  let config := build.apply m.processors config
  print (.note style ("Building " ++ config.product ++ " " ++ config.version ++ " for " ++
    toString catalog.targets.length ++ " target(s)"))
  let compiler := Tool.compiler m build.zig config.projectDir
  let release : Release := ⟨config, compiler, Tool.packager m package.fpm⟩
  conclude style (← task .ofRelease (release.run catalog))

def runNative (m : Machine) (style : OutputStyle) (project : ProjectOptions) (package : PackageOptions) :
    CommandM Unit := do
  let w ← workspace
  let catalog ← MonadExcept.ofExcept (loadCatalog w project.catalog)
  let config ← MonadExcept.ofExcept (configure m.processors w project package catalog)
  print (.note style ("Packaging " ++ config.product ++ " " ++ config.version ++ " from " ++
    config.outDir.text))
  let packaging : Packaging := ⟨config, Tool.packager m package.fpm⟩
  conclude style (← task .ofRelease (packaging.run catalog))

def runTargets (style : OutputStyle) (o : CatalogOptions) : CommandM Unit := do
  let catalog ← MonadExcept.ofExcept (loadCatalog (← workspace) o)
  print (if style.isJson then .json catalog.listingJson else .lines catalog.listingLines)

def runCollect (style : OutputStyle) (source? : Option Path) (o : OutputOptions) : CommandM Unit := do
  let source := source?.getD o.projectDir
  task (fun e => ⟨FileError.message e, []⟩) (Files.makeDirectories o.outDir)
  let moved ← task (fun e => ⟨"Failed to collect packages from " ++ source.text, [.files e]⟩)
    (Collection.run source o.outDir)
  if style.isJson then print (.json (.array (moved.map fun p => .text p.text)))
  else if moved.isEmpty then print (.note style (Report.marks.success ++ " Nothing to collect"))
  else
    print (.note style (Report.marks.success ++ " Collected " ++ toString moved.length ++ " package(s):"))
    for p in moved do
      print (.note style ("  " ++ p.text))

def runChecksums (style : OutputStyle) (o : OutputOptions) : CommandM Unit := do
  if !(← workspace).isDirectory o.outDir then
    throw ⟨"Output directory " ++ o.outDir.text ++
      " does not exist. Run 'mufiz-release release' first.", []⟩
  let path ← task (fun e => ⟨"Failed to write checksums in " ++ o.outDir.text, [.files e]⟩)
    (Checksums.write o.outDir Checksums.manifestName)
  if style.isJson then print (.json (.ofMembers [("checksums", .text path.text)]))
  else print (.note style (Report.marks.success ++ " Wrote " ++ path.text))

def runCommand (m : Machine) (style : OutputStyle) : Command → CommandM Unit
  | .release project build package => runRelease m style project build package
  | .native project package => runNative m style project package
  | .targets catalog => runTargets style catalog
  | .collect source? output => runCollect style source? output
  | .checksums output => runChecksums style output

/-- Runs what was asked for, and shows the failure if it fails. -/
def Invocation.run (m : Machine) (i : Invocation) : StateM Workspace Output := do
  match i.command? with
  | none => pure ⟨0, Help.text m.valueOf? .program, ""⟩
  | some c =>
    match ← ((runCommand m i.style c).run.run Output.empty) with
    | (.ok (), output) => pure output
    | (.error f, output) => pure (output.followedBy (.failure i.style f))

/-- The exit code of a command line that is wrong. -/
def misuseCode : Nat := 2

/-- What is printed where a command line is not carried out. -/
def Halt.output (m : Machine) : Halt → Output
  | help topic => ⟨0, Help.text m.valueOf? topic, ""⟩
  | version subcommand? => ⟨0, versionText subcommand?, ""⟩
  | misuse error => ⟨misuseCode, "", error.message ++ "\n"⟩

/-- Runs a command line in a workspace. -/
def run (m : Machine) (words : List String) : StateM Workspace Output := do
  match Invocation.ofWords m.valueOf? words with
  | .error halt => pure (halt.output m)
  | .ok invocation => invocation.run m

end ReleaseMatrix.CommandLine
