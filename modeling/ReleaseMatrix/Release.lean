import ReleaseMatrix.Build
import ReleaseMatrix.Packaging
import ReleaseMatrix.Schedule

namespace ReleaseMatrix

/-- A release run: what it is told, and the external tools that it uses. -/
structure Release where
  config : ReleaseConfig
  compiler : Compiler
  packager : Packager

namespace Release

def builder (r : Release) : Builder where
  compiler := r.compiler
  product := r.config.product
  restrictedTarget := r.config.restrictedTarget
  barrier := r.config.barrier
  clock := .steady r.config.barrier.pollInterval

def packaging (r : Release) : Packaging :=
  ⟨r.config, r.packager⟩

/-- Removes what the build of a target left. It does no harm if that fails. -/
def removeScratch (root : Path) (t : Target) : TaskM TargetFailure Unit :=
  match Scratch.directory root t with
  | .ok scratch => do let _ ← (Files.removeDirectory scratch).attempt
  | .error _ => pure ()

/-- Archives the binary of a build that ended. -/
def archiveBuilt (r : Release) (t : Target) : Except BuildError Path → TaskM TargetFailure Archive
  | .ok binary => (r.packaging.archiver.package r.config.version t (some binary)).describe .archive
  | .error e => throw (.build e)

/-- Builds and archives one target. -/
def buildTarget (r : Release) (t : Target) : WorkM TargetFailure Archive := do
  let built ← (r.builder.build t r.config.scratchDir).outcome.describe .crashed
  WorkM.ofTask do
    let archived ← (r.archiveBuilt t built).attempt
    removeScratch r.config.scratchDir t
    MonadExcept.ofExcept archived

def buildArchives (r : Release) (targets : List Target) : StateM Workspace (Outcomes Archive) :=
  Schedule.run r.buildTarget targets

/-- The packages of the archives, unless they are to be left out. -/
def buildPackages (r : Release) (archives : List Archive) : StateM Workspace (List PackageResult) :=
  if r.config.skipNative then pure [] else r.packaging.packageBuilder.buildEach archives

/-- Makes the directories that a run works in. -/
def prepare (r : Release) : TaskM ReleaseError Unit := do
  (Files.makeDirectories r.config.outDir).describe .files
  (Files.makeDirectories r.config.scratchDir).describe .files

/-- What follows the builds: the scratch directory goes, and the archives are packaged. It does no harm if the
directory cannot be removed. -/
def settle (r : Release) (outcomes : Outcomes Archive) : StateM Workspace Report := do
  let _ ← (Files.removeDirectory r.config.scratchDir).run
  let packages ← r.buildPackages outcomes.successes
  r.packaging.finish outcomes packages

/-- Builds, archives and packages every target of a catalog. -/
def run (r : Release) (c : Catalog) : TaskM ReleaseError Report := do
  r.prepare
  r.settle (← r.buildArchives c.targets)

end Release

end ReleaseMatrix
