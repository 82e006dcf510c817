import ReleaseMatrix.Workspace.Change
import ReleaseMatrix.Archive
import ReleaseMatrix.Digest
import ReleaseMatrix.Config
import ReleaseMatrix.Report

namespace ReleaseMatrix.Collection

/-- The extensions of native packages. -/
def packageExtensions : List String :=
  ["deb", "rpm", "pkg.tar.zst", "snap"]

/-- Whether a file name is that of a native package. Something stands before the extension. -/
def isPackageName (name : String) : Bool :=
  packageExtensions.any fun extension =>
    name.utf8ByteSize > extension.utf8ByteSize + 1 && name.endsWith ("." ++ extension)

/-- Whether two paths name one directory. Where one of them does not exist, their spelling decides. -/
def isSameDirectory (w : Workspace) (a b : Path) : Bool :=
  match w.canonical a, w.canonical b with
  | .ok a, .ok b => a = b
  | _, _ => decide (a.Same b)

/-- The loose packages at the top level of a directory: its regular files with the name of a package, in
increasing order. Links do not count. -/
def looseNames (w : Workspace) (source : Path) : Except FileFault (List String) := do
  match ← w.find source with
  | (l, .directory) =>
    let isLoose (name : String) : Bool :=
      isPackageName name && (w.files.get? (l ++ [name])).any Entry.isFile
    pure ((w.files.names l).filter isLoose)
  | _ => pure []

/-- Moves the packages with these names, and says where they are now. -/
def moveAll (source dest : Path) (names : List String) : TaskM FileError (List Path) :=
  names.mapM fun name => do
    Files.move (source.join name) (dest.join name)
    pure (dest.join name)

/-- Moves the loose packages of a directory to another one, and says where they are now. Nothing moves when
the two are the same. -/
def run (source dest : Path) : TaskM FileError (List Path) := do
  if isSameDirectory (← get) source dest then pure []
  else
    let names ← (FileM.look (looseNames · source)).describe fun fault =>
      .read source ("IO error for operation on " ++ source.text ++ ": " ++ fault.message)
    moveAll source dest names

end ReleaseMatrix.Collection

namespace ReleaseMatrix.Checksums

/-- The name of the manifest that a release writes. -/
def manifestName : String := "SHA256SUMS"

/-- Whether a file belongs in the manifest: archives and native packages do. -/
def isListed (name : String) : Bool :=
  name.endsWith ("." ++ Archive.extension) || Collection.isPackageName name

/-- The digest of a file in lowercase hexadecimal. -/
def digestOf (w : Workspace) (p : Path) : Except FileError String :=
  ((w.read p).mapError (.read p ·.message)).map fun content => hex (Sha256.digest content)

/-- The line of the manifest for one file. -/
def line (digest name : String) : String :=
  digest ++ "  " ++ name ++ "\n"

/-- The names in a directory that belong in the manifest, in increasing order. -/
def listedNames (w : Workspace) (dir : Path) : Except FileError (List String) := do
  let names ← (w.list dir).mapError (.read dir ·.message)
  pure (names.filter fun name => w.isFile (dir.join name) && isListed name)

/-- The manifest of a directory. -/
def text (w : Workspace) (dir : Path) : Except FileError String := do
  let lines ← (← listedNames w dir).mapM fun name => do
    pure (line (← digestOf w (dir.join name)) name)
  pure (String.join lines)

/-- Writes the manifest of a directory into the directory, and says where it is. -/
def write (dir : Path) (name : String) : TaskM FileError Path := do
  let content ← MonadExcept.ofExcept (text (← get) dir)
  Files.writeText (dir.join name) content
  pure (dir.join name)

end ReleaseMatrix.Checksums

namespace ReleaseMatrix

/-- What follows the builds of a release: packages, collection and checksums. It can also follow an earlier
run that left its archives. -/
structure Packaging where
  config : ReleaseConfig
  packager : Packager

namespace Packaging

def archiver (p : Packaging) : Archiver :=
  ⟨p.config.product, p.config.outDir⟩

def packageBuilder (p : Packaging) : PackageBuilder :=
  ⟨p.packager, p.config.product, p.config.outDir, p.config.formats⟩

/-- Collects loose packages of the project, writes the checksums and reports. It does no harm if either of
the two fails. -/
def finish (p : Packaging) (outcomes : Outcomes Archive) (packages : List PackageResult) :
    StateM Workspace Report := do
  let report := Report.ofOutcomes p.config.version p.config.outDir outcomes packages
  let collected ← (Collection.run p.config.projectDir p.config.outDir).run
  let checksums ← (Checksums.write p.config.outDir Checksums.manifestName).run
  pure { report with collected := collected.toOption.getD [], checksums? := checksums.toOption }

/-- The archive of a target that an earlier run left. -/
def existingArchive (p : Packaging) (w : Workspace) (t : Target) : Except TargetFailure Archive :=
  let path := p.archiver.path p.config.version t
  if w.isFile path then .ok ⟨t, p.config.version, path⟩ else .error (.archive (.missing path))

/-- Packages the archives that an earlier run left, for each target of a catalog that is packaged at all. -/
def run (p : Packaging) (c : Catalog) : TaskM ReleaseError Report := do
  (Files.makeDirectories p.config.outDir).describe .files
  let w ← get
  let targets := c.targets.filter fun t => PackageSpec.isApplicable t p.config.formats
  let outcomes : Outcomes Archive := ⟨targets.map fun t => (t, p.existingArchive w t)⟩
  let packages ← p.packageBuilder.buildEach outcomes.successes
  p.finish outcomes packages

end Packaging

end ReleaseMatrix
