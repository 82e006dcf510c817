import ReleaseMatrix.Error
import ReleaseMatrix.Text.Quoted
import ReleaseMatrix.Workspace.Change
import ReleaseMatrix.Archive
import ReleaseMatrix.Workspace

namespace ReleaseMatrix.PackageScratch

/-- The names of the directories that packages are made in start with this. -/
def stem : String := ".native-"

/-- The `n`-th name: its number has six digits at least. -/
def nameOf (n : Nat) : String :=
  let digits := (toString n).toList
  stem ++ String.ofList (List.replicate (6 - digits.length) '0' ++ digits)

/-- The first name that is not among the given ones. -/
def freshName (taken : List String) : String :=
  let names := (List.range (taken.length + 1)).map nameOf
  (names.find? (· ∉ taken)).getD (nameOf 0)

/-- An absolute path is kept, and another one is taken from the current directory. -/
def absolute (w : Workspace) (p : Path) : Path :=
  if p.isAbsolute then p else (Workspace.pathOf w.directory).join p.text

/-- Makes a directory of its own for one package, inside the output directory. -/
def make (outDir : Path) : TaskM PackageError Path := do
  let w ← get
  let taken := (w.list outDir).toOption.getD []
  let p := (absolute w outDir).join (freshName taken)
  (FileM.makeDirectory p).describe fun fault =>
    .files outDir (fault.message ++ " at path " ++ Text.quote p.text)
  pure p

end ReleaseMatrix.PackageScratch

namespace ReleaseMatrix

/-- The external packager. It writes its output into the given directory. -/
structure Packager where
  pack : PackageRequest → Path → WorkM PackageError Unit

/-- The outcome of one package: where it is, or why there is none. -/
structure PackageResult where
  target : Target
  format : PackageFormat
  outcome : Except PackageError Path

/-- Builds the native packages of a product into a directory. -/
structure PackageBuilder where
  packager : Packager
  product : String
  outDir : Path
  formats : List PackageFormat

namespace PackageBuilder

/-- The file that the packager wrote: the one with the expected name, or else the only one with the
format's extension. -/
def produced? (w : Workspace) (workDir : Path) (expected : String) (f : PackageFormat) : Option Path :=
  if w.isFile (workDir.join expected) then some (workDir.join expected)
  else
    let names := (w.list workDir).toOption.getD []
    let fits (name : String) : Bool := w.isFile (workDir.join name) && name.endsWith ("." ++ f.extension)
    match names.filter fits with
    | [name] => some (workDir.join name)
    | _ => none

/-- Runs the packager in its own directory and moves its output to the output directory. -/
def packIn (b : PackageBuilder) (workDir : Path) (r : PackageRequest) : WorkM PackageError Path := do
  modify (·.record (.packed r))
  b.packager.pack r workDir
  let some produced := produced? (← get) workDir r.outputName r.spec.format
    | WorkM.fail (.outputMissing r.spec.target.id r.spec.format.name)
  modify fun w => w.record (.produced r ((w.read produced).toOption.getD []))
  let dest := b.outDir.join (r.spec.releaseName b.product r.version)
  WorkM.ofTask ((Files.move produced dest).describe fun e => .files dest e.message)
  pure dest

/-- Builds one package of an archive. The packager's directory is removed however the work ends. -/
def buildOne (b : PackageBuilder) (a : Archive) (s : PackageSpec) : WorkM PackageError Path := do
  if !(← get).isFile a.path then WorkM.fail (.archiveMissing a.path)
  let archive ← WorkM.ofTask ((FileM.look (·.canonical a.path)).describe (.files a.path ·.message))
  let workDir ← WorkM.ofTask (PackageScratch.make b.outDir)
  let outcome ← TaskM.attempt
    (b.packIn workDir ⟨b.product, a.version, s, archive, s.outputName b.product a.version⟩)
  let _ ← (FileM.removeTree workDir).attempt
  MonadExcept.ofExcept outcome

/-- Builds the packages of an archive in the order of the formats. There are none for a target that is not
packaged. -/
def buildAll (b : PackageBuilder) (a : Archive) : TaskM Crash (List PackageResult) :=
  (PackageSpec.list a.target b.formats).mapM fun s => do
    pure ⟨s.target, s.format, ← (b.buildOne a s).outcome⟩

/-- The results for an archive whose worker broke down: every package is given up. -/
def aborted (b : PackageBuilder) (t : Target) (crash : Crash) : List PackageResult :=
  (PackageSpec.list t b.formats).map fun s => ⟨s.target, s.format, .error (.aborted t.id crash.cause)⟩

/-- Builds the packages of archives, one archive after the other. -/
def buildEach (b : PackageBuilder) (archives : List Archive) : StateM Workspace (List PackageResult) := do
  let results ← archives.mapM fun a => do
    match ← (b.buildAll a).run with
    | .ok results => pure results
    | .error crash => pure (b.aborted a.target crash)
  pure results.flatten

end PackageBuilder

end ReleaseMatrix
