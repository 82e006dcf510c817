import ReleaseMatrix.Build
import ReleaseMatrix.Catalog
import ReleaseMatrix.Package.Spec

namespace ReleaseMatrix

/-- All that a release run is told. -/
structure ReleaseConfig where
  product : String
  version : String
  /-- The directory that the toolchain runs in. -/
  projectDir : Path
  /-- Where archives and packages go. -/
  outDir : Path
  /-- Where each target has a directory to be built in. -/
  scratchDir : Path
  /-- How many targets are built at once. -/
  jobs : Nat
  formats : List PackageFormat
  restrictedTarget : String
  barrier : Barrier
  skipNative : Bool

namespace ReleaseConfig

def defaultProduct : String := "mufiz"
def defaultJobs : Nat := 2
def defaultOutDir : String := "pkg"
def defaultTargetsFile : String := "targets.json"
def defaultScratchDir : String := ".release-scratch"
def defaultFormats : List PackageFormat := [.deb, .rpm]

/-- A requested number of workers, limited to the number of processors. There is always one. -/
def effectiveJobs (processors requested : Nat) : Nat :=
  min (max requested 1) (max processors 1)

/-- The configuration of a project for which nothing but a version is given. -/
def standard (processors : Nat) (projectDir : Path) (version : String) : ReleaseConfig where
  product := defaultProduct
  version := version
  projectDir := projectDir
  outDir := projectDir.join defaultOutDir
  scratchDir := projectDir.join defaultScratchDir
  jobs := effectiveJobs processors defaultJobs
  formats := defaultFormats
  restrictedTarget := Catalog.defaultRestricted
  barrier := .default
  skipNative := false

end ReleaseConfig

end ReleaseMatrix
