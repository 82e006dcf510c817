import ReleaseMatrix.CommandLine.Reader
import ReleaseMatrix.Config

namespace ReleaseMatrix.CommandLine

/-- Where a project and its catalog are. -/
structure CatalogOptions where
  projectDir : Path
  targets? : Option Path
deriving DecidableEq, Repr

def CatalogOptions.catalogPath (o : CatalogOptions) : Path :=
  o.targets?.getD (o.projectDir.join ReleaseConfig.defaultTargetsFile)

/-- Where output goes. -/
structure OutputOptions where
  projectDir : Path
  outDir? : Option Path
deriving DecidableEq, Repr

def OutputOptions.outDir (o : OutputOptions) : Path :=
  o.outDir?.getD (o.projectDir.join ReleaseConfig.defaultOutDir)

/-- What is released, and where it goes. -/
structure ProjectOptions where
  catalog : CatalogOptions
  outDir? : Option Path
  version? : Option String
  product? : Option String
deriving DecidableEq, Repr

/-- How targets are built. -/
structure BuildOptions where
  jobs : Nat
  zig : Path
  settleMs : Nat
  skipNative : Bool
deriving DecidableEq, Repr

/-- How packages are built. -/
structure PackageOptions where
  formats : List PackageFormat
  fpm : Path
deriving DecidableEq, Repr

inductive Command
  | release (project : ProjectOptions) (build : BuildOptions) (package : PackageOptions)
  | native (project : ProjectOptions) (package : PackageOptions)
  | targets (catalog : CatalogOptions)
  | collect (source? : Option Path) (output : OutputOptions)
  | checksums (output : OutputOptions)
deriving DecidableEq, Repr

/-- How output is shown. -/
structure OutputStyle where
  verbosity : Nat
  isQuiet : Bool
  isJson : Bool
deriving DecidableEq, Repr

/-- Whether progress is shown: it would disturb quiet output and output for programs. -/
def OutputStyle.showsProgress (s : OutputStyle) : Bool :=
  !s.isQuiet && !s.isJson

/-- A whole command line. Without a command, help is shown. -/
structure Invocation where
  style : OutputStyle
  command? : Option Command
deriving DecidableEq, Repr

namespace Given

def path? (g : Given) (s : Setting) : Option Path :=
  (g.value? s).map Path.mk

def pathOr (g : Given) (s : Setting) (default : String) : Path :=
  (g.path? s).getD ⟨default⟩

def numberOr (g : Given) (s : Setting) (default : Nat) : Nat :=
  ((g.value? s).bind numberOf?).getD default

def catalogOptions (g : Given) : CatalogOptions :=
  ⟨g.pathOr .projectDir ".", g.path? .targets⟩

def outputOptions (g : Given) : OutputOptions :=
  ⟨g.pathOr .projectDir ".", g.path? .outDir⟩

def projectOptions (g : Given) : ProjectOptions :=
  ⟨g.catalogOptions, g.path? .outDir, g.value? .releaseVersion, g.value? .product⟩

def buildOptions (g : Given) : BuildOptions :=
  ⟨g.numberOr .jobs ReleaseConfig.defaultJobs, g.pathOr .zig "zig",
    g.numberOr .settleMs Barrier.default.minDelay, g.has .skipNative⟩

def packageOptions (g : Given) : PackageOptions :=
  ⟨(g.values .format).filterMap PackageFormat.parse?, g.pathOr .fpm "fpm"⟩

def command (g : Given) : Subcommand → Command
  | .release => .release g.projectOptions g.buildOptions g.packageOptions
  | .native => .native g.projectOptions g.packageOptions
  | .targets => .targets g.catalogOptions
  | .collect => .collect (g.path? .source) g.outputOptions
  | .checksums => .checksums g.outputOptions

end Given

/-- The style that a command line asks for. What stands after the subcommand wins over what stands before
it. -/
def Reading.style (r : Reading) : OutputStyle :=
  let deciding (s : Setting) : Given := match r.command? with
    | some (_, given) => if given.has s then given else r.root
    | none => r.root
  ⟨(deciding .verbose).count .verbose, (deciding .quiet).has .quiet, (deciding .json).has .json⟩

def Reading.invocation (r : Reading) : Invocation :=
  ⟨r.style, r.command?.map fun (c, given) => given.command c⟩

/-- Reads a command line. Some settings may come from variables of the machine. -/
def Invocation.ofWords (valueOf? : String → Option String) (words : List String) :
    Except Halt Invocation := do
  pure (← Reading.ofWords valueOf? words).invocation

end ReleaseMatrix.CommandLine
