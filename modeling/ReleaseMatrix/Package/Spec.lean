import ReleaseMatrix.Path
import ReleaseMatrix.Target
import ReleaseMatrix.Text

namespace ReleaseMatrix

/-- The kinds of native package. -/
inductive PackageFormat
  | deb
  | rpm
  | pacman
deriving DecidableEq, Repr

namespace PackageFormat

def all : List PackageFormat :=
  [deb, rpm, pacman]

/-- The name that the external packager knows the format by. -/
def name : PackageFormat → String
  | deb => "deb"
  | rpm => "rpm"
  | pacman => "pacman"

def extension : PackageFormat → String
  | deb => "deb"
  | rpm => "rpm"
  | pacman => "pkg.tar.zst"

/-- A format's name as it is compared: without surrounding blanks, in ASCII lowercase. -/
def normalName (s : String) : String :=
  (Text.trim s).map Char.toLower

def parse? (s : String) : Option PackageFormat :=
  all.find? (·.name == normalName s)

/-- The file name that the external packager gives its output. -/
def outputName (f : PackageFormat) (product version arch : String) : String :=
  match f with
  | deb => product ++ "_" ++ version ++ "_" ++ arch ++ ".deb"
  | rpm => product ++ "-" ++ version ++ "-1." ++ arch ++ ".rpm"
  | pacman => product ++ "-" ++ version ++ "-1-" ++ arch ++ ".pkg.tar.zst"

end PackageFormat

end ReleaseMatrix

namespace ReleaseMatrix.PackageArch

/-- What Debian packages call the processors of the targets that are packaged. -/
def debian : List (String × String) :=
  [("x86_64-linux", "amd64"),
   ("x86-linux", "i386"),
   ("aarch64-linux", "arm64"),
   ("arm-linux", "arm"),
   ("mips64-linux-musl", "mips64"),
   ("mips64el-linux-musl", "mips64el"),
   ("mipsel-linux-musl", "mipsel"),
   ("mips-linux-musl", "mips"),
   ("powerpc64-linux", "powerpc64"),
   ("powerpc64le-linux", "powerpc64le"),
   ("powerpc-linux", "powerpc"),
   ("riscv64-linux", "riscv64")]

/-- What the other packages call them. -/
def redHat : List (String × String) :=
  [("x86_64-linux", "x86_64"),
   ("x86-linux", "i386"),
   ("aarch64-linux", "aarch64"),
   ("arm-linux", "arm"),
   ("mips64-linux-musl", "mips64"),
   ("mips64el-linux-musl", "mips64el"),
   ("mipsel-linux-musl", "mipsel"),
   ("mips-linux-musl", "mips"),
   ("powerpc64-linux", "ppc64"),
   ("powerpc64le-linux", "ppc64le"),
   ("powerpc-linux", "ppc"),
   ("riscv64-linux", "riscv64")]

/-- The table that a format takes the names of processors from. -/
def table : PackageFormat → List (String × String)
  | .deb => debian
  | .rpm | .pacman => redHat

/-- The processor's name in packages of a format; `none` for a target that is not packaged. -/
def find? (t : Target) (f : PackageFormat) : Option String :=
  (table f).lookup t.id

end ReleaseMatrix.PackageArch

namespace ReleaseMatrix

/-- One package to build: a target in a format, with the processor's name in that format. -/
structure PackageSpec where
  target : Target
  format : PackageFormat
  arch : String
deriving DecidableEq, Repr

namespace PackageSpec

def find? (t : Target) (f : PackageFormat) : Option PackageSpec :=
  (PackageArch.find? t f).map fun arch => ⟨t, f, arch⟩

/-- The packages of a target in the given formats, in their order. -/
def list (t : Target) (formats : List PackageFormat) : List PackageSpec :=
  formats.filterMap (find? t)

/-- Whether any of the formats applies to the target. -/
def isApplicable (t : Target) (formats : List PackageFormat) : Bool :=
  formats.any fun f => (find? t f).isSome

theorem isApplicable_iff_list_ne_nil (t : Target) (formats : List PackageFormat) :
    isApplicable t formats = true ↔ list t formats ≠ [] := by
  simp [isApplicable, list, Option.isSome_iff_ne_none]

/-- The package's final name. It carries the target, so that packages of one processor stay apart. -/
def releaseName (s : PackageSpec) (product version : String) : String :=
  product ++ "_" ++ version ++ "_" ++ s.target.id ++ "." ++ s.format.extension

def outputName (s : PackageSpec) (product version : String) : String :=
  s.format.outputName product version s.arch

end PackageSpec

/-- One run of the external packager on an archive. -/
structure PackageRequest where
  product : String
  version : String
  spec : PackageSpec
  archive : Path
  outputName : String
deriving DecidableEq, Repr

/-- The arguments that the packager is run with. -/
def PackageRequest.arguments (r : PackageRequest) : List String :=
  ["--force", "-s", "zip", "-t", r.spec.format.name, "-n", r.product, "-v", r.version,
    "-a", r.spec.arch, "-p", r.outputName, r.archive.text]

end ReleaseMatrix
