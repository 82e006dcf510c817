import ReleaseMatrix.Target
import ReleaseMatrix.Path

namespace ReleaseMatrix

/-- How the toolchain is told to build a target. -/
inductive Profile
  /-- Optimised for speed, with all capabilities. -/
  | standard
  /-- Optimised for size, in a sandbox without network or file access. -/
  | restricted
deriving DecidableEq, Repr

namespace Profile

def forTarget (t : Target) (restrictedTarget : String) : Profile :=
  if t.id = restrictedTarget then .restricted else .standard

def name : Profile → String
  | standard => "standard"
  | restricted => "restricted"

def flags : Profile → List String
  | standard => ["-Doptimize=ReleaseFast"]
  | restricted => ["-Doptimize=ReleaseSmall", "-Dsandbox=true", "-Dnet=false", "-Dfs=false"]

end Profile

/-- One run of the toolchain. It installs below the given directory. -/
structure BuildRequest where
  target : Target
  profile : Profile
  installDir : Path
deriving DecidableEq, Repr

/-- The arguments that the toolchain is run with. -/
def BuildRequest.arguments (r : BuildRequest) : List String :=
  ["build", "-Dtarget=" ++ r.target.id] ++ r.profile.flags ++ ["--prefix", r.installDir.text]

end ReleaseMatrix
