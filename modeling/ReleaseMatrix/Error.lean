import ReleaseMatrix.Path

namespace ReleaseMatrix

/-- Why a release cannot be configured. -/
inductive ConfigError
  | catalogMissing (path : Path)
  | unreadable (path : Path) (cause : String)
  | malformed (path : Path) (cause : String)
  | missingField (path : Path) (field : String)
  | duplicateTarget (target : String)
  | emptyTarget
  | invalidTarget (target : String)
  | versionMissing (path : Path)
  | invalidVersion (version : String) (reason : String)
  | unsupportedFormat (format : String)
deriving DecidableEq, Repr

/-- Why a target was not built. -/
inductive BuildError
  | toolchainMissing (toolchain : String)
  | notStarted (command : String) (cause : String)
  | toolchainFailed (target : String) (exitCode : Option Int)
  | binaryMissing (target : String) (path : Path)
  | scratch (path : Path) (cause : String)
deriving DecidableEq, Repr

/-- Why there is no archive for a target. -/
inductive ArchiveError
  | binaryUnreadable (path : Path) (cause : String)
  | unwritable (path : Path) (cause : String)
  | noBinary (target : String)
  | missing (path : Path)
deriving DecidableEq, Repr

/-- Why a native package was not built. -/
inductive PackageError
  | packagerMissing (packager : String)
  | notStarted (command : String) (cause : String)
  | packagerFailed (target : String) (format : String) (exitCode : Option Int)
  | outputMissing (target : String) (format : String)
  | archiveMissing (path : Path)
  | files (path : Path) (cause : String)
  | aborted (target : String) (cause : String)
deriving DecidableEq, Repr

/-- Which change to the files failed, and why. -/
inductive FileError
  | makeDirectory (path : Path) (cause : String)
  | removeDirectory (path : Path) (cause : String)
  | move (source dest : Path) (cause : String)
  | read (path : Path) (cause : String)
  | write (path : Path) (cause : String)
deriving DecidableEq, Repr

/-- Why a target of a release ended without an archive. -/
inductive TargetFailure
  | build (error : BuildError)
  | archive (error : ArchiveError)
  | aborted (cause : String)
deriving DecidableEq, Repr

/-- Why a release ends in failure. -/
inductive ReleaseError
  | config (error : ConfigError)
  | files (error : FileError)
  | targetsFailed (failed total : Nat)
deriving DecidableEq, Repr

/-- An exit code as error messages show it. A program that a signal ended has none. -/
def exitCodeText : Option Int → String
  | some code => "Some(" ++ toString code ++ ")"
  | none => "None"

def ConfigError.message : ConfigError → String
  | catalogMissing path => "Target catalog not found at '" ++ path.text ++ "'"
  | unreadable path cause => "Failed to read '" ++ path.text ++ "': " ++ cause
  | malformed path cause => "Failed to parse '" ++ path.text ++ "': " ++ cause
  | missingField path field => "'" ++ path.text ++ "' is missing required field '" ++ field ++ "'"
  | duplicateTarget target => "Target '" ++ target ++ "' is listed more than once"
  | emptyTarget => "Target list contains an empty identifier"
  | invalidTarget target =>
    "Invalid target '" ++ target ++ "': expected a triple such as 'x86_64-linux-musl'"
  | versionMissing path =>
    "No version found in '" ++ path.text ++ "'. Pass --release-version to set one explicitly."
  | invalidVersion version reason => "Invalid version '" ++ version ++ "': " ++ reason
  | unsupportedFormat format =>
    "Unsupported package format '" ++ format ++ "' (expected one of: deb, rpm, pacman)"

def BuildError.message : BuildError → String
  | toolchainMissing toolchain => "Toolchain not found: " ++ toolchain
  | notStarted command cause => "Failed to run '" ++ command ++ "': " ++ cause
  | toolchainFailed target exitCode =>
    "Build failed for '" ++ target ++ "' (exit code " ++ exitCodeText exitCode ++ ")"
  | binaryMissing target path => "Build for '" ++ target ++ "' produced no binary at '" ++ path.text ++ "'"
  | scratch path cause => "Failed to prepare scratch directory '" ++ path.text ++ "': " ++ cause

def ArchiveError.message : ArchiveError → String
  | binaryUnreadable path cause => "Failed to read binary '" ++ path.text ++ "': " ++ cause
  | unwritable path cause => "Failed to write archive '" ++ path.text ++ "': " ++ cause
  | noBinary target => "No binary available for '" ++ target ++ "'"
  | missing path => "Archive '" ++ path.text ++ "' not found; run 'mufiz-release release' first"

def PackageError.message : PackageError → String
  | packagerMissing packager => "Packager not found: " ++ packager
  | notStarted command cause => "Failed to run '" ++ command ++ "': " ++ cause
  | packagerFailed target format exitCode =>
    format ++ " packaging failed for '" ++ target ++ "' (exit code " ++ exitCodeText exitCode ++ ")"
  | outputMissing target format => format ++ " package for '" ++ target ++ "' not found after packaging"
  | archiveMissing path => "Archive '" ++ path.text ++ "' does not exist"
  | files path cause => "IO error for '" ++ path.text ++ "': " ++ cause
  | aborted target cause => "Packaging aborted for '" ++ target ++ "': " ++ cause

def FileError.message : FileError → String
  | makeDirectory path cause => "Failed to create directory '" ++ path.text ++ "': " ++ cause
  | removeDirectory path cause => "Failed to remove directory '" ++ path.text ++ "': " ++ cause
  | move source dest cause => "Failed to move '" ++ source.text ++ "' to '" ++ dest.text ++ "': " ++ cause
  | read path cause => "Failed to read '" ++ path.text ++ "': " ++ cause
  | write path cause => "Failed to write file '" ++ path.text ++ "': " ++ cause

def TargetFailure.message : TargetFailure → String
  | build error => error.message
  | archive error => error.message
  | aborted cause => "Worker aborted: " ++ cause

def ReleaseError.message : ReleaseError → String
  | config error => "Configuration error: " ++ error.message
  | files error => "Filesystem error: " ++ error.message
  | targetsFailed failed total => toString failed ++ " of " ++ toString total ++ " targets failed"

end ReleaseMatrix
