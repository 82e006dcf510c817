namespace ReleaseMatrix.CommandLine

/-- The subcommands, in the order in which help lists them. -/
inductive Subcommand
  | release
  | targets
  | native
  | collect
  | checksums
deriving DecidableEq, Repr

namespace Subcommand

def all : List Subcommand :=
  [release, targets, native, collect, checksums]

def name : Subcommand → String
  | release => "release"
  | targets => "targets"
  | native => "native"
  | collect => "collect"
  | checksums => "checksums"

def summary : Subcommand → String
  | release => "Build, archive and package every catalog target"
  | targets => "Show the target catalog"
  | native => "Build native packages from existing release archives"
  | collect => "Move loose native packages into the output directory"
  | checksums => "Regenerate the checksum manifest"

def find? (word : String) : Option Subcommand :=
  all.find? (·.name == word)

end Subcommand

inductive Setting
  | verbose
  | quiet
  | json
  | projectDir
  | targets
  | outDir
  | releaseVersion
  | product
  | jobs
  | zig
  | settleMs
  | skipNative
  | format
  | fpm
  | source
  | help
  | version
deriving DecidableEq, Repr

/-- What the value of a setting must be. -/
inductive ValueKind
  | text
  /-- Any text but the empty one. -/
  | path
  /-- A number that fits in 64 bits. -/
  | number
  | packageFormat
deriving DecidableEq, Repr

/-- How a setting is given. -/
inductive Manner
  /-- At most once and without a value. -/
  | flag
  /-- Without a value, any number of times. -/
  | counter
  /-- At most once, with a value. -/
  | single (kind : ValueKind)
  /-- Any number of times, each time with a value. -/
  | repeated (kind : ValueKind)
  /-- Ends the reading at once. -/
  | halting
deriving DecidableEq, Repr

namespace Setting

def all : List Setting :=
  [verbose, quiet, json, projectDir, targets, outDir, releaseVersion, product, jobs, zig, settleMs,
    skipNative, format, fpm, source, help, version]

def longName : Setting → String
  | verbose => "verbose"
  | quiet => "quiet"
  | json => "json"
  | projectDir => "project-dir"
  | targets => "targets"
  | outDir => "out-dir"
  | releaseVersion => "release-version"
  | product => "product"
  | jobs => "jobs"
  | zig => "zig"
  | settleMs => "settle-ms"
  | skipNative => "skip-native"
  | format => "format"
  | fpm => "fpm"
  | source => "from"
  | help => "help"
  | version => "version"

def shortName? : Setting → Option Char
  | verbose => some 'v'
  | quiet => some 'q'
  | jobs => some 'j'
  | help => some 'h'
  | version => some 'V'
  | _ => none

def manner : Setting → Manner
  | verbose => .counter
  | quiet | json | skipNative => .flag
  | projectDir | targets | outDir | zig | fpm | source => .single .path
  | releaseVersion | product => .single .text
  | jobs | settleMs => .single .number
  | format => .repeated .packageFormat
  | help | version => .halting

/-- The variable of the machine that stands in for a setting that is not given. -/
def standIn? : Setting → Option String
  | releaseVersion => some "MUFIZ_VERSION"
  | jobs => some "MUFIZ_RELEASE_JOBS"
  | zig => some "ZIG"
  | fpm => some "FPM"
  | _ => none

/-- The settings that every subcommand has, and that may also stand before it. -/
def shared : List Setting :=
  [verbose, quiet, json, help, version]

/-- The settings that a subcommand has besides the shared ones. -/
def own : Subcommand → List Setting
  | .release =>
    [projectDir, targets, outDir, releaseVersion, product, jobs, zig, settleMs, skipNative, format, fpm]
  | .native => [projectDir, targets, outDir, releaseVersion, product, format, fpm]
  | .targets => [projectDir, targets]
  | .collect => [source, projectDir, outDir]
  | .checksums => [projectDir, outDir]

end Setting

end ReleaseMatrix.CommandLine
