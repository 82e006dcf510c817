import ReleaseMatrix.CommandLine.Reader
import ReleaseMatrix.Config
import ReleaseMatrix.Text

namespace ReleaseMatrix.CommandLine

def programName : String := "mufiz-release"

def programVersion : String := "0.1.0"

def programSummary : String :=
  "Multi-target release builder and packager for the MufiZ compiler"

/-- The name that help gives to the value of a setting. -/
def Setting.valueName? : Setting → Option String
  | projectDir | outDir | source => some "DIR"
  | targets => some "FILE"
  | releaseVersion => some "VERSION"
  | product => some "PRODUCT"
  | jobs => some "JOBS"
  | zig | fpm => some "PATH"
  | settleMs => some "MS"
  | format => some "FORMAT"
  | _ => none

/-- What a setting is for. The project directory only serves some subcommands to build. -/
def Setting.summary (subcommand? : Option Subcommand) : Setting → String
  | verbose => "Enable verbose output (-v for info, -vv for debug)"
  | quiet => "Suppress all output except errors"
  | json => "Output in JSON format for scripting"
  | projectDir =>
    if subcommand? ∈ [some .collect, some .checksums] then "Project directory"
    else "Project directory (contains build.zig)"
  | targets => "Target catalog file (defaults to <project-dir>/targets.json)"
  | outDir => "Output directory (defaults to <project-dir>/pkg)"
  | releaseVersion => "Release version (defaults to the version in build.zig.zon)"
  | product => "Product name used in artifact names"
  | jobs => "Number of targets built concurrently"
  | zig => "zig executable"
  | settleMs => "Minimum wait after each build before the binary is picked up"
  | skipNative => "Only build and archive; skip native packages"
  | format => "Native package format (repeatable; defaults to deb and rpm)"
  | fpm => "fpm executable"
  | source => "Directory to sweep (defaults to the project directory)"
  | help => "Print help"
  | version => "Print version"

/-- The value that a setting has where none is given. -/
def Setting.default? : Setting → Option String
  | projectDir => some "."
  | jobs => some (toString ReleaseConfig.defaultJobs)
  | zig => some "zig"
  | settleMs => some (toString Barrier.default.minDelay)
  | fpm => some "fpm"
  | _ => none

namespace Help

/-- A setting as help names it: by its long name, with the name of its value. -/
def label (s : Setting) : String :=
  "--" ++ s.longName ++
    (match s.valueName? with
      | some name => " <" ++ name ++ ">"
      | none => if s.manner = .counter then "..." else "")

/-- What help says about a setting, with the variable and the value that may stand in for it. -/
def description (valueOf? : String → Option String) (subcommand? : Option Subcommand) (s : Setting) :
    String :=
  let standIn (name : String) : String := " [env: " ++ name ++ "=" ++ (valueOf? name).getD "" ++ "]"
  s.summary subcommand? ++ (s.standIn?.map standIn).getD "" ++
    (s.default?.map fun value => " [default: " ++ value ++ "]").getD ""

/-- A setting in lines. Its description stands beside labels of a given width, each line of it below the
first. -/
def settingLines (width : Nat) (s : Setting) (description : String) : List String :=
  let short := match s.shortName? with
    | some c => "-" ++ String.singleton c ++ ", "
    | none => "    "
  let margin := "  " ++ short ++ Text.pad width (label s) ++ "  "
  match Text.split '\n' description with
  | [] => [margin]
  | first :: rest => (margin ++ first) :: rest.map (Text.pad margin.length "" ++ ·)

/-- Settings that come first among those of one rank: short names count before long ones. -/
def sortKey (s : Setting) : String :=
  match s.shortName? with
  | some c => String.singleton c.toLower ++ (if c.isLower then "0" else "1")
  | none => s.longName

/-- The settings of one rank from two lists, in order. -/
def mergeRanks : List Setting → List Setting → List Setting
  | a :: as, b :: bs =>
    (if sortKey a ≤ sortKey b then [a, b] else [b, a]) ++ mergeRanks as bs
  | as, [] => as
  | [], bs => bs

/-- The settings of a level in the order of help: the shared ones go in among the others by their rank. -/
def ordered (subcommand? : Option Subcommand) : List Setting :=
  let own := (subcommand?.map Setting.own).getD []
  mergeRanks own [.verbose, .quiet, .json] ++ [.help, .version]

def helpSummary : String :=
  "Print this message or the help of the given subcommand(s)"

def commandLines : List String :=
  let entries := Subcommand.all.map (fun c => (c.name, c.summary)) ++
    [("help", helpSummary)]
  let width := (entries.map (·.1.length)).foldl max 0
  entries.map fun (name, summary) => "  " ++ Text.pad width name ++ "  " ++ summary

/-- The settings of a level in lines. -/
def levelLines (valueOf? : String → Option String) (subcommand? : Option Subcommand) : List String :=
  let settings := ordered subcommand?
  let width := (settings.map fun s => (label s).length).foldl max 0
  "Options:" :: settings.flatMap fun s => settingLines width s (description valueOf? subcommand? s)

/-- Help in lines. -/
def lines (valueOf? : String → Option String) : Topic → List String
  | .program =>
    [programSummary, "", "Usage: " ++ programName ++ " [OPTIONS] [COMMAND]", "", "Commands:"] ++
      commandLines ++ [""] ++ levelLines valueOf? none
  | .subcommand c =>
    [c.summary, "", "Usage: " ++ programName ++ " " ++ c.name ++ " [OPTIONS]", ""] ++
      levelLines valueOf? (some c)
  | .help =>
    [helpSummary, "", "Usage: " ++ programName ++ " help [COMMAND]...", "", "Arguments:",
      "  [COMMAND]...  Print help for the subcommand(s)"]

/-- Help as it is printed. What the environment says in it cannot control a terminal. -/
def text (valueOf? : String → Option String) (topic : Topic) : String :=
  Text.dropControls (String.join ((lines valueOf? topic).map (· ++ "\n")))

end Help

/-- The line that tells the version of the program. -/
def versionText (subcommand? : Option Subcommand) : String :=
  programName ++ (subcommand?.map fun c => "-" ++ c.name).getD "" ++ " " ++ programVersion ++ "\n"

end ReleaseMatrix.CommandLine
