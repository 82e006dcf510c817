import ReleaseMatrix.Archive
import ReleaseMatrix.Build
import ReleaseMatrix.Build.Request
import ReleaseMatrix.Catalog
import ReleaseMatrix.Catalog.Stored
import ReleaseMatrix.CommandLine.Help
import ReleaseMatrix.CommandLine.Invocation
import ReleaseMatrix.CommandLine.Reader
import ReleaseMatrix.CommandLine.Run
import ReleaseMatrix.CommandLine.Vocabulary
import ReleaseMatrix.Config
import ReleaseMatrix.Digest
import ReleaseMatrix.Error
import ReleaseMatrix.FileTree
import ReleaseMatrix.FileTree.Walk
import ReleaseMatrix.Indented.Attributes
import ReleaseMatrix.Indented.Builtins
import ReleaseMatrix.Indented.Calls
import ReleaseMatrix.Indented.Display
import ReleaseMatrix.Indented.Evaluation
import ReleaseMatrix.Indented.Layout
import ReleaseMatrix.Indented.Library
import ReleaseMatrix.Indented.Matching
import ReleaseMatrix.Indented.Number
import ReleaseMatrix.Indented.OpenFiles
import ReleaseMatrix.Indented.Operation
import ReleaseMatrix.Indented.PathFunctions
import ReleaseMatrix.Indented.PlaceFunctions
import ReleaseMatrix.Indented.Reader
import ReleaseMatrix.Indented.Report
import ReleaseMatrix.Indented.Series
import ReleaseMatrix.Indented.SeriesFunctions
import ReleaseMatrix.Indented.Start
import ReleaseMatrix.Indented.StatementReader
import ReleaseMatrix.Indented.Statements
import ReleaseMatrix.Indented.Streams
import ReleaseMatrix.Indented.TextFunctions
import ReleaseMatrix.Indented.Token
import ReleaseMatrix.Indented.Tree
import ReleaseMatrix.Indented.Value
import ReleaseMatrix.Json
import ReleaseMatrix.Main
import ReleaseMatrix.Package
import ReleaseMatrix.Package.Spec
import ReleaseMatrix.Packaging
import ReleaseMatrix.Path
import ReleaseMatrix.Program
import ReleaseMatrix.Proofs.AcceptedVersion
import ReleaseMatrix.Proofs.AllOrNothing
import ReleaseMatrix.Proofs.ArchiveFaults
import ReleaseMatrix.Proofs.ArtifactNames
import ReleaseMatrix.Proofs.BuildChanges
import ReleaseMatrix.Proofs.BuildFrame
import ReleaseMatrix.Proofs.CatalogFormats
import ReleaseMatrix.Proofs.CatalogIds
import ReleaseMatrix.Proofs.Conserving
import ReleaseMatrix.Proofs.CrewOrder
import ReleaseMatrix.Proofs.DraftName
import ReleaseMatrix.Proofs.ExecutableNames
import ReleaseMatrix.Proofs.Execution
import ReleaseMatrix.Proofs.FileWork
import ReleaseMatrix.Proofs.Filing
import ReleaseMatrix.Proofs.FixedCompiler
import ReleaseMatrix.Proofs.Footing
import ReleaseMatrix.Proofs.Isolation
import ReleaseMatrix.Proofs.JoinedPath
import ReleaseMatrix.Proofs.JsonSpelling
import ReleaseMatrix.Proofs.Leftovers
import ReleaseMatrix.Proofs.MadeDirectories
import ReleaseMatrix.Proofs.Manifest
import ReleaseMatrix.Proofs.ManifestCover
import ReleaseMatrix.Proofs.ManifestReading
import ReleaseMatrix.Proofs.ManifestRemarks
import ReleaseMatrix.Proofs.ManifestWriting
import ReleaseMatrix.Proofs.Misconfiguration
import ReleaseMatrix.Proofs.Moving
import ReleaseMatrix.Proofs.OneMove
import ReleaseMatrix.Proofs.OnePackage
import ReleaseMatrix.Proofs.PackageAgreement
import ReleaseMatrix.Proofs.PackageSets
import ReleaseMatrix.Proofs.PackageStage
import ReleaseMatrix.Proofs.PackageSteps
import ReleaseMatrix.Proofs.PathEnding
import ReleaseMatrix.Proofs.Placing
import ReleaseMatrix.Proofs.ProductPlaces
import ReleaseMatrix.Proofs.Reaching
import ReleaseMatrix.Proofs.ReleaseNames
import ReleaseMatrix.Proofs.ReportEntries
import ReleaseMatrix.Proofs.ReportLines
import ReleaseMatrix.Proofs.ReportText
import ReleaseMatrix.Proofs.ReportedFiles
import ReleaseMatrix.Proofs.RestrictedTarget
import ReleaseMatrix.Proofs.ScratchNames
import ReleaseMatrix.Proofs.Settling
import ReleaseMatrix.Proofs.SharedFiles
import ReleaseMatrix.Proofs.SoloRun
import ReleaseMatrix.Proofs.SpareNames
import ReleaseMatrix.Proofs.Sweeping
import ReleaseMatrix.Proofs.TargetListing
import ReleaseMatrix.Proofs.TomlSpelling
import ReleaseMatrix.Proofs.TreeLookup
import ReleaseMatrix.Proofs.TripleGrammar
import ReleaseMatrix.Proofs.TwoRuns
import ReleaseMatrix.Proofs.VersionField
import ReleaseMatrix.Proofs.Waiting
import ReleaseMatrix.Proofs.Walking
import ReleaseMatrix.Proofs.WholeRun
import ReleaseMatrix.Proofs.WorkerAgreement
import ReleaseMatrix.Proofs.WorkerArea
import ReleaseMatrix.Proofs.WorkerPool
import ReleaseMatrix.Proofs.WorkerStages
import ReleaseMatrix.Regex
import ReleaseMatrix.Regex.Reader
import ReleaseMatrix.Release
import ReleaseMatrix.Report
import ReleaseMatrix.Schedule
import ReleaseMatrix.Shell.Arithmetic
import ReleaseMatrix.Shell.Builtin
import ReleaseMatrix.Shell.Builtin.Basic
import ReleaseMatrix.Shell.Builtin.Settings
import ReleaseMatrix.Shell.Child
import ReleaseMatrix.Shell.CommandReader
import ReleaseMatrix.Shell.Connections
import ReleaseMatrix.Shell.Expansion
import ReleaseMatrix.Shell.Extended.AccessReader
import ReleaseMatrix.Shell.Extended.Braces
import ReleaseMatrix.Shell.Extended.Builtins
import ReleaseMatrix.Shell.Extended.Comparison
import ReleaseMatrix.Shell.Extended.ConditionReader
import ReleaseMatrix.Shell.Extended.Conditions
import ReleaseMatrix.Shell.Extended.Declaration
import ReleaseMatrix.Shell.Extended.Evaluation
import ReleaseMatrix.Shell.Extended.Flow
import ReleaseMatrix.Shell.Extended.Found
import ReleaseMatrix.Shell.Extended.Names
import ReleaseMatrix.Shell.Extended.Options
import ReleaseMatrix.Shell.Extended.Places
import ReleaseMatrix.Shell.Extended.Quoting
import ReleaseMatrix.Shell.Extended.Signals
import ReleaseMatrix.Shell.Extended.Start
import ReleaseMatrix.Shell.Extended.Switches
import ReleaseMatrix.Shell.Field
import ReleaseMatrix.Shell.Launch
import ReleaseMatrix.Shell.Number
import ReleaseMatrix.Shell.Pattern
import ReleaseMatrix.Shell.Printing
import ReleaseMatrix.Shell.Programs
import ReleaseMatrix.Shell.Redirect
import ReleaseMatrix.Shell.Run
import ReleaseMatrix.Shell.Scope
import ReleaseMatrix.Shell.Script
import ReleaseMatrix.Shell.Signal
import ReleaseMatrix.Shell.Simple
import ReleaseMatrix.Shell.Source
import ReleaseMatrix.Shell.State
import ReleaseMatrix.Shell.Stream
import ReleaseMatrix.Shell.Test
import ReleaseMatrix.Shell.Texts
import ReleaseMatrix.Shell.Utility
import ReleaseMatrix.Shell.Utility.Basic
import ReleaseMatrix.Shell.Utility.Calendar
import ReleaseMatrix.Shell.Utility.Columns
import ReleaseMatrix.Shell.Utility.Date
import ReleaseMatrix.Shell.Utility.Difference
import ReleaseMatrix.Shell.Utility.Dump
import ReleaseMatrix.Shell.Utility.Evaluate
import ReleaseMatrix.Shell.Utility.Facts
import ReleaseMatrix.Shell.Utility.Files
import ReleaseMatrix.Shell.Utility.LineEdit
import ReleaseMatrix.Shell.Utility.LineEdit.Reader
import ReleaseMatrix.Shell.Utility.LineEdit.Script
import ReleaseMatrix.Shell.Utility.Order
import ReleaseMatrix.Shell.Utility.Pieces
import ReleaseMatrix.Shell.Utility.Search
import ReleaseMatrix.Shell.Utility.Sizes
import ReleaseMatrix.Shell.Utility.Small
import ReleaseMatrix.Shell.Utility.SortedPair
import ReleaseMatrix.Shell.Utility.Sums
import ReleaseMatrix.Shell.Utility.Text
import ReleaseMatrix.Shell.Utility.Transfer
import ReleaseMatrix.Shell.Utility.TreeSearch
import ReleaseMatrix.Shell.Utility.TreeSearch.Reader
import ReleaseMatrix.Shell.Value
import ReleaseMatrix.Shell.Variables
import ReleaseMatrix.Shell.WordReader
import ReleaseMatrix.Target
import ReleaseMatrix.Text
import ReleaseMatrix.Text.Quoted
import ReleaseMatrix.Toml.Number
import ReleaseMatrix.Toml.Quoted
import ReleaseMatrix.Toml.Reader
import ReleaseMatrix.Toml.Table
import ReleaseMatrix.Tool
import ReleaseMatrix.Version
import ReleaseMatrix.Version.Resolve
import ReleaseMatrix.Workspace
import ReleaseMatrix.Workspace.Change
