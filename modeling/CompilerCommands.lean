import CompilerCommands.Arguments.FlagValue
import CompilerCommands.Arguments.Positional
import CompilerCommands.Command.Basic
import CompilerCommands.Command.Error
import CompilerCommands.Command.Tree
import CompilerCommands.Decimal.Binary64
import CompilerCommands.Decimal.Shortest
import CompilerCommands.Decimal.Text
import CompilerCommands.Discovery.Create
import CompilerCommands.Discovery.DryRun
import CompilerCommands.Discovery.Failure
import CompilerCommands.Discovery.Tree
import CompilerCommands.DryRun.Listing
import CompilerCommands.DryRun.Switches
import CompilerCommands.Execution.Log
import CompilerCommands.Execution.Run
import CompilerCommands.Execution.Time
import CompilerCommands.Execution.World
import CompilerCommands.Host.Basic
import CompilerCommands.Host.Environment
import CompilerCommands.Host.Program
import CompilerCommands.Job.Paths
import CompilerCommands.Job.Phase
import CompilerCommands.Job.Role
import CompilerCommands.Job.Tool
import CompilerCommands.Path.Posix
import CompilerCommands.Path.Windows
import CompilerCommands.Proofs.Rustc.Emission
import CompilerCommands.Proofs.Rustc.Options
import CompilerCommands.Proofs.Text.Trim
import CompilerCommands.Rustc.Arguments
import CompilerCommands.Rustc.Change
import CompilerCommands.Rustc.Flags
import CompilerCommands.Rustc.Paths
import CompilerCommands.Rustc.Setting
import CompilerCommands.Session
import CompilerCommands.Shell.Quote
import CompilerCommands.Shell.Words
import CompilerCommands.Text.Basic
import CompilerCommands.Text.Blank
import CompilerCommands.Text.Lines
import CompilerCommands.Text.Lowercase
import CompilerCommands.Text.Quoted
import CompilerCommands.Text.Utf8
import CompilerCommands.Toolchain.Basic
import CompilerCommands.Toolchain.DefaultOutput
import CompilerCommands.Toolchain.DriverPaths
import CompilerCommands.Toolchain.Name
import CompilerCommands.Toolchain.Suffix
import CompilerCommands.Unicode.Case
import CompilerCommands.Unicode.CodeRange
import CompilerCommands.Unicode.Digit
import CompilerCommands.Unicode.Printable
import CompilerCommands.Unicode.Word
import CompilerCommands.Proofs.Rustc.RoundTrip
import CompilerCommands.Proofs.Shell.ReadBack
import CompilerCommands.Proofs.Shell.Spelling
import CompilerCommands.Proofs.Text.Utf8
import CompilerCommands.Proofs.DryRun.PrintedJobs
import CompilerCommands.Proofs.DryRun.LineByLine
import CompilerCommands.Proofs.Command.Nodes
import CompilerCommands.Proofs.Discovery.DryRuns
import CompilerCommands.Proofs.Discovery.Attempts
import CompilerCommands.Proofs.Command.Positions
import CompilerCommands.Proofs.Discovery.Outcomes
import CompilerCommands.Proofs.Discovery.Provenance
import CompilerCommands.Proofs.Path.Spelling
import CompilerCommands.Proofs.Execution.Results
import CompilerCommands.Proofs.Host.Lookup
import CompilerCommands.Proofs.Discovery.Failures
import CompilerCommands.Proofs.Execution.Cancellation
import CompilerCommands.Proofs.Discovery.Cancellation
import CompilerCommands.Proofs.Session
import CompilerCommands.Proofs.Discovery.CutShort
import CompilerCommands.Proofs.Discovery.Refusals
import CompilerCommands.Proofs.Rustc.Reading
import CompilerCommands.Proofs.Rustc.Rewriting
import CompilerCommands.Proofs.Arguments.Roles
import CompilerCommands.Proofs.Discovery.Strictness
import CompilerCommands.Proofs.DryRun.Switches
import CompilerCommands.Proofs.Rustc.Optimization
import CompilerCommands.Proofs.Discovery.Depth
import CompilerCommands.Proofs.Discovery.Nesting
import CompilerCommands.Proofs.Discovery.Termination
import CompilerCommands.Proofs.Shell.Grammar
import CompilerCommands.Proofs.Execution.FirstEvent
import CompilerCommands.Proofs.Discovery.AllOrNothing
import CompilerCommands.Proofs.Rustc.Listing
import CompilerCommands.Proofs.Rustc.Merging
import CompilerCommands.Proofs.Rustc.Overwriting
import CompilerCommands.Proofs.Rustc.Destinations
import CompilerCommands.Proofs.Arguments.FlagValues
import CompilerCommands.Proofs.Arguments.Positions
import CompilerCommands.Proofs.Toolchain.Names
import CompilerCommands.Proofs.Toolchain.DriverInput
import CompilerCommands.Proofs.Toolchain.DriverOutput
import CompilerCommands.Proofs.Discovery.Expansion
import CompilerCommands.Proofs.Rustc.Filtering
import CompilerCommands.Proofs.Toolchain.CompilerNames
import CompilerCommands.Proofs.Toolchain.Directories
import CompilerCommands.Proofs.Host.ShellLookup
import CompilerCommands.Proofs.Command.Views
import CompilerCommands.Proofs.Discovery.Views
import CompilerCommands.Proofs.Job.LinkerInput
import CompilerCommands.Proofs.Toolchain.OutputSpellings
import CompilerCommands.Proofs.Rustc.Kinds
