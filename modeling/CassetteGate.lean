import CassetteGate.AddedTests
import CassetteGate.Cli.Arguments
import CassetteGate.Cli.Commands
import CassetteGate.Cli.Complaint
import CassetteGate.Cli.LogFormat
import CassetteGate.Cli.Options
import CassetteGate.Command
import CassetteGate.Config.Basic
import CassetteGate.Config.Build
import CassetteGate.Config.Layout
import CassetteGate.Config.Secrets
import CassetteGate.Duration
import CassetteGate.Event
import CassetteGate.Failure
import CassetteGate.Forms.Config
import CassetteGate.Forms.Machine
import CassetteGate.Forms.Requests
import CassetteGate.Forms.Results
import CassetteGate.Forms.RunRecord
import CassetteGate.Host.FileSystem
import CassetteGate.Host.OsError
import CassetteGate.Host.Request
import CassetteGate.Host.Sandbox
import CassetteGate.Host.Wire
import CassetteGate.Invocation
import CassetteGate.Json.Basic
import CassetteGate.Json.Codec
import CassetteGate.Json.Reader
import CassetteGate.Json.Writer
import CassetteGate.Main
import CassetteGate.Mode
import CassetteGate.NameSet
import CassetteGate.Path
import CassetteGate.Pipeline.Collaborators
import CassetteGate.Pipeline.Faults
import CassetteGate.Pipeline.Nightly
import CassetteGate.Pipeline.OnHost
import CassetteGate.Pipeline.Presubmit
import CassetteGate.Pipeline.Script
import CassetteGate.Pipeline.Transcript
import CassetteGate.Program.Basic
import CassetteGate.Proofs.CrashedRecording
import CassetteGate.Proofs.Nightly.CallOrder
import CassetteGate.Proofs.Nightly.Course
import CassetteGate.Proofs.Pipeline.Follows
import CassetteGate.Proofs.Pipeline.Runs
import CassetteGate.Proofs.Pipeline.Steady
import CassetteGate.Proofs.Presubmit.CallOrder
import CassetteGate.Proofs.Presubmit.Course
import CassetteGate.Proofs.Presubmit.Finished
import CassetteGate.Proofs.Presubmit.Judgement
import CassetteGate.Proofs.Presubmit.ReportedSuccess
import CassetteGate.Proofs.Presubmit.ReviewPosts
import CassetteGate.Proofs.Report.Lines
import CassetteGate.Proofs.Report.Success
import CassetteGate.Proofs.Results.Unreported
import CassetteGate.Provider
import CassetteGate.Release
import CassetteGate.Report.Links
import CassetteGate.Report.Nightly
import CassetteGate.Report.Presubmit
import CassetteGate.Results.Basic
import CassetteGate.Results.Exit
import CassetteGate.Results.Phase
import CassetteGate.Review.Client
import CassetteGate.Review.Settings
import CassetteGate.RunRecord
import CassetteGate.Runner.Basic
import CassetteGate.Runner.Phases
import CassetteGate.State
import CassetteGate.Storage.Buckets
import CassetteGate.Storage.Copies
import CassetteGate.Surface
import CassetteGate.TestLog
import CassetteGate.Text.Blank
import CassetteGate.Text.Bytes
import CassetteGate.Text.Lines
import CassetteGate.Text.Split
import CassetteGate.Text.Substring
import CassetteGate.Text.Word
import CassetteGate.Variables
import CassetteGate.Verdict
import CassetteGate.Proofs.Presubmit.FinalState
import CassetteGate.Proofs.Surface
import CassetteGate.Proofs.Presubmit.Coverage
import CassetteGate.Proofs.Results.Clean
import CassetteGate.Proofs.Runner.Runs
import CassetteGate.Proofs.Runner.InTurn
import CassetteGate.Proofs.Presubmit.ReportedViolations
import CassetteGate.Proofs.SideFailures
import CassetteGate.Proofs.Storage.Layers
import CassetteGate.Proofs.Report.LinkedText
import CassetteGate.Proofs.Storage.LogFiles
import CassetteGate.Proofs.Presubmit.LogLinks
import CassetteGate.Proofs.Json.Written
import CassetteGate.Proofs.Json.Lawful
import CassetteGate.Proofs.Forms.ReadBack
import CassetteGate.Proofs.LoggedCredentials
import CassetteGate.Proofs.Results.WorstReport
import CassetteGate.Proofs.LogGrammar
import CassetteGate.Proofs.LogStreams
import CassetteGate.Proofs.Runner.KeptLog
import CassetteGate.Proofs.ChangedPaths
import CassetteGate.Proofs.AddedTests
import CassetteGate.Proofs.Review.Retries
import CassetteGate.Proofs.Nightly.Summaries
import CassetteGate.Proofs.Pipeline.Phases
import CassetteGate.Proofs.Lifecycle
import CassetteGate.Proofs.Review.Waits
import CassetteGate.Proofs.ProcessVariables
import CassetteGate.Proofs.Runner.Sweep
import CassetteGate.Proofs.Results.Grouping
import CassetteGate.Proofs.TestFlags
import CassetteGate.Proofs.Deadlines
import CassetteGate.Proofs.Runner.OwnTest
import CassetteGate.Proofs.Storage.EveryCopy
