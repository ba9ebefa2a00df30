import Walkthrough.Act.Basic
import Walkthrough.Check.Basic
import Walkthrough.Check.Reader
import Walkthrough.Command.Arguments
import Walkthrough.Command.Basic
import Walkthrough.Context
import Walkthrough.Disk
import Walkthrough.Engine.Action
import Walkthrough.Engine.Basic
import Walkthrough.Engine.Check
import Walkthrough.Engine.Fill
import Walkthrough.Engine.Group
import Walkthrough.Engine.Step
import Walkthrough.Environment
import Walkthrough.Failure.Basic
import Walkthrough.Failure.Engine
import Walkthrough.Failure.Misuse
import Walkthrough.Json.Basic
import Walkthrough.Json.Printer
import Walkthrough.Json.Reader
import Walkthrough.Log
import Walkthrough.Logging.Date
import Walkthrough.Logging.RunLog
import Walkthrough.Main
import Walkthrough.Number.Binary64
import Walkthrough.Number.Shortest
import Walkthrough.Number.Whole
import Walkthrough.Page.Basic
import Walkthrough.Page.Calls
import Walkthrough.Page.Element
import Walkthrough.Page.Expect
import Walkthrough.Page.Locator
import Walkthrough.Page.Reader
import Walkthrough.Path
import Walkthrough.Pattern.Basic
import Walkthrough.Pattern.Reader
import Walkthrough.Pattern.Search
import Walkthrough.Plugin.Bundled
import Walkthrough.Plugin.Registry
import Walkthrough.Proofs.Act
import Walkthrough.Proofs.Alike
import Walkthrough.Proofs.Ansi
import Walkthrough.Proofs.Answers
import Walkthrough.Proofs.Archive
import Walkthrough.Proofs.Arguments
import Walkthrough.Proofs.Base64
import Walkthrough.Proofs.Beforehand
import Walkthrough.Proofs.Bytes
import Walkthrough.Proofs.Choice
import Walkthrough.Proofs.Chronicle
import Walkthrough.Proofs.CommandRun
import Walkthrough.Proofs.Context
import Walkthrough.Proofs.Course
import Walkthrough.Proofs.Desk
import Walkthrough.Proofs.Directories
import Walkthrough.Proofs.Drive
import Walkthrough.Proofs.Engine
import Walkthrough.Proofs.Files
import Walkthrough.Proofs.FillOnce
import Walkthrough.Proofs.Filling
import Walkthrough.Proofs.GroupRun
import Walkthrough.Proofs.Grouping
import Walkthrough.Proofs.Handlers
import Walkthrough.Proofs.Handover
import Walkthrough.Proofs.HardFailure
import Walkthrough.Proofs.Isolation
import Walkthrough.Proofs.Json.Quotes
import Walkthrough.Proofs.Json.Reread
import Walkthrough.Proofs.Json.RoundTrip
import Walkthrough.Proofs.Json.Scalar
import Walkthrough.Proofs.Json.Value
import Walkthrough.Proofs.Json.Written
import Walkthrough.Proofs.Ledger
import Walkthrough.Proofs.Lines
import Walkthrough.Proofs.Listening
import Walkthrough.Proofs.Listing
import Walkthrough.Proofs.Loaded
import Walkthrough.Proofs.Loading
import Walkthrough.Proofs.LoneGroup
import Walkthrough.Proofs.NestedLogs
import Walkthrough.Proofs.Nesting
import Walkthrough.Proofs.Observers
import Walkthrough.Proofs.Outcome
import Walkthrough.Proofs.Places
import Walkthrough.Proofs.Plays
import Walkthrough.Proofs.Precedence
import Walkthrough.Proofs.Printed
import Walkthrough.Proofs.Query
import Walkthrough.Proofs.Reading
import Walkthrough.Proofs.Recording
import Walkthrough.Proofs.Registrations
import Walkthrough.Proofs.Registry
import Walkthrough.Proofs.Release
import Walkthrough.Proofs.Relocation
import Walkthrough.Proofs.Reports
import Walkthrough.Proofs.Resolution
import Walkthrough.Proofs.Respelling
import Walkthrough.Proofs.Result
import Walkthrough.Proofs.SafeNames
import Walkthrough.Proofs.ScenarioRun
import Walkthrough.Proofs.Scope
import Walkthrough.Proofs.Settled
import Walkthrough.Proofs.SoftRun
import Walkthrough.Proofs.SoftVisit
import Walkthrough.Proofs.Softening
import Walkthrough.Proofs.Spelling
import Walkthrough.Proofs.Steady
import Walkthrough.Proofs.Stopped
import Walkthrough.Proofs.Summary
import Walkthrough.Proofs.TextNodes
import Walkthrough.Proofs.Timeless
import Walkthrough.Proofs.Turn
import Walkthrough.Proofs.Unsupported
import Walkthrough.Proofs.Uploads
import Walkthrough.Proofs.Visit
import Walkthrough.Proofs.Waits
import Walkthrough.Proofs.Wording
import Walkthrough.Query
import Walkthrough.Report.Desk
import Walkthrough.Report.Record
import Walkthrough.Report.Recorder
import Walkthrough.Scenario.Basic
import Walkthrough.Scenario.Reader
import Walkthrough.Scenario.Selection
import Walkthrough.Schema.Coercion
import Walkthrough.Schema.Field
import Walkthrough.Schema.Printer
import Walkthrough.Schema.Problem
import Walkthrough.Selector
import Walkthrough.Session.Browser
import Walkthrough.Session.Result
import Walkthrough.Session.Scenario
import Walkthrough.Settings.Basic
import Walkthrough.Settings.Conversion
import Walkthrough.Settings.EnvFile
import Walkthrough.Settings.Moment
import Walkthrough.Settings.Sources
import Walkthrough.Settings.Toml
import Walkthrough.Settings.Value
import Walkthrough.Step.Basic
import Walkthrough.Step.Printer
import Walkthrough.Step.Reader
import Walkthrough.Step.Vocabulary
import Walkthrough.Text.Alphanumeric
import Walkthrough.Text.Ansi
import Walkthrough.Text.Blank
import Walkthrough.Text.CaseMates
import Walkthrough.Text.CodeRange
import Walkthrough.Text.LowerCase
import Walkthrough.Text.Printable
import Walkthrough.Text.Quoted
import Walkthrough.Text.Split
import Walkthrough.Text.Utf8
import Walkthrough.Trace
import Walkthrough.Trace.Printer
import Walkthrough.Trigger.Answer
import Walkthrough.Trigger.Child
import Walkthrough.Trigger.Results
import Walkthrough.Upload.Base64
import Walkthrough.Upload.Files
import Walkthrough.Url.Basic
import Walkthrough.Url.Host
