import Overseer.Answer
import Overseer.Catalog.Backups
import Overseer.Catalog.Basic
import Overseer.Catalog.Launcher
import Overseer.Command.Basic
import Overseer.CommandLine.Form
import Overseer.CommandLine.Listing
import Overseer.CommandLine.Order
import Overseer.CommandLine.Session
import Overseer.Event.Basic
import Overseer.Event.Record
import Overseer.FileTree.Basic
import Overseer.Host.Basic
import Overseer.Host.Clocked
import Overseer.Host.Preflight
import Overseer.Host.RunLog
import Overseer.Host.Turns
import Overseer.Json.Basic
import Overseer.Json.Parser
import Overseer.Json.Printer
import Overseer.Json.Record
import Overseer.Log.File
import Overseer.Log.Format
import Overseer.Log.Timestamp
import Overseer.Machine.Basic
import Overseer.Machine.Installation
import Overseer.Machine.Launch
import Overseer.Machine.Schedule
import Overseer.Machine.Signal
import Overseer.Main
import Overseer.Outcome
import Overseer.Path
import Overseer.Pattern.Basic
import Overseer.Pattern.Matching
import Overseer.Pattern.Parser
import Overseer.Pipe
import Overseer.Prompt.Cleaning
import Overseer.Prompt.Patterns
import Overseer.Proofs.Catalog.Admission
import Overseer.Proofs.Catalog.Consent
import Overseer.Proofs.Catalog.Listing
import Overseer.Proofs.Catalog.ScriptPath
import Overseer.Proofs.Command.Words
import Overseer.Proofs.FileTree.Ancestors
import Overseer.Proofs.FileTree.HomePaths
import Overseer.Proofs.FileTree.Parents
import Overseer.Proofs.FileTree.PathNames
import Overseer.Proofs.FileTree.Standing
import Overseer.Proofs.FileTree.Ways
import Overseer.Proofs.Host.Interleaving
import Overseer.Proofs.Host.Outline
import Overseer.Proofs.Host.Programs
import Overseer.Proofs.Json.Reading
import Overseer.Proofs.Json.Tokens
import Overseer.Proofs.Log.Keeping
import Overseer.Proofs.Log.PlainLines
import Overseer.Proofs.Log.Records
import Overseer.Proofs.Log.Sources
import Overseer.Proofs.Machine.Kills
import Overseer.Proofs.Machine.Pipes
import Overseer.Proofs.Pattern.Ends
import Overseer.Proofs.Prompt.Decorated
import Overseer.Proofs.Prompt.Grammar
import Overseer.Proofs.Prompt.NormalForm
import Overseer.Proofs.Prompt.Question
import Overseer.Proofs.Reader.Buffer
import Overseer.Proofs.Reader.Characters
import Overseer.Proofs.Reader.Cutting
import Overseer.Proofs.Reader.Digest
import Overseer.Proofs.Reader.Joining
import Overseer.Proofs.Reader.LineEnds
import Overseer.Proofs.Reader.Lines
import Overseer.Proofs.Reader.LongLines
import Overseer.Proofs.Reader.Schedule
import Overseer.Proofs.Reader.Sizes
import Overseer.Proofs.Relay.History
import Overseer.Proofs.Relay.Notices
import Overseer.Proofs.Relay.Supply
import Overseer.Proofs.Settings.Search
import Overseer.Proofs.Shell.Patterns
import Overseer.Proofs.Sink.Feed
import Overseer.Proofs.Sink.Following
import Overseer.Proofs.Sink.Handed
import Overseer.Proofs.Sink.LastEvent
import Overseer.Proofs.Sink.Ledger
import Overseer.Proofs.Sink.Receipt
import Overseer.Proofs.Sink.Trace
import Overseer.Proofs.Supervisor.Account
import Overseer.Proofs.Supervisor.Agenda
import Overseer.Proofs.Supervisor.Answers
import Overseer.Proofs.Supervisor.AutoAnswer
import Overseer.Proofs.Supervisor.Chronicle
import Overseer.Proofs.Supervisor.Crew
import Overseer.Proofs.Supervisor.Custody
import Overseer.Proofs.Supervisor.Deadline
import Overseer.Proofs.Supervisor.Narration
import Overseer.Proofs.Supervisor.NewestLines
import Overseer.Proofs.Supervisor.Occupancy
import Overseer.Proofs.Supervisor.OneRun
import Overseer.Proofs.Supervisor.OtherSinks
import Overseer.Proofs.Supervisor.Phase
import Overseer.Proofs.Supervisor.Process
import Overseer.Proofs.Supervisor.Received
import Overseer.Proofs.Supervisor.Rounds
import Overseer.Proofs.Supervisor.Stopping
import Overseer.Proofs.Supervisor.Story
import Overseer.Proofs.Supervisor.Telling
import Overseer.Proofs.Supervisor.Verdict
import Overseer.Proofs.Supervisor.Waits
import Overseer.Proofs.Text.ByteOrder
import Overseer.Proofs.Text.Deleting
import Overseer.Proofs.Text.Encoding
import Overseer.Proofs.Text.Lossy
import Overseer.Proofs.Text.Replacement
import Overseer.Proofs.Text.Seams
import Overseer.Proofs.Text.Spellings
import Overseer.Proofs.Utility.Echo
import Overseer.Proofs.Web.EventStream
import Overseer.Proofs.Web.Marker
import Overseer.Proofs.Web.PageText
import Overseer.Proofs.Web.SentFrames
import Overseer.Proofs.Web.Stream
import Overseer.Reader.Basic
import Overseer.Reader.Splitting
import Overseer.Relay
import Overseer.Settings.Basic
import Overseer.Settings.Lookup
import Overseer.Settings.Report
import Overseer.Shell.Arithmetic
import Overseer.Shell.Builtins
import Overseer.Shell.Complaint
import Overseer.Shell.Conditional
import Overseer.Shell.Expansion
import Overseer.Shell.Glob
import Overseer.Shell.Grammar
import Overseer.Shell.Input
import Overseer.Shell.Perform
import Overseer.Shell.Raw
import Overseer.Shell.Reading
import Overseer.Shell.Scene
import Overseer.Shell.Session
import Overseer.Shell.State
import Overseer.Shell.Step
import Overseer.Shell.Syntax
import Overseer.Sink.Basic
import Overseer.Sink.Channel
import Overseer.Sink.Console
import Overseer.Sink.Fanout
import Overseer.Sink.Observer
import Overseer.Sink.Planned
import Overseer.Supervisor.Basic
import Overseer.Supervisor.Shared
import Overseer.Supervisor.Worker
import Overseer.Tail
import Overseer.Text.Blank
import Overseer.Text.CaseFold
import Overseer.Text.CodeRanges
import Overseer.Text.DecimalDigits
import Overseer.Text.Deletion
import Overseer.Text.Digits
import Overseer.Text.Html
import Overseer.Text.Parts
import Overseer.Text.Quoted
import Overseer.Text.Unprintable
import Overseer.Text.Utf8
import Overseer.Text.WordChars
import Overseer.Toml.Basic
import Overseer.Toml.Parser
import Overseer.Toml.Scalar
import Overseer.Utility.Basic
import Overseer.Utility.Printf
import Overseer.Utility.Programs
import Overseer.Utility.Step
import Overseer.Utility.Test
import Overseer.Utility.Texts
import Overseer.Web.Body
import Overseer.Web.EventWriter
import Overseer.Web.Problem
import Overseer.Web.Request
import Overseer.Web.Response
import Overseer.Web.Site
