import OpenUrl.Application
import OpenUrl.Arguments
import OpenUrl.Criteria
import OpenUrl.Desktop.AppleEvent
import OpenUrl.Desktop.Session
import OpenUrl.Desktop.Start
import OpenUrl.Desktop.State
import OpenUrl.Event
import OpenUrl.Failure
import OpenUrl.Gate
import OpenUrl.Gate.Delivery
import OpenUrl.Gate.Session
import OpenUrl.Handoff
import OpenUrl.Handoff.Session
import OpenUrl.Handoff.Traffic
import OpenUrl.Json.Content
import OpenUrl.Json.Failure
import OpenUrl.Json.Numeral
import OpenUrl.Json.Reader
import OpenUrl.Json.Skip
import OpenUrl.Json.Text
import OpenUrl.Json.Typed
import OpenUrl.Json.Value
import OpenUrl.Lifecycle
import OpenUrl.Lifecycle.Shared
import OpenUrl.Listening
import OpenUrl.Log.Filter
import OpenUrl.Log.Layout
import OpenUrl.Log.Level
import OpenUrl.Log.Notice
import OpenUrl.Main
import OpenUrl.Misfit
import OpenUrl.Number.Binary64
import OpenUrl.Number.Shortest
import OpenUrl.Phase
import OpenUrl.Probe.Context
import OpenUrl.Probe.Program
import OpenUrl.Probe.Run
import OpenUrl.Proofs.Arguments
import OpenUrl.Proofs.Bytes
import OpenUrl.Proofs.Copy
import OpenUrl.Proofs.Criteria.Pairs
import OpenUrl.Proofs.Criteria.Verdict
import OpenUrl.Proofs.Desktop.Calm
import OpenUrl.Proofs.Desktop.Claim
import OpenUrl.Proofs.Desktop.Cut
import OpenUrl.Proofs.Desktop.Effort
import OpenUrl.Proofs.Desktop.Launch
import OpenUrl.Proofs.Desktop.Mask
import OpenUrl.Proofs.Desktop.Place
import OpenUrl.Proofs.Desktop.Registered
import OpenUrl.Proofs.Desktop.Restart
import OpenUrl.Proofs.Desktop.Run
import OpenUrl.Proofs.Desktop.Script
import OpenUrl.Proofs.Desktop.Served
import OpenUrl.Proofs.Desktop.Sound
import OpenUrl.Proofs.Desktop.State
import OpenUrl.Proofs.Gate.Ledger
import OpenUrl.Proofs.Gate.Mask
import OpenUrl.Proofs.Gate.Serial
import OpenUrl.Proofs.Gate.Silent
import OpenUrl.Proofs.Gate.Step
import OpenUrl.Proofs.Gate.Stopped
import OpenUrl.Proofs.Gate.Turn
import OpenUrl.Proofs.Handoff.Conservation
import OpenUrl.Proofs.Handoff.Mask
import OpenUrl.Proofs.Handoff.Queue
import OpenUrl.Proofs.Handoff.Traffic
import OpenUrl.Proofs.Handoff.Wait
import OpenUrl.Proofs.Json.Failure
import OpenUrl.Proofs.Json.Fields
import OpenUrl.Proofs.Json.Line
import OpenUrl.Proofs.Json.Numeral
import OpenUrl.Proofs.Json.Reads
import OpenUrl.Proofs.Json.Record
import OpenUrl.Proofs.Json.Spelling
import OpenUrl.Proofs.Json.Text
import OpenUrl.Proofs.Json.Value
import OpenUrl.Proofs.Lifecycle.Guarded
import OpenUrl.Proofs.Listening.Answer
import OpenUrl.Proofs.Listening.Deadline
import OpenUrl.Proofs.Listening.Mask
import OpenUrl.Proofs.Listening.Orphan
import OpenUrl.Proofs.Listening.Step
import OpenUrl.Proofs.Listening.Thread
import OpenUrl.Proofs.Mask
import OpenUrl.Proofs.Probe.Output
import OpenUrl.Proofs.Record
import OpenUrl.Proofs.Report
import OpenUrl.Proofs.Report.Cut
import OpenUrl.Proofs.Report.Text
import OpenUrl.Proofs.Settings.Formats
import OpenUrl.Proofs.Settings.Given
import OpenUrl.Proofs.Settings.Layers
import OpenUrl.Proofs.Settings.Locate
import OpenUrl.Proofs.Settings.Written
import OpenUrl.Proofs.Sink
import OpenUrl.Proofs.Slot.Sole
import OpenUrl.Proofs.Surroundings.Walk
import OpenUrl.Proofs.Text.Blank
import OpenUrl.Proofs.Text.Digits
import OpenUrl.Proofs.Text.Integer
import OpenUrl.Proofs.Text.Signed
import OpenUrl.Proofs.Toml.Document
import OpenUrl.Proofs.Toml.Record
import OpenUrl.Proofs.Toml.Scalar
import OpenUrl.Proofs.Toml.Takes
import OpenUrl.Proofs.Toml.Text
import OpenUrl.Proofs.Trail
import OpenUrl.Record
import OpenUrl.Report
import OpenUrl.Settings
import OpenUrl.Settings.Source
import OpenUrl.Sink
import OpenUrl.Slot
import OpenUrl.Slot.Session
import OpenUrl.Slot.Traffic
import OpenUrl.Surroundings
import OpenUrl.Surroundings.Environment
import OpenUrl.Surroundings.FileTree
import OpenUrl.Surroundings.Path
import OpenUrl.Surroundings.VariableFile
import OpenUrl.Tasks
import OpenUrl.Text.Blank
import OpenUrl.Text.Bytes
import OpenUrl.Text.Cursor
import OpenUrl.Text.Integer
import OpenUrl.Text.Quoted
import OpenUrl.Text.Unseen
import OpenUrl.Text.Word
import OpenUrl.Toml.Document
import OpenUrl.Toml.Failure
import OpenUrl.Toml.Moment
import OpenUrl.Toml.Scalar
import OpenUrl.Toml.Text
import OpenUrl.Toml.Typed
import OpenUrl.Toml.Value
import OpenUrl.Unsupported
