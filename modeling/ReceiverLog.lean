import ReceiverLog.Calendar.Date
import ReceiverLog.Calendar.TimeOfDay
import ReceiverLog.Checksum
import ReceiverLog.CommandLine
import ReceiverLog.Decoder
import ReceiverLog.Dispatch.Task
import ReceiverLog.Dispatch.Worker
import ReceiverLog.Event
import ReceiverLog.Failure
import ReceiverLog.Files.FileContents
import ReceiverLog.Files.FileStep
import ReceiverLog.Files.FileTree
import ReceiverLog.Files.PathName
import ReceiverLog.Fix
import ReceiverLog.Framing
import ReceiverLog.Json.Number
import ReceiverLog.Json.Reading
import ReceiverLog.Json.Text
import ReceiverLog.Json.Token
import ReceiverLog.Json.Value
import ReceiverLog.Main
import ReceiverLog.Malformed
import ReceiverLog.Number.Binary
import ReceiverLog.Number.Decimal
import ReceiverLog.Number.Fixed
import ReceiverLog.Number.Numeral
import ReceiverLog.Number.Rounding
import ReceiverLog.Number.Shortest
import ReceiverLog.Number.Whole
import ReceiverLog.Program
import ReceiverLog.Proofs.Calendar.ClockTexts
import ReceiverLog.Proofs.Decoder.Bounds
import ReceiverLog.Proofs.Decoder.CheckDigits
import ReceiverLog.Proofs.Decoder.Chunks
import ReceiverLog.Proofs.Decoder.Corruption
import ReceiverLog.Proofs.Decoder.Fragments
import ReceiverLog.Proofs.Decoder.Grammar
import ReceiverLog.Proofs.Decoder.Listing
import ReceiverLog.Proofs.Decoder.Overruns
import ReceiverLog.Proofs.Decoder.Resuming
import ReceiverLog.Proofs.Decoder.Verdicts
import ReceiverLog.Proofs.Dispatch.Discarding
import ReceiverLog.Proofs.Dispatch.Spacing
import ReceiverLog.Proofs.Except
import ReceiverLog.Proofs.Files.Growth
import ReceiverLog.Proofs.Files.Parents
import ReceiverLog.Proofs.Files.Writing
import ReceiverLog.Proofs.Fix.Merging
import ReceiverLog.Proofs.Framing.Stands
import ReceiverLog.Proofs.Json.Floats
import ReceiverLog.Proofs.Json.Lexing
import ReceiverLog.Proofs.Json.Literals
import ReceiverLog.Proofs.Json.OneLine
import ReceiverLog.Proofs.Json.Printing
import ReceiverLog.Proofs.Number.DecimalTexts
import ReceiverLog.Proofs.Number.Doubles
import ReceiverLog.Proofs.Number.Truncating
import ReceiverLog.Proofs.Number.WholeParts
import ReceiverLog.Proofs.Positions.Lookup
import ReceiverLog.Proofs.Positions.Reading
import ReceiverLog.Proofs.Positions.Scanning
import ReceiverLog.Proofs.Report.Lines
import ReceiverLog.Proofs.Roster.Collecting
import ReceiverLog.Proofs.Sentence.FurtherFields
import ReceiverLog.Proofs.Sentence.Records
import ReceiverLog.Proofs.Sentence.Values
import ReceiverLog.Proofs.Session.Bracketing
import ReceiverLog.Proofs.Session.Failures
import ReceiverLog.Proofs.Session.Lagging
import ReceiverLog.Proofs.Session.Offsets
import ReceiverLog.Proofs.Session.Outcomes
import ReceiverLog.Proofs.Session.Pasts
import ReceiverLog.Proofs.Session.Reading
import ReceiverLog.Proofs.Session.Records
import ReceiverLog.Proofs.Session.Redundancy
import ReceiverLog.Proofs.Session.Registrations
import ReceiverLog.Proofs.Session.Restarting
import ReceiverLog.Proofs.Session.Steps
import ReceiverLog.Proofs.Session.Surroundings
import ReceiverLog.Proofs.Session.Tailing
import ReceiverLog.Proofs.Session.Telling
import ReceiverLog.Proofs.Session.Waiting
import ReceiverLog.Proofs.Settings.Rereading
import ReceiverLog.Proofs.Text.Splitting
import ReceiverLog.Proofs.Watch.Bookkeeping
import ReceiverLog.Report
import ReceiverLog.Roster
import ReceiverLog.Satellite
import ReceiverLog.Sentence
import ReceiverLog.Sentence.Fields
import ReceiverLog.Sentence.Reading
import ReceiverLog.Session.Consumer
import ReceiverLog.Session.Reader
import ReceiverLog.Session.Scene
import ReceiverLog.Session.Step
import ReceiverLog.Settings.Basic
import ReceiverLog.Settings.Json
import ReceiverLog.Settings.Store
import ReceiverLog.Text.Blank
import ReceiverLog.Text.Bytes
import ReceiverLog.Text.Quoted
import ReceiverLog.Text.Split
import ReceiverLog.Watch.Change
import ReceiverLog.Watch.Directory
import ReceiverLog.Watch.Registry
