import FirmwareUpdate.Number.Shortest
import FirmwareUpdate.Text.Blank
import FirmwareUpdate.Text.Quoted
import FirmwareUpdate.Text.Utf8
import FirmwareUpdate.Duration
import FirmwareUpdate.Size
import FirmwareUpdate.Json.Text
import FirmwareUpdate.Json.Length
import FirmwareUpdate.Json.Skip
import FirmwareUpdate.Json.Record
import FirmwareUpdate.Payload
import FirmwareUpdate.Firmware
import FirmwareUpdate.Activity
import FirmwareUpdate.Upload.Tracker
import FirmwareUpdate.Reconnect
import FirmwareUpdate.Upload.Transfer
import FirmwareUpdate.Workflow.Session
import FirmwareUpdate.Settings
import FirmwareUpdate.Terminal.Presenter
import FirmwareUpdate.Http.Url
import FirmwareUpdate.Http.Client
import FirmwareUpdate.CommandLine.Arguments
import FirmwareUpdate.CommandLine.Run
import FirmwareUpdate.Main
import FirmwareUpdate.Proofs.Except
import FirmwareUpdate.Proofs.Activity
import FirmwareUpdate.Proofs.Reconnect.Outcome
import FirmwareUpdate.Proofs.Upload.Announced
import FirmwareUpdate.Proofs.Reconnect.Attempts
import FirmwareUpdate.Proofs.Workflow.Course
import FirmwareUpdate.Proofs.Workflow.Requests
import FirmwareUpdate.Proofs.Truncation
import FirmwareUpdate.Proofs.Upload.Ending
import FirmwareUpdate.Proofs.Upload.Grammar
import FirmwareUpdate.Proofs.Upload.Operation
import FirmwareUpdate.Proofs.Upload.Coherence
import FirmwareUpdate.Proofs.Upload.Sampling
import FirmwareUpdate.Proofs.Upload.Commutation
import FirmwareUpdate.Proofs.Upload.Truncation
import FirmwareUpdate.Proofs.Reconnect.Course
import FirmwareUpdate.Proofs.Reconnect.Truncation
import FirmwareUpdate.Proofs.Reconnect.Loop
import FirmwareUpdate.Proofs.Reconnect.Safety
import FirmwareUpdate.Proofs.Workflow.Following
import FirmwareUpdate.Proofs.Workflow.Truncation
import FirmwareUpdate.Proofs.Workflow.Beforehand
import FirmwareUpdate.Proofs.Workflow.Session
import FirmwareUpdate.Proofs.Workflow.Busy
import FirmwareUpdate.Proofs.Workflow.Reporting
import FirmwareUpdate.Proofs.Upload.Operated
import FirmwareUpdate.Proofs.Terminal.Bar
import FirmwareUpdate.Proofs.Terminal.Lines
import FirmwareUpdate.Proofs.Json.Number
import FirmwareUpdate.Proofs.Json.Text
import FirmwareUpdate.Proofs.Json.Skip
import FirmwareUpdate.Proofs.Json.Record
import FirmwareUpdate.Proofs.Payload.Whole
import FirmwareUpdate.Proofs.Json.Written
import FirmwareUpdate.Proofs.Payload.RoundTrip
import FirmwareUpdate.Proofs.Json.Piece
import FirmwareUpdate.Proofs.Json.Figure
import FirmwareUpdate.Proofs.Json.Token
import FirmwareUpdate.Proofs.Json.Member
import FirmwareUpdate.Proofs.Json.Stated
import FirmwareUpdate.Proofs.Payload.Unordered
import FirmwareUpdate.Proofs.Text.Parts
import FirmwareUpdate.Proofs.Files
import FirmwareUpdate.Proofs.Firmware
import FirmwareUpdate.Proofs.Terminal.Consent
import FirmwareUpdate.Proofs.Http.Url
import FirmwareUpdate.Proofs.Http.Client
import FirmwareUpdate.Proofs.Text.Trim
import FirmwareUpdate.Proofs.Settings.Loading
import FirmwareUpdate.Proofs.Http.Joining
import FirmwareUpdate.Proofs.Http.Chunk
import FirmwareUpdate.Proofs.Workflow.Calls
import FirmwareUpdate.Proofs.CommandLine.Conversation
import FirmwareUpdate.Proofs.Number.Fraction
import FirmwareUpdate.Proofs.Number.Float
import FirmwareUpdate.Proofs.Duration
import FirmwareUpdate.Proofs.Number.Nearest
import FirmwareUpdate.Proofs.Text.Numeral
import FirmwareUpdate.Proofs.Size
import FirmwareUpdate.Proofs.Settings.Device
import FirmwareUpdate.Proofs.CommandLine.Flag
import FirmwareUpdate.Proofs.CommandLine.Override
