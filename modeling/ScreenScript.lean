import ScreenScript.CommandLine
import ScreenScript.Compression.Deflate
import ScreenScript.Compression.Inflate
import ScreenScript.Compression.Repetition
import ScreenScript.Config.Credentials
import ScreenScript.Config.Environment
import ScreenScript.Config.Intervals
import ScreenScript.Config.Settings
import ScreenScript.Config.Store
import ScreenScript.Device.Basic
import ScreenScript.Device.Bridge
import ScreenScript.Device.Rehearsed
import ScreenScript.Disk.Access
import ScreenScript.Disk.Basic
import ScreenScript.Disk.Content
import ScreenScript.Disk.Error
import ScreenScript.Disk.Path
import ScreenScript.Event
import ScreenScript.Fault
import ScreenScript.Journal
import ScreenScript.Json.Basic
import ScreenScript.Json.Checked
import ScreenScript.Json.Field
import ScreenScript.Json.Numeral
import ScreenScript.Json.Reader
import ScreenScript.Json.Validation
import ScreenScript.Json.Writer
import ScreenScript.Launch
import ScreenScript.Main
import ScreenScript.Number.Binary64
import ScreenScript.Number.Checksum
import ScreenScript.Number.Decimal
import ScreenScript.Number.Scalar
import ScreenScript.Number.Written
import ScreenScript.Picture.Basic
import ScreenScript.Picture.File
import ScreenScript.Picture.Imaging
import ScreenScript.Picture.Plain
import ScreenScript.Picture.Png
import ScreenScript.Picture.Reading
import ScreenScript.Proofs.Config.Renewal
import ScreenScript.Proofs.Config.Store
import ScreenScript.Proofs.Config.Workspace
import ScreenScript.Proofs.Device.Capture
import ScreenScript.Proofs.Device.Confinement
import ScreenScript.Proofs.Device.Offline
import ScreenScript.Proofs.Device.Orders
import ScreenScript.Proofs.Device.Presence
import ScreenScript.Proofs.Device.Refusal
import ScreenScript.Proofs.Device.Shell
import ScreenScript.Proofs.Device.Typing
import ScreenScript.Proofs.Disk.Access
import ScreenScript.Proofs.Disk.Footprint
import ScreenScript.Proofs.Disk.Ways
import ScreenScript.Proofs.Journal.Sinks
import ScreenScript.Proofs.Launch.Order
import ScreenScript.Proofs.Launch.Preparing
import ScreenScript.Proofs.Launch.Readiness
import ScreenScript.Proofs.Launch.Unexpected
import ScreenScript.Proofs.Number.Rounding
import ScreenScript.Proofs.Picture.File
import ScreenScript.Proofs.Picture.Limits
import ScreenScript.Proofs.Routine
import ScreenScript.Proofs.Run.Acceptance
import ScreenScript.Proofs.Run.Allowance
import ScreenScript.Proofs.Run.Coordinates
import ScreenScript.Proofs.Run.Course
import ScreenScript.Proofs.Run.Gestures
import ScreenScript.Proofs.Run.History
import ScreenScript.Proofs.Run.LastStep
import ScreenScript.Proofs.Run.Lineage
import ScreenScript.Proofs.Run.Magnitude
import ScreenScript.Proofs.Run.Memory
import ScreenScript.Proofs.Run.Processing
import ScreenScript.Proofs.Run.Quotation
import ScreenScript.Proofs.Run.Reach
import ScreenScript.Proofs.Run.Repetition
import ScreenScript.Proofs.Run.Rounds
import ScreenScript.Proofs.Run.Session
import ScreenScript.Proofs.Run.Summary
import ScreenScript.Proofs.Run.Turns
import ScreenScript.Proofs.Script.Announcement
import ScreenScript.Proofs.Script.Cutting
import ScreenScript.Proofs.Script.Definitions
import ScreenScript.Proofs.Script.Expansion
import ScreenScript.Proofs.Script.Fence
import ScreenScript.Proofs.Script.Filling
import ScreenScript.Proofs.Script.Keyword
import ScreenScript.Proofs.Script.Layout
import ScreenScript.Proofs.Script.Outline
import ScreenScript.Proofs.Script.Oversize
import ScreenScript.Proofs.Script.Passage
import ScreenScript.Proofs.Script.Reading
import ScreenScript.Proofs.Script.Redraw
import ScreenScript.Proofs.Script.Significant
import ScreenScript.Proofs.Script.Source
import ScreenScript.Proofs.Script.Statement
import ScreenScript.Proofs.Text.Base64
import ScreenScript.Proofs.Text.Figures
import ScreenScript.Proofs.Text.ReadBack
import ScreenScript.Proofs.Text.Shape
import ScreenScript.Proofs.Text.Trimming
import ScreenScript.Proofs.Vision.Exchange
import ScreenScript.Proofs.Vision.Loss
import ScreenScript.Proofs.Vision.Spelling
import ScreenScript.Routine
import ScreenScript.Run.Context
import ScreenScript.Run.Gesture
import ScreenScript.Run.Interpreter
import ScreenScript.Run.Pause
import ScreenScript.Run.Runner
import ScreenScript.Run.Screen
import ScreenScript.Run.Session
import ScreenScript.Script.Command
import ScreenScript.Script.Compilation
import ScreenScript.Script.Error
import ScreenScript.Script.Keyword
import ScreenScript.Script.Macro
import ScreenScript.Script.Placeholder
import ScreenScript.Script.Source
import ScreenScript.Script.Task
import ScreenScript.Text.Base64
import ScreenScript.Text.Basic
import ScreenScript.Text.Blank
import ScreenScript.Text.Digit
import ScreenScript.Text.Integer
import ScreenScript.Text.Lines
import ScreenScript.Text.Literal
import ScreenScript.Text.LowerCase
import ScreenScript.Text.LowerCase.Table
import ScreenScript.Text.Printable
import ScreenScript.Text.Shell
import ScreenScript.Text.Template
import ScreenScript.Text.Utf8
import ScreenScript.Vision.Request
import ScreenScript.Vision.Response
import ScreenScript.Vision.Service
import ScreenScript.Web.Address
import ScreenScript.Web.Charset
import ScreenScript.Web.Charset.Chinese
import ScreenScript.Web.Charset.Octet
import ScreenScript.Web.Flaw
import ScreenScript.Web.Header
import ScreenScript.Web.HostName.Composite
import ScreenScript.Web.HostName.Direction
import ScreenScript.Web.HostName.Joining
import ScreenScript.Web.HostName.Label
import ScreenScript.Web.HostName.Mark
import ScreenScript.Web.HostName.Permitted
import ScreenScript.Web.HostName.Punycode
import ScreenScript.Web.Library
import ScreenScript.Web.Numeric
import ScreenScript.Web.Packing
import ScreenScript.Web.Plain
import ScreenScript.Web.Quoting
