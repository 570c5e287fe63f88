import ScanCheck.Base64
import ScanCheck.Client
import ScanCheck.Codec.Basic
import ScanCheck.Codec.Record
import ScanCheck.Config.Basic
import ScanCheck.Config.Overrides
import ScanCheck.Config.Validation
import ScanCheck.Decimal.Natural
import ScanCheck.Decimal.Shortest
import ScanCheck.Files
import ScanCheck.Harness.Report
import ScanCheck.Harness.Script
import ScanCheck.Harness.Session
import ScanCheck.Harness.Suite
import ScanCheck.Http.MediaType
import ScanCheck.Http.Message
import ScanCheck.Http.Target
import ScanCheck.Json.Collection
import ScanCheck.Json.Printer
import ScanCheck.Json.Reader
import ScanCheck.Json.Skip
import ScanCheck.Json.Token
import ScanCheck.Json.Value
import ScanCheck.Main
import ScanCheck.Mock.Application
import ScanCheck.Mock.Call
import ScanCheck.Mock.Route
import ScanCheck.Mock.Transport
import ScanCheck.NameMap
import ScanCheck.Payload
import ScanCheck.Probe
import ScanCheck.Proofs.Client.Authorization
import ScanCheck.Proofs.Client.Calls
import ScanCheck.Proofs.Codec.Formats
import ScanCheck.Proofs.Codec.Omissions
import ScanCheck.Proofs.Codec.Payloads
import ScanCheck.Proofs.Codec.Posts
import ScanCheck.Proofs.Codec.Projections
import ScanCheck.Proofs.Codec.RoundTrip
import ScanCheck.Proofs.Codec.Values
import ScanCheck.Proofs.Codec.Views
import ScanCheck.Proofs.Config.Addresses
import ScanCheck.Proofs.Config.Completion
import ScanCheck.Proofs.Config.Defects
import ScanCheck.Proofs.Config.Delays
import ScanCheck.Proofs.Config.Flags
import ScanCheck.Proofs.Config.Overrides
import ScanCheck.Proofs.Config.Reach
import ScanCheck.Proofs.Config.Repairs
import ScanCheck.Proofs.Config.Settlement
import ScanCheck.Proofs.Config.Validation
import ScanCheck.Proofs.Decimal.Numerals
import ScanCheck.Proofs.Harness.Composition
import ScanCheck.Proofs.Harness.Pacing
import ScanCheck.Proofs.Harness.Rendering
import ScanCheck.Proofs.Harness.Replies
import ScanCheck.Proofs.Harness.Requests
import ScanCheck.Proofs.Harness.Secrecy
import ScanCheck.Proofs.Harness.Sessions
import ScanCheck.Proofs.Harness.Singles
import ScanCheck.Proofs.Harness.Statuses
import ScanCheck.Proofs.Harness.Submissions
import ScanCheck.Proofs.Harness.Turns
import ScanCheck.Proofs.Harness.Verdicts
import ScanCheck.Proofs.Http.Headers
import ScanCheck.Proofs.Http.Target
import ScanCheck.Proofs.Json.Collections
import ScanCheck.Proofs.Json.Compact
import ScanCheck.Proofs.Json.Enclosed
import ScanCheck.Proofs.Json.Grammar
import ScanCheck.Proofs.Json.Members
import ScanCheck.Proofs.Json.Numbers
import ScanCheck.Proofs.Json.Skipping
import ScanCheck.Proofs.Json.Strings
import ScanCheck.Proofs.Json.Trees
import ScanCheck.Proofs.Json.Truncation
import ScanCheck.Proofs.Json.WellFormed
import ScanCheck.Proofs.Mock.Decisions
import ScanCheck.Proofs.Mock.Delivery
import ScanCheck.Proofs.Mock.Echo
import ScanCheck.Proofs.Mock.Identity
import ScanCheck.Proofs.Mock.Interleaving
import ScanCheck.Proofs.Mock.Log
import ScanCheck.Proofs.Mock.Requests
import ScanCheck.Proofs.Mock.Routes
import ScanCheck.Proofs.Mock.Suites
import ScanCheck.Proofs.NameMap
import ScanCheck.Proofs.Runner.Course
import ScanCheck.Proofs.Text.AsciiCase
import ScanCheck.Proofs.Text.Base64
import ScanCheck.Proofs.Text.Blank
import ScanCheck.Proofs.Text.ByteOrder
import ScanCheck.Proofs.Text.Lossy
import ScanCheck.Proofs.Text.Utf8
import ScanCheck.Runner.Arguments
import ScanCheck.Runner.Basic
import ScanCheck.Runner.Program
import ScanCheck.Text.Blank
import ScanCheck.Text.Fields
import ScanCheck.Text.Hidden
import ScanCheck.Text.Quoted
import ScanCheck.Text.Utf8
import ScanCheck.Toml.Document
import ScanCheck.Toml.Scalar
import ScanCheck.Toml.Table
import ScanCheck.Toml.Token
import ScanCheck.Toml.Value
