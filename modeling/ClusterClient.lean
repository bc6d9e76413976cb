import ClusterClient.Bulk.Batch
import ClusterClient.Bulk.Indexer
import ClusterClient.Bulk.Operation
import ClusterClient.Bulk.Reconciliation
import ClusterClient.Certificate
import ClusterClient.Client
import ClusterClient.ClientError
import ClusterClient.Command.Arguments
import ClusterClient.Command.CommandError
import ClusterClient.Command.Document
import ClusterClient.Command.Export
import ClusterClient.Command.Help
import ClusterClient.Command.Invocation
import ClusterClient.Command.Load
import ClusterClient.Command.Program
import ClusterClient.Command.Task
import ClusterClient.Config.Basic
import ClusterClient.Config.Check
import ClusterClient.Config.Document
import ClusterClient.Config.Setting
import ClusterClient.Der
import ClusterClient.Disk
import ClusterClient.Documents
import ClusterClient.Draws
import ClusterClient.Exchange
import ClusterClient.Http
import ClusterClient.Identity
import ClusterClient.Json.Basic
import ClusterClient.Json.Numeral
import ClusterClient.Json.Printer
import ClusterClient.Json.Reader
import ClusterClient.Json.Token
import ClusterClient.Key.Curve
import ClusterClient.Key.Edwards
import ClusterClient.Key.PrivateKey
import ClusterClient.Key.Rsa
import ClusterClient.Key.Sha512
import ClusterClient.Main
import ClusterClient.Metrics
import ClusterClient.Number.Double
import ClusterClient.Number.Layout
import ClusterClient.Number.Power
import ClusterClient.Number.Shortest
import ClusterClient.Pem
import ClusterClient.Proofs.Bulk.Accounting
import ClusterClient.Proofs.Bulk.Count
import ClusterClient.Proofs.Bulk.Perform
import ClusterClient.Proofs.Bulk.Table
import ClusterClient.Proofs.Bulk.Wire
import ClusterClient.Proofs.Client.Attempts
import ClusterClient.Proofs.Client.Echo
import ClusterClient.Proofs.Client.Failover
import ClusterClient.Proofs.Client.Interleaving
import ClusterClient.Proofs.Client.Log
import ClusterClient.Proofs.Client.Plan
import ClusterClient.Proofs.Client.Reachable
import ClusterClient.Proofs.Client.Reconfiguration
import ClusterClient.Proofs.Client.Round
import ClusterClient.Proofs.Client.Shared
import ClusterClient.Proofs.Client.Stepwise
import ClusterClient.Proofs.Command.Delivery
import ClusterClient.Proofs.Command.Export
import ClusterClient.Proofs.Command.Failure
import ClusterClient.Proofs.Command.Load
import ClusterClient.Proofs.Command.Payload
import ClusterClient.Proofs.Command.Termination
import ClusterClient.Proofs.Counts
import ClusterClient.Proofs.Disk
import ClusterClient.Proofs.Documents.Access
import ClusterClient.Proofs.Documents.Address
import ClusterClient.Proofs.Documents.Ending
import ClusterClient.Proofs.Documents.Routing
import ClusterClient.Proofs.Endpoints
import ClusterClient.Proofs.Independence
import ClusterClient.Proofs.Json.Acceptance
import ClusterClient.Proofs.Json.Carrying
import ClusterClient.Proofs.Json.Comparing
import ClusterClient.Proofs.Json.Content
import ClusterClient.Proofs.Json.Exact
import ClusterClient.Proofs.Json.Grammar
import ClusterClient.Proofs.Json.Meaning
import ClusterClient.Proofs.Json.NumeralGrammar
import ClusterClient.Proofs.Json.Precision
import ClusterClient.Proofs.Json.Printable
import ClusterClient.Proofs.Json.Reading
import ClusterClient.Proofs.Json.Scanning
import ClusterClient.Proofs.Json.Text
import ClusterClient.Proofs.Json.Writing
import ClusterClient.Proofs.Metrics
import ClusterClient.Proofs.Number.Grid
import ClusterClient.Proofs.Number.Nearby
import ClusterClient.Proofs.Number.Rounding
import ClusterClient.Proofs.Number.Shortest
import ClusterClient.Proofs.Overlay
import ClusterClient.Proofs.Rotation
import ClusterClient.Proofs.Scroll.Ledger
import ClusterClient.Proofs.Scroll.Operation
import ClusterClient.Proofs.Scroll.Release
import ClusterClient.Proofs.Scroll.Retry
import ClusterClient.Proofs.Scroll.Trust
import ClusterClient.Proofs.Scroll.Variants
import ClusterClient.Proofs.Documents.Form
import ClusterClient.Proofs.Text.Line
import ClusterClient.Proofs.Users
import ClusterClient.Rotation
import ClusterClient.Scroll.Page
import ClusterClient.Scroll.Session
import ClusterClient.Text.Base64
import ClusterClient.Text.Basic
import ClusterClient.Text.CodeRange
import ClusterClient.Text.Composition
import ClusterClient.Text.Direction
import ClusterClient.Text.Joining
import ClusterClient.Text.Mark
import ClusterClient.Text.Terminal
import ClusterClient.Toml.Basic
import ClusterClient.Toml.Number
import ClusterClient.Toml.Reader
import ClusterClient.Toml.Text
import ClusterClient.Transport
import ClusterClient.Url.Address
import ClusterClient.Url.Basic
import ClusterClient.Url.Domain
import ClusterClient.Url.Mapping
import ClusterClient.Url.Punycode
