import SqlCluster.Client
import SqlCluster.Config
import SqlCluster.Config.Location
import SqlCluster.Cursor
import SqlCluster.Dict
import SqlCluster.Directory
import SqlCluster.Directory.Topology
import SqlCluster.Discovery
import SqlCluster.Dispatch
import SqlCluster.Json.Fault
import SqlCluster.Json.Reader
import SqlCluster.Json.Writer
import SqlCluster.Level
import SqlCluster.Network
import SqlCluster.Note
import SqlCluster.Number.Double
import SqlCluster.Number.Numeral
import SqlCluster.Number.Shortest
import SqlCluster.Operation
import SqlCluster.Outcome
import SqlCluster.Outcome.Response
import SqlCluster.Peer
import SqlCluster.Proofs.Directory.Dialable
import SqlCluster.Proofs.Dispatch.Failover
import SqlCluster.Proofs.Dispatch.Transcript
import SqlCluster.Proofs.Number.Numeral
import SqlCluster.Proofs.Password.Client
import SqlCluster.Proofs.Password.Config
import SqlCluster.Proofs.Password.Dispatch
import SqlCluster.Proofs.Password.Url
import SqlCluster.Proofs.Peer.Usable
import SqlCluster.Request
import SqlCluster.Scan.Cell
import SqlCluster.Scan.Kind
import SqlCluster.Statement
import SqlCluster.Text.Blank
import SqlCluster.Text.CharMap
import SqlCluster.Text.CharSet
import SqlCluster.Text.Decomposition
import SqlCluster.Text.Digit
import SqlCluster.Text.Encoding
import SqlCluster.Text.Fold
import SqlCluster.Text.Lower
import SqlCluster.Text.Normal
import SqlCluster.Text.Numeric
import SqlCluster.Text.Printable
import SqlCluster.Text.Quoted
import SqlCluster.Text.Split
import SqlCluster.Text.Utf8
import SqlCluster.Time.Date
import SqlCluster.Time.Instant
import SqlCluster.Time.Reading
import SqlCluster.Url
import SqlCluster.Url.Authority
import SqlCluster.Url.HostName
import SqlCluster.Url.HostName.Direction
import SqlCluster.Url.HostName.Label
import SqlCluster.Url.HostName.Lenient
import SqlCluster.Url.HostName.Letter
import SqlCluster.Url.HostName.Strict
import SqlCluster.Url.IpAddress
import SqlCluster.Url.Percent
import SqlCluster.Url.Punycode
import SqlCluster.Value
import SqlCluster.Value.Shown
import SqlCluster.Wire
import SqlCluster.Proofs.Client.Turn
import SqlCluster.Proofs.Client.Lifecycle
import SqlCluster.Proofs.Client.Snapshot
import SqlCluster.Proofs.Outcome.Batch
import SqlCluster.Proofs.Client.Batch
import SqlCluster.Proofs.Client.Routing
import SqlCluster.Proofs.Client.Sessions
import SqlCluster.Proofs.Number.Rounding
import SqlCluster.Proofs.Outcome.Overflow
import SqlCluster.Proofs.Number.Shortest
import SqlCluster.Proofs.Json.Number
import SqlCluster.Proofs.Json.Document
import SqlCluster.Proofs.Json.Ascii
import SqlCluster.Proofs.Outcome.Rendered
import SqlCluster.Proofs.Statement.Body
import SqlCluster.Proofs.Directory.Told
import SqlCluster.Proofs.Discovery.Rounds
import SqlCluster.Proofs.Time.Calendar
import SqlCluster.Proofs.Time.Extended
import SqlCluster.Proofs.Time.Reading
import SqlCluster.Proofs.Outcome.Tables
import SqlCluster.Proofs.Scan.Stored
import SqlCluster.Proofs.Directory.Shapes
import SqlCluster.Proofs.Request.Url
import SqlCluster.Proofs.Config.Written
import SqlCluster.Proofs.Dispatch.Credentials
import SqlCluster.Proofs.Cursor.Agreement
import SqlCluster.Proofs.Cursor.Visits
import SqlCluster.Proofs.Outcome.Fields
import SqlCluster.Proofs.Cursor.Overflow
import SqlCluster.Proofs.Time.Plain
import SqlCluster.Proofs.Time.Stamp
import SqlCluster.Proofs.Time.Order
import SqlCluster.Proofs.Scan.Time
import SqlCluster.Proofs.Number.Exact
import SqlCluster.Proofs.Number.Integer
import SqlCluster.Proofs.Scan.Integer
import SqlCluster.Proofs.Statement.Refused
import SqlCluster.Proofs.Config.Accepted
import SqlCluster.Proofs.Peer.Spelling
import SqlCluster.Proofs.Peer.Literal
import SqlCluster.Proofs.Peer.Printed
