import OneTable.Calendar.Date
import OneTable.Calendar.Pattern
import OneTable.Column
import OneTable.ColumnType
import OneTable.CommandLine.Command
import OneTable.CommandLine.Run
import OneTable.CommandLine.Shown
import OneTable.CommandLine.Switch
import OneTable.Config.Basic
import OneTable.Config.Draft
import OneTable.Config.File
import OneTable.Config.Model
import OneTable.Config.Stored
import OneTable.Conversion
import OneTable.Csv.Line
import OneTable.Csv.Row
import OneTable.Csv.Table
import OneTable.Delimiter
import OneTable.Encoding.Basic
import OneTable.Encoding.Multibyte
import OneTable.Encoding.Page
import OneTable.Encoding.Table.Basic
import OneTable.Encoding.Table.Big5
import OneTable.Encoding.Table.Gb18030
import OneTable.Encoding.Table.Gb18030Range
import OneTable.Encoding.Table.Jis0208
import OneTable.Encoding.Table.Jis0212
import OneTable.Encoding.Table.KsX1001
import OneTable.Encoding.Utf16
import OneTable.Encoding.Utf8
import OneTable.Failure
import OneTable.Fault
import OneTable.FilePath
import OneTable.FilterMode
import OneTable.Folder
import OneTable.Guid
import OneTable.Inference
import OneTable.Json.Basic
import OneTable.Json.Numeral
import OneTable.Json.Read
import OneTable.Json.Text
import OneTable.Json.Value
import OneTable.Listing
import OneTable.Main
import OneTable.Model.Basic
import OneTable.Model.Edit
import OneTable.Model.Keyed
import OneTable.Model.Reconcile
import OneTable.Number.Binary64
import OneTable.Number.Decimal
import OneTable.Number.Integer
import OneTable.Number.Shortest
import OneTable.RawSpec
import OneTable.Reader.Basic
import OneTable.Reader.File
import OneTable.Reader.Scan
import OneTable.Reader.Sink
import OneTable.Reader.Stream
import OneTable.Record.Basic
import OneTable.Record.Decode
import OneTable.Record.Read
import OneTable.Record.Written
import OneTable.Source.Basic
import OneTable.Source.Csv
import OneTable.Text.Blank
import OneTable.Text.Hidden
import OneTable.Text.Shown
import OneTable.Value.Basic
import OneTable.Value.Cell
import OneTable.Yaml.Character
import OneTable.Yaml.Cursor
import OneTable.Yaml.Node
import OneTable.Yaml.Plain
import OneTable.Yaml.Token.Basic
import OneTable.Yaml.Token.Property
import OneTable.Yaml.Token.Scalar
import OneTable.Yaml.Token.Scanner
import OneTable.Yaml.Tree
import OneTable.Yaml.Written
import OneTable.Proofs.Lookup
import OneTable.Proofs.Model.Ranking
import OneTable.Proofs.Model.Run
import OneTable.Proofs.Model.Aligned
import OneTable.Proofs.Model.Keyed
import OneTable.Proofs.Config.Build
import OneTable.Proofs.Config.Load
import OneTable.Proofs.Config.Rendering
import OneTable.Proofs.Config.Idempotence
import OneTable.Proofs.Record.Decode
import OneTable.Proofs.Config.SameItems
import OneTable.Proofs.Model.Invariant
import OneTable.Proofs.Model.Reconciliation
import OneTable.Proofs.Model.Series
import OneTable.Proofs.Record.RoundTrip
import OneTable.Proofs.Record.FixedPoint
import OneTable.Proofs.Config.Reloading
import OneTable.Proofs.Reader.Configured
import OneTable.Proofs.Reader.Pouring
import OneTable.Proofs.CommandLine.Applied
import OneTable.Proofs.Folder
import OneTable.Proofs.Reader.Header
import OneTable.Proofs.CommandLine.Order
import OneTable.Proofs.Reader.Rows
import OneTable.Proofs.Reader.Scanning
import OneTable.Proofs.Reader.Cache
import OneTable.Proofs.CommandLine.Destination
import OneTable.Proofs.Inference
import OneTable.Proofs.Widening
import OneTable.Proofs.Conversion
import OneTable.Proofs.Reader.Evidence
import OneTable.Proofs.Reader.Protocol
import OneTable.Proofs.Config.Output
import OneTable.Proofs.CommandLine.Saved
import OneTable.Proofs.CommandLine.Scanned
import OneTable.Proofs.CommandLine.Reconciled
import OneTable.Proofs.Reader.Typed
import OneTable.Proofs.Calendar.Patterns
import OneTable.Proofs.Meaning
import OneTable.Proofs.RawSpec
import OneTable.Proofs.Config.Acceptance
import OneTable.Proofs.Config.Totality
import OneTable.Proofs.Missing
import OneTable.Proofs.Record.Items
import OneTable.Proofs.Record.Acceptance
import OneTable.Proofs.Watched
import OneTable.Proofs.Record.Upgrade
import OneTable.Proofs.Calendar.Texts
import OneTable.Proofs.Guid
import OneTable.Proofs.Csv.Lines
import OneTable.Proofs.Encoding.Utf8
import OneTable.Proofs.Reader.Rereading
import OneTable.Proofs.Names
import OneTable.Proofs.Model.Switching
import OneTable.Proofs.Model.Moving
import OneTable.Proofs.Reader.Sampling
import OneTable.Proofs.Recognition
import OneTable.Proofs.Config.Shared
import OneTable.Proofs.Encoding.BeyondAscii
import OneTable.Proofs.Encoding.Letters
import OneTable.Proofs.Encoding.Rules
import OneTable.Proofs.Encoding.Escapes
import OneTable.Proofs.Encoding.Utf16
import OneTable.Proofs.Encoding.Schemes
import OneTable.Proofs.Csv.Alike
import OneTable.Proofs.Reader.Decoding
import OneTable.Proofs.Record.Repeated
