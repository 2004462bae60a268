import AddressIntake.Address
import AddressIntake.AddressKind
import AddressIntake.Cli.Command
import AddressIntake.Cli.Options
import AddressIntake.Cli.Program
import AddressIntake.Columns
import AddressIntake.Delimited.Reader
import AddressIntake.Delimited.Separator
import AddressIntake.Delimited.Writer
import AddressIntake.FieldMap
import AddressIntake.FileKind
import AddressIntake.Files.Basic
import AddressIntake.Files.Directions
import AddressIntake.Files.Host
import AddressIntake.Files.Tree
import AddressIntake.FormatRule
import AddressIntake.Http.Disposition
import AddressIntake.Http.Failure
import AddressIntake.Http.HeaderBlock
import AddressIntake.Http.MediaType
import AddressIntake.Http.Message
import AddressIntake.Http.Multipart
import AddressIntake.Http.Payload
import AddressIntake.Http.Route
import AddressIntake.Http.Service
import AddressIntake.Http.Upload
import AddressIntake.Import.Commit
import AddressIntake.Import.Pipeline
import AddressIntake.Import.Preview
import AddressIntake.Json.Basic
import AddressIntake.Json.Decoder
import AddressIntake.Json.Node
import AddressIntake.Json.Numeral
import AddressIntake.Json.Printer
import AddressIntake.Json.Reader
import AddressIntake.Log
import AddressIntake.Main
import AddressIntake.Number.Binary64
import AddressIntake.Number.Unsigned
import AddressIntake.Pattern
import AddressIntake.Policy
import AddressIntake.Proofs.Address
import AddressIntake.Proofs.Cli.Imports
import AddressIntake.Proofs.Cli.OnHost
import AddressIntake.Proofs.Cli.Surroundings
import AddressIntake.Proofs.Columns
import AddressIntake.Proofs.Delimited.Layout
import AddressIntake.Proofs.Delimited.Record
import AddressIntake.Proofs.Delimited.Writer
import AddressIntake.Proofs.Documents
import AddressIntake.Proofs.Ein
import AddressIntake.Proofs.Except
import AddressIntake.Proofs.Extent
import AddressIntake.Proofs.FieldMap
import AddressIntake.Proofs.Files.Directions
import AddressIntake.Proofs.Files.Faithful
import AddressIntake.Proofs.Files.Folders
import AddressIntake.Proofs.Files.Host
import AddressIntake.Proofs.Files.Places
import AddressIntake.Proofs.Files.Tree
import AddressIntake.Proofs.Findings
import AddressIntake.Proofs.FormatRule
import AddressIntake.Proofs.Grid
import AddressIntake.Proofs.Header
import AddressIntake.Proofs.Http.CommitStatus
import AddressIntake.Proofs.Http.Service
import AddressIntake.Proofs.Http.Upload
import AddressIntake.Proofs.Import.Accounting
import AddressIntake.Proofs.Import.Chunk
import AddressIntake.Proofs.Import.CleanRows
import AddressIntake.Proofs.Import.Concurrency
import AddressIntake.Proofs.Import.Conversation
import AddressIntake.Proofs.Import.Faults
import AddressIntake.Proofs.Import.FileKinds
import AddressIntake.Proofs.Import.Growth
import AddressIntake.Proofs.Import.Lockstep
import AddressIntake.Proofs.Import.Operation
import AddressIntake.Proofs.Import.Persistence
import AddressIntake.Proofs.Import.Prediction
import AddressIntake.Proofs.Import.References
import AddressIntake.Proofs.Import.Reupload
import AddressIntake.Proofs.Import.Summary
import AddressIntake.Proofs.Import.Template
import AddressIntake.Proofs.Import.Turns
import AddressIntake.Proofs.Import.Upload
import AddressIntake.Proofs.Import.Words
import AddressIntake.Proofs.Json.Decimal
import AddressIntake.Proofs.Json.Decoder
import AddressIntake.Proofs.Json.Lossless
import AddressIntake.Proofs.Json.Quote
import AddressIntake.Proofs.Json.Reading
import AddressIntake.Proofs.Json.Tokens
import AddressIntake.Proofs.Naming
import AddressIntake.Proofs.Pattern
import AddressIntake.Proofs.Policy
import AddressIntake.Proofs.RecordId
import AddressIntake.Proofs.Registry
import AddressIntake.Proofs.Rendering
import AddressIntake.Proofs.Separator
import AddressIntake.Proofs.Sheet
import AddressIntake.Proofs.ShipToLookup
import AddressIntake.Proofs.Spelling
import AddressIntake.Proofs.Store.Alike
import AddressIntake.Proofs.Store.AllOrNothing
import AddressIntake.Proofs.Store.Backend
import AddressIntake.Proofs.Store.Drift
import AddressIntake.Proofs.Store.Folder
import AddressIntake.Proofs.Store.History
import AddressIntake.Proofs.Store.Interchange
import AddressIntake.Proofs.Store.LastSave
import AddressIntake.Proofs.Store.Memory
import AddressIntake.Proofs.Store.OnHost
import AddressIntake.Proofs.Store.Outcome
import AddressIntake.Proofs.Store.Unreadable
import AddressIntake.Proofs.Table
import AddressIntake.Proofs.Text.Blank
import AddressIntake.Proofs.Text.Digit
import AddressIntake.Proofs.Text.Utf8
import AddressIntake.Proofs.Timestamp
import AddressIntake.Proofs.Transcript
import AddressIntake.Proofs.Unrecognized
import AddressIntake.Proofs.Validation
import AddressIntake.Proofs.Variables
import AddressIntake.Proofs.Workbook
import AddressIntake.RecordId
import AddressIntake.Registry
import AddressIntake.Row
import AddressIntake.Schema
import AddressIntake.Script
import AddressIntake.Settings
import AddressIntake.Sheet
import AddressIntake.ShipToLookup
import AddressIntake.Store.Block
import AddressIntake.Store.Memory
import AddressIntake.Store.OnDisk
import AddressIntake.Store.Request
import AddressIntake.Table
import AddressIntake.Text.Alphanumeric
import AddressIntake.Text.Blank
import AddressIntake.Text.Case
import AddressIntake.Text.Charset.Basic
import AddressIntake.Text.Charset.CharTable
import AddressIntake.Text.Charset.Decode
import AddressIntake.Text.Charset.EucJp
import AddressIntake.Text.Charset.Gb18030
import AddressIntake.Text.Charset.Iso2022Jp
import AddressIntake.Text.Charset.Paired
import AddressIntake.Text.Charset.Table.Big5
import AddressIntake.Text.Charset.Table.Gb18030
import AddressIntake.Text.Charset.Table.Hangul
import AddressIntake.Text.Charset.Table.Jis0208
import AddressIntake.Text.Charset.Table.Jis0212
import AddressIntake.Text.Charset.Table.SingleByte
import AddressIntake.Text.Digit
import AddressIntake.Text.Encoding
import AddressIntake.Text.Letters
import AddressIntake.Text.Utf8
import AddressIntake.Timestamp
import AddressIntake.Validation
import AddressIntake.Variables
import AddressIntake.Workbook
