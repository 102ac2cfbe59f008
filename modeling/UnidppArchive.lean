import UnidppArchive.Foundations.Ledger
import UnidppArchive.Foundations.Utf8
import UnidppArchive.Foundations.Lines
import UnidppArchive.Foundations.Replay
import UnidppArchive.Foundations.Text
import UnidppArchive.Foundations.PrefixCode
import UnidppArchive.Foundations.Gregorian
import UnidppArchive.Foundations.Mutex
import UnidppArchive.Foundations.Chronicle
import UnidppArchive.Foundations.Fallible
import UnidppArchive.Foundations.Checked
import UnidppArchive.Foundations.Subslice
import UnidppArchive.Foundations.Radix
import UnidppArchive.Foundations.Segments
import UnidppArchive.Foundations.Lossy
import UnidppArchive.Foundations.DayCount
import UnidppArchive.Foundations.Machine
import UnidppArchive.Foundations.Numbering
import UnidppArchive.Foundations.Proleptic
import UnidppArchive.Foundations.Percent
import UnidppArchive.Foundations.FormData
import UnidppArchive.Foundations.Delimiters
import UnidppArchive.Foundations.LineEnds
import UnidppArchive.Foundations.Trimming
import UnidppArchive.Foundations.Paging
import UnidppArchive.Json.Value
import UnidppArchive.Json.Lexical
import UnidppArchive.Json.Serde
import UnidppArchive.Json.Depth
import UnidppArchive.Time.Timestamp
import UnidppArchive.Time.Calendar
import UnidppArchive.Time.Dates
import UnidppArchive.Time.RoundTrip
import UnidppArchive.Time.Indexed
import UnidppArchive.Time.Overflow
import UnidppArchive.Time.Grammar
import UnidppArchive.Time.Canonical
import UnidppArchive.Hex
import UnidppArchive.Hex.Acceptance
import UnidppArchive.Model.Crates
import UnidppArchive.Model.Anchoring
import UnidppArchive.Model.Record
import UnidppArchive.Model.Nesting
import UnidppArchive.Model.Document
import UnidppArchive.Model.Sealing
import UnidppArchive.Model.Fixity
import UnidppArchive.Model.Statement
import UnidppArchive.Reference.Printer
import UnidppArchive.Reference.Parser
import UnidppArchive.Reference.Digest
import UnidppArchive.Reference.Crates
import UnidppArchive.Reference.Samples
import UnidppArchive.Reference.Extractor
import UnidppArchive.Keyring
import UnidppArchive.Http.Chunked
import UnidppArchive.Http.Decoding
import UnidppArchive.Http.Encoding
import UnidppArchive.Http.Retry
import UnidppArchive.Http.Reader
import UnidppArchive.Http.Framing
import UnidppArchive.Http.Url
import UnidppArchive.Http.Request
import UnidppArchive.Api.Ingest
import UnidppArchive.Api.Ledger
import UnidppArchive.Api.Validation
import UnidppArchive.Api.Replay
import UnidppArchive.Api.Verification
import UnidppArchive.Store.Disk
import UnidppArchive.Store.Open
import UnidppArchive.Store.Replay
import UnidppArchive.Store.Files
import UnidppArchive.Store.Append
import UnidppArchive.Store.Reopen
import UnidppArchive.Store.Opening
import UnidppArchive.Store.Ingested
import UnidppArchive.Store.Durability
import UnidppArchive.Store.Torn
import UnidppArchive.Store.Failure
import UnidppArchive.Store.Crash
import UnidppArchive.Store.Specification
import UnidppArchive.Store.Healing
import UnidppArchive.Store.Damage
import UnidppArchive.Store.Invariant
import UnidppArchive.Store.Tampering
import UnidppArchive.Store.Provenance
import UnidppArchive.Store.Overwrite
import UnidppArchive.Store.Growth
import UnidppArchive.Api.Service
import UnidppArchive.Api.Serving
import UnidppArchive.Api.Catalogue
import UnidppArchive.Api.Concurrency
import UnidppArchive.Api.Gapless
import UnidppArchive.Api.Reservation
import UnidppArchive.Api.Lifetime
import UnidppArchive.Api.Progress
import UnidppArchive.Api.Chronology
import UnidppArchive.Api.Commitments
import UnidppArchive.Api.PointInTime
import UnidppArchive.Api.Finding
import UnidppArchive.Api.Requests
import UnidppArchive.Api.Rejection
import UnidppArchive.Api.Embedding
import UnidppArchive.Api.Delivery
import UnidppArchive.Api.Wire
import UnidppArchive.Api.Degradation
import UnidppArchive.Api.Exchange
import UnidppArchive.Api.Independence
import UnidppArchive.Api.Config
import UnidppArchive.Api.Restarts
import UnidppArchive.Api.Rotation
import UnidppArchive.Api.Paging
import UnidppArchive.Api.Views
import UnidppArchive.Api.Query
import UnidppArchive.Api.Linearization
import UnidppArchive.Api.Crashes
