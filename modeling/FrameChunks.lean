import FrameChunks.Keyed
import FrameChunks.Text.Blank
import FrameChunks.Text.DecimalDigit
import FrameChunks.Text.Printable
import FrameChunks.Text.Quoted
import FrameChunks.Text.Utf8
import FrameChunks.Number.Decimal
import FrameChunks.Wire.Reader
import FrameChunks.Wire.Writer
import FrameChunks.Image.Encoding
import FrameChunks.Image.Frame
import FrameChunks.Session
import FrameChunks.Recording
import FrameChunks.Column.Builder
import FrameChunks.Column.Archetype
import FrameChunks.Timeline
import FrameChunks.Chunk.Basic
import FrameChunks.Chunk.Table
import FrameChunks.Parser.Basic
import FrameChunks.Settings.Basic
import FrameChunks.Registry
import FrameChunks.Loader
import FrameChunks.Calendar
import FrameChunks.Document.Quoted
import FrameChunks.Document.Plain
import FrameChunks.Document.Literal
import FrameChunks.Document.Tree
import FrameChunks.Document.Reading
import FrameChunks.Settings.Check
import FrameChunks.Settings.Load
import FrameChunks.Log.Setup
import FrameChunks.Error.OfArguments
import FrameChunks.Wire.HostValue
import FrameChunks.Proofs.Steps
import FrameChunks.Proofs.Keyed
import FrameChunks.Proofs.Text.Utf8
import FrameChunks.Proofs.Text.Hex
import FrameChunks.Proofs.Text.Quoted
import FrameChunks.Proofs.Wire.Word
import FrameChunks.Proofs.Wire.Reading
import FrameChunks.Proofs.Wire.Writing
import FrameChunks.Proofs.Image.Payload
import FrameChunks.Proofs.Image.RoundTrip
import FrameChunks.Proofs.Image.Canonical
import FrameChunks.Proofs.Chunk.Rectangular
import FrameChunks.Proofs.Column.Builder
import FrameChunks.Proofs.Parser.Append
import FrameChunks.Proofs.Parser.Run
import FrameChunks.Proofs.Parser.Finalize
import FrameChunks.Proofs.Wire.Program
import FrameChunks.Proofs.Parser.Reachable
import FrameChunks.Proofs.Timeline
import FrameChunks.Proofs.Parser.Outcome
import FrameChunks.Proofs.Parser.Failures
import FrameChunks.Proofs.Loader.Load
import FrameChunks.Proofs.Loader.Endings
import FrameChunks.Proofs.Loader.Policies
import FrameChunks.Proofs.Loader.Timelines
import FrameChunks.Proofs.RowIds
import FrameChunks.Proofs.Parser.Leftovers
import FrameChunks.Proofs.Parser.Lifecycle
import FrameChunks.Proofs.Independence
import FrameChunks.Proofs.Loader.Balance
import FrameChunks.Proofs.Text.Fault
import FrameChunks.Proofs.Wire.Stopping
import FrameChunks.Proofs.Wire.TextLanguage
import FrameChunks.Proofs.Wire.Attempts
import FrameChunks.Proofs.Wire.Failing
import FrameChunks.Proofs.Image.Refusal
import FrameChunks.Proofs.Image.Truncation
import FrameChunks.Proofs.Image.Reencoding
import FrameChunks.Proofs.Loader.FirstFault
import FrameChunks.Proofs.Column.Rows
import FrameChunks.Proofs.Column.Floating
import FrameChunks.Proofs.Chunk.Ids
import FrameChunks.Proofs.Timeline.History
import FrameChunks.Proofs.Wire.Refused
import FrameChunks.Proofs.Chunk.Table
import FrameChunks.Proofs.Text.JsonQuoted
import FrameChunks.Proofs.Text.Json
import FrameChunks.Proofs.Log.Lines
import FrameChunks.Proofs.Settings.Override
import FrameChunks.Proofs.Settings.Checked
import FrameChunks.Proofs.Settings.Source
import FrameChunks.Proofs.Settings.Precedence
import FrameChunks.Proofs.Settings.Failures
import FrameChunks.Proofs.Chunk.Lookup
import FrameChunks.Proofs.EntityPath
