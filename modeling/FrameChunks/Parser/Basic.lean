import FrameChunks.Column.Archetype
import FrameChunks.Parser.Metadata

/-!
# Image parsers

A parser takes the messages of one channel, one after the other, and is finalized once: then its rows
become two chunks, the images and their metadata. Both have the timelines of the context.

A message that cannot be decoded, or whose encoding is not known, leaves the parser and the context
as they were.

## Main definitions

* `Parser`: the rows of a channel
* `Feed`: a parser with the context and the session that it works on
* `Parser.append`: takes a message
* `Parser.finalize`: turns the rows into chunks
-/

namespace FrameChunks

/-- Whether a parser takes messages. -/
inductive Lifecycle
  | accumulating
  | finalized
  deriving DecidableEq, Repr

/-- The name of a state. -/
def Lifecycle.name : Lifecycle → String
  | accumulating => "ACCUMULATING"
  | finalized => "FINALIZED"

/-- Where a parser has its chunk ids from. -/
inductive IdSource
  /-- From the session. -/
  | session
  /-- From a list, and from the session when the list is used up. -/
  | given (ids : List ChunkId)
  deriving DecidableEq, Repr

/-- The rows of a channel. -/
structure Parser where
  /-- The timeline of the time stamps. -/
  timeline : String
  /-- How many rows lie between two notes of progress; there are none if it is zero. -/
  logEvery : Int
  ids : IdSource
  lifecycle : Lifecycle
  /-- Whether the last frame was filed as a depth image. -/
  isDepth : Bool
  /-- The pixels of the frames. -/
  blobs : List Bytes
  /-- The pixel formats of the frames. -/
  formats : List Image.Format
  /-- The attributes of the frames. -/
  metadata : Metadata Column.Builder

/-- A parser with the context and the session that it works on. -/
structure Feed where
  parser : Parser
  context : Context
  session : Session

namespace Parser

/-- A parser without rows. -/
def create (timeline : String) (logEvery rows : Int) (ids : IdSource) : Except BuilderError Parser := do
  return ⟨timeline, logEvery, ids, .accumulating, false, [], [], ← Metadata.builders rows⟩

/-- The number of rows. -/
def rows (p : Parser) : Nat := p.blobs.length

/-- The number of rows in every column, under the names of the columns. -/
def lengths (p : Parser) : List (String × Nat) :=
  ("blobs", p.blobs.length) :: ("formats", p.formats.length) ::
    Attribute.all.map fun a => (a.name, (p.metadata.get a).length)

/-- What the rows are filed as. -/
def archetype (p : Parser) : Archetype := if p.isDepth then .depthImage else .image

end Parser

/-- Decodes a payload. Bytes behind the frame are noted from four on: fewer may be padding. -/
def Session.decode (s : Session) (payload : Bytes) :
    Except Wire.DecodeError Image.Frame × Session :=
  match Image.Frame.decodeWithRest payload with
  | .error e => (.error e, s)
  | .ok (frame, rest) =>
    (.ok frame,
      if 4 ≤ rest then
        s.note .debug .decoder s!"Ignoring {rest} trailing bytes after image data"
      else s)

/-- A step of a parser. It changes the feed also when it fails. -/
abbrev Step := EStateM Failure Feed

namespace Step

/-- Changes the parser. -/
def modifyParser (f : Parser → Parser) : Step Unit := modify fun s => { s with parser := f s.parser }

/-- Makes a note. -/
def note (level : Log.Level) (source : Log.Source) (text : String) : Step Unit :=
  modify fun s => { s with session := s.session.note level source text }

/-- Refuses a call on a finalized parser. -/
def requireAccumulating (call : ParserCall) : Step Unit := do
  if (← get).parser.lifecycle ≠ .accumulating then
    throw (.plugin (.parserState (.finalized call)))

/-- A chunk id that the parser did not have before. -/
def freshId : Step ChunkId := do
  let s ← get
  match s.parser.ids with
  | .given (id :: rest) =>
    -- the session is not asked
    modifyParser fun p => { p with ids := .given rest }
    return id
  | _ =>
    let (id, session) := s.session.freshId
    set { s with session }
    return id

/-- A chunk filed where the context says. -/
def buildChunk (id : ChunkId) (timelines : Timelines) (components : Components) : Step Chunk := do
  let s ← get
  match Chunk.build s.session id s.context.entityPath timelines components with
  | .error e => throw (.plugin (.batch e))
  | .ok (chunk, session) =>
    set { s with session }
    return chunk

/-- Decodes a payload. -/
def decode (payload : Bytes) : Step Image.Frame := do
  let s ← get
  let (frame, session) := s.session.decode payload
  set { s with session }
  ofExcept (frame.mapError fun e => .plugin (.decode e))

/-- Puts the values of a frame at the ends of the metadata columns. -/
def putMetadata (frame : Image.Frame) : List Attribute → Step Unit
  | [] => pure ()
  | a :: rest => do
    match ((← get).parser.metadata.get a).append (a.value frame) with
    | .error e => throw (.builder e)
    | .ok b =>
      modifyParser fun p => { p with metadata := p.metadata.set a b }
      putMetadata frame rest

/-- Puts a frame at the end of the rows. -/
def putRow (frame : Image.Frame) (format : Image.Format) : Step Unit := do
  modify fun s =>
    { s with context := s.context.addCell s.parser.timeline frame.timestamp }
  modifyParser fun p =>
    { p with
      isDepth := format.layout.isDepth
      blobs := p.blobs ++ [frame.data]
      formats := p.formats ++ [format] }
  putMetadata frame Attribute.all

/-- Notes the progress, if it is time to. -/
def noteProgress (frame : Image.Frame) (format : Image.Format) : Step Unit := do
  let s ← get
  if s.parser.logEvery ≠ 0 ∧ s.parser.logEvery ∣ s.parser.rows then
    note .debug .imagePlugin
      (s!"{s.context.entityPath}: {s.parser.rows} frames, last {frame.describe} -> " ++
        format.describe)

end Step

namespace Parser

open Step

/-- Takes a message. Nothing is put anywhere before the message is decoded and its encoding is
known. -/
def append (m : Message) : Step Unit := do
  requireAccumulating .append
  match m.payload with
  | none => throw .noPayload
  | some payload =>
    let frame ← decode payload
    match Image.resolve frame.encoding frame.width frame.height with
    | .error e => throw (e : Failure)
    | .ok format =>
      putRow frame format
      noteProgress frame format

/-- Takes the pixels and the formats out of the parser. -/
def takeImages : Step (List Bytes × List Image.Format) := do
  let p := (← get).parser
  modifyParser fun p => { p with blobs := [], formats := [] }
  return (p.blobs, p.formats)

/-- The finished timelines of the context. -/
def finishTimelines : Step Timelines := do
  let s ← get
  let (timelines, session) ← ofExcept (s.context.buildTimelines s.session)
  set { s with session }
  return timelines

/-- Takes the metadata columns out of the parser. -/
def takeMetadata : Step Components := do
  let (columns, metadata) := (← get).parser.metadata.finish
  modifyParser fun p => { p with metadata }
  ofExcept columns

/-- Turns the rows into the chunk of the images and the chunk of the metadata. The parser takes no
more messages afterwards, also if there are no chunks. -/
def finalize : Step (List Chunk) := do
  requireAccumulating .finalize
  modifyParser fun p => { p with lifecycle := .finalized }
  -- Every step below may fail, and what was done before it stays done.
  let (blobs, formats) ← takeImages
  let timelines ← finishTimelines
  let archetype := (← get).parser.archetype
  let imageId ← freshId
  let images ← ofExcept (archetype.columns blobs formats)
  let imageChunk ← buildChunk imageId timelines images
  let metadataId ← freshId
  let metadata ← takeMetadata
  let metadataChunk ← buildChunk metadataId timelines metadata
  note .info .imagePlugin
    s!"Finalized {imageChunk.entityPath}: {imageChunk.length} rows as {archetype.name}"
  return [imageChunk, metadataChunk]

end Parser

end FrameChunks
