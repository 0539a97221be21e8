import FrameChunks.Text.Quoted
import FrameChunks.Wire.Reader
import FrameChunks.Wire.Writer

/-!
# Image frames and their payloads

A frame is one image with its time stamp. On the wire it is the seconds and nanoseconds of the
stamp, the name of the coordinate frame, the size, the encoding name, a truth value, the row stride
and the pixels. The pixels are not looked at.

## Main definitions

* `Frame`: a decoded image
* `Frame.read`, `Frame.decodeWithRest`, `Frame.decode`: a frame from a payload
* `Frame.write`, `Frame.encode`: the payload of a frame
-/

namespace FrameChunks.Image

open Wire

/-- The nanoseconds of a second. -/
def nanosPerSecond : Int := 1000000000

/-- One image with its time stamp. -/
structure Frame where
  /-- Nanoseconds since the epoch. -/
  timestamp : Int
  /-- The name of the coordinate frame. -/
  frameId : String
  height : Int
  width : Int
  encoding : String
  /-- Whether pixels of several bytes have the most significant one first. -/
  bigEndian : Bool
  /-- The bytes of a row. -/
  step : Int
  data : Bytes
  deriving DecidableEq, Repr

namespace Frame

/-- The frame for a reader of log messages, without its pixels. -/
def describe (f : Frame) : String :=
  s!"ImageFrame(t={f.timestamp}ns, {f.width}x{f.height}, encoding={Text.quoted f.encoding}, " ++
    s!"step={f.step}, bytes={f.data.length})"

/-- Reads the fields of a frame. The nanoseconds may be more than a second. -/
def read : Read Frame := do
  let seconds ← Read.int32
  let nanos ← Read.uint32
  let frameId ← Read.text
  let height ← Read.uint32
  let width ← Read.uint32
  let encoding ← Read.text
  let bigEndian ← Read.bool
  let step ← Read.uint32
  let data ← Read.bytes
  return ⟨seconds * nanosPerSecond + nanos, frameId, height, width, encoding, bigEndian, step, data⟩

/-- The frame at the front of a payload, and the number of bytes behind it. -/
def decodeWithRest (payload : Bytes) : Except DecodeError (Frame × Nat) := do
  match read (← Reader.start payload) with
  | .ok frame r => return (frame, r.remaining)
  | .error e _ => throw e

/-- The frame at the front of a payload. -/
def decode (payload : Bytes) : Except DecodeError Frame := Prod.fst <$> decodeWithRest payload

/-- Writes the fields of a frame. The stamp is split so that the nanoseconds are below a second. -/
def write (f : Frame) : Write Unit := do
  Write.int32 (f.timestamp.fdiv nanosPerSecond)
  Write.uint32 (f.timestamp.fmod nanosPerSecond)
  Write.text f.frameId
  Write.uint32 f.height
  Write.uint32 f.width
  Write.text f.encoding
  Write.bool f.bigEndian
  Write.uint32 f.step
  Write.bytes f.data

/-- The payload of a frame in the given byte order. -/
def encode (order : ByteOrder) (f : Frame) : Except WriteError Bytes :=
  match f.write { order } with
  | .ok _ w => .ok w.toBytes
  | .error e _ => .error e

end Frame

/-- The name of the schema of image messages. -/
def schemaName : String := "sensor_msgs/msg/Image"

end FrameChunks.Image
