import FrameChunks.Wire.ByteOrder

/-!
# Values on the wire

## Main definitions

* `Kind`: the kinds of value that messages are made of
* `Value`: a value of one of these kinds
-/

namespace FrameChunks.Wire

/-- The kinds of value that messages are made of. -/
inductive Kind
  | uint8
  | bool
  | int32
  | uint32
  | text
  | bytes
  deriving DecidableEq, Repr

/-- A value to be written, or one that was read. -/
inductive Value
  | uint8 (n : Int)
  | bool (b : Bool)
  | int32 (n : Int)
  | uint32 (n : Int)
  | text (s : String)
  | bytes (b : Bytes)
  deriving DecidableEq, Repr

/-- The kind of a value. -/
def Value.kind : Value → Kind
  | uint8 _ => .uint8
  | bool _ => .bool
  | int32 _ => .int32
  | uint32 _ => .uint32
  | text _ => .text
  | bytes _ => .bytes

end FrameChunks.Wire
