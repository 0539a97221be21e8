import FrameChunks.Wire.Error
import FrameChunks.Wire.Value

/-!
# Writing a payload

The counterpart of reading: a header, then words at multiples of their size, texts with their length
and a zero byte at the end, and byte sequences with their length.

The padding before a word is written before the word is checked, so it stays when the word does not
fit.

## Main definitions

* `Writer`: the byte order and the bytes written after the header
* `Writer.toBytes`: the payload
* `Write`: writing steps, which change a writer also when they fail
* `Write.value`: writes a value
-/

namespace FrameChunks.Wire

open Text

/-- A payload that is being written. -/
structure Writer where
  order : ByteOrder
  /-- The bytes after the header. -/
  body : Bytes := []
  deriving DecidableEq, Repr

namespace Writer

/-- The header: the representation identifier and two bytes of options. -/
def header (w : Writer) : Bytes := ByteOrder.big.bytes 2 w.order.identifier ++ [0, 0]

/-- The payload written so far. -/
def toBytes (w : Writer) : Bytes := w.header ++ w.body

/-- The size of the payload written so far. -/
def size (w : Writer) : Nat := 4 + w.body.length

@[simp] theorem length_toBytes (w : Writer) : w.toBytes.length = w.size := by
  simp [toBytes, header, size]
  omega

end Writer

/-- A writing step. It changes the writer whether it succeeds or fails. -/
abbrev Write := EStateM WriteError Writer

namespace Write

/-- Appends bytes. -/
def put (bs : Bytes) : Write Unit := modify fun w => { w with body := w.body ++ bs }

/-- Appends the padding before a word of `size` bytes. -/
def align (size : Nat) : Write Unit := do
  let w ← get
  put (List.replicate (padding w.body.length size) 0)

/-- Writes an aligned word. -/
def word (kind : Word) (n : Int) : Write Unit := do
  -- the padding is written first and stays, whether the number fits or not
  align kind.size
  if kind.Holds n then
    put (kind.write (← get).order n)
  else
    throw (.outOfRange n)

/-- Writes one byte. -/
def uint8 (n : Int) : Write Unit := word .uint8 n

/-- Writes a truth value. -/
def bool (b : Bool) : Write Unit := word .uint8 (if b then 1 else 0)

/-- Writes a signed word of four bytes. -/
def int32 (n : Int) : Write Unit := word .int32 n

/-- Writes an unsigned word of four bytes. -/
def uint32 (n : Int) : Write Unit := word .uint32 n

/-- Writes the number of bytes and the bytes. -/
def bytes (bs : Bytes) : Write Unit := do
  uint32 bs.length
  put bs

/-- Writes a text with a zero byte at its end. -/
def text (s : String) : Write Unit := bytes (Utf8.encode s.toList ++ [0])

/-- Writes a value. -/
def value : Value → Write Unit
  | .uint8 n => uint8 n
  | .bool b => bool b
  | .int32 n => int32 n
  | .uint32 n => uint32 n
  | .text s => text s
  | .bytes bs => bytes bs

end Write

end FrameChunks.Wire
