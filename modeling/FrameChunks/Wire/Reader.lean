import FrameChunks.Wire.Error
import FrameChunks.Wire.Value

/-!
# Reading a payload

A payload starts with a header of four bytes: the representation identifier and two bytes of
options. After the header every word starts at a multiple of its size, counted from the end of the
header. A text is its length and its bytes, of which a last zero byte is dropped; a byte sequence is
its length and its bytes.

A reader that fails keeps the position that it had reached: a word whose padding is there but whose
bytes are not leaves the reader behind the padding.

## Main definitions

* `Reader`: the byte order, the position and the unread bytes
* `Reader.start`: a reader at the end of the header
* `Read`: reading steps, which move a reader also when they fail
* `Read.value`: reads a value of a given kind
-/

namespace FrameChunks.Wire

open Text

/-- The size of the header. -/
def headerSize : Nat := 4

/-- A position in a payload with a valid header. -/
structure Reader where
  /-- The byte order that the header announces. -/
  order : ByteOrder
  /-- The number of bytes read after the header. -/
  position : Nat
  /-- The bytes not read yet. -/
  rest : Bytes
  deriving DecidableEq, Repr

namespace Reader

/-- The position in the payload, counted with the header. -/
def offset (r : Reader) : Nat := headerSize + r.position

/-- The number of bytes not read yet. -/
def remaining (r : Reader) : Nat := r.rest.length

/-- The reader after `n` more bytes. -/
def advance (r : Reader) (n : Nat) : Reader :=
  { r with position := r.position + n, rest := r.rest.drop n }

/-- Reads the header. -/
def start : Bytes → Except DecodeError Reader
  | b₀ :: b₁ :: _ :: _ :: rest =>
    let identifier := b₀.toNat * 256 + b₁.toNat
    match ByteOrder.ofIdentifier? identifier with
    | some order => .ok ⟨order, 0, rest⟩
    | none => .error ⟨.unknownRepresentation identifier, some 0⟩
  | payload => .error ⟨.headerTooShort payload.length, some 0⟩

@[simp] theorem offset_advance (r : Reader) (n : Nat) : (r.advance n).offset = r.offset + n := by
  simp [offset, advance, Nat.add_assoc]

@[simp] theorem order_advance (r : Reader) (n : Nat) : (r.advance n).order = r.order := rfl

@[simp] theorem rest_advance (r : Reader) (n : Nat) : (r.advance n).rest = r.rest.drop n := rfl

end Reader

/-- A reading step. It moves the reader whether it succeeds or fails. -/
abbrev Read := EStateM DecodeError Reader

namespace Read

/-- Takes the next `n` bytes, or fails where it stands. -/
def take (item : Item) (n : Nat) : Read Bytes := fun r =>
  if n ≤ r.remaining then .ok (r.rest.take n) (r.advance n)
  else .error ⟨.truncated item n r.remaining, some r.offset⟩ r

/-- Skips the padding before a word of `size` bytes. -/
def align (size : Nat) : Read Unit := do
  let r ← get
  let _ ← take (.alignment size) (padding r.position size)

/-- Reads an aligned word. -/
def word (item : Item) (w : Word) : Read Int := do
  align w.size
  let bs ← take item w.size
  return w.read (← get).order bs

/-- Reads one byte. -/
def uint8 : Read Int := word .uint8 .uint8

/-- Reads a signed word of four bytes. -/
def int32 : Read Int := word .int32 .int32

/-- Reads an unsigned word of four bytes. -/
def uint32 : Read Int := word .uint32 .uint32

/-- Reads a truth value, which is a byte below two. -/
def bool : Read Bool := do
  let n ← uint8
  if n > 1 then
    -- the byte has been read, so it stands one before the position
    let r ← get
    throw ⟨.invalidBoolean n.toNat, some (r.offset - 1)⟩
  return n = 1

/-- The bytes of a text without the one zero byte that may end them. -/
def dropTerminator (raw : Bytes) : Bytes :=
  if raw.getLast? = some 0 then raw.dropLast else raw

/-- Reads a text. A failure to decode is reported where the bytes of the text start. -/
def text : Read String := do
  let length ← uint32
  let start := (← get).offset
  let raw ← take .text length.toNat
  match Utf8.decode (dropTerminator raw) with
  | .ok s => return String.ofList s
  | .error fault => throw ⟨.invalidText fault, some start⟩

/-- Reads a byte sequence. -/
def bytes : Read Bytes := do
  let length ← uint32
  take .bytes length.toNat

/-- Reads a value of a given kind. -/
def value : Kind → Read Value
  | .uint8 => .uint8 <$> uint8
  | .bool => .bool <$> bool
  | .int32 => .int32 <$> int32
  | .uint32 => .uint32 <$> uint32
  | .text => .text <$> text
  | .bytes => .bytes <$> bytes

end Read

end FrameChunks.Wire
