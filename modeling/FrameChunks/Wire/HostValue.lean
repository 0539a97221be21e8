import FrameChunks.Column.Value
import FrameChunks.Wire.Writer

/-!
# Writing values that hosts hand over

Hosts hand over values of any kind. Every value counts as true or false; other kinds are taken from
values of their own.

## Main definitions

* `Write.hostValue`: writes a value as one of a kind
-/

namespace FrameChunks.Wire.Write

/-- Writes an aligned word. The padding is written whatever the value is. -/
def hostWord (kind : Word) : Column.Value → Write Unit
  | .integer n => word kind n
  | .bool b => word kind (if b then 1 else 0)
  | _ => do
    align kind.size
    throw .notAnInteger

/-- Writes a value as one of the given kind. -/
def hostValue (kind : Kind) (v : Column.Value) : Write Unit :=
  match kind, v with
  | .uint8, v => hostWord .uint8 v
  | .int32, v => hostWord .int32 v
  | .uint32, v => hostWord .uint32 v
  | .bool, v => bool v.isTrue
  | .text, .text s => text s
  | .text, _ => throw .notText
  | .bytes, _ => throw .notBytes

end FrameChunks.Wire.Write
