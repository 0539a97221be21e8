import FrameChunks.Chunk.Descriptor
import FrameChunks.Column.Basic
import FrameChunks.Error
import FrameChunks.Keyed

/-!
# Image archetypes

Images and depth images have the same two columns: the pixels and the pixel formats. The archetype
tells which of the two the rows are.

## Main definitions

* `Archetype`: image or depth image
* `Archetype.columns`: the two columns of an archetype
-/

namespace FrameChunks

/-- What the rows of an image column are. -/
inductive Archetype
  | image
  | depthImage
  deriving DecidableEq, Repr

namespace Archetype

/-- Both archetypes. -/
def all : List Archetype := [image, depthImage]

/-- The name of an archetype. -/
def name : Archetype → String
  | image => "Image"
  | depthImage => "DepthImage"

/-- Where the pixels are filed. -/
def buffer (a : Archetype) : Descriptor := ⟨"buffer", some a.name⟩

/-- Where the pixel formats are filed. -/
def format (a : Archetype) : Descriptor := ⟨"format", some a.name⟩

/-- Checks that a width or height fits the column. Beyond 64 bits it is no machine number at all. -/
def checkSize (a : Archetype) (n : Nat) : Except Failure Unit :=
  if n < 0x100000000 then .ok ()
  else if n < 0x10000000000000000 then .error (.plugin (.batch (.sizeTooLarge a.name n)))
  else .error .overflow

/-- Checks the sizes of formats in order, of each the width first. -/
def checkFormats (a : Archetype) : List Image.Format → Except Failure Unit
  | [] => .ok ()
  | f :: rest => do
    a.checkSize f.width
    a.checkSize f.height
    a.checkFormats rest

/-- The columns of the given pixels and pixel formats. -/
def columns (a : Archetype) (blobs : List Bytes) (formats : List Image.Format) :
    Except Failure (Keyed Descriptor Column) := do
  if blobs.length ≠ formats.length then
    throw (.plugin (.batch (.countMismatch a.name blobs.length formats.length)))
  a.checkFormats formats
  return .ofList [(a.buffer, .ofBuffers blobs), (a.format, .ofFormats formats)]

end Archetype

end FrameChunks
