import FrameChunks.Column.Type
import FrameChunks.Image.Format
import FrameChunks.Wire.ByteOrder

/-!
# Columns

A column has a type and one cell per row.

## Main definitions

* `Scalar`: an element of a column
* `Cell`: what stands in one row
* `Column`: a type and the cells
-/

namespace FrameChunks

namespace Column

/-- An element of a column. -/
inductive Scalar
  | integer (n : Int)
  | float (x : Binary)
  | text (s : String)
  deriving DecidableEq, Repr

/-- What stands in one row. -/
inductive Cell
  | scalar (value : Scalar)
  | list (items : List Scalar)
  | blob (bytes : Bytes)
  | format (format : Image.Format)
  | time (nanos : Int)
  deriving DecidableEq, Repr

end Column

/-- A column of a chunk. -/
structure Column where
  type : Column.DataType
  /-- One cell per row. -/
  cells : List Column.Cell
  /-- Whether every row has a storage of its own. -/
  rowwise : Bool := false
  deriving DecidableEq, Repr

namespace Column

/-- The number of rows. -/
def length (c : Column) : Nat := c.cells.length

/-- The number of storages of a column that is stored row by row. -/
def pieces? (c : Column) : Option Nat := if c.rowwise then some c.length else none

/-- A column of integers. -/
def ofIntegers (type : IntegerType) (ns : List Int) : Column :=
  ⟨.integer type, ns.map fun n => .scalar (.integer n), false⟩

/-- A column of texts. -/
def ofTexts (texts : List String) : Column :=
  ⟨.text, texts.map fun s => .scalar (.text s), false⟩

/-- A column of blobs in one storage. -/
def ofBlobs (blobs : List Bytes) : Column := ⟨.blob, blobs.map .blob, false⟩

/-- A column of blobs, each in a storage of its own. -/
def ofBuffers (blobs : List Bytes) : Column := ⟨.blob, blobs.map .blob, true⟩

/-- A column of pixel formats. -/
def ofFormats (formats : List Image.Format) : Column := ⟨.imageFormat, formats.map .format, false⟩

/-- A column of times. -/
def ofTimes (times : List Int) : Column := ⟨.time, times.map .time, false⟩

@[simp] theorem length_ofIntegers (type : IntegerType) (ns : List Int) :
    (ofIntegers type ns).length = ns.length := by simp [ofIntegers, length]

@[simp] theorem length_ofTexts (texts : List String) : (ofTexts texts).length = texts.length := by
  simp [ofTexts, length]

@[simp] theorem length_ofBlobs (blobs : List Bytes) : (ofBlobs blobs).length = blobs.length := by
  simp [ofBlobs, length]

@[simp] theorem length_ofBuffers (blobs : List Bytes) : (ofBuffers blobs).length = blobs.length := by
  simp [ofBuffers, length]

@[simp] theorem length_ofFormats (formats : List Image.Format) :
    (ofFormats formats).length = formats.length := by simp [ofFormats, length]

@[simp] theorem length_ofTimes (times : List Int) : (ofTimes times).length = times.length := by
  simp [ofTimes, length]

end Column

end FrameChunks
