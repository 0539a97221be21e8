import FrameChunks.Chunk.Basic
import FrameChunks.Column.Builder
import FrameChunks.Image.Frame

/-!
# Metadata columns

Besides the pixels, five attributes of every frame become columns of one element per row.

## Main definitions

* `Attribute`: the five attributes
* `Metadata`: something for every attribute
* `Metadata.builders`, `Metadata.columns`: empty builders, and their columns
-/

namespace FrameChunks

/-- The attributes of a frame that become columns. -/
inductive Attribute
  | height
  | width
  | encoding
  | bigEndian
  | step
  deriving DecidableEq, Repr

namespace Attribute

/-- The attributes in the order of their columns. -/
def all : List Attribute := [height, width, encoding, bigEndian, step]

/-- The name of the column of an attribute. -/
def name : Attribute → String
  | height => "height"
  | width => "width"
  | encoding => "encoding"
  | bigEndian => "is_bigendian"
  | step => "step"

/-- The type of the column of an attribute. -/
def type : Attribute → Column.DataType
  | encoding => .text
  | _ => .integer .uint32

/-- The value of an attribute; a truth value counts as zero or one. -/
def value (f : Image.Frame) : Attribute → Column.Value
  | height => .integer f.height
  | width => .integer f.width
  | encoding => .text f.encoding
  | bigEndian => .integer (if f.bigEndian then 1 else 0)
  | step => .integer f.step

/-- The archetype that the columns belong to. -/
def archetype : String := "sensor_msgs.msg.Image"

/-- Where the column of an attribute is filed. -/
def descriptor (a : Attribute) : Descriptor := ⟨a.name, some archetype⟩

end Attribute

/-- Something for every attribute. -/
structure Metadata (α : Type) where
  height : α
  width : α
  encoding : α
  bigEndian : α
  step : α

namespace Metadata

variable {α : Type}

/-- What there is for an attribute. -/
def get (m : Metadata α) : Attribute → α
  | .height => m.height
  | .width => m.width
  | .encoding => m.encoding
  | .bigEndian => m.bigEndian
  | .step => m.step

/-- Replaces what there is for an attribute. -/
def set (m : Metadata α) (a : Attribute) (x : α) : Metadata α :=
  match a with
  | .height => { m with height := x }
  | .width => { m with width := x }
  | .encoding => { m with encoding := x }
  | .bigEndian => { m with bigEndian := x }
  | .step => { m with step := x }

@[simp] theorem get_set (m : Metadata α) (a b : Attribute) (x : α) :
    (m.set a x).get b = if b = a then x else m.get b := by
  cases a <;> cases b <;> rfl

/-- An empty builder for every attribute. -/
def builders (capacity : Int) : Except BuilderError (Metadata Column.Builder) := do
  let create (a : Attribute) := Column.Builder.create a.type 1 capacity
  return ⟨← create .height, ← create .width, ← create .encoding, ← create .bigEndian, ← create .step⟩

/-- The columns of the builders, and the builders after it. A builder behind one that fails keeps its
rows. -/
def finishAll (m : Metadata Column.Builder) : List Attribute →
    Except Failure (List (Descriptor × Column)) × Metadata Column.Builder
  | [] => (.ok [], m)
  | a :: rest =>
    match (m.get a).finish with
    | (.error e, b) => (.error e, m.set a b)
    | (.ok column, b) =>
      match (m.set a b).finishAll rest with
      | (.error e, m) => (.error e, m)
      | (.ok columns, m) => (.ok ((a.descriptor, column) :: columns), m)

/-- The columns of all attributes, and the builders after it. -/
def finish (m : Metadata Column.Builder) : Except Failure Components × Metadata Column.Builder :=
  match m.finishAll Attribute.all with
  | (.error e, m) => (.error e, m)
  | (.ok columns, m) => (.ok (.ofList columns), m)

end Metadata

end FrameChunks
