import FrameChunks.Chunk.Basic

/-!
# Tables

A table is a chunk laid flat: the row ids, the timelines and the components become fields in one
list, and what a field was stands in its metadata. All fields of a table have the same length; a chunk
in which two components with one qualified name differ in length has no table.

## Main definitions

* `Table.Field`, `Table`: flat columns
* `Chunk.fields`: the fields of a chunk
* `Chunk.toTable?`: the table of a chunk
-/

namespace FrameChunks

/-- A column of a table. -/
structure Table.Field where
  name : String
  type : Column.DataType
  /-- Whether rows may be missing. -/
  nullable : Bool
  metadata : List (String × String)
  values : List Column.Cell
  deriving DecidableEq, Repr

/-- A list of columns with metadata. -/
structure Table where
  metadata : List (String × String)
  fields : List Table.Field
  deriving DecidableEq, Repr

namespace Table

/-- The field of a column. -/
def Field.ofColumn (name : String) (nullable : Bool) (metadata : List (String × String))
    (column : Column) : Field :=
  ⟨name, column.type, nullable, metadata, column.cells⟩

/-- The field of the row ids. -/
def rowIdField (rowIds : List Nat) : Field :=
  .ofColumn "row_id" false [] (.ofIntegers .uint64 (rowIds.map Int.ofNat))

/-- The field of a timeline. -/
def timelineField (name : String) (times : List Int) : Field :=
  .ofColumn name true [("kind", "timeline")] (.ofTimes times)

/-- The metadata of a component. -/
def componentMetadata (d : Descriptor) : List (String × String) :=
  [("kind", "component"), ("component", d.component)] ++
    (d.archetype.map fun archetype => ("archetype", archetype)).toList

/-- The field of a component. -/
def componentField (d : Descriptor) (column : Column) : Field :=
  .ofColumn d.qualifiedName true (componentMetadata d) column

end Table

/-- The fields of a chunk: row ids, timelines, components. -/
def Chunk.fields (c : Chunk) : List Table.Field :=
  Table.rowIdField c.rowIds ::
    ((c.timelines.entries.map fun e => Table.timelineField e.1 e.2) ++
      c.components.entries.map fun e => Table.componentField e.1 e.2)

/-- The table of a chunk; nothing if its fields differ in length. -/
def Chunk.toTable? (c : Chunk) : Option Table :=
  if ∀ f ∈ c.fields, f.values.length = c.length then
    some ⟨[("entity_path", c.entityPath), ("chunk_id", c.id.text)], c.fields⟩
  else none

end FrameChunks
