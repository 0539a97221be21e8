import FrameChunks.Chunk.Descriptor
import FrameChunks.Column.Basic
import FrameChunks.Timeline

/-!
# Chunks

A chunk is a batch of rows of one entity: row ids, timelines and component columns, all of the same
length.

The lengths are compared under labels. Components whose qualified names agree have one label, and
under it the length of the last one counts.

## Main definitions

* `Chunk`: a finished batch
* `Chunk.rowCount`: the common length of timelines and columns
* `Chunk.build`: a chunk with fresh row ids
* `Chunk.get?`, `Chunk.find?`: a column by its descriptor or by a name
-/

namespace FrameChunks

open Text

/-- The component columns of a chunk. -/
abbrev Components := Keyed Descriptor Column

/-- A batch of rows of one entity. -/
structure Chunk where
  id : ChunkId
  /-- Where the chunk is filed. -/
  entityPath : String
  /-- The ids of the rows. -/
  rowIds : List Nat
  timelines : Timelines
  components : Components

namespace Chunk

/-- The label of a timeline in a message about lengths. -/
def timelineLabel (name : String) : String := "timeline " ++ quoted name

/-- The label of a component in a message about lengths. -/
def componentLabel (d : Descriptor) : String := "component " ++ quoted d.qualifiedName

/-- The lengths of timelines and columns, under their labels. -/
def lengths (timelines : Timelines) (components : Components) : Keyed String Nat :=
  .ofList ((timelines.entries.map fun e => (timelineLabel e.1, e.2.length)) ++
    components.entries.map fun e => (componentLabel e.1, e.2.length))

/-- The number that all members of a list are; zero for the empty list. -/
def common? : List Nat → Option Nat
  | [] => some 0
  | n :: rest => if ∀ m ∈ rest, m = n then some n else none

/-- The common length of timelines and columns. -/
def rowCount (entityPath : String) (timelines : Timelines) (components : Components) :
    Except BatchError Nat :=
  match common? (lengths timelines components).values with
  | some n => .ok n
  | none => .error (.lengthMismatch entityPath (lengths timelines components).entries)

/-- The chunk of the given timelines and columns with the next row ids. No row id is taken if the
lengths differ. -/
def build (s : Session) (id : ChunkId) (entityPath : String) (timelines : Timelines)
    (components : Components) : Except BatchError (Chunk × Session) := do
  let rows ← rowCount entityPath timelines components
  let (rowIds, s) := s.reserveRows rows
  return (⟨id, entityPath, rowIds, timelines, components⟩, s)

/-- The number of rows. -/
def length (c : Chunk) : Nat := c.rowIds.length

/-- The column of a descriptor. -/
def get? (c : Chunk) (d : Descriptor) : Option Column := c.components.get? d

/-- Whether a descriptor goes by a name: its qualified name or its bare one. -/
def answersTo (d : Descriptor) (name : String) : Bool :=
  name = d.qualifiedName || name = d.component

/-- The first column that goes by a name. -/
def find? (c : Chunk) (name : String) : Option Column :=
  (c.components.entries.find? fun e => answersTo e.1 name).map Prod.snd

/-- The chunk for a reader of log messages. -/
def describe (c : Chunk) : String :=
  s!"Chunk(id={c.id.text}, entity_path={quoted c.entityPath}, rows={c.length}, " ++
    s!"timelines={quotedList c.timelines.keys}, " ++
    s!"components={quotedList (c.components.keys.map Descriptor.qualifiedName)})"

end Chunk

end FrameChunks
