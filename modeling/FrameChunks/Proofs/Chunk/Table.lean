import FrameChunks.Chunk.Table
import FrameChunks.Proofs.Chunk.Ids
import FrameChunks.Proofs.Chunk.Rectangular
import Mathlib.Data.List.Forall2

/-!
# What a table keeps of its chunk

In a table the row ids, the timelines and the components stand in one list of fields. The names of
the fields do not tell what they are: a timeline may be called like the row ids, and two descriptors
may have one qualified name. The metadata tells it, so a chunk can be read off its table. All that is
lost is how the cells of a column are stored.

## Main definitions

* `Column.content`: a column without the storage of its cells
* `Table.Agrees`: tables that are the same but for the order of their metadata
* `Chunk.SameContent`: chunks that are the same but for the storage of their columns

## Main results

* `Table.eq_of_componentMetadata_perm`: the metadata of a component tells its descriptor
* `Table.eq_of_forall₂_agrees`: the timelines and the components are told apart
* `Chunk.toTable?_of_rectangular`: a rectangular chunk has a table
* `Chunk.toTable?_faithful`: two tables agree exactly if their chunks have the same content
-/

namespace FrameChunks

/-- The type and the cells of a column, without the way in which they are stored. -/
def Column.content (c : Column) : Column.DataType × List Column.Cell := (c.type, c.cells)

/-! ## Fields and tables that agree -/

namespace Table

/-- Fields that are the same but for the order of their metadata. -/
structure Field.Agrees (f g : Field) : Prop where
  name : f.name = g.name
  type : f.type = g.type
  nullable : f.nullable = g.nullable
  metadata : f.metadata.Perm g.metadata
  values : f.values = g.values

theorem Field.Agrees.symm {f g : Field} (h : f.Agrees g) : g.Agrees f :=
  ⟨h.name.symm, h.type.symm, h.nullable.symm, h.metadata.symm, h.values.symm⟩

/-- Tables that are the same but for the order of their metadata. -/
structure Agrees (t u : Table) : Prop where
  metadata : t.metadata.Perm u.metadata
  fields : List.Forall₂ Field.Agrees t.fields u.fields

variable {d e : Descriptor} {m n : String} {column column' : Column} {times times' : List Int}

theorem mem_componentMetadata_component {s : String} :
    ("component", s) ∈ componentMetadata d ↔ s = d.component := by
  simp [componentMetadata]

theorem mem_componentMetadata_archetype {s : String} :
    ("archetype", s) ∈ componentMetadata d ↔ d.archetype = some s := by
  simp [componentMetadata]

/-- The metadata of a component tells its descriptor. An empty archetype has an entry, and a missing
one has none. -/
theorem eq_of_componentMetadata_perm (h : (componentMetadata d).Perm (componentMetadata e)) :
    d = e := by
  have hcomponent : d.component = e.component := by
    rw [← mem_componentMetadata_component, ← h.mem_iff, mem_componentMetadata_component]
  have harchetype : d.archetype = e.archetype := by
    ext s
    rw [← mem_componentMetadata_archetype, h.mem_iff, mem_componentMetadata_archetype]
  cases d
  cases e
  simp_all

theorem timelineField_agrees (h : (timelineField m times).Agrees (timelineField n times')) :
    m = n ∧ times = times' := by
  refine ⟨h.name, ?_⟩
  apply List.map_injective_iff.mpr _ h.values
  intro _ _ heq
  exact Column.Cell.time.inj heq

theorem componentField_agrees (h : (componentField d column).Agrees (componentField e column')) :
    d = e ∧ column.content = column'.content :=
  ⟨eq_of_componentMetadata_perm h.metadata, Prod.ext h.type h.values⟩

/-- A timeline is no component, whatever the two are called. -/
theorem not_timelineField_agrees :
    ¬ (timelineField m times).Agrees (componentField d column) := by
  intro h
  have hkind := h.metadata.mem_iff.mp (List.mem_singleton_self ("kind", "timeline"))
  simp [componentField, Field.ofColumn, componentMetadata] at hkind

/-- The fields tell where the timelines end, and what they and the components are. -/
theorem eq_of_forall₂_agrees {ts us : List (String × List Int)} {cs ds : List (Descriptor × Column)}
    (h : List.Forall₂ Field.Agrees
      ((ts.map fun e => timelineField e.1 e.2) ++ cs.map fun e => componentField e.1 e.2)
      ((us.map fun e => timelineField e.1 e.2) ++ ds.map fun e => componentField e.1 e.2)) :
    ts = us ∧
      (cs.map fun e => (e.1, e.2.content)) = ds.map fun e => (e.1, e.2.content) := by
  induction ts generalizing us with
  | nil =>
    cases us with
    | nil =>
      refine ⟨rfl, ?_⟩
      rw [← List.forall₂_eq_eq_eq]
      simp only [List.map_nil, List.nil_append, List.forall₂_map_left_iff,
        List.forall₂_map_right_iff] at h ⊢
      apply h.imp
      intro _ _ hagrees
      exact Prod.ext_iff.mpr (componentField_agrees hagrees)
    | cons u us =>
      cases cs with
      | nil => cases h
      | cons c cs =>
        cases h with
        | cons hhead _ => exact absurd hhead.symm not_timelineField_agrees
  | cons t ts ih =>
    cases us with
    | nil =>
      cases ds with
      | nil => cases h
      | cons d ds =>
        cases h with
        | cons hhead _ => exact absurd hhead not_timelineField_agrees
    | cons u us =>
      cases h with
      | cons hhead hrest =>
        obtain ⟨rfl, hcontent⟩ := ih hrest
        exact ⟨by rw [Prod.ext (timelineField_agrees hhead).1 (timelineField_agrees hhead).2],
          hcontent⟩

theorem rowIdField_agrees {rowIds rowIds' : List Nat}
    (h : (rowIdField rowIds).Agrees (rowIdField rowIds')) : rowIds = rowIds' := by
  have hvalues := h.values
  simp only [rowIdField, Field.ofColumn, Column.ofIntegers, List.map_map] at hvalues
  apply List.map_injective_iff.mpr _ hvalues
  intro i j heq
  exact Int.ofNat.inj (Column.Scalar.integer.inj (Column.Cell.scalar.inj heq))

end Table

/-! ## Tables and their chunks -/

namespace Chunk

/-- Chunks that are the same but for the way in which the cells of their columns are stored. -/
structure SameContent (c d : Chunk) : Prop where
  id : c.id = d.id
  entityPath : c.entityPath = d.entityPath
  rowIds : c.rowIds = d.rowIds
  timelines : c.timelines = d.timelines
  components : c.components.mapValues Column.content = d.components.mapValues Column.content

variable {c d : Chunk}

/-- All fields of a rectangular chunk have one length. -/
theorem toTable?_of_rectangular (h : c.Rectangular) : c.toTable? =
    some ⟨[("entity_path", c.entityPath), ("chunk_id", c.id.text)], c.fields⟩ := by
  apply if_pos
  intro f hf
  rw [fields, List.mem_cons, List.mem_append, List.mem_map, List.mem_map] at hf
  rcases hf with rfl | ⟨e, he, rfl⟩ | ⟨e, he, rfl⟩
  · simp [Table.rowIdField, Table.Field.ofColumn, Column.ofIntegers, length]
  · simpa [Table.timelineField, Table.Field.ofColumn, Column.ofTimes, length] using h.times e he
  · exact h.columns e he

theorem fields_eq_of_sameContent (h : c.SameContent d) : c.fields = d.fields := by
  -- The field of a component is made of its descriptor and the content of its column.
  have hcomponents := congrArg
    (fun t => t.entries.map fun e => Table.Field.mk e.1.qualifiedName e.2.1 true
      (Table.componentMetadata e.1) e.2.2) h.components
  simp only [Keyed.mapValues, List.map_map] at hcomponents
  rw [fields, fields, h.rowIds, h.timelines]
  exact congrArg (fun fs => _ :: (_ ++ fs)) hcomponents

/-- The path and the id of a chunk stand in the metadata of its table, and all else in the fields. -/
theorem sameContent_of_agrees (hc : c.id.Fits) (hd : d.id.Fits)
    (hmetadata : List.Perm [("entity_path", c.entityPath), ("chunk_id", c.id.text)]
      [("entity_path", d.entityPath), ("chunk_id", d.id.text)])
    (hfields : List.Forall₂ Table.Field.Agrees c.fields d.fields) : c.SameContent d := by
  have hpath := hmetadata.mem_iff.mp (List.mem_cons_self (a := ("entity_path", c.entityPath)))
  have htext := hmetadata.mem_iff.mp
    (List.mem_cons_of_mem _ (List.mem_singleton_self ("chunk_id", c.id.text)))
  simp only [List.mem_cons, Prod.mk.injEq, List.not_mem_nil, or_false] at hpath htext
  rw [fields, fields, List.forall₂_cons] at hfields
  obtain ⟨htimelines, hcomponents⟩ := Table.eq_of_forall₂_agrees hfields.2
  refine ⟨?_, ?_, Table.rowIdField_agrees hfields.1, Keyed.ext htimelines, Keyed.ext hcomponents⟩
  · apply (ChunkId.text_inj hc hd).mp
    simpa using htext
  · simpa using hpath

/-- Two rectangular chunks whose ids fit have tables. If the tables agree, in whatever order their
metadata is, the chunks have the same content; and chunks of the same content have the same table. -/
theorem toTable?_faithful (c d : Chunk) (hc : c.Rectangular) (hd : d.Rectangular)
    (hcid : c.id.Fits) (hdid : d.id.Fits) :
    ∃ t u, c.toTable? = some t ∧ d.toTable? = some u ∧
      (t.Agrees u → c.SameContent d) ∧ (c.SameContent d → t = u) := by
  refine ⟨_, _, toTable?_of_rectangular hc, toTable?_of_rectangular hd, ?_, ?_⟩
  · intro h
    exact sameContent_of_agrees hcid hdid h.metadata h.fields
  · intro h
    rw [h.entityPath, h.id, fields_eq_of_sameContent h]

/-- A chunk whose only component has the given descriptor, and whose timeline is called like the row
ids. -/
def misleadingChunk (d : Descriptor) : Chunk :=
  ⟨⟨9, 2 ^ 64 - 1⟩, "/cam", [0, 1], .ofList [("row_id", [5, 6])],
    .ofList [(d, .ofIntegers .int64 [5, 6])]⟩

theorem rectangular_misleadingChunk (d : Descriptor) : (misleadingChunk d).Rectangular := by
  constructor
  · simp [misleadingChunk, Keyed.ofList, Keyed.insert, Keyed.keys, Keyed.empty]
  · simp [misleadingChunk, Keyed.ofList, Keyed.insert, Keyed.keys, Keyed.empty]

/-- A component without archetype and one of an empty archetype have one name, and their tables do
not agree. -/
theorem toTable?_faithful_emptyArchetype : ∃ t u,
    (misleadingChunk ⟨":b", none⟩).toTable? = some t ∧
    (misleadingChunk ⟨"b", some ""⟩).toTable? = some u ∧
    t.fields.map Table.Field.name = u.fields.map Table.Field.name ∧ ¬ t.Agrees u := by
  have hc := rectangular_misleadingChunk ⟨":b", none⟩
  have hd := rectangular_misleadingChunk ⟨"b", some ""⟩
  have hid : (⟨9, 2 ^ 64 - 1⟩ : ChunkId).Fits := ⟨by decide, by decide⟩
  obtain ⟨t, u, ht, hu, hsame, -⟩ := toTable?_faithful _ _ hc hd hid hid
  obtain rfl := Option.some.inj ((toTable?_of_rectangular hc).symm.trans ht)
  obtain rfl := Option.some.inj ((toTable?_of_rectangular hd).symm.trans hu)
  refine ⟨_, _, ht, hu, rfl, ?_⟩
  intro h
  have hkeys := congrArg Keyed.keys (hsame h).components
  simp only [Keyed.keys_mapValues] at hkeys
  exact absurd hkeys (by decide)

end Chunk

end FrameChunks
