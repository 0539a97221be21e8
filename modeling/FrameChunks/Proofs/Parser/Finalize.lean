import FrameChunks.Proofs.Chunk.Rectangular
import FrameChunks.Proofs.Image.RoundTrip
import FrameChunks.Proofs.Parser.Run

/-!
# What a parser makes of its rows

A parser that holds rows turns them into two chunks if every time of the context fits 64 bits and
every timeline has as many times as there are rows. The chunks are the reference result for the
rows.

## Main definitions

* `Archetype.ofRows`, `imageColumns`, `metadataColumns`: the reference result
* `IdSource.draw`: the next chunk id of a parser
* `Parser.Finalizes`: all that finalizing can come to

## Main results

* `Parser.finalize_of_agree`: the chunks, if the timelines are as long as the rows
* `Parser.finalize_of_not_fits`, `Parser.finalize_of_not_agree`: what happens otherwise
* `Parser.Stores.finalizes`: there is nothing else
* `Parser.finalize_output`: the chunks of a parser are the reference result of its run
-/

namespace FrameChunks

open Image Steps Wire

/-! ## The reference result -/

/-- What the rows are filed as: depth images if the last one has no colour model. -/
def Archetype.ofRows (rows : List Row) : Archetype :=
  if lastIsDepth rows then .depthImage else .image

/-- The element of an attribute; a truth value is zero or one. -/
def Attribute.scalar (f : Frame) : Attribute → Column.Scalar
  | height => .integer f.height
  | width => .integer f.width
  | encoding => .text f.encoding
  | bigEndian => .integer (if f.bigEndian then 1 else 0)
  | step => .integer f.step

/-- The column of an attribute: in every row a list of one element. -/
def Attribute.column (rows : List Row) (a : Attribute) : Column :=
  ⟨.list a.element 1, rows.map fun r => .list [a.scalar r.frame], false⟩

/-- The pixels and the pixel formats of the rows. -/
def imageColumns (rows : List Row) : List (Descriptor × Column) :=
  [((Archetype.ofRows rows).buffer, .ofBuffers (rows.map fun r => r.frame.data)),
    ((Archetype.ofRows rows).format, .ofFormats (rows.map Row.format))]

/-- The attributes of the rows. -/
def metadataColumns (rows : List Row) : List (Descriptor × Column) :=
  Attribute.all.map fun a => (a.descriptor, a.column rows)

section Columns

variable {rows : List Row} {n : Nat}

theorem entries_imageColumns (rows : List Row) :
    (Keyed.ofList (imageColumns rows)).entries = imageColumns rows := by
  refine Keyed.entries_ofList ?_
  rcases h : Archetype.ofRows rows <;> simp only [imageColumns, List.map, h] <;> decide

theorem entries_metadataColumns (rows : List Row) :
    (Keyed.ofList (metadataColumns rows)).entries = metadataColumns rows := by
  refine Keyed.entries_ofList ?_
  show (Attribute.all.map Attribute.descriptor).Nodup
  decide

theorem length_imageColumns : ∀ e ∈ imageColumns rows, e.2.length = rows.length := by
  simp [imageColumns]

theorem length_metadataColumns : ∀ e ∈ metadataColumns rows, e.2.length = rows.length := by
  simp [metadataColumns, Attribute.column, Column.length]

end Columns

/-! ## The steps of finalizing -/

theorem size_of_sized {width height : Int} {layout : Layout} {f : Format}
    (h : Format.sized width height (.ok layout) = .ok f) :
    f.width = width.toNat ∧ f.height = height.toNat := by
  unfold Format.sized at h
  split at h
  · nomatch h
  · obtain rfl := Except.ok.inj h
    exact ⟨rfl, rfl⟩

theorem size_of_resolve {encoding : String} {width height : Int} {f : Format}
    (h : resolve encoding width height = .ok f) :
    f.width = width.toNat ∧ f.height = height.toNat := by
  unfold resolve at h
  split at h
  · nomatch h
  · next layout _ =>
    rcases hf : Format.sized width height (.ok layout) with e | g
    · rw [hf] at h
      nomatch h
    · rw [hf] at h
      obtain rfl := Except.ok.inj h
      exact size_of_sized hf

theorem Row.Valid.format_lt {r : Row} (h : r.Valid) :
    r.format.width < 2 ^ 32 ∧ r.format.height < 2 ^ 32 := by
  obtain ⟨hw, hh⟩ := size_of_resolve h.resolved
  obtain ⟨⟨-, hh₁⟩, ⟨-, hw₁⟩, -⟩ := h.sized
  rw [hw, hh]
  constructor
  · exact (Int.toNat_lt_of_ne_zero (by decide)).mpr hw₁
  · exact (Int.toNat_lt_of_ne_zero (by decide)).mpr hh₁

theorem Archetype.checkSize_of_lt {a : Archetype} {n : Nat} (h : n < 2 ^ 32) :
    a.checkSize n = .ok () := if_pos h

theorem Archetype.checkFormats_eq {rows : List Row} (hv : ∀ r ∈ rows, r.Valid) (a : Archetype) :
    a.checkFormats (rows.map Row.format) = .ok () := by
  induction rows with
  | nil => rfl
  | cons r rest ih =>
    obtain ⟨hr, hrest⟩ := List.forall_mem_cons.mp hv
    obtain ⟨hw, hh⟩ := hr.format_lt
    rw [List.map_cons, checkFormats, checkSize_of_lt hw, checkSize_of_lt hh]
    exact ih hrest

/-- The columns of the pixels and the formats of valid rows. -/
theorem Archetype.columns_eq {rows : List Row} (hv : ∀ r ∈ rows, r.Valid) :
    (Archetype.ofRows rows).columns (rows.map fun r => r.frame.data) (rows.map Row.format) =
      .ok (.ofList (imageColumns rows)) := by
  have hn : ¬ (rows.map fun r => r.frame.data).length ≠ (rows.map Row.format).length := by
    rw [List.length_map, List.length_map, not_not]
  rw [columns, if_neg hn, checkFormats_eq hv]
  rfl

namespace Metadata

variable {m : Metadata Column.Builder} {rows : List Row}

/-- The builders without their rows. -/
def cleared (m : Metadata Column.Builder) : Metadata Column.Builder :=
  Attribute.all.foldl (fun m a => m.set a (m.get a).clear) m

theorem convert_value (f : Frame) (a : Attribute) :
    Column.Builder.convert a.element (a.value f) = .ok (a.scalar f) := by
  cases a <;> rfl

theorem mapM_convert (rows : List Row) (a : Attribute) :
    (rows.map fun r => a.value r.frame).mapM (Column.Builder.convert a.element) =
      .ok (rows.map fun r => a.scalar r.frame) := by
  induction rows with
  | nil => rfl
  | cons r rest ih =>
    rw [List.map_cons, List.mapM_cons, convert_value, ih]
    rfl

/-- The column of a builder that holds an attribute of the rows. -/
theorem column_get (ht : m.Typed) {a : Attribute}
    (hv : (m.get a).values.toList = rows.map fun r => a.value r.frame) :
    (m.get a).column = .ok (a.column rows) := by
  have hc := Column.Builder.column_of_convert (b := m.get a) (ht a).2
    (by rw [hv, (ht a).1, mapM_convert])
  rw [hc, (ht a).1, List.map_map]
  rfl

/-- The columns of builders that have one each. -/
theorem finishAll_eq {attributes : List Attribute} (hn : attributes.Nodup)
    (hc : ∀ a ∈ attributes, (m.get a).column = .ok (a.column rows)) :
    m.finishAll attributes = (.ok (attributes.map fun a => (a.descriptor, a.column rows)),
      attributes.foldl (fun m a => m.set a (m.get a).clear) m) := by
  induction attributes generalizing m with
  | nil => rfl
  | cons a rest ih =>
    obtain ⟨ha, hrest⟩ := List.nodup_cons.mp hn
    have hfin : (m.get a).finish = (.ok (a.column rows), (m.get a).clear) := by
      rw [Column.Builder.finish, hc a List.mem_cons_self]
    have hnext : ∀ b ∈ rest, ((m.set a (m.get a).clear).get b).column = .ok (b.column rows) := by
      intro b hb
      -- Taking the column of `a` clears no other builder.
      have hne : b ≠ a := by
        rintro rfl
        exact ha hb
      rw [get_set, if_neg hne]
      exact hc b (List.mem_cons_of_mem a hb)
    rw [finishAll, hfin]
    simp only
    rw [ih hrest hnext]
    rfl

theorem finish_eq (ht : m.Typed)
    (hv : ∀ a : Attribute, (m.get a).values.toList = rows.map fun r => a.value r.frame) :
    m.finish = (.ok (.ofList (metadataColumns rows)), m.cleared) := by
  have hn : Attribute.all.Nodup := by decide
  rw [finish, finishAll_eq hn fun a _ => column_get ht (hv a)]
  rfl

end Metadata

/-- The next chunk id of a parser, where the ids come from afterwards, and the counter of the
session afterwards. -/
def IdSource.draw (ids : IdSource) (counter : ChunkId.Counter) (clock : Int) :
    ChunkId × IdSource × ChunkId.Counter :=
  match ids with
  | .given (id :: rest) => (id, .given rest, counter)
  | ids => ((counter.fresh clock).1, ids, (counter.fresh clock).2)

/-- The source of chunk ids after one was taken. It goes on in the same way whatever the session
gives. -/
def IdSource.rest : IdSource → IdSource
  | .given (_ :: ids) => .given ids
  | ids => ids

theorem IdSource.draw_eq (ids : IdSource) (counter : ChunkId.Counter) (clock : Int) :
    ids.draw counter clock =
      ((ids.draw counter clock).1, ids.rest, (ids.draw counter clock).2.2) := by
  rcases ids with _ | _ | ⟨id, rest⟩ <;> rfl

namespace Step

variable {s : Feed}

theorem freshId_of_draw {id : ChunkId} {ids : IdSource} {counter : ChunkId.Counter}
    (h : s.parser.ids.draw s.session.counter s.session.clock = (id, ids, counter)) :
    freshId s = .ok id { s with
      parser := { s.parser with ids }
      session := { s.session with counter } } := by
  obtain ⟨⟨timeline, logEvery, ids₀, lifecycle, isDepth, blobs, formats, metadata⟩, context,
    session⟩ := s
  rcases ids₀ with _ | _ | ⟨id₀, rest⟩ <;> cases h <;> rfl

theorem note_eq (level : Log.Level) (source : Log.Source) (text : String) (s : Feed) :
    note level source text s =
      .ok () { s with session := s.session.note level source text } := rfl

end Step

/-! ## Finalizing -/

namespace Parser

section Steps

variable {s : Feed}

theorem takeImages_eq (s : Feed) : takeImages s = .ok (s.parser.blobs, s.parser.formats)
    { s with parser := { s.parser with blobs := [], formats := [] } } := rfl

theorem finishTimelines_of_fits (h : s.context.Fits) :
    ∃ t, s.session.Noted t ∧
      finishTimelines s = .ok s.context.cells { s with session := t } := by
  refine ⟨_, Session.noted_note s.session .debug .timelines s.context.summary, ?_⟩
  rw [finishTimelines, bind_of_ok (Step.get_eq s), Context.buildTimelines, Context.timelines,
    if_pos h]
  rfl

theorem finishTimelines_of_not_fits (h : ¬ s.context.Fits) :
    finishTimelines s = .error .overflow s := by
  rw [finishTimelines, bind_of_ok (Step.get_eq s), Context.buildTimelines, Context.timelines,
    if_neg h]
  rfl

theorem takeMetadata_eq {rows : List Row} (ht : s.parser.metadata.Typed)
    (hv : ∀ a : Attribute,
      (s.parser.metadata.get a).values.toList = rows.map fun r => a.value r.frame) :
    takeMetadata s = .ok (.ofList (metadataColumns rows))
      { s with parser := { s.parser with metadata := s.parser.metadata.cleared } } := by
  rw [takeMetadata, bind_of_ok (Step.get_eq s), Metadata.finish_eq ht hv]
  rfl

end Steps

variable {p : Parser} {rows : List Row} {c : Context}

theorem Stores.archetype (hp : p.Stores rows) : p.archetype = Archetype.ofRows rows := by
  rw [Parser.archetype, Archetype.ofRows, hp.isDepth]

theorem agree_imageColumns {n : Nat} : Chunk.Agree c.cells (.ofList (imageColumns rows)) n ↔
    n = rows.length ∧ ∀ e ∈ c.cells.entries, e.2.length = rows.length := by
  refine Chunk.agree_iff ?_ ?_ <;> rw [entries_imageColumns]
  · exact List.cons_ne_nil _ _
  · exact length_imageColumns

theorem agree_metadataColumns {n : Nat} : Chunk.Agree c.cells (.ofList (metadataColumns rows)) n ↔
    n = rows.length ∧ ∀ e ∈ c.cells.entries, e.2.length = rows.length := by
  refine Chunk.agree_iff ?_ ?_ <;> rw [entries_metadataColumns]
  · exact List.cons_ne_nil _ _
  · exact length_metadataColumns

/-- The parser after the pixels and the formats were taken out of it. -/
def emptied (p : Parser) : Parser := { p with lifecycle := .finalized, blobs := [], formats := [] }

theorem finalize_of_finalized (hp : p.lifecycle = .finalized) (c : Context) (s : Session) :
    finalize ⟨p, c, s⟩ = .error (.plugin (.parserState (.finalized .finalize))) ⟨p, c, s⟩ :=
  bind_of_error (Step.requireAccumulating_of_finalized .finalize hp)

/-- A parser cannot be finalized if a time of the context does not fit 64 bits. -/
theorem finalize_of_not_fits (hp : p.Stores rows) (hc : ¬ c.Fits) (s : Session) :
    finalize ⟨p, c, s⟩ = .error .overflow ⟨p.emptied, c, s⟩ := by
  have hstart := Step.requireAccumulating_of_accumulating (s := ⟨p, c, s⟩) .finalize
    hp.ready.lifecycle
  have htimes : finishTimelines ⟨p.emptied, c, s⟩ = .error .overflow ⟨p.emptied, c, s⟩ :=
    finishTimelines_of_not_fits hc
  refine (bind_of_ok hstart).trans ?_
  refine (bind_of_ok rfl).trans ?_
  refine (bind_of_ok (takeImages_eq _)).trans ?_
  exact bind_of_error htimes

/-- What finalizing does after the chunk of the images. -/
def finalizeMetadata (archetype : Archetype) (timelines : Timelines) (imageChunk : Chunk) :
    Step (List Chunk) := do
  let metadataId ← Step.freshId
  let metadata ← takeMetadata
  let metadataChunk ← Step.buildChunk metadataId timelines metadata
  Step.note .info .imagePlugin
    s!"Finalized {imageChunk.entityPath}: {imageChunk.length} rows as {archetype.name}"
  return [imageChunk, metadataChunk]

section Draw

variable {s : Session} {id id' : ChunkId} {ids ids' : IdSource} {counter counter' : ChunkId.Counter}

/-- If all times fit 64 bits, the chunk of the images is built with the first chunk id. -/
theorem finalize_of_fits (hp : p.Stores rows) (hc : c.Fits)
    (hid : p.ids.draw s.counter s.clock = (id, ids, counter)) :
    ∃ notes, finalize ⟨p, c, s⟩ =
      (Step.buildChunk id c.cells (.ofList (imageColumns rows)) >>=
        finalizeMetadata p.archetype c.cells)
      ⟨{ p.emptied with ids }, c, ⟨s.nextRow, counter, s.clock, s.notes ++ notes⟩⟩ := by
  have hstart := Step.requireAccumulating_of_accumulating (s := ⟨p, c, s⟩) .finalize
    hp.ready.lifecycle
  obtain ⟨_, ⟨notes, rfl⟩, htimes⟩ := finishTimelines_of_fits (s := ⟨p.emptied, c, s⟩) hc
  have himages (t : Feed) : (ofExcept (p.archetype.columns p.blobs p.formats) : Step Components) t =
      .ok (.ofList (imageColumns rows)) t := by
    rw [hp.archetype, hp.blobs, hp.formats, Archetype.columns_eq hp.valid]
    rfl
  refine ⟨notes, ?_⟩
  refine (bind_of_ok hstart).trans ?_
  refine (bind_of_ok rfl).trans ?_
  refine (bind_of_ok (takeImages_eq _)).trans ?_
  refine (bind_of_ok htimes).trans ?_
  refine (bind_of_ok rfl).trans ?_
  refine (bind_of_ok (Step.freshId_of_draw hid)).trans ?_
  refine (bind_of_ok (himages _)).trans ?_
  rfl

/-- The chunks, if all times fit 64 bits and every timeline is as long as the rows. The parser is
left without rows. -/
theorem finalize_of_agree (hp : p.Stores rows) (hc : c.Fits)
    (hl : ∀ e ∈ c.cells.entries, e.2.length = rows.length)
    (hid : p.ids.draw s.counter s.clock = (id, ids, counter))
    (hid' : ids.draw counter s.clock = (id', ids', counter')) :
    ∃ notes, finalize ⟨p, c, s⟩ = .ok
      [⟨id, c.entityPath, List.range' s.nextRow rows.length, c.cells, .ofList (imageColumns rows)⟩,
        ⟨id', c.entityPath, List.range' (s.nextRow + rows.length) rows.length, c.cells,
          .ofList (metadataColumns rows)⟩]
      ⟨{ p.emptied with ids := ids', metadata := p.metadata.cleared }, c,
        ⟨s.nextRow + rows.length + rows.length, counter', s.clock, s.notes ++ notes⟩⟩ := by
  obtain ⟨notes, hfinalize⟩ := finalize_of_fits hp hc hid
  have hchunk := Step.buildChunk_of_agree id (agree_imageColumns.mpr ⟨rfl, hl⟩)
    (s := ⟨{ p.emptied with ids }, c, ⟨s.nextRow, counter, s.clock, s.notes ++ notes⟩⟩)
  have htake := takeMetadata_eq hp.ready.typed hp.values (s := ⟨{ p.emptied with ids := ids' }, c,
    ⟨s.nextRow + rows.length, counter', s.clock, s.notes ++ notes⟩⟩)
  have hchunk' := Step.buildChunk_of_agree id' (agree_metadataColumns.mpr ⟨rfl, hl⟩)
    (s := ⟨{ p.emptied with ids := ids', metadata := p.metadata.cleared }, c,
      ⟨s.nextRow + rows.length, counter', s.clock, s.notes ++ notes⟩⟩)
  refine ⟨notes ++ [?note], hfinalize.trans ?chunks⟩
  case chunks =>
    refine (bind_of_ok hchunk).trans ?_
    refine (bind_of_ok (Step.freshId_of_draw hid')).trans ?_
    refine (bind_of_ok htake).trans ?_
    refine (bind_of_ok hchunk').trans ?_
    refine (bind_of_ok (Step.note_eq ..)).trans ?_
    rw [← List.append_assoc]
    rfl

/-- A parser cannot be finalized if a timeline is not as long as the rows. One chunk id is gone
then, but no row id. -/
theorem finalize_of_not_agree (hp : p.Stores rows) (hc : c.Fits)
    (hl : ¬ ∀ e ∈ c.cells.entries, e.2.length = rows.length)
    (hid : p.ids.draw s.counter s.clock = (id, ids, counter)) :
    ∃ notes, finalize ⟨p, c, s⟩ =
      .error (.plugin (.batch (.lengthMismatch c.entityPath
        (Chunk.lengths c.cells (.ofList (imageColumns rows))).entries)))
      ⟨{ p.emptied with ids }, c, ⟨s.nextRow, counter, s.clock, s.notes ++ notes⟩⟩ := by
  obtain ⟨notes, hfinalize⟩ := finalize_of_fits hp hc hid
  have hchunk := Step.buildChunk_of_not_agree id
    (mt (fun ⟨_, h⟩ => (agree_imageColumns.mp h).2) hl)
    (s := ⟨{ p.emptied with ids }, c, ⟨s.nextRow, counter, s.clock, s.notes ++ notes⟩⟩)
  exact ⟨notes, hfinalize.trans (bind_of_error hchunk)⟩

end Draw

/-- All that finalizing a parser with rows can come to. -/
inductive Finalizes (p : Parser) (rows : List Row) (c : Context) (s : Session) :
    EStateM.Result Failure Feed (List Chunk) → Prop
  | chunks {id id' : ChunkId} {counter : ChunkId.Counter} {notes : List Log.Note} (hc : c.Fits)
    (hl : ∀ e ∈ c.cells.entries, e.2.length = rows.length) :
    Finalizes p rows c s (.ok
      [⟨id, c.entityPath, List.range' s.nextRow rows.length, c.cells, .ofList (imageColumns rows)⟩,
        ⟨id', c.entityPath, List.range' (s.nextRow + rows.length) rows.length, c.cells,
          .ofList (metadataColumns rows)⟩]
      ⟨{ p.emptied with ids := p.ids.rest.rest, metadata := p.metadata.cleared }, c,
        ⟨s.nextRow + rows.length + rows.length, counter, s.clock, s.notes ++ notes⟩⟩)
  /-- A timeline is not as long as the rows. -/
  | mismatch {counter : ChunkId.Counter} {notes : List Log.Note} (hc : c.Fits)
    (hl : ¬ ∀ e ∈ c.cells.entries, e.2.length = rows.length) :
    Finalizes p rows c s (.error (.plugin (.batch (.lengthMismatch c.entityPath
        (Chunk.lengths c.cells (.ofList (imageColumns rows))).entries)))
      ⟨{ p.emptied with ids := p.ids.rest }, c, ⟨s.nextRow, counter, s.clock, s.notes ++ notes⟩⟩)
  /-- A time does not fit 64 bits. -/
  | overflow (hc : ¬ c.Fits) : Finalizes p rows c s (.error .overflow ⟨p.emptied, c, s⟩)

theorem Stores.finalizes {s : Session} {result : EStateM.Result Failure Feed (List Chunk)}
    (hp : p.Stores rows) (h : finalize ⟨p, c, s⟩ = result) : Finalizes p rows c s result := by
  subst h
  by_cases hc : c.Fits
  · by_cases hl : ∀ e ∈ c.cells.entries, e.2.length = rows.length
    · obtain ⟨notes, h⟩ := finalize_of_agree hp hc hl (s := s) (p.ids.draw_eq _ _)
        (p.ids.rest.draw_eq _ _)
      rw [h]
      exact .chunks hc hl
    · obtain ⟨notes, h⟩ := finalize_of_not_agree hp hc hl (s := s) (p.ids.draw_eq _ _)
      rw [h]
      exact .mismatch hc hl
  · rw [finalize_of_not_fits hp hc s]
    exact .overflow hc

/-- Finalizing succeeds only if all times fit and the timelines are as long as the rows. -/
theorem agree_of_finalize {s : Session} {chunks : List Chunk} {t : Feed} (hp : p.Stores rows)
    (h : finalize ⟨p, c, s⟩ = .ok chunks t) :
    c.Fits ∧ ∀ e ∈ c.cells.entries, e.2.length = rows.length := by
  cases hp.finalizes h with
  | chunks hc hl => exact ⟨hc, hl⟩

/-- The chunks of a parser are the reference result for the messages of its run that have a row: two
chunks with one row for each, filed where the context says and with its timelines. -/
theorem finalize_output {timeline : String} {logEvery capacity : Int} {ids : IdSource}
    (hcreate : create timeline logEvery capacity ids = .ok p) (calls : List Call) (c : Context)
    (s : Session) {chunks : List Chunk} {t : Feed}
    (h : finalize ⟨p.run calls, c, s⟩ = .ok chunks t) :
    ∃ images metadata : Chunk, chunks = [images, metadata] ∧
      (images.length = (rowsOf calls).length ∧ metadata.length = (rowsOf calls).length) ∧
      (images.entityPath = c.entityPath ∧ metadata.entityPath = c.entityPath) ∧
      (images.timelines = c.cells ∧ metadata.timelines = c.cells) ∧
      images.components.entries = imageColumns (rowsOf calls) ∧
      metadata.components.entries = metadataColumns (rowsOf calls) := by
  -- The run keeps the collections in step, so the parser holds the rows of the messages.
  have hp : (p.run calls).Stores (rowsOf calls) := (stores_create hcreate).run calls
  obtain ⟨hc, hl⟩ := agree_of_finalize hp h
  obtain ⟨notes, hok⟩ := finalize_of_agree hp hc hl (s := s) rfl rfl
  obtain ⟨rfl, -⟩ := EStateM.Result.ok.inj (h.symm.trans hok)
  exact ⟨_, _, rfl, ⟨List.length_range', List.length_range'⟩, ⟨rfl, rfl⟩, ⟨rfl, rfl⟩,
    entries_imageColumns _, entries_metadataColumns _⟩

end Parser

/-! ## A run with a message that is refused -/

/-- A frame of one pixel. -/
def pixelFrame : Frame := ⟨5, "cam", 1, 1, "mono8", false, 1, [7]⟩

/-- Its payload. -/
def pixelPayload : Bytes := ByteOrder.big.bytes 2 1 ++ [0, 0] ++ pixelFrame.output .little 0

/-- A message without a payload, and one with the frame of one pixel. -/
def pixelCalls : List Call :=
  let message (payload : Bytes) : Message := ⟨⟨"cam", schemaName⟩, 0, 0, 0, some payload⟩
  [⟨⟨"/cam", .empty⟩, {}, message []⟩,
    ⟨⟨"/cam", .empty⟩, {},
      message (ByteOrder.big.bytes 2 1 ++ [0, 0] ++ pixelFrame.output .little 0)⟩]

theorem encodable_pixelFrame : pixelFrame.Encodable :=
  ⟨by decide, by decide, by decide, by decide, by decide, by decide, by decide⟩

theorem decode_pixelPayload : Frame.decode pixelPayload = .ok pixelFrame := by
  have hd := Frame.decodeWithRest_encode (Frame.encode_of_encodable encodable_pixelFrame .little) []
  rw [List.append_nil] at hd
  exact Frame.decode_eq_ok_iff.mpr ⟨_, hd⟩

theorem Message.row?_of_pixelPayload {m : Message} (h : m.payload = some pixelPayload) :
    m.row? = some ⟨pixelFrame, ⟨1, 1, .color .l .u8⟩⟩ :=
  row?_eq_some_iff.mpr ⟨_, h, decode_pixelPayload, by decide⟩

theorem rowsOf_pixelCalls : rowsOf pixelCalls = [⟨pixelFrame, ⟨1, 1, .color .l .u8⟩⟩] := by
  have hrow : Message.row? ⟨⟨"cam", schemaName⟩, 0, 0, 0, some pixelPayload⟩ = _ :=
    Message.row?_of_pixelPayload rfl
  rw [pixelCalls, rowsOf_cons, rowsOf_cons, ← pixelPayload, hrow]
  rfl

/-- The chunks of the run have one row, that of the message that was taken. -/
theorem finalize_output_pixelCalls : ∃ (p : Parser) (t : Feed) (images metadata : Chunk),
    Parser.create "timestamp" 0 0 .session = .ok p ∧
      Parser.finalize ⟨p.run pixelCalls, (⟨"/cam", .empty⟩ : Context).addCell "timestamp" 5, {}⟩ =
        .ok [images, metadata] t ∧
      images.length = 1 ∧ images.components.entries = imageColumns (rowsOf pixelCalls) := by
  obtain ⟨m, hm, -, -⟩ := @Metadata.exists_builders 0 (Int.le_refl 0)
  have hcreate : Parser.create "timestamp" 0 0 .session =
      .ok ⟨"timestamp", 0, .session, .accumulating, false, [], [], m⟩ := by
    rw [Parser.create, hm]
    rfl
  have hp := (Parser.stores_create hcreate).run pixelCalls
  rw [List.nil_append] at hp
  have hl : ∀ e ∈ ((⟨"/cam", .empty⟩ : Context).addCell "timestamp" 5).cells.entries,
      e.2.length = (rowsOf pixelCalls).length := by
    rw [rowsOf_pixelCalls]
    decide
  obtain ⟨notes, h⟩ := Parser.finalize_of_agree (s := {}) hp (by decide) hl rfl rfl
  obtain ⟨images, metadata, hchunks, ⟨hlength, -⟩, -, -, hcolumns, -⟩ :=
    Parser.finalize_output hcreate pixelCalls _ {} h
  rw [hchunks] at h
  exact ⟨_, _, images, metadata, hcreate, h, by rw [hlength, rowsOf_pixelCalls]; rfl, hcolumns⟩

end FrameChunks
