import FrameChunks.Proofs.Parser.Reachable

/-!
# When a parser hands over its chunks

A parser that takes messages is turned into two chunks exactly if the context indexes its rows:
every timeline has one time for each row, and every time fits 64 bits. The row ids of the two chunks
follow each other, and so do their chunk ids. In any other case nothing is handed over, no row id is
gone, and the parser is finalized all the same.

The row ids of the images are taken before the columns of the metadata are put together, which may
fail, and before the lengths of the second chunk are compared. No row id is lost there because the
collections of the parser are in step: what is long enough for the first chunk is so for the second.

## Main definitions

* `Context.Indexes`: a context with one time for each row on every timeline
* `Parser.HandsOver`: what two chunks, and the state after them, have from the state before
* `Parser.Withholds`: what is left of a parser without chunks

## Main results

* `Parser.Stores.finalize_of_indexes`, `Parser.Stores.finalize_of_not_indexes`: the two outcomes
* `Parser.finalize_exact`: which of them occurs
-/

namespace FrameChunks

open Column

/-- Every timeline has one time for each of `n` rows, and every time fits 64 bits. -/
structure Context.Indexes (c : Context) (n : Nat) : Prop where
  lengths : ∀ e ∈ c.cells.entries, e.2.length = n
  bounds : ∀ e ∈ c.cells.entries, ∀ t ∈ e.2, -2 ^ 63 ≤ t ∧ t < 2 ^ 63

theorem Context.indexes_iff {c : Context} {n : Nat} :
    c.Indexes n ↔ c.Fits ∧ ∀ e ∈ c.cells.entries, e.2.length = n := by
  constructor
  · rintro ⟨hlengths, hbounds⟩
    refine ⟨?_, hlengths⟩
    intro times ht t hmem
    obtain ⟨e, he, rfl⟩ := List.mem_map.mp ht
    exact IntegerType.holds_int64_iff.mpr (hbounds e he t hmem)
  · rintro ⟨hfits, hlengths⟩
    refine ⟨hlengths, ?_⟩
    intro e he t hmem
    exact IntegerType.holds_int64_iff.mp (hfits e.2 (List.mem_map_of_mem he) t hmem)

namespace Parser

/-- What the chunks of a parser, and the state after them, have from the state before: the next two
chunk ids, and the next row ids for one chunk after the other. -/
structure HandsOver (f : Feed) (images metadata : Chunk) (t : Feed) : Prop where
  ids : ∃ u v, Step.freshId f = .ok images.id u ∧ Step.freshId u = .ok metadata.id v ∧
    t.parser.ids = v.parser.ids ∧ t.session.counter = v.session.counter
  imageRows : images.rowIds = List.range' f.session.nextRow f.parser.rows
  metadataRows :
    metadata.rowIds = List.range' (f.session.nextRow + f.parser.rows) f.parser.rows
  nextRow : t.session.nextRow = f.session.nextRow + f.parser.rows + f.parser.rows
  context : t.context = f.context
  lifecycle : t.parser.lifecycle = .finalized

/-- What is left if there are no chunks: at most one chunk id is gone, and notes were made. -/
structure Withholds (f t : Feed) : Prop where
  ids : (t.parser.ids = f.parser.ids ∧ t.session.counter = f.session.counter) ∨
    ∃ id u, Step.freshId f = .ok id u ∧
      t.parser.ids = u.parser.ids ∧ t.session.counter = u.session.counter
  session : ∃ counter notes,
    t.session = { f.session with counter, notes := f.session.notes ++ notes }
  context : t.context = f.context
  lifecycle : t.parser.lifecycle = .finalized

theorem Withholds.nextRow {f t : Feed} (h : Withholds f t) :
    t.session.nextRow = f.session.nextRow := by
  obtain ⟨counter, notes, hs⟩ := h.session
  rw [hs]

variable {p : Parser} {rows : List Row} {c : Context}

theorem Stores.rows_eq (hp : p.Stores rows) : p.rows = rows.length := by
  rw [Parser.rows, hp.blobs, List.length_map]

theorem Stores.finalize_of_indexes (hp : p.Stores rows) (hc : c.Indexes rows.length)
    (s : Session) : ∃ images metadata t, finalize ⟨p, c, s⟩ = .ok [images, metadata] t ∧
      HandsOver ⟨p, c, s⟩ images metadata t := by
  obtain ⟨hfits, hlengths⟩ := Context.indexes_iff.mp hc
  -- The ids of the chunks are drawn one after the other, from the state that the first draw leaves.
  obtain ⟨⟨id, ids, counter⟩, hid⟩ : ∃ x, p.ids.draw s.counter s.clock = x := ⟨_, rfl⟩
  obtain ⟨⟨id', ids', counter'⟩, hid'⟩ : ∃ x, ids.draw counter s.clock = x := ⟨_, rfl⟩
  obtain ⟨notes, h⟩ := finalize_of_agree hp hfits hlengths hid hid'
  have hfirst := Step.freshId_of_draw (s := ⟨p, c, s⟩) hid
  have hsecond := Step.freshId_of_draw (s := ⟨{ p with ids }, c, { s with counter }⟩) hid'
  refine ⟨_, _, _, h, ⟨_, _, hfirst, hsecond, rfl, rfl⟩, ?_, ?_, ?_, rfl, rfl⟩ <;>
    rw [hp.rows_eq]

theorem Stores.finalize_of_not_indexes (hp : p.Stores rows) (hc : ¬ c.Indexes rows.length)
    (s : Session) : ∃ e t, finalize ⟨p, c, s⟩ = .error e t ∧ Withholds ⟨p, c, s⟩ t := by
  by_cases hfits : c.Fits
  · have hlengths : ¬ ∀ e ∈ c.cells.entries, e.2.length = rows.length := by
      intro h
      exact hc (Context.indexes_iff.mpr ⟨hfits, h⟩)
    obtain ⟨⟨id, ids, counter⟩, hid⟩ : ∃ x, p.ids.draw s.counter s.clock = x := ⟨_, rfl⟩
    obtain ⟨notes, h⟩ := finalize_of_not_agree hp hfits hlengths hid
    have hdraw := Step.freshId_of_draw (s := ⟨p, c, s⟩) hid
    exact ⟨_, _, h, .inr ⟨id, _, hdraw, rfl, rfl⟩, ⟨counter, notes, rfl⟩, rfl, rfl⟩
  · exact ⟨_, _, finalize_of_not_fits hp hfits s, .inl ⟨rfl, rfl⟩,
      ⟨s.counter, [], by rw [List.append_nil]⟩, rfl, rfl⟩

/-- A parser that takes messages is turned into two chunks exactly if every timeline of the context
has one time for each row, and every time fits 64 bits. The chunks have the next two chunk ids and
the next row ids, those of the images before those of the metadata. Otherwise there is an error, no
row id is gone and at most one chunk id. The context is the same in either case, and the parser is
finalized. -/
theorem finalize_exact (hp : p.Reachable) (ha : p.lifecycle = .accumulating) (c : Context)
    (s : Session) :
    ((∃ images metadata t, finalize ⟨p, c, s⟩ = .ok [images, metadata] t) ↔
      c.Indexes p.rows) ∧
    (∀ chunks t, finalize ⟨p, c, s⟩ = .ok chunks t →
      ∃ images metadata, chunks = [images, metadata] ∧ HandsOver ⟨p, c, s⟩ images metadata t) ∧
    (¬ c.Indexes p.rows →
      ∃ e t, finalize ⟨p, c, s⟩ = .error e t ∧ Withholds ⟨p, c, s⟩ t) := by
  obtain ⟨rows, hstores⟩ := hp.stores ha
  rw [hstores.rows_eq]
  by_cases hc : c.Indexes rows.length
  · obtain ⟨images, metadata, t, h, hover⟩ := hstores.finalize_of_indexes hc s
    refine ⟨⟨fun _ => hc, fun _ => ⟨_, _, t, h⟩⟩, ?_, fun hn => absurd hc hn⟩
    intro chunks u hu
    obtain ⟨rfl, rfl⟩ := EStateM.Result.ok.inj (h.symm.trans hu)
    exact ⟨images, metadata, rfl, hover⟩
  · obtain ⟨e, t, h, hwithholds⟩ := hstores.finalize_of_not_indexes hc s
    have hfails {chunks : List Chunk} {u : Feed} : finalize ⟨p, c, s⟩ ≠ .ok chunks u := by
      rw [h]
      exact nofun
    refine ⟨⟨?_, fun hi => absurd hi hc⟩, fun chunks u hu => absurd hu hfails,
      fun _ => ⟨e, t, h, hwithholds⟩⟩
    rintro ⟨images, metadata, u, hu⟩
    exact absurd hu hfails

/-- A parser with one row hands over its chunks with one stamp on the timeline, and not with two. -/
theorem finalize_exact_pixelCalls : ∃ p : Parser, p.Reachable ∧ p.lifecycle = .accumulating ∧
    p.rows = 1 ∧
    (∃ images metadata t,
      finalize ⟨p, (⟨"/cam", .empty⟩ : Context).addCells [("timestamp", 5)], {}⟩ =
        .ok [images, metadata] t ∧ images.rowIds = [0] ∧ metadata.rowIds = [1]) ∧
    ∃ e t, finalize ⟨p, (⟨"/cam", .empty⟩ : Context).addCells [("timestamp", 5), ("timestamp", 5)],
      {}⟩ = .error e t ∧ t.session.nextRow = 0 := by
  obtain ⟨p, hcreate, -, -, hp⟩ := exists_create (Int.le_refl 0) "timestamp" 0 .session
  have hreachable := (Reachable.create hcreate).run pixelCalls
  have hstores := hp.run pixelCalls
  have hrows : (p.run pixelCalls).rows = 1 := by
    rw [hstores.rows_eq, rowsOf_pixelCalls]
    rfl
  have hone := finalize_exact hreachable hstores.ready.lifecycle
    ((⟨"/cam", .empty⟩ : Context).addCells [("timestamp", 5)]) {}
  have htwo := finalize_exact hreachable hstores.ready.lifecycle
    ((⟨"/cam", .empty⟩ : Context).addCells [("timestamp", 5), ("timestamp", 5)]) {}
  rw [hrows] at hone htwo
  obtain ⟨images, metadata, t, h⟩ := hone.1.mpr
    (Context.indexes_iff.mpr ⟨by decide, by decide⟩)
  obtain ⟨_, _, hchunks, hover⟩ := hone.2.1 _ t h
  cases hchunks
  have hi := hover.imageRows
  have hm := hover.metadataRows
  simp only [hrows] at hi hm
  obtain ⟨e, u, herror, hwithholds⟩ := htwo.2.2 fun hc => absurd hc.lengths (by decide)
  exact ⟨_, hreachable, hstores.ready.lifecycle, hrows, ⟨images, metadata, t, h, hi, hm⟩,
    e, u, herror, hwithholds.nextRow⟩

end Parser

end FrameChunks
