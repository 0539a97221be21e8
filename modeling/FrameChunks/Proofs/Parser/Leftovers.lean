import FrameChunks.Proofs.Parser.Outcome

/-!
# What is left in a parser that was finalized

The pixels and the pixel formats leave a parser before anything of finalizing can fail. The metadata
leave it only when their columns are finished, behind the timelines and the chunk of the images. So
a parser whose rows become chunks is empty afterwards, and a parser whose rows do not keeps all of
its metadata, and can never do anything with them.

## Main definitions

* `Parser.remaining`: the lengths of a parser in which only metadata are left

## Main results

* `Parser.Stores.lengths_finished_of_indexes`, `Parser.Stores.lengths_finished_of_not_indexes`: the
  lengths after either outcome
* `Parser.finished_lengths_exact`: when a finalized parser is empty
-/

namespace FrameChunks

theorem Metadata.get_cleared (m : Metadata Column.Builder) (a : Attribute) :
    m.cleared.get a = (m.get a).clear := by
  cases a <;> rfl

namespace Parser

/-- The lengths of a parser that has neither pixels nor formats, and `n` rows of metadata. -/
def remaining (n : Nat) : List (String × Nat) :=
  ("blobs", 0) :: ("formats", 0) :: Attribute.all.map fun a => (a.name, n)

theorem forall_remaining_iff {n : Nat} : (∀ l ∈ remaining n, l.2 = 0) ↔ n = 0 := by
  simp [remaining, Attribute.all]

theorem lengths_eq_remaining {q : Parser} {n : Nat} (hblobs : q.blobs = []) (hformats : q.formats = [])
    (hmetadata : ∀ a, (q.metadata.get a).length = n) : q.lengths = remaining n := by
  simp [lengths, remaining, hblobs, hformats, hmetadata]

variable {p : Parser} {rows : List Row} {c : Context}

theorem Stores.length_get (hp : p.Stores rows) (a : Attribute) :
    (p.metadata.get a).length = rows.length := by
  have hsize : (p.metadata.get a).values.size = rows.length := by
    rw [← Array.length_toList, hp.values a, List.length_map]
  rw [Column.Builder.length, (hp.ready.typed a).2, hsize, Nat.div_one]

theorem Stores.lengths_finished_of_indexes (hp : p.Stores rows) (hc : c.Indexes rows.length)
    (s : Session) : (p.finished c s).lengths = remaining 0 := by
  rw [Context.indexes_iff] at hc
  rw [finished]
  generalize h : finalize ⟨p, c, s⟩ = result
  cases hp.finalizes h with
  | chunks hfits hlengths =>
    refine lengths_eq_remaining rfl rfl ?_
    intro a
    simp [Metadata.get_cleared]
  | mismatch hfits hlengths => exact absurd hc.2 hlengths
  | overflow hfits => exact absurd hc.1 hfits

/-- Whatever finalizing fails at, it has not come to the metadata yet. -/
theorem Stores.lengths_finished_of_not_indexes (hp : p.Stores rows) (hc : ¬ c.Indexes rows.length)
    (s : Session) : (p.finished c s).lengths = remaining rows.length := by
  rw [Context.indexes_iff] at hc
  rw [finished]
  generalize h : finalize ⟨p, c, s⟩ = result
  cases hp.finalizes h with
  | chunks hfits hlengths => exact absurd ⟨hfits, hlengths⟩ hc
  | mismatch hfits hlengths => exact lengths_eq_remaining rfl rfl hp.length_get
  | overflow hfits => exact lengths_eq_remaining rfl rfl hp.length_get

theorem rows_eq_zero_of_lengths {q : Parser} {n : Nat} (h : q.lengths = remaining n) :
    q.rows = 0 := by
  have hhead := congrArg List.head? h
  simpa [lengths, remaining, Parser.rows] using hhead

/-- A parser that was finalized has no pixels and no formats. If there are chunks, it has no metadata
either. If there are none, every column of metadata is as long as before: so the parser is empty
exactly if there are chunks or there were no rows, and in any other case its collections are out of
step. -/
theorem finished_lengths_exact (hp : p.Reachable) (ha : p.lifecycle = .accumulating) (c : Context)
    (s : Session) :
    (p.finished c s).rows = 0 ∧
    (c.Indexes p.rows → (∃ chunks t, finalize ⟨p, c, s⟩ = .ok chunks t) ∧
      (p.finished c s).lengths = remaining 0) ∧
    (¬ c.Indexes p.rows → (∃ e t, finalize ⟨p, c, s⟩ = .error e t) ∧
      (p.finished c s).lengths = remaining p.rows) ∧
    ((∀ l ∈ (p.finished c s).lengths, l.2 = 0) ↔ c.Indexes p.rows ∨ p.rows = 0) := by
  obtain ⟨rows, hstores⟩ := hp.stores ha
  rw [hstores.rows_eq]
  by_cases hc : c.Indexes rows.length
  · obtain ⟨images, metadata, t, hok, -⟩ := hstores.finalize_of_indexes hc s
    have hlengths := hstores.lengths_finished_of_indexes hc s
    refine ⟨rows_eq_zero_of_lengths hlengths, fun _ => ⟨⟨_, t, hok⟩, hlengths⟩, ?_, ?_⟩
    · exact fun hn => absurd hc hn
    · rw [hlengths, forall_remaining_iff]
      exact iff_of_true rfl (.inl hc)
  · obtain ⟨e, t, herror, -⟩ := hstores.finalize_of_not_indexes hc s
    have hlengths := hstores.lengths_finished_of_not_indexes hc s
    refine ⟨rows_eq_zero_of_lengths hlengths, ?_, fun _ => ⟨⟨e, t, herror⟩, hlengths⟩, ?_⟩
    · exact fun hi => absurd hi hc
    · rw [hlengths, forall_remaining_iff, or_iff_right hc]

/-- A context with so many stamps on one timeline. -/
def stamped (count : Nat) : Context :=
  (⟨"/cam", .empty⟩ : Context).addCells (List.replicate count ("timestamp", 5))

/-- There is a parser with one row. -/
theorem exists_stores_pixelCalls : ∃ p : Parser, p.Reachable ∧ p.Stores (rowsOf pixelCalls) := by
  obtain ⟨p, hcreate, -, -, hp⟩ := exists_create (Int.le_refl 0) "timestamp" 0 .session
  have hstores := hp.run pixelCalls
  rw [List.nil_append] at hstores
  exact ⟨_, (Reachable.create hcreate).run pixelCalls, hstores⟩

theorem length_rowsOf_pixelCalls : (rowsOf pixelCalls).length = 1 := by
  rw [rowsOf_pixelCalls]
  rfl

theorem indexes_stamped : (stamped 1).Indexes 1 :=
  Context.indexes_iff.mpr ⟨by decide, by decide⟩

theorem not_indexes_stamped : ¬ (stamped 2).Indexes 1 :=
  fun h => absurd h.lengths (by decide)

/-- A parser with one row is empty after a context with one stamp, and keeps its metadata after one
with two. -/
theorem finished_lengths_exact_stamped : ∃ p : Parser, p.Reachable ∧ p.lifecycle = .accumulating ∧
    p.rows = 1 ∧ (p.finished (stamped 1) {}).lengths = remaining 0 ∧
      (p.finished (stamped 2) {}).lengths = remaining 1 := by
  obtain ⟨p, hreachable, hstores⟩ := exists_stores_pixelCalls
  have ha := hstores.ready.lifecycle
  have hrows : p.rows = 1 := hstores.rows_eq.trans length_rowsOf_pixelCalls
  have hone := finished_lengths_exact hreachable ha (stamped 1) {}
  have htwo := finished_lengths_exact hreachable ha (stamped 2) {}
  rw [hrows] at hone htwo
  exact ⟨p, hreachable, ha, hrows, (hone.2.1 indexes_stamped).2,
    (htwo.2.2.1 not_indexes_stamped).2⟩

/-- The metadata of one row stay in a parser whose timeline has two stamps: its collections are out
of step after finalizing has failed. -/
theorem finished_stampedTwice : ∃ p : Parser, p.Reachable ∧ p.lifecycle = .accumulating ∧
    (∃ e t, finalize ⟨p, stamped 2, {}⟩ = .error e t) ∧
      ("blobs", 0) ∈ (p.finished (stamped 2) {}).lengths ∧
      ("height", 1) ∈ (p.finished (stamped 2) {}).lengths := by
  obtain ⟨p, hreachable, hstores⟩ := exists_stores_pixelCalls
  have hnot : ¬ (stamped 2).Indexes (rowsOf pixelCalls).length := by
    rw [length_rowsOf_pixelCalls]
    exact not_indexes_stamped
  obtain ⟨e, t, herror, -⟩ := hstores.finalize_of_not_indexes hnot {}
  have hlengths := hstores.lengths_finished_of_not_indexes hnot {}
  rw [length_rowsOf_pixelCalls] at hlengths
  refine ⟨p, hreachable, hstores.ready.lifecycle, ⟨e, t, herror⟩, ?_, ?_⟩ <;> rw [hlengths] <;> decide

end Parser

end FrameChunks
