import FrameChunks.Parser.Basic
import FrameChunks.Proofs.Keyed
import FrameChunks.Proofs.Steps
import FrameChunks.Proofs.Text.Quoted

/-!
# Which chunks are built

Lengths are compared under labels. Timelines and columns never share a label, and neither do two
timelines, but two columns do if their qualified names agree: then the length of the last one is
compared and the others are not looked at. A chunk is rectangular if no column is hidden this way.

## Main definitions

* `Chunk.compared`: the columns whose lengths are compared
* `Chunk.Agree`: the timelines and the compared columns have a given length
* `Chunk.Rectangular`: all timelines and all columns are as long as the row ids

## Main results

* `Chunk.mem_values_lengths`: the lengths that are compared
* `Chunk.rowCount_eq_ok_iff`: when there is a common length
* `Step.buildChunk_eq_ok_iff`, `Step.buildChunk_eq_error_iff`: what building a chunk does
* `Step.buildChunk_exact`: which chunks are built, and which of them are not rectangular
-/

namespace FrameChunks

open Text

namespace Chunk

/-! ## Labels -/

theorem timelineLabel_injective {m n : String} (h : timelineLabel m = timelineLabel n) : m = n :=
  quoted_injective (String.append_right_inj _ |>.mp h)

theorem timelineLabel_ne_componentLabel (name : String) (d : Descriptor) :
    timelineLabel name ≠ componentLabel d := by
  intro h
  have hl := congrArg (fun s => s.toList.head?) h
  simp [timelineLabel, componentLabel] at hl

/-! ## The lengths that are compared -/

/-- The columns whose lengths are compared: those whose qualified name no later column has. -/
def compared (components : Components) : List (Descriptor × Column) :=
  lastBy (fun e => e.1.qualifiedName) components.entries

/-- All timelines and all compared columns have `n` rows; without any there are none. -/
structure Agree (timelines : Timelines) (components : Components) (n : Nat) : Prop where
  times : ∀ e ∈ timelines.entries, e.2.length = n
  columns : ∀ e ∈ compared components, e.2.length = n
  empty : timelines.entries = [] ∧ components.entries = [] → n = 0

/-- All timelines and all columns are as long as the row ids. -/
structure Rectangular (c : Chunk) : Prop where
  times : ∀ e ∈ c.timelines.entries, e.2.length = c.rowIds.length
  columns : ∀ e ∈ c.components.entries, e.2.length = c.rowIds.length

variable {timelines : Timelines} {components : Components} {n : Nat}

/-- No label hides a timeline, and only the label of a later column hides a column. -/
theorem mem_lengths {label : String} : (label, n) ∈ (lengths timelines components).entries ↔
    (∃ e ∈ timelines.entries, timelineLabel e.1 = label ∧ e.2.length = n) ∨
      ∃ e ∈ compared components, componentLabel e.1 = label ∧ e.2.length = n := by
  -- Distinct timelines have distinct labels, so none of them is hidden.
  have ht : lastBy (timelineLabel ∘ Prod.fst) timelines.entries = timelines.entries := by
    rw [lastBy_comp fun m n => timelineLabel_injective]
    exact lastBy_eq_self timelines.nodup
  -- Two columns have one label exactly if they have one qualified name.
  have hc : lastBy (componentLabel ∘ Prod.fst) components.entries = compared components :=
    lastBy_comp (f := fun name => "component " ++ quoted name)
      (fun _ _ h => quoted_injective ((String.append_right_inj _).mp h)) components.entries
  rw [lengths, Keyed.mem_entries_ofList, lastBy_append, lastBy_map, lastBy_map, List.mem_append,
    List.mem_map, List.mem_map]
  · show (∃ e ∈ lastBy (timelineLabel ∘ Prod.fst) timelines.entries, _) ∨
      (∃ e ∈ lastBy (componentLabel ∘ Prod.fst) components.entries, _) ↔ _
    simp only [ht, hc, Prod.mk.injEq]
  · rintro _ he _ he'
    obtain ⟨e, -, rfl⟩ := List.mem_map.mp he
    obtain ⟨e', -, rfl⟩ := List.mem_map.mp he'
    exact timelineLabel_ne_componentLabel e.1 e'.1

/-- The lengths that are compared are those of the timelines and of the compared columns. -/
theorem mem_values_lengths : n ∈ (lengths timelines components).values ↔
    (∃ e ∈ timelines.entries, e.2.length = n) ∨ ∃ e ∈ compared components, e.2.length = n := by
  rw [Keyed.values, List.mem_map]
  constructor
  · rintro ⟨⟨label, n⟩, he, rfl⟩
    rcases mem_lengths.mp he with ⟨e, he, -, hl⟩ | ⟨e, he, -, hl⟩
    · exact .inl ⟨e, he, hl⟩
    · exact .inr ⟨e, he, hl⟩
  · rintro (⟨e, he, hl⟩ | ⟨e, he, hl⟩)
    · exact ⟨_, mem_lengths.mpr (.inl ⟨e, he, rfl, hl⟩), rfl⟩
    · exact ⟨_, mem_lengths.mpr (.inr ⟨e, he, rfl, hl⟩), rfl⟩

theorem common?_eq_some_iff {l : List Nat} :
    common? l = some n ↔ (∀ m ∈ l, m = n) ∧ (l = [] → n = 0) := by
  rcases l with _ | ⟨m, rest⟩
  · simp [common?, eq_comm]
  · rw [common?]
    constructor
    · intro h
      split at h
      · next hr =>
        obtain rfl := Option.some.inj h
        exact ⟨List.forall_mem_cons.mpr ⟨rfl, hr⟩, nofun⟩
      · nomatch h
    · rintro ⟨hm, -⟩
      obtain ⟨rfl, hr⟩ := List.forall_mem_cons.mp hm
      exact if_pos hr

theorem compared_eq_nil_iff : compared components = [] ↔ components.entries = [] := by
  constructor
  · intro h
    by_contra hn
    exact lastBy_ne_nil hn h
  · intro h
    rw [compared, h]
    rfl

theorem values_lengths_eq_nil_iff : (lengths timelines components).values = [] ↔
    timelines.entries = [] ∧ components.entries = [] := by
  rw [← @compared_eq_nil_iff components]
  simp only [List.eq_nil_iff_forall_not_mem]
  constructor
  · intro h
    constructor
    · intro e he
      exact h _ (mem_values_lengths.mpr (.inl ⟨e, he, rfl⟩))
    · intro e he
      exact h _ (mem_values_lengths.mpr (.inr ⟨e, he, rfl⟩))
  · rintro ⟨ht, hc⟩ m hm
    rcases mem_values_lengths.mp hm with ⟨e, he, -⟩ | ⟨e, he, -⟩
    · exact ht e he
    · exact hc e he

theorem common?_lengths_eq_some_iff :
    common? (lengths timelines components).values = some n ↔ Agree timelines components n := by
  rw [common?_eq_some_iff, values_lengths_eq_nil_iff]
  constructor
  · rintro ⟨h, hempty⟩
    refine ⟨?_, ?_, hempty⟩
    · intro e he
      exact h _ (mem_values_lengths.mpr (.inl ⟨e, he, rfl⟩))
    · intro e he
      exact h _ (mem_values_lengths.mpr (.inr ⟨e, he, rfl⟩))
  · rintro ⟨ht, hc, hempty⟩
    refine ⟨?_, hempty⟩
    intro m hm
    rcases mem_values_lengths.mp hm with ⟨e, he, rfl⟩ | ⟨e, he, rfl⟩
    · exact ht e he
    · exact hc e he

/-- The number of rows is the length that the timelines and the compared columns agree on. -/
theorem rowCount_eq_ok_iff {entityPath : String} :
    rowCount entityPath timelines components = .ok n ↔ Agree timelines components n := by
  rw [← common?_lengths_eq_some_iff, rowCount]
  rcases common? (lengths timelines components).values with _ | m
  · exact ⟨nofun, nofun⟩
  · rw [Except.ok.injEq, Option.some.injEq]

theorem rowCount_of_not_agree {entityPath : String} (h : ¬ ∃ n, Agree timelines components n) :
    rowCount entityPath timelines components =
      .error (.lengthMismatch entityPath (lengths timelines components).entries) := by
  rcases hc : common? (lengths timelines components).values with _ | n
  · rw [rowCount, hc]
  · exact absurd ⟨n, common?_lengths_eq_some_iff.mp hc⟩ h

/-- Columns of different qualified names are all compared. -/
theorem compared_eq_entries (h : (components.keys.map Descriptor.qualifiedName).Nodup) :
    compared components = components.entries := by
  refine lastBy_eq_self ?_
  rw [Keyed.keys, List.map_map] at h
  exact h

/-- Columns of one length agree with timelines of that length only. -/
theorem agree_iff {k : Nat} (hne : components.entries ≠ [])
    (hl : ∀ e ∈ components.entries, e.2.length = k) :
    Agree timelines components n ↔ n = k ∧ ∀ e ∈ timelines.entries, e.2.length = k := by
  constructor
  · rintro ⟨ht, hc, -⟩
    -- There is a column that is compared, and its length is the common one.
    obtain ⟨e, he⟩ := List.exists_mem_of_ne_nil _ (mt compared_eq_nil_iff.mp hne)
    obtain rfl : n = k := (hc e he).symm.trans (hl e (lastBy_subset _ _ he))
    exact ⟨rfl, ht⟩
  · rintro ⟨rfl, ht⟩
    refine ⟨ht, ?_, ?_⟩
    · intro e he
      exact hl e (lastBy_subset _ _ he)
    · intro h
      exact absurd h.2 hne

/-- Timelines and columns that agree make a chunk with the next row ids. -/
theorem build_of_agree (s : Session) (id : ChunkId) (entityPath : String)
    (h : Agree timelines components n) :
    build s id entityPath timelines components =
      .ok (⟨id, entityPath, List.range' s.nextRow n, timelines, components⟩,
        { s with nextRow := s.nextRow + n }) := by
  rw [build, rowCount_eq_ok_iff.mpr h]
  rfl

theorem build_of_not_agree (s : Session) (id : ChunkId) (entityPath : String)
    (h : ¬ ∃ n, Agree timelines components n) :
    build s id entityPath timelines components =
      .error (.lengthMismatch entityPath (lengths timelines components).entries) := by
  rw [build, rowCount_of_not_agree h]
  rfl

/-- A chunk whose timelines and compared columns agree is rectangular if the other columns are of
that length as well. -/
theorem rectangular_iff {c : Chunk} (h : Agree c.timelines c.components c.rowIds.length) :
    c.Rectangular ↔
      ∀ e ∈ c.components.entries, e ∉ compared c.components → e.2.length = c.rowIds.length := by
  constructor
  · intro hr e he _
    exact hr.columns e he
  · intro hrest
    refine ⟨h.times, ?_⟩
    intro e he
    by_cases hc : e ∈ compared c.components
    · exact h.columns e hc
    · exact hrest e he hc

end Chunk

namespace Step

open Chunk

variable {timelines : Timelines} {components : Components} {n : Nat} {s : Feed}

theorem buildChunk_of_agree (id : ChunkId) (h : Agree timelines components n) :
    buildChunk id timelines components s =
      .ok ⟨id, s.context.entityPath, List.range' s.session.nextRow n, timelines, components⟩
        { s with session := { s.session with nextRow := s.session.nextRow + n } } := by
  rw [buildChunk, Steps.bind_of_ok (show (get : Step Feed) s = .ok s s from rfl),
    build_of_agree _ _ _ h]
  rfl

/-- Nothing is changed if timelines and columns do not agree. -/
theorem buildChunk_of_not_agree (id : ChunkId) (h : ¬ ∃ n, Agree timelines components n) :
    buildChunk id timelines components s =
      .error (.plugin (.batch (.lengthMismatch s.context.entityPath
        (lengths timelines components).entries))) s := by
  rw [buildChunk, Steps.bind_of_ok (show (get : Step Feed) s = .ok s s from rfl),
    build_of_not_agree _ _ _ h]
  rfl

theorem buildChunk_eq_ok_iff {id : ChunkId} {c : Chunk} {t : Feed} :
    buildChunk id timelines components s = .ok c t ↔ ∃ n, Agree timelines components n ∧
      c = ⟨id, s.context.entityPath, List.range' s.session.nextRow n, timelines, components⟩ ∧
      t = { s with session := { s.session with nextRow := s.session.nextRow + n } } := by
  constructor
  · intro h
    by_cases ha : ∃ n, Agree timelines components n
    · obtain ⟨n, ha⟩ := ha
      obtain ⟨rfl, rfl⟩ := EStateM.Result.ok.inj ((buildChunk_of_agree id ha).symm.trans h)
      exact ⟨n, ha, rfl, rfl⟩
    · nomatch (buildChunk_of_not_agree id ha).symm.trans h
  · rintro ⟨n, ha, rfl, rfl⟩
    exact buildChunk_of_agree id ha

theorem buildChunk_eq_error_iff {id : ChunkId} {e : Failure} {t : Feed} :
    buildChunk id timelines components s = .error e t ↔
      (¬ ∃ n, Agree timelines components n) ∧ t = s ∧ e = .plugin (.batch
        (.lengthMismatch s.context.entityPath (lengths timelines components).entries)) := by
  constructor
  · intro h
    by_cases ha : ∃ n, Agree timelines components n
    · obtain ⟨n, ha⟩ := ha
      nomatch (buildChunk_of_agree id ha).symm.trans h
    · obtain ⟨rfl, rfl⟩ := EStateM.Result.error.inj ((buildChunk_of_not_agree id ha).symm.trans h)
      exact ⟨ha, rfl, rfl⟩
  · rintro ⟨ha, rfl, rfl⟩
    exact buildChunk_of_not_agree id ha

/-- A chunk of `n` rows is built exactly if the timelines and the compared columns have `n` rows
each. It has the given timelines and columns, and it is rectangular exactly if every column that is
not compared has `n` rows as well; so it is if all qualified names are different. Otherwise there is
an error about the batch, and no row id is taken. -/
theorem buildChunk_exact (id : ChunkId) (timelines : Timelines) (components : Components)
    (s : Feed) :
    (∀ n, (∃ c t, buildChunk id timelines components s = .ok c t ∧ c.rowIds.length = n) ↔
      Agree timelines components n) ∧
    (∀ c t, buildChunk id timelines components s = .ok c t →
      c.timelines = timelines ∧ c.components = components ∧
      (c.Rectangular ↔ ∀ e ∈ components.entries, e ∉ compared components →
        e.2.length = c.rowIds.length) ∧
      ((components.keys.map Descriptor.qualifiedName).Nodup → c.Rectangular)) ∧
    ∀ e t, buildChunk id timelines components s = .error e t →
      t = s ∧ t.session.nextRow = s.session.nextRow ∧ ∃ error, e = .plugin (.batch error) := by
  refine ⟨?_, ?_, ?_⟩
  · intro n
    constructor
    · rintro ⟨c, t, h, rfl⟩
      obtain ⟨n, ha, rfl, -⟩ := buildChunk_eq_ok_iff.mp h
      rwa [List.length_range']
    · intro h
      exact ⟨_, _, buildChunk_of_agree id h, List.length_range'⟩
  · intro c t h
    obtain ⟨n, ha, rfl, -⟩ := buildChunk_eq_ok_iff.mp h
    have hr := rectangular_iff (c := ⟨id, s.context.entityPath, List.range' s.session.nextRow n,
      timelines, components⟩) (by rwa [List.length_range'])
    refine ⟨rfl, rfl, hr, ?_⟩
    intro hd
    apply hr.mpr
    intro e he hn
    exact absurd (by rwa [compared_eq_entries hd]) hn
  · intro e t h
    obtain ⟨-, rfl, rfl⟩ := buildChunk_eq_error_iff.mp h
    exact ⟨rfl, rfl, _, rfl⟩

end Step

/-- Two columns of one and of two rows, under one qualified name. -/
def raggedColumns : Components :=
  .ofList [(⟨"b:c", some "a"⟩, .ofIntegers .int64 [1]),
    (⟨"c", some "a:b"⟩, .ofIntegers .int64 [1, 2])]

/-- Columns of different lengths are put into one chunk if their qualified names agree. -/
theorem build_raggedColumns :
    (∃ c s, Chunk.build {} ⟨0, 0⟩ "/cam" .empty raggedColumns = .ok (c, s)) ∧
      ¬ ∃ n, ∀ e ∈ raggedColumns.entries, e.2.length = n := by
  constructor
  · -- Both are called `a:b:c`, and only the second one is compared.
    have h : Chunk.Agree .empty raggedColumns 2 :=
      ⟨nofun, by decide, fun h => absurd h.2 (by decide)⟩
    exact ⟨_, _, Chunk.build_of_agree {} ⟨0, 0⟩ "/cam" h⟩
  · rintro ⟨n, h⟩
    have h₁ : 1 = n := h (⟨"b:c", some "a"⟩, .ofIntegers .int64 [1]) (by decide)
    have h₂ : 2 = n := h (⟨"c", some "a:b"⟩, .ofIntegers .int64 [1, 2]) (by decide)
    omega

end FrameChunks
