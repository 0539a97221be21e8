import FrameChunks.Proofs.Keyed
import FrameChunks.Timeline
import Mathlib.Algebra.Group.Int.Defs

/-!
# What contexts hold

The times of a context go to their timelines one after the other, and several may go to one. In the
end every timeline holds what was put into it, in order.

## Main definitions

* `Cell`, `Context.addCells`: a time with its timeline, and a context with several of them put in
* `timesIn`: the times that go to a timeline
* `Message.Timed`: a message whose times fit 64 bits

## Main results

* `Context.times_addCells`: a timeline holds what was put into it
* `Context.keys_addCells_of_nodup`, `Context.keys_addCells_of_subset`: new timelines go to the end,
  and others stay where they are
* `Context.fits_addCells_iff`: a context fits 64 bits if what was put into it does
-/

namespace FrameChunks

open Column

/-- A time and the timeline that it goes to. -/
abbrev Cell := String × Int

/-- The times that go to a timeline. -/
def timesIn (timeline : String) (cells : List Cell) : List Int :=
  (cells.filter fun e => e.1 = timeline).map Prod.snd

section TimesIn

variable {timeline : String} {cells : List Cell}

theorem timesIn_cons_self (timeline : String) (time : Int) (cells : List Cell) :
    timesIn timeline ((timeline, time) :: cells) = time :: timesIn timeline cells := by
  rw [timesIn, List.filter_cons_of_pos (by simp)]
  rfl

theorem timesIn_cons_of_ne {other : String} (h : other ≠ timeline) (time : Int)
    (cells : List Cell) : timesIn timeline ((other, time) :: cells) = timesIn timeline cells := by
  rw [timesIn, List.filter_cons_of_neg (by simpa using h)]
  rfl

theorem timesIn_append (timeline : String) (cells more : List Cell) :
    timesIn timeline (cells ++ more) = timesIn timeline cells ++ timesIn timeline more := by
  rw [timesIn, List.filter_append, List.map_append]
  rfl

theorem timesIn_flatMap {α : Type} (l : List α) (f : α → List Cell) :
    timesIn timeline (l.flatMap f) = l.flatMap fun a => timesIn timeline (f a) := by
  induction l with
  | nil => rfl
  | cons a rest ih => rw [List.flatMap_cons, List.flatMap_cons, timesIn_append, ih]

/-- What is true of all times of all timelines is true of all cells. -/
theorem forall_timesIn_iff {P : Int → Prop} :
    (∀ timeline, ∀ t ∈ timesIn timeline cells, P t) ↔ ∀ e ∈ cells, P e.2 := by
  constructor
  · intro h e he
    have hmem : e ∈ cells.filter fun e' => e'.1 = e.1 :=
      List.mem_filter.mpr ⟨he, decide_eq_true rfl⟩
    exact h e.1 e.2 (List.mem_map_of_mem hmem)
  · intro h timeline t ht
    obtain ⟨e, he, rfl⟩ := List.mem_map.mp ht
    exact h e (List.mem_filter.mp he).1

end TimesIn

/-- A message whose times fit 64 bits; nothing is said about the stamp in its payload. -/
structure Message.Timed (m : Message) : Prop where
  logTime : IntegerType.int64.Holds m.logTime
  publishTime : IntegerType.int64.Holds m.publishTime

theorem Column.IntegerType.holds_int64_iff {n : Int} :
    IntegerType.int64.Holds n ↔ -2 ^ 63 ≤ n ∧ n < 2 ^ 63 := by
  have hleast : IntegerType.int64.least = -2 ^ 63 := by decide
  have hgreatest : IntegerType.int64.greatest = 2 ^ 63 - 1 := by decide
  rw [IntegerType.Holds, hleast, hgreatest]
  omega

namespace Context

/-- The times of a timeline; there are none if there is no such timeline. -/
def times (c : Context) (timeline : String) : List Int := (c.cells.get? timeline).getD []

/-- The context with times put in, one after the other. -/
def addCells (c : Context) (cells : List Cell) : Context :=
  cells.foldl (fun c e => c.addCell e.1 e.2) c

variable {c : Context} {cells : List Cell} {timeline : String}

theorem addCells_append (c : Context) (cells more : List Cell) :
    c.addCells (cells ++ more) = (c.addCells cells).addCells more :=
  List.foldl_append

@[simp] theorem entityPath_addCells (c : Context) (cells : List Cell) :
    (c.addCells cells).entityPath = c.entityPath := by
  induction cells generalizing c with
  | nil => rfl
  | cons e rest ih => exact ih (c.addCell e.1 e.2)

theorem times_addCell (c : Context) (timeline other : String) (time : Int) :
    (c.addCell timeline time).times other =
      if other = timeline then c.times timeline ++ [time] else c.times other := by
  rw [times, get?_cells_addCell]
  split <;> rfl

/-- A timeline holds what was put into it, in order, behind what it held before. -/
theorem times_addCells (c : Context) (cells : List Cell) (timeline : String) :
    (c.addCells cells).times timeline = c.times timeline ++ timesIn timeline cells := by
  induction cells generalizing c with
  | nil => exact (List.append_nil _).symm
  | cons e rest ih =>
    obtain ⟨other, time⟩ := e
    have hstep : (c.addCells ((other, time) :: rest)).times timeline =
        (c.addCell other time).times timeline ++ timesIn timeline rest := ih _
    rw [hstep, times_addCell]
    by_cases h : timeline = other
    · subst h
      rw [if_pos rfl, timesIn_cons_self, List.append_assoc]
      rfl
    · rw [if_neg h, timesIn_cons_of_ne (Ne.symm h)]

/-! ## The order of the timelines -/

theorem keys_addCell_of_mem (h : timeline ∈ c.cells.keys) (time : Int) :
    (c.addCell timeline time).cells.keys = c.cells.keys :=
  Keyed.keys_insert_of_mem h _

theorem keys_addCell_of_not_mem (h : timeline ∉ c.cells.keys) (time : Int) :
    (c.addCell timeline time).cells.keys = c.cells.keys ++ [timeline] :=
  Keyed.keys_insert_of_not_mem h _

/-- Times for different new timelines bring these in their order. -/
theorem keys_addCells_of_nodup (h : (c.cells.keys ++ cells.map Prod.fst).Nodup) :
    (c.addCells cells).cells.keys = c.cells.keys ++ cells.map Prod.fst := by
  induction cells generalizing c with
  | nil => exact (List.append_nil _).symm
  | cons e rest ih =>
    have hnew : e.1 ∉ c.cells.keys := by
      intro hm
      exact (List.nodup_append.mp h).2.2 e.1 hm e.1 List.mem_cons_self rfl
    have hkeys := keys_addCell_of_not_mem hnew e.2
    rw [List.map_cons, List.append_cons, ← hkeys] at h ⊢
    exact ih h

/-- Times for timelines that are there already change nothing about the order of the timelines. -/
theorem keys_addCells_of_subset (h : ∀ e ∈ cells, e.1 ∈ c.cells.keys) :
    (c.addCells cells).cells.keys = c.cells.keys := by
  induction cells generalizing c with
  | nil => rfl
  | cons e rest ih =>
    obtain ⟨he, hrest⟩ := List.forall_mem_cons.mp h
    have hkeys := keys_addCell_of_mem he e.2
    rw [← hkeys] at hrest
    exact (ih hrest).trans hkeys

/-! ## The timelines with their times -/

/-- The pairs of a context are its timelines, each with its times. -/
theorem entries_cells (c : Context) :
    c.cells.entries = c.cells.keys.map fun timeline => (timeline, c.times timeline) :=
  c.cells.entries_eq_map []

theorem mem_entries_of_times_ne_nil (h : c.times timeline ≠ []) :
    (timeline, c.times timeline) ∈ c.cells.entries := by
  rcases hg : c.cells.get? timeline with _ | times
  · rw [times, hg] at h
    exact absurd rfl h
  · rw [Context.times, hg]
    exact Keyed.get?_eq_some_iff.mp hg

/-! ## Times of 64 bits -/

theorem fits_iff : c.Fits ↔ ∀ timeline, ∀ t ∈ c.times timeline, IntegerType.int64.Holds t := by
  constructor
  · intro h timeline t ht
    rcases hg : c.cells.get? timeline with _ | times
    · rw [times, hg] at ht
      nomatch ht
    · rw [Context.times, hg] at ht
      exact h times (Keyed.mem_values_iff.mpr ⟨timeline, hg⟩) t ht
  · intro h times ht
    obtain ⟨timeline, hg⟩ := Keyed.mem_values_iff.mp ht
    have := h timeline
    rw [Context.times, hg] at this
    exact this

/-- A context fits 64 bits exactly if it did before and what was put in does. -/
theorem fits_addCells_iff :
    (c.addCells cells).Fits ↔ c.Fits ∧ ∀ e ∈ cells, IntegerType.int64.Holds e.2 := by
  simp only [fits_iff, times_addCells, List.forall_mem_append, forall_and, forall_timesIn_iff]

theorem fits_addCell_iff {time : Int} :
    (c.addCell timeline time).Fits ↔ c.Fits ∧ IntegerType.int64.Holds time := by
  have h : (c.addCells [(timeline, time)]).Fits ↔ _ := fits_addCells_iff
  rwa [List.forall_mem_singleton] at h

theorem fits_addMessageTimes_iff {m : Message} : (c.addMessageTimes m).Fits ↔ c.Fits ∧ m.Timed := by
  rw [addMessageTimes, fits_addCell_iff, fits_addCell_iff, and_assoc]
  exact and_congr_right fun _ => ⟨fun h => ⟨h.1, h.2⟩, fun h => ⟨h.logTime, h.publishTime⟩⟩

end Context

end FrameChunks
