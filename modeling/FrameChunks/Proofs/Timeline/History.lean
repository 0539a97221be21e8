import FrameChunks.Proofs.Timeline

/-!
# What contexts remember

Whatever is asked of a context, in any order, it has a timeline for every name that was used, the
name that was used first in front, with the times that went to this name. A value that is no time
leaves a name behind and no time. Finishing the timelines leaves the context as it is, also when a
time does not fit 64 bits.

## Main definitions

* `Context.Operation`, `Context.perform`: what may be asked of a context, and what comes of it
* `Context.history`: the context after several operations
* `Context.Remembers`: a context with the timelines of some names and the times of some cells
* `Context.Records`: a context that is a record of operations

## Main results

* `Context.perform_of_error`: a value that is no time
* `Context.get?_perform`: an operation and the timelines that it does not name
* `Context.Remembers.perform`, `Context.Remembers.history`: one operation, and any
* `Context.history_records`: a context is a record of what was asked of it
-/

namespace FrameChunks

open Column

/-- Of the members of a list one more counts only if it is not there yet. -/
theorem eraseDups_concat {α : Type} [DecidableEq α] (l : List α) (a : α) :
    (l ++ [a]).eraseDups = if a ∈ l then l.eraseDups else l.eraseDups ++ [a] := by
  rw [List.eraseDups_append]
  by_cases h : a ∈ l <;> simp [h, List.removeAll, List.eraseDups_cons]

namespace Context

/-! ## Operations -/

/-- What may be asked of a context. -/
inductive Operation
  /-- A value for a timeline. -/
  | value (timeline : String) (value : Column.Value)
  /-- The times of a message. -/
  | message (m : Message)
  /-- The finished timelines. -/
  | build

/-- What a context answers. -/
inductive Answer
  | added (result : Except TimeError Unit)
  | built (result : Except Failure Timelines)

/-- What comes of an operation. -/
structure Outcome where
  answer : Answer
  context : Context
  session : Session

namespace Operation

/-- The timelines that an operation names. -/
def names : Operation → List String
  | value timeline _ => [timeline]
  | message _ => [logTime, publishTime]
  | build => []

/-- The times that an operation brings. A value that is no time brings none. -/
def cells : Operation → List Cell
  | value timeline v =>
    match v.toTime with
    | .ok time => [(timeline, time)]
    | .error _ => []
  | message m => [(logTime, m.logTime), (publishTime, m.publishTime)]
  | build => []

end Operation

/-- One operation on a context. -/
def perform (c : Context) (s : Session) : Operation → Outcome
  | .value timeline v => ⟨.added (c.addValue timeline v).1, (c.addValue timeline v).2, s⟩
  | .message m => ⟨.added (.ok ()), c.addMessageTimes m, s⟩
  | .build =>
    match c.buildTimelines s with
    | .ok (timelines, t) => ⟨.built (.ok timelines), c, t⟩
    | .error e => ⟨.built (.error e), c, s⟩

/-- The context after several operations, one after the other. -/
def history (c : Context) (s : Session) : List Operation → Context
  | [] => c
  | op :: rest => history (c.perform s op).context (c.perform s op).session rest

section OneOperation

variable {v : Column.Value} {time : Int} {e : TimeError}

theorem addValue_of_ok (h : v.toTime = .ok time) (c : Context) (timeline : String) :
    c.addValue timeline v = (.ok (), c.addCell timeline time) := by
  rw [addValue, h]

theorem addValue_of_error (h : v.toTime = .error e) (c : Context) (timeline : String) :
    c.addValue timeline v = (.error e, c.openTimeline timeline) := by
  rw [addValue, h]

/-- A value that is no time is refused. The timeline is there all the same, and nothing else has
changed. -/
theorem perform_of_error (h : v.toTime = .error e) (c : Context) (s : Session)
    (timeline : String) :
    (c.perform s (.value timeline v)).answer = .added (.error e) ∧
      (c.perform s (.value timeline v)).context.cells.entries =
        if timeline ∈ c.cells.keys then c.cells.entries
        else c.cells.entries ++ [(timeline, [])] := by
  rw [perform, addValue_of_error h]
  exact ⟨rfl, c.cells.entries_update_id timeline []⟩

/-- An operation changes nothing about the timelines that it does not name. -/
theorem get?_perform {op : Operation} {other : String} (h : other ∉ op.names) (c : Context)
    (s : Session) : (c.perform s op).context.cells.get? other = c.cells.get? other := by
  cases op with
  | value timeline v =>
    have hne : other ≠ timeline := List.ne_of_not_mem_cons h
    rcases ht : v.toTime with e | time
    · rw [perform, addValue_of_error ht, openTimeline, Keyed.get?_update, if_neg hne]
    · rw [perform, addValue_of_ok ht, get?_cells_addCell, if_neg hne]
  | message m =>
    obtain ⟨hlog, hrest⟩ := List.ne_and_not_mem_of_not_mem_cons h
    rw [perform, addMessageTimes, get?_cells_addCell, if_neg (List.ne_of_not_mem_cons hrest),
      get?_cells_addCell, if_neg hlog]
  | build =>
    rw [perform]
    split <;> rfl

theorem perform_build (c : Context) (s : Session) :
    (c.perform s .build).answer = .built (if c.Fits then .ok c.cells else .error .overflow) ∧
      (c.perform s .build).context = c := by
  rw [perform, buildTimelines, timelines]
  by_cases h : c.Fits
  · rw [if_pos h]
    exact ⟨rfl, rfl⟩
  · rw [if_neg h]
    exact ⟨rfl, rfl⟩

end OneOperation

variable {c : Context} {names : List String} {cells : List Cell}

/-! ## Names and cells -/

/-- The timelines of a context are those of the names, in the order in which these came, and hold
the times of the cells. -/
structure Remembers (c : Context) (names : List String) (cells : List Cell) : Prop where
  keys : c.cells.keys = names.eraseDups
  times : ∀ timeline, c.times timeline = timesIn timeline cells

namespace Remembers

theorem start (entityPath : String) : (⟨entityPath, .empty⟩ : Context).Remembers [] [] :=
  ⟨rfl, fun _ => rfl⟩

/-- The keys of a context are the names, each once. -/
theorem keys_update (h : c.Remembers names cells) (timeline : String)
    (f : List Int → List Int) :
    (c.cells.update timeline [] f).keys = (names ++ [timeline]).eraseDups := by
  rw [Keyed.keys_update, eraseDups_concat, h.keys]
  simp only [List.mem_eraseDups]

theorem addCell (h : c.Remembers names cells) (timeline : String) (time : Int) :
    (c.addCell timeline time).Remembers (names ++ [timeline]) (cells ++ [(timeline, time)]) := by
  refine ⟨h.keys_update timeline _, ?_⟩
  intro other
  rw [times_addCell, timesIn_append, h.times, h.times]
  split
  · next he =>
    rw [he, timesIn_cons_self]
    rfl
  · next he =>
    rw [timesIn_cons_of_ne (Ne.symm he)]
    exact (List.append_nil _).symm

theorem openTimeline (h : c.Remembers names cells) (timeline : String) :
    (c.openTimeline timeline).Remembers (names ++ [timeline]) cells := by
  refine ⟨h.keys_update timeline _, ?_⟩
  intro other
  rw [← h.times, Context.times, Context.openTimeline, Keyed.get?_update]
  split
  · next he =>
    rw [he]
    rfl
  · rfl

/-- An operation brings its names and its cells. -/
theorem perform (h : c.Remembers names cells) (s : Session) (op : Operation) :
    (c.perform s op).context.Remembers (names ++ op.names) (cells ++ op.cells) := by
  cases op with
  | value timeline v =>
    rcases ht : v.toTime with e | time
    · rw [Context.perform, addValue_of_error ht, Operation.cells, ht, List.append_nil]
      exact h.openTimeline timeline
    · rw [Context.perform, addValue_of_ok ht, Operation.cells, ht]
      exact h.addCell timeline time
  | message m =>
    have hboth := (h.addCell logTime m.logTime).addCell publishTime m.publishTime
    rw [List.append_assoc, List.append_assoc] at hboth
    exact hboth
  | build =>
    rw [Operation.names, Operation.cells, List.append_nil, List.append_nil, Context.perform]
    split <;> exact h

/-- Operations bring their names and their cells one after the other. -/
theorem history (h : c.Remembers names cells) (s : Session) (operations : List Operation) :
    (c.history s operations).Remembers (names ++ operations.flatMap Operation.names)
      (cells ++ operations.flatMap Operation.cells) := by
  -- Induction on the operations: the rest starts from what the context remembers after the first.
  induction operations generalizing c s names cells with
  | nil =>
    rw [List.flatMap_nil, List.flatMap_nil, List.append_nil, List.append_nil]
    exact h
  | cons op rest ih =>
    rw [List.flatMap_cons, List.flatMap_cons, ← List.append_assoc, ← List.append_assoc]
    exact ih (h.perform s op) _

theorem fits_iff (h : c.Remembers names cells) :
    c.Fits ↔ ∀ e ∈ cells, -2 ^ 63 ≤ e.2 ∧ e.2 < 2 ^ 63 := by
  simp only [Context.fits_iff, h.times, forall_timesIn_iff, IntegerType.holds_int64_iff]

end Remembers

/-! ## Any operations -/

/-- A context that is a record of operations. -/
structure Records (c : Context) (operations : List Operation) : Prop where
  /-- The names come in the order in which they were used first, each with what went to it. -/
  entries : c.cells.entries = (operations.flatMap Operation.names).eraseDups.map fun timeline =>
    (timeline, timesIn timeline (operations.flatMap Operation.cells))
  /-- Finishing the timelines fails for times that do not fit 64 bits, and changes nothing. -/
  build : ∀ s, (c.perform s .build).context = c ∧ (c.perform s .build).answer =
    .built (if ∀ e ∈ operations.flatMap Operation.cells, -2 ^ 63 ≤ e.2 ∧ e.2 < 2 ^ 63
      then .ok c.cells else .error .overflow)
  /-- A value that is no time changes no timeline. Its own one is there, empty if it is new. -/
  refused : ∀ s timeline v e, v.toTime = .error e →
    (c.perform s (.value timeline v)).answer = .added (.error e) ∧
      (c.perform s (.value timeline v)).context.cells.entries =
        if timeline ∈ c.cells.keys then c.cells.entries else c.cells.entries ++ [(timeline, [])]
  /-- No operation changes a timeline that it does not name. -/
  others : ∀ s op other, other ∉ op.names →
    (c.perform s op).context.cells.get? other = c.cells.get? other

/-- Whatever was asked of a new context, it is a record of that. -/
theorem history_records (entityPath : String) (s : Session) (operations : List Operation) :
    (history ⟨entityPath, .empty⟩ s operations).Records operations := by
  have h := (Remembers.start entityPath).history s operations
  rw [List.nil_append, List.nil_append] at h
  constructor
  · rw [entries_cells, h.keys]
    simp only [h.times]
  · intro t
    obtain ⟨hanswer, hcontext⟩ := perform_build (history ⟨entityPath, .empty⟩ s operations) t
    simp only [h.fits_iff] at hanswer
    exact ⟨hcontext, hanswer⟩
  · intro t timeline v e he
    exact perform_of_error he _ t timeline
  · intro t op other ho
    exact get?_perform ho _ t

end Context

end FrameChunks
