import FrameChunks.Proofs.Parser.Finalize
import FrameChunks.Proofs.Timeline

/-!
# Parsers that take a message or leave everything as it was

A parser comes about by its creation and by calls, any of which may fail. As long as it takes
messages it holds rows, all collections in step. A message is then either taken as a whole, or it is
refused for what is wrong with its payload and changes neither the parser nor the context.

A stamp goes to the context before the columns are filled, and nothing is taken back when a column
refuses its value. It is enough that no column does: what decoding gives fits every one of them.

## Main definitions

* `Parser.Reachable`: the parsers that come about
* `Parser.Grows`: a parser has one row more than another
* `Context.Extends`: a context has one time more than another

## Main results

* `Parser.Reachable.stores`: a parser that takes messages holds rows
* `Parser.append_atomic`: a message is taken as a whole, or refused without a trace
-/

namespace FrameChunks

open Image Steps

namespace Parser

/-! ## The parsers that come about -/

/-- The parser after it was to be finalized, whether that succeeded or not. -/
def finished (p : Parser) (c : Context) (s : Session) : Parser :=
  match finalize ⟨p, c, s⟩ with
  | .ok _ t => t.parser
  | .error _ t => t.parser

/-- The parsers that come about by creation and by any calls, with any contexts and sessions. -/
inductive Reachable : Parser → Prop
  | create {timeline : String} {logEvery capacity : Int} {ids : IdSource} {p : Parser}
    (h : create timeline logEvery capacity ids = .ok p) : Reachable p
  | append {p : Parser} (h : Reachable p) (call : Call) : Reachable (p.after call)
  | finalize {p : Parser} (h : Reachable p) (c : Context) (s : Session) : Reachable (p.finished c s)

variable {p : Parser} {rows : List Row}

/-- A parser that was to be finalized takes no more messages, also if there are no chunks. -/
theorem Stores.lifecycle_finished (hp : p.Stores rows) (c : Context) (s : Session) :
    (p.finished c s).lifecycle = .finalized := by
  rw [finished]
  generalize h : finalize ⟨p, c, s⟩ = result
  cases hp.finalizes h <;> rfl

theorem after_of_finalized (h : p.lifecycle = .finalized) (call : Call) : p.after call = p := by
  rw [after, append_of_finalized h]

theorem finished_of_finalized (h : p.lifecycle = .finalized) (c : Context) (s : Session) :
    p.finished c s = p := by
  rw [finished, finalize_of_finalized h]

/-- No call gets the collections of a parser out of step before it is finalized. -/
theorem Reachable.stores_or_finalized (h : p.Reachable) :
    (∃ rows, p.Stores rows) ∨ p.lifecycle = .finalized := by
  induction h with
  | create h => exact .inl ⟨[], stores_create h⟩
  | append h call ih =>
    rcases ih with ⟨rows, hp⟩ | hf
    · exact .inl ⟨_, hp.after call⟩
    · rw [after_of_finalized hf]
      exact .inr hf
  | finalize h c s ih =>
    rcases ih with ⟨rows, hp⟩ | hf
    · exact .inr (hp.lifecycle_finished c s)
    · rw [finished_of_finalized hf]
      exact .inr hf

/-- A parser that takes messages holds rows. -/
theorem Reachable.stores (h : p.Reachable) (ha : p.lifecycle = .accumulating) :
    ∃ rows, p.Stores rows := by
  rcases h.stores_or_finalized with hp | hf
  · exact hp
  · rw [hf] at ha
    nomatch ha

theorem Reachable.run (h : p.Reachable) (calls : List Call) : (p.run calls).Reachable := by
  induction calls generalizing p with
  | nil => exact h
  | cons call rest ih => exact ih (h.append call)

/-! ## Messages and notes -/

section Noted

variable {m : Message} {c : Context} {s : Session} {e : Failure} {t : Feed}

/-- A message leaves notes at most. -/
theorem append_cases (hp : p.Reachable) (m : Message) (c : Context) (s : Session) :
    (∃ t : Feed, s.Noted t.session ∧ append m ⟨p, c, s⟩ = .ok () t) ∨
      ∃ e, ∃ t : Feed, s.Noted t.session ∧ append m ⟨p, c, s⟩ = .error e t := by
  rcases hp.stores_or_finalized with ⟨rows, hstores⟩ | hf
  · rcases hr : m.row? with _ | r
    · obtain ⟨e, t, ht, h⟩ := append_of_no_row hstores.ready hr c s
      exact .inr ⟨e, _, ht, h⟩
    · obtain ⟨t, ht, h⟩ := append_of_row hstores.ready hr c s
      exact .inl ⟨_, ht, h⟩
  · exact .inr ⟨_, _, Session.Noted.refl s, append_of_finalized hf m c s⟩

theorem noted_of_append_ok (hp : p.Reachable)
    (h : append m ⟨p, c, s⟩ = .ok () t) : s.Noted t.session := by
  rcases append_cases hp m c s with ⟨u, hu, hok⟩ | ⟨e, u, hu, herror⟩
  · obtain ⟨-, rfl⟩ := EStateM.Result.ok.inj (hok.symm.trans h)
    exact hu
  · nomatch herror.symm.trans h

theorem noted_of_append_error (hp : p.Reachable)
    (h : append m ⟨p, c, s⟩ = .error e t) : s.Noted t.session := by
  rcases append_cases hp m c s with ⟨u, hu, hok⟩ | ⟨e', u, hu, herror⟩
  · nomatch hok.symm.trans h
  · obtain ⟨rfl, rfl⟩ := EStateM.Result.error.inj (herror.symm.trans h)
    exact hu

end Noted

/-! ## One more row -/

/-- The parser `q` is `p` with one more row in each of its collections. -/
structure Grows (p q : Parser) (r : Row) : Prop where
  blobs : q.blobs = p.blobs ++ [r.frame.data]
  formats : q.formats = p.formats ++ [r.format]
  values : ∀ a : Attribute, (q.metadata.get a).values.toList =
    (p.metadata.get a).values.toList ++ [a.value r.frame]
  lengths : q.lengths = p.lengths.map fun l => (l.1, l.2 + 1)
  isDepth : q.isDepth = r.format.layout.isDepth
  lifecycle : q.lifecycle = p.lifecycle

theorem grows_push (hp : p.Ready) (r : Row) : p.Grows (p.push r) r := by
  have hl (a : Attribute) :
      ((p.metadata.push r.frame).get a).length = (p.metadata.get a).length + 1 := by
    rw [Metadata.get_push, Column.Builder.length_push (hp.typed a).2]
  refine ⟨rfl, rfl, ?_, ?_, rfl, rfl⟩
  · intro a
    show ((p.metadata.push r.frame).get a).values.toList = _
    rw [Metadata.get_push, Column.Builder.toList_values_push]
  · simp only [lengths, push, hl, List.map_cons, List.map_map, List.length_append,
      List.length_singleton, Function.comp_def]

end Parser

/-- The context `d` is `c` with one more time at the end of a timeline, which begins with it if it
was not there. -/
structure Context.Extends (c d : Context) (timeline : String) (time : Int) : Prop where
  entityPath : d.entityPath = c.entityPath
  keys : d.cells.keys =
    if timeline ∈ c.cells.keys then c.cells.keys else c.cells.keys ++ [timeline]
  times : d.cells.get? timeline = some ((c.cells.get? timeline).getD [] ++ [time])
  others : ∀ other ≠ timeline, d.cells.get? other = c.cells.get? other

theorem Context.extends_addCell (c : Context) (timeline : String) (time : Int) :
    c.Extends (c.addCell timeline time) timeline time := by
  refine ⟨rfl, ?_, ?_, ?_⟩
  · by_cases h : timeline ∈ c.cells.keys
    · rw [if_pos h]
      exact keys_addCell_of_mem h time
    · rw [if_neg h]
      exact keys_addCell_of_not_mem h time
  · rw [get?_cells_addCell, if_pos rfl]
  · intro other ho
    rw [get?_cells_addCell, if_neg ho]

namespace Parser

/-- A message with a payload is taken, and then every collection of the parser has one row more and
the timeline of the parser one stamp more; or the payload is refused, and the parser and the context
are as before. In either case the session has notes at most to show for it. No column refuses a
value of a frame that was decoded. -/
theorem append_atomic {p : Parser} {m : Message} {payload : Bytes} (hp : p.Reachable)
    (ha : p.lifecycle = .accumulating) (hm : m.payload = some payload) (c : Context) (s : Session) :
    ((∃ r q d t, Frame.decode payload = .ok r.frame ∧ append m ⟨p, c, s⟩ = .ok () ⟨q, d, t⟩ ∧
        p.Grows q r ∧ c.Extends d p.timeline r.frame.timestamp ∧ s.Noted t) ∨
      ∃ error t, Refusal payload error ∧
        append m ⟨p, c, s⟩ = .error (.plugin error) ⟨p, c, t⟩ ∧ s.Noted t) ∧
      ∀ frame format, Frame.decode payload = .ok frame →
        ∃ t, Step.putRow frame format ⟨p, c, s⟩ = .ok () t := by
  obtain ⟨rows, hstores⟩ := hp.stores ha
  have hready := hstores.ready
  constructor
  · rcases hr : m.row? with _ | r
    · obtain ⟨error, t, hrefusal, ht, h⟩ := append_of_refusal hready hm hr c s
      exact .inr ⟨error, t, hrefusal, h, ht⟩
    · obtain ⟨payload', hm', hd, -⟩ := Message.row?_eq_some_iff.mp hr
      obtain rfl : payload = payload' := Option.some.inj (hm.symm.trans hm')
      obtain ⟨t, ht, h⟩ := append_of_row hready hr c s
      exact .inl ⟨r, _, _, t, hd, h, grows_push hready r, c.extends_addCell _ _, ht⟩
  · intro frame format hd
    exact ⟨_, Step.putRow_eq (r := ⟨frame, format⟩) (Frame.sized_of_decode hd) hready.typed⟩

/-- A new parser takes the frame of one pixel as its first row. -/
theorem append_atomic_pixelPayload : ∃ p : Parser, p.Reachable ∧ p.lifecycle = .accumulating ∧
    ∃ q d t, append ⟨⟨"cam", schemaName⟩, 0, 0, 0, some pixelPayload⟩ ⟨p, ⟨"/cam", .empty⟩, {}⟩ =
        .ok () ⟨q, d, t⟩ ∧
      q.lengths = p.lengths.map (fun l => (l.1, l.2 + 1)) ∧
      d.cells.get? "timestamp" = some [5] := by
  obtain ⟨p, hcreate, htimeline, -, hp⟩ := exists_create (Int.le_refl 0) "timestamp" 0 .session
  have hreachable := Reachable.create hcreate
  obtain ⟨h, -⟩ := append_atomic
    (m := ⟨⟨"cam", schemaName⟩, 0, 0, 0, some pixelPayload⟩) hreachable hp.ready.lifecycle rfl
    ⟨"/cam", .empty⟩ {}
  refine ⟨p, hreachable, hp.ready.lifecycle, ?_⟩
  rcases h with ⟨r, q, d, t, hd, happend, hgrows, hextends, -⟩ | ⟨error, t, hrefusal, -⟩
  · have hframe : pixelFrame = r.frame := Except.ok.inj (decode_pixelPayload.symm.trans hd)
    rw [htimeline, ← hframe] at hextends
    exact ⟨q, d, t, happend, hgrows.lengths, hextends.times⟩
  · -- The payload is decoded, and the encoding is known.
    rcases hrefusal with hd | ⟨hd, hl⟩
    · nomatch decode_pixelPayload.symm.trans hd
    · obtain rfl := Except.ok.inj (decode_pixelPayload.symm.trans hd)
      nomatch hl

end Parser

end FrameChunks
