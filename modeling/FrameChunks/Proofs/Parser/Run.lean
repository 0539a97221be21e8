import FrameChunks.Proofs.Parser.Append

/-!
# What a parser holds after any number of messages

The rows of a parser are kept in seven collections and a flag. After any messages, with any
contexts, they all hold the rows of the messages that have one, in the order of the messages.

## Main definitions

* `Call`, `Parser.after`, `Parser.run`: a message with a context, and the parser after one or more
* `rowsOf`: the rows of the messages that have one
* `Parser.Stores`: the collections and the flag hold the given rows

## Main results

* `Parser.exists_create`, `Parser.stores_create`: a new parser holds no rows
* `Parser.Stores.after`: one message keeps the collections in step
* `Parser.Stores.run`: so do any messages
-/

namespace FrameChunks

open Image

/-- A message for a parser, with the context and the session of that moment. -/
structure Call where
  context : Context
  session : Session
  message : Message

/-- The rows of the messages that have one. -/
def rowsOf (calls : List Call) : List Row := calls.filterMap fun c => c.message.row?

/-- A row that a message can have: the numbers fit, and the format is that of the encoding. -/
structure Row.Valid (r : Row) : Prop where
  sized : r.frame.Sized
  resolved : resolve r.frame.encoding r.frame.width r.frame.height = .ok r.format

theorem Message.valid_of_row? {m : Message} {r : Row} (h : m.row? = some r) : r.Valid := by
  obtain ⟨payload, -, hd, hr⟩ := row?_eq_some_iff.mp h
  exact ⟨Frame.sized_of_decode hd, hr⟩

/-- Whether the last row is filed as a depth image. -/
def lastIsDepth (rows : List Row) : Bool := rows.getLast?.any fun r => r.format.layout.isDepth

theorem rowsOf_cons (c : Call) (calls : List Call) :
    rowsOf (c :: calls) = c.message.row?.toList ++ rowsOf calls := by
  rw [rowsOf, List.filterMap_cons]
  rcases c.message.row? with _ | r <;> rfl

/-- Builders without rows. -/
theorem Metadata.exists_builders {capacity : Int} (h : 0 ≤ capacity) :
    ∃ m, builders capacity = .ok m ∧ m.Typed ∧ ∀ a, (m.get a).values = #[] := by
  let empty (e : Column.ElementType) : Column.Builder :=
    ⟨e, 1, Nat.one_pos, capacity.toNat, #[]⟩
  have hc (e : Column.ElementType) :
      Column.Builder.create (.element e) 1 capacity = .ok (empty e) :=
    Column.Builder.create_one h e
  refine ⟨⟨empty (.integer .uint32), empty (.integer .uint32), empty .text,
    empty (.integer .uint32), empty (.integer .uint32)⟩, ?_, fun a => ?_, fun a => ?_⟩
  · simp only [builders, Attribute.type, Column.DataType.integer, Column.DataType.text, hc]
    rfl
  · cases a <;> exact ⟨rfl, rfl⟩
  · cases a <;> rfl

theorem Metadata.builders_of_negative {capacity : Int} (h : capacity < 0) :
    builders capacity = .error .negativeCapacity := by
  simp only [builders, Column.Builder.create_of_negative h]
  rfl

namespace Parser

/-- The parser after a message, whether the message was taken or not. -/
def after (p : Parser) (c : Call) : Parser :=
  match append c.message ⟨p, c.context, c.session⟩ with
  | .ok _ s => s.parser
  | .error _ s => s.parser

/-- The parser after messages, one after the other. -/
def run (p : Parser) (calls : List Call) : Parser := calls.foldl after p

/-- The collections of a parser hold the rows, each in its own way, and the flag is that of the last
row. -/
structure Stores (p : Parser) (rows : List Row) : Prop where
  ready : p.Ready
  blobs : p.blobs = rows.map fun r => r.frame.data
  formats : p.formats = rows.map Row.format
  values : ∀ a : Attribute, (p.metadata.get a).values.toList = rows.map fun r => a.value r.frame
  isDepth : p.isDepth = lastIsDepth rows
  valid : ∀ r ∈ rows, r.Valid

variable {p : Parser} {rows : List Row} {r : Row}

/-- A parser is made whenever the number of rows to expect is not negative. -/
theorem exists_create {capacity : Int} (h : 0 ≤ capacity) (timeline : String) (logEvery : Int)
    (ids : IdSource) : ∃ p, create timeline logEvery capacity ids = .ok p ∧
      p.timeline = timeline ∧ p.ids = ids ∧ p.Stores [] := by
  obtain ⟨m, hb, ht, hv⟩ := Metadata.exists_builders h
  refine ⟨⟨timeline, logEvery, ids, .accumulating, false, [], [], m⟩, ?_, rfl, rfl,
    ⟨rfl, ht⟩, rfl, rfl, ?_, rfl, List.forall_mem_nil _⟩
  · rw [create, hb]
    rfl
  · intro a
    show (m.get a).values.toList = []
    rw [hv]

/-- A new parser holds no rows. -/
theorem stores_create {timeline : String} {logEvery capacity : Int} {ids : IdSource}
    (h : create timeline logEvery capacity ids = .ok p) : p.Stores [] := by
  rcases Int.lt_or_le capacity 0 with hc | hc
  · rw [create, Metadata.builders_of_negative hc] at h
    nomatch h
  · obtain ⟨q, hq, -, -, hs⟩ := exists_create hc timeline logEvery ids
    obtain rfl := Except.ok.inj (h.symm.trans hq)
    exact hs

theorem Stores.push (h : p.Stores rows) (hr : r.Valid) : (p.push r).Stores (rows ++ [r]) := by
  refine ⟨h.ready.push r, ?_, ?_, ?_, ?_, ?_⟩
  · rw [List.map_append, ← h.blobs]
    rfl
  · rw [List.map_append, ← h.formats]
    rfl
  · intro a
    show ((p.metadata.push r.frame).get a).values.toList = _
    rw [Metadata.get_push, Column.Builder.toList_values_push, h.values a, List.map_append]
    rfl
  · rw [lastIsDepth, List.getLast?_concat]
    rfl
  · intro q hq
    rcases List.mem_append.mp hq with hq | hq
    · exact h.valid q hq
    · rw [List.mem_singleton.mp hq]
      exact hr

/-- A parser after a message: one row more if the message has one, and otherwise the same. -/
theorem after_eq (hp : p.Ready) (c : Call) :
    p.after c = match c.message.row? with
      | some r => p.push r
      | none => p := by
  rcases hm : c.message.row? with _ | r
  · obtain ⟨e, t, -, h⟩ := append_of_no_row hp hm c.context c.session
    rw [after, h]
  · obtain ⟨t, -, h⟩ := append_of_row hp hm c.context c.session
    rw [after, h]

/-- One message keeps the collections in step. -/
theorem Stores.after (h : p.Stores rows) (c : Call) :
    (p.after c).Stores (rows ++ c.message.row?.toList) := by
  rw [after_eq h.ready]
  rcases hm : c.message.row? with _ | r
  · rw [Option.toList_none, List.append_nil]
    exact h
  · exact h.push (Message.valid_of_row? hm)

/-- Any messages keep the collections in step. -/
theorem Stores.run (h : p.Stores rows) (calls : List Call) :
    (p.run calls).Stores (rows ++ rowsOf calls) := by
  -- Induction on the calls, with the rows so far in front.
  induction calls generalizing p rows with
  | nil =>
    rw [rowsOf, List.filterMap_nil, List.append_nil]
    exact h
  | cons c rest ih =>
    rw [rowsOf_cons, ← List.append_assoc]
    exact ih (h.after c)

end Parser

end FrameChunks
