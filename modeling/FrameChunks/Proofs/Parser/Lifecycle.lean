import FrameChunks.Proofs.Parser.Reachable

/-!
# Parsers are finalized once

A parser that was to be finalized refuses every later call, whether it returned chunks or failed, and
the refusal changes nothing. So all chunks of a parser come from one call, and they hold every row of
the messages taken before that call once.

## Main definitions

* `Invocation`: a call of a parser, with the context and the session of that moment
* `Parser.answers`: what comes of several calls
* `emitted`: the chunks that calls returned

## Main results

* `Parser.answers_of_finalized`: a finalized parser refuses all calls
* `Parser.emitted_of_stores`: the chunks of a parser
* `Parser.finalized_once`: both, for the runs of a new parser
-/

namespace FrameChunks

open Image Steps

/-! ## Calls -/

/-- What a parser can be asked for. -/
inductive Operation
  | append (m : Message)
  | finalize
  deriving DecidableEq

/-- A call of a parser, with the context and the session of that moment. -/
structure Invocation where
  operation : Operation
  context : Context
  session : Session

/-- What a step comes to, and the feed afterwards. -/
abbrev Answer := EStateM.Result Failure Feed (List Chunk)

namespace Operation

/-- The name that a refusal gives to it. -/
def call : Operation → ParserCall
  | append _ => .append
  | finalize => .finalize

/-- The step of a parser. Only finalizing returns chunks. -/
def step : Operation → Step (List Chunk)
  | append m => (fun _ => []) <$> Parser.append m
  | finalize => Parser.finalize

def row? : Operation → Option Row
  | append m => m.row?
  | finalize => none

end Operation

namespace Answer

def parser : Answer → Parser
  | .ok _ t => t.parser
  | .error _ t => t.parser

def chunks : Answer → List Chunk
  | .ok chunks _ => chunks
  | .error _ _ => []

end Answer

/-- The rows of the messages in front of the first call to finalize. -/
def rowsUntilFinalize (calls : List Invocation) : List Row :=
  (calls.takeWhile fun v => v.operation ≠ .finalize).filterMap fun v => v.operation.row?

/-- The chunks that calls returned, in order. -/
def emitted (answers : List Answer) : List Chunk := answers.flatMap Answer.chunks

namespace Parser

def answer (p : Parser) (v : Invocation) : Answer := v.operation.step ⟨p, v.context, v.session⟩

/-- What comes of calls, one after the other. -/
def answers (p : Parser) : List Invocation → List Answer
  | [] => []
  | v :: rest => p.answer v :: (p.answer v).parser.answers rest

def afterAll (p : Parser) (calls : List Invocation) : Parser :=
  calls.foldl (fun p v => (p.answer v).parser) p

/-- A call is refused because the parser is finalized. The feed is what it was. -/
def refused (p : Parser) (v : Invocation) : Answer :=
  .error (.plugin (.parserState (.finalized v.operation.call))) ⟨p, v.context, v.session⟩

variable {p : Parser} {rows : List Row}

section Answers

theorem answers_append (p : Parser) (calls more : List Invocation) :
    p.answers (calls ++ more) = p.answers calls ++ (p.afterAll calls).answers more := by
  induction calls generalizing p with
  | nil => rfl
  | cons v rest ih => simp [answers, afterAll, ih]

theorem length_answers (p : Parser) (calls : List Invocation) :
    (p.answers calls).length = calls.length := by
  induction calls generalizing p with
  | nil => rfl
  | cons v rest ih => simp [answers, ih]

theorem afterAll_concat (p : Parser) (calls : List Invocation) (v : Invocation) :
    p.afterAll (calls ++ [v]) = ((p.afterAll calls).answer v).parser := by
  simp [afterAll]

theorem parser_answer_append (p : Parser) (m : Message) (c : Context) (s : Session) :
    (p.answer ⟨.append m, c, s⟩).parser = p.after ⟨c, s, m⟩ := by
  rw [answer, Operation.step, after]
  rcases h : append m ⟨p, c, s⟩ with ⟨_, t⟩ | ⟨e, t⟩
  · rw [map_of_ok h]
    rfl
  · rw [map_of_error h]
    rfl

theorem chunks_answer_append (p : Parser) (m : Message) (c : Context) (s : Session) :
    (p.answer ⟨.append m, c, s⟩).chunks = [] := by
  rw [answer, Operation.step]
  rcases h : append m ⟨p, c, s⟩ with ⟨_, t⟩ | ⟨e, t⟩
  · rw [map_of_ok h]
    rfl
  · rw [map_of_error h]
    rfl

theorem parser_answer_finalize (p : Parser) (c : Context) (s : Session) :
    (p.answer ⟨.finalize, c, s⟩).parser = p.finished c s := by
  rw [finished]
  show Answer.parser (finalize ⟨p, c, s⟩) = _
  rcases finalize ⟨p, c, s⟩ with ⟨_, t⟩ | ⟨e, t⟩ <;> rfl

end Answers

/-! ## Finalized parsers -/

theorem answer_of_finalized (h : p.lifecycle = .finalized) (v : Invocation) :
    p.answer v = refused p v := by
  obtain ⟨operation, c, s⟩ := v
  cases operation with
  | append m => exact map_of_error (append_of_finalized h m c s)
  | finalize => exact finalize_of_finalized h c s

/-- A finalized parser refuses all calls, and stays what it is. -/
theorem answers_of_finalized (h : p.lifecycle = .finalized) (calls : List Invocation) :
    p.answers calls = calls.map (refused p) := by
  induction calls with
  | nil => rfl
  | cons v rest ih =>
    rw [answers, answer_of_finalized h v, List.map_cons]
    -- a refusal leaves the parser, so the others are asked of the same one
    exact congrArg _ ih

theorem emitted_refused (p : Parser) (calls : List Invocation) :
    emitted (calls.map (refused p)) = [] := by
  simp [emitted, refused, Answer.chunks]

theorem Reachable.answer (h : p.Reachable) (v : Invocation) : (p.answer v).parser.Reachable := by
  obtain ⟨operation, c, s⟩ := v
  cases operation with
  | append m =>
    rw [parser_answer_append]
    exact h.append _
  | finalize =>
    rw [parser_answer_finalize]
    exact h.finalize c s

theorem Reachable.afterAll (h : p.Reachable) (calls : List Invocation) :
    (p.afterAll calls).Reachable := by
  induction calls generalizing p with
  | nil => exact h
  | cons v rest ih => exact ih (h.answer v)

theorem Reachable.lifecycle_finished (h : p.Reachable) (c : Context) (s : Session) :
    (p.finished c s).lifecycle = .finalized := by
  rcases h.stores_or_finalized with ⟨rows, hp⟩ | hf
  · exact hp.lifecycle_finished c s
  · rw [finished_of_finalized hf]
    exact hf

/-- Behind a call to finalize there are only refusals. -/
theorem Reachable.answers_behind_finalize (h : p.Reachable) (before after : List Invocation)
    (c : Context) (s : Session) :
    (p.answers (before ++ ⟨.finalize, c, s⟩ :: after)).drop (before.length + 1) =
      after.map (refused (p.afterAll (before ++ [⟨.finalize, c, s⟩]))) := by
  have hfinalized : (p.afterAll (before ++ [⟨.finalize, c, s⟩])).lifecycle = .finalized := by
    rw [afterAll_concat, parser_answer_finalize]
    exact (h.afterAll before).lifecycle_finished c s
  have hlength : (p.answers (before ++ [⟨.finalize, c, s⟩])).length = before.length + 1 := by
    rw [length_answers, List.length_append, List.length_singleton]
  rw [List.append_cons, answers_append, answers_of_finalized hfinalized,
    List.drop_left' hlength]

/-! ## The chunks of a parser -/

theorem emitted_cons (a : Answer) (answers : List Answer) :
    emitted (a :: answers) = a.chunks ++ emitted answers := rfl

theorem rowsUntilFinalize_append (m : Message) (c : Context) (s : Session)
    (calls : List Invocation) : rowsUntilFinalize (⟨.append m, c, s⟩ :: calls) =
      m.row?.toList ++ rowsUntilFinalize calls := by
  rcases h : m.row? with _ | r <;> simp [rowsUntilFinalize, Operation.row?, h]

theorem rowsUntilFinalize_finalize (c : Context) (s : Session) (calls : List Invocation) :
    rowsUntilFinalize (⟨.finalize, c, s⟩ :: calls) = [] := by
  simp [rowsUntilFinalize]

/-- The chunks of one call to finalize: every row once in either of them, under different row ids. -/
structure HandedOver (rows : List Row) (images metadata : Chunk) : Prop where
  pixels : images.components.entries = imageColumns rows
  attributes : metadata.components.entries = metadataColumns rows
  lengths : images.rowIds.length = rows.length ∧ metadata.rowIds.length = rows.length
  rowIds : (images.rowIds ++ metadata.rowIds).Nodup

variable {c : Context} {s : Session}

theorem Stores.chunks_answer_finalize (hp : p.Stores rows) (c : Context) (s : Session) :
    (p.answer ⟨.finalize, c, s⟩).chunks = [] ∨ ∃ images metadata,
      (p.answer ⟨.finalize, c, s⟩).chunks = [images, metadata] ∧ HandedOver rows images metadata := by
  rw [answer, Operation.step]
  generalize h : finalize ⟨p, c, s⟩ = result
  cases hp.finalizes h with
  | chunks hc hl =>
    refine .inr ⟨_, _, rfl, entries_imageColumns rows, entries_metadataColumns rows, ?_, ?_⟩
    · exact ⟨List.length_range', List.length_range'⟩
    · rw [List.range'_append_1]
      exact List.nodup_range'
  | mismatch hc hl => exact .inl rfl
  | overflow hc => exact .inl rfl

/-- The chunks of a parser come from its first call to finalize, and hold the rows of the messages in
front of that. -/
theorem Stores.emitted_answers (hp : p.Stores rows) (calls : List Invocation) :
    emitted (p.answers calls) = [] ∨ ∃ images metadata,
      emitted (p.answers calls) = [images, metadata] ∧
        HandedOver (rows ++ rowsUntilFinalize calls) images metadata := by
  -- Induction on the calls, with the rows so far in front. The first call to finalize ends it.
  induction calls generalizing p rows with
  | nil => exact .inl rfl
  | cons v rest ih =>
    obtain ⟨operation, c, s⟩ := v
    rw [answers, emitted_cons]
    cases operation with
    | append m =>
      rw [chunks_answer_append, parser_answer_append, List.nil_append, rowsUntilFinalize_append,
        ← List.append_assoc]
      exact ih (hp.after _)
    | finalize =>
      have hfinalized := hp.lifecycle_finished c s
      rw [parser_answer_finalize, answers_of_finalized hfinalized, emitted_refused, List.append_nil,
        rowsUntilFinalize_finalize, List.append_nil]
      exact hp.chunks_answer_finalize c s

/-- In every run of a new parser, all calls behind a call to finalize are refused for coming too late,
and leave the parser, the context and the session exactly as they were. So the run has at most one
pair of chunks, and every row of the messages taken before the first call to finalize stands once in
each of the two. -/
theorem finalized_once {timeline : String} {logEvery capacity : Int} {ids : IdSource}
    (hcreate : create timeline logEvery capacity ids = .ok p) :
    (∀ before c s after,
      (p.answers (before ++ ⟨.finalize, c, s⟩ :: after)).drop (before.length + 1) =
        after.map (refused (p.afterAll (before ++ [⟨.finalize, c, s⟩])))) ∧
    ∀ calls, emitted (p.answers calls) = [] ∨ ∃ images metadata,
      emitted (p.answers calls) = [images, metadata] ∧
        HandedOver (rowsUntilFinalize calls) images metadata := by
  constructor
  · intro before c s after
    exact (Reachable.create hcreate).answers_behind_finalize before after c s
  · intro calls
    exact (stores_create hcreate).emitted_answers calls

/-- The call with a message that has the frame of one pixel. -/
def pixelAppend : Invocation :=
  ⟨.append ⟨⟨"cam", schemaName⟩, 0, 0, 0, some pixelPayload⟩, ⟨"/cam", .empty⟩, {}⟩

/-- The call to finalize with a context that has one stamp. -/
def pixelFinalize : Invocation :=
  ⟨.finalize, (⟨"/cam", .empty⟩ : Context).addCell "timestamp" 5, {}⟩

/-- When a parser with one row was finalized, the same two calls are refused. The run has one pair of
chunks, of one row. -/
theorem finalized_once_pixelCalls : ∃ p, create "timestamp" 0 0 .session = .ok p ∧
    (p.answers [pixelAppend, pixelFinalize, pixelAppend, pixelFinalize]).drop 2 =
      [refused (p.afterAll [pixelAppend, pixelFinalize]) pixelAppend,
        refused (p.afterAll [pixelAppend, pixelFinalize]) pixelFinalize] ∧
    ∃ images metadata,
      emitted (p.answers [pixelAppend, pixelFinalize, pixelAppend, pixelFinalize]) =
        [images, metadata] ∧ images.rowIds.length = 1 := by
  obtain ⟨p, hcreate, -, -, hp⟩ := exists_create (Int.le_refl 0) "timestamp" 0 .session
  obtain ⟨hrefused, hemitted⟩ := finalized_once hcreate
  refine ⟨p, hcreate, hrefused [pixelAppend] _ _ [pixelAppend, pixelFinalize], ?_⟩
  rcases hemitted [pixelAppend, pixelFinalize, pixelAppend, pixelFinalize] with
    hnil | ⟨images, metadata, h, hover⟩
  · -- the first call to finalize has one stamp for one row, so it returns chunks
    have hstores := hp.after ⟨⟨"/cam", .empty⟩, {}, ⟨⟨"cam", schemaName⟩, 0, 0, 0, some pixelPayload⟩⟩
    rw [Message.row?_of_pixelPayload rfl] at hstores
    obtain ⟨notes, hok⟩ := finalize_of_agree hstores (s := {})
      (c := (⟨"/cam", .empty⟩ : Context).addCell "timestamp" 5) (by decide) (by decide) rfl rfl
    have hfinalize : Answer.chunks ((p.answer pixelAppend).parser.answer pixelFinalize) ≠ [] := by
      rw [pixelAppend, parser_answer_append]
      show Answer.chunks (finalize ⟨_, (⟨"/cam", .empty⟩ : Context).addCell "timestamp" 5, {}⟩) ≠ []
      rw [hok]
      exact List.cons_ne_nil _ _
    rw [answers, answers, emitted_cons, emitted_cons, List.append_eq_nil_iff,
      List.append_eq_nil_iff] at hnil
    exact absurd hnil.2.1 hfinalize
  · have hrows : rowsUntilFinalize [pixelAppend, pixelFinalize, pixelAppend, pixelFinalize] =
        [⟨pixelFrame, ⟨1, 1, .color .l .u8⟩⟩] := by
      rw [pixelAppend, rowsUntilFinalize_append, pixelFinalize, rowsUntilFinalize_finalize,
        Message.row?_of_pixelPayload rfl]
      rfl
    have hlength := hover.lengths.1
    rw [hrows] at hlength
    exact ⟨images, metadata, h, hlength⟩

end Parser

end FrameChunks
