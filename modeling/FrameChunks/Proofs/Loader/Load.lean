import FrameChunks.Loader
import FrameChunks.Proofs.Parser.Finalize
import FrameChunks.Proofs.Timeline

/-!
# What loaders make of messages

A loader that passes over what its parser refuses, or has nothing to pass over, gets to the end of
the messages. The parser then holds the rows of the messages that have one, and the context their
times. What comes of that, and what it does to the session but for notes, is the reference result
for the rows and the times.

## Main definitions

* `Taken`, `takenOf`: the messages that have rows
* `contextOf`: the context with their times
* `Loader.Tolerates`: no message ends the loading
* `Loader.result`: the reference result
* `Loader.outcome`: what a loader returns, and what it did to the session but for notes

## Main results

* `Loader.feed_cons_of_ok`, `Loader.feed_cons_of_skip`, `Loader.feed_cons_of_abort`,
  `Loader.feed_cons_of_fatal`: one message
* `Loader.feed_of_tolerates`: any messages
* `Loader.outcome_load`: loading gives the reference result
-/

namespace FrameChunks

open Image Steps

/-! ## Messages with rows -/

/-- A message that has a row. -/
structure Taken where
  message : Message
  row : Row

/-- The messages that have rows. -/
def takenOf (messages : List Message) : List Taken :=
  messages.filterMap fun m => m.row?.map fun r => ⟨m, r⟩

/-- The times of a message: its stamp, and when it was recorded and sent. -/
def Taken.cells (timeline : String) (e : Taken) : List Cell :=
  [(timeline, e.row.frame.timestamp), (Context.logTime, e.message.logTime),
    (Context.publishTime, e.message.publishTime)]

/-- The times of several messages, one message after the other. -/
def cellsOf (timeline : String) (taken : List Taken) : List Cell :=
  taken.flatMap (Taken.cells timeline)

/-- The context of a channel whose messages were taken. -/
def contextOf (path timeline : String) (taken : List Taken) : Context :=
  (⟨path, .empty⟩ : Context).addCells (cellsOf timeline taken)

section TakenOf

variable {m : Message} {r : Row}

theorem takenOf_cons_of_row (h : m.row? = some r) (rest : List Message) :
    takenOf (m :: rest) = ⟨m, r⟩ :: takenOf rest := by
  rw [takenOf, List.filterMap_cons, h]
  rfl

theorem takenOf_cons_of_no_row (h : m.row? = none) (rest : List Message) :
    takenOf (m :: rest) = takenOf rest := by
  rw [takenOf, List.filterMap_cons, h]
  rfl

end TakenOf

/-- A session but for its notes: the row ids, the chunk ids and the clock. -/
def Session.silent (s : Session) : Session := { s with notes := [] }

theorem Session.Noted.silent {s t : Session} (h : s.Noted t) : s.silent = t.silent := by
  obtain ⟨notes, rfl⟩ := h
  rfl

namespace Metrics

/-- The counts when a message comes in. -/
def saw (c : Metrics) : Metrics := { c with messagesSeen := c.messagesSeen + 1 }

/-- The counts after a message that was taken. -/
def took (c : Metrics) : Metrics := { c.saw with messagesAppended := c.messagesAppended + 1 }

/-- The counts after a message that was passed over. -/
def passedOver (c : Metrics) : Metrics := { c.saw with messagesSkipped := c.messagesSkipped + 1 }

/-- The counts after messages that were taken or passed over. -/
def fed (c : Metrics) (messages : List Message) : Metrics :=
  { c with
    messagesSeen := c.messagesSeen + messages.length
    messagesAppended := c.messagesAppended + (takenOf messages).length
    messagesSkipped := c.messagesSkipped + messages.countP fun m => m.row?.isNone }

/-- The counts after a channel. -/
def loaded (c : Metrics) (chunks : Nat) : Metrics :=
  { c with channelsLoaded := c.channelsLoaded + 1, chunksEmitted := c.chunksEmitted + chunks }

variable {m : Message} {r : Row}

theorem fed_took (h : m.row? = some r) (c : Metrics) (rest : List Message) :
    c.took.fed rest = c.fed (m :: rest) := by
  have hcount : (m :: rest).countP (fun m => m.row?.isNone) = rest.countP fun m => m.row?.isNone :=
    List.countP_cons_of_neg (by simp [h])
  simp only [fed, took, saw, takenOf_cons_of_row h, hcount, List.length_cons, Metrics.mk.injEq,
    true_and, and_true]
  omega

theorem fed_passedOver (h : m.row? = none) (c : Metrics) (rest : List Message) :
    c.passedOver.fed rest = c.fed (m :: rest) := by
  have hcount : (m :: rest).countP (fun m => m.row?.isNone) =
      (rest.countP fun m => m.row?.isNone) + 1 :=
    List.countP_cons_of_pos (by simp [h])
  simp only [fed, passedOver, saw, takenOf_cons_of_no_row h, hcount, List.length_cons,
    Metrics.mk.injEq, true_and, and_true]
  omega

end Metrics

namespace Loader

/-! ## Steps -/

section Steps

variable {α : Type} {step : Step α} {p : Parser} {c : Context} {s : State} {f : Feed}

theorem get_eq (s : State) : (get : Load State) s = .ok s s := rfl

theorem runStep_of_ok {a : α} (h : step ⟨p, c, s.session⟩ = .ok a f) :
    runStep step p c s = .ok (.ok a, f.parser, f.context) { s with session := f.session } := by
  rw [runStep, bind_of_ok (get_eq s), h]
  rfl

theorem runStep_of_error {e : Failure} (h : step ⟨p, c, s.session⟩ = .error e f) :
    runStep step p c s = .ok (.error e, f.parser, f.context) { s with session := f.session } := by
  rw [runStep, bind_of_ok (get_eq s), h]
  rfl

end Steps

/-! ## Messages -/

/-- No message ends the loading: every one has a payload, and one without a row is passed over. -/
def Tolerates (l : Loader) (messages : List Message) : Prop :=
  ∀ m ∈ messages, m.payload ≠ none ∧ (m.row? = none → l.policy = .skip)

variable {l : Loader} {p : Parser} {rows : List Row} {m : Message} {r : Row}
  {messages : List Message}

section Fed

variable {c : Context} {s : State} {e : Failure} {f : Feed} {error : PluginError}

theorem feed_cons_of_ok (h : Parser.append m ⟨p, c, s.session⟩ = .ok () f) (channel : Channel)
    (rest : List Message) : l.feed channel p c (m :: rest) s =
      l.feed channel f.parser (f.context.addMessageTimes m) rest ⟨s.metrics.took, f.session⟩ := by
  have hstep := runStep_of_ok (s := ⟨s.metrics.saw, s.session⟩) h
  rw [feed]
  refine (bind_of_ok rfl).trans ?_
  refine (bind_of_ok hstep).trans ?_
  exact bind_of_ok rfl

/-- A failure that is no plugin error ends the loading, whatever the policy. -/
theorem feed_cons_of_fatal (h : Parser.append m ⟨p, c, s.session⟩ = .error e f)
    (he : e.plugin? = none) (channel : Channel) (rest : List Message) :
    l.feed channel p c (m :: rest) s = .error e ⟨s.metrics.saw, f.session⟩ := by
  have hstep := runStep_of_error (s := ⟨s.metrics.saw, s.session⟩) h
  rw [feed]
  refine (bind_of_ok rfl).trans ?_
  refine (bind_of_ok hstep).trans ?_
  simp only [he]
  rfl

theorem feed_cons_of_abort (hl : l.policy = .abort)
    (h : Parser.append m ⟨p, c, s.session⟩ = .error e f) (he : e.plugin? = some error)
    (channel : Channel) (rest : List Message) : l.feed channel p c (m :: rest) s =
      .error e ⟨s.metrics.saw, f.session.note .error .loader
        s!"Aborting channel {channel.topic} at sequence {m.sequence}: {error.message}"⟩ := by
  have hstep := runStep_of_error (s := ⟨s.metrics.saw, s.session⟩) h
  rw [feed]
  refine (bind_of_ok rfl).trans ?_
  refine (bind_of_ok hstep).trans ?_
  simp only [he, hl]
  rfl

theorem feed_cons_of_skip (hl : l.policy = .skip)
    (h : Parser.append m ⟨p, c, s.session⟩ = .error e f) (he : e.plugin? = some error)
    (channel : Channel) (rest : List Message) : l.feed channel p c (m :: rest) s =
      l.feed channel f.parser f.context rest ⟨s.metrics.passedOver, f.session.note .warning .loader
        s!"Skipping message {m.sequence} on {channel.topic}: {error.message}"⟩ := by
  have hstep := runStep_of_error (s := ⟨s.metrics.saw, s.session⟩) h
  rw [feed]
  refine (bind_of_ok rfl).trans ?_
  refine (bind_of_ok hstep).trans ?_
  simp only [he, hl]
  rfl

end Fed

/-- A message with a row is taken, and its times go to the context. -/
theorem feed_cons_of_row (channel : Channel) (hp : p.Ready) (hm : m.row? = some r)
    (rest : List Message) (c : Context) (s : State) :
    ∃ u, s.session.Noted u ∧ l.feed channel p c (m :: rest) s =
      l.feed channel (p.push r) (c.addCells (Taken.cells p.timeline ⟨m, r⟩)) rest
        ⟨s.metrics.took, u⟩ := by
  obtain ⟨u, hu, happend⟩ := Parser.append_of_row hp hm c s.session
  exact ⟨u, hu, feed_cons_of_ok happend channel rest⟩

/-- A message without a row is passed over, and leaves the parser and the context as they were. -/
theorem feed_cons_of_no_row (channel : Channel) (hl : l.policy = .skip) (hp : p.Ready)
    (hpay : m.payload ≠ none) (hm : m.row? = none) (rest : List Message) (c : Context) (s : State) :
    ∃ u, s.session.Noted u ∧ l.feed channel p c (m :: rest) s =
      l.feed channel p c rest ⟨s.metrics.passedOver, u⟩ := by
  obtain ⟨payload, hpayload⟩ := Option.ne_none_iff_exists'.mp hpay
  obtain ⟨error, t, -, ht, happend⟩ := Parser.append_of_refusal hp hpayload hm c s.session
  exact ⟨_, ht.trans (Session.noted_note ..), feed_cons_of_skip hl happend rfl channel rest⟩

/-- If no message ends the loading, the parser holds the rows of the messages that have one, and the
context their times. -/
theorem feed_of_tolerates (channel : Channel) (hp : p.Stores rows) (h : l.Tolerates messages)
    (c : Context) (s : State) : ∃ q u, l.feed channel p c messages s =
        .ok (q, c.addCells (cellsOf p.timeline (takenOf messages))) ⟨s.metrics.fed messages, u⟩ ∧
      q.Stores (rows ++ (takenOf messages).map Taken.row) ∧ q.ids = p.ids ∧
      s.session.Noted u := by
  -- Induction on the messages: the parser holds the rows so far, whatever the next message is.
  induction messages generalizing p rows c s with
  | nil =>
    refine ⟨p, s.session, rfl, ?_, rfl, Session.Noted.refl _⟩
    rw [takenOf, List.filterMap_nil, List.map_nil, List.append_nil]
    exact hp
  | cons m rest ih =>
    obtain ⟨⟨hpay, hpolicy⟩, hrest⟩ := List.forall_mem_cons.mp h
    rcases hm : m.row? with _ | r
    · obtain ⟨u, hu, hfeed⟩ := feed_cons_of_no_row channel (hpolicy hm) hp.ready hpay hm rest c s
      obtain ⟨q, v, hq, hstores, hids, hv⟩ := ih hp hrest c ⟨s.metrics.passedOver, u⟩
      refine ⟨q, v, ?_, ?_, hids, hu.trans hv⟩
      · rw [hfeed, hq, takenOf_cons_of_no_row hm, Metrics.fed_passedOver hm]
      · rw [takenOf_cons_of_no_row hm]
        exact hstores
    · -- The timeline and the ids of the parser are the same after the row.
      obtain ⟨u, hu, hfeed⟩ := feed_cons_of_row (l := l) channel hp.ready hm rest c s
      obtain ⟨q, v, hq, hstores, hids, hv⟩ := ih (hp.push (Message.valid_of_row? hm)) hrest
        (c.addCells (Taken.cells p.timeline ⟨m, r⟩)) ⟨s.metrics.took, u⟩
      refine ⟨q, v, ?_, ?_, hids, hu.trans hv⟩
      · rw [hfeed, hq, takenOf_cons_of_row hm, cellsOf, cellsOf, List.flatMap_cons,
          Context.addCells_append, Metrics.fed_took hm]
        rfl
      · rw [takenOf_cons_of_row hm, List.map_cons]
        rw [List.append_assoc] at hstores
        exact hstores

/-! ## Channels -/

variable {channel : Channel}

/-- A parser is made for every channel whose schema is known. -/
theorem createParser_of_registered {plugin : Plugin} {n : Int}
    (hr : l.registry.get? channel.schema = some plugin) (hn : 0 ≤ n) (s : State) :
    ∃ p u, l.createParser channel n s = .ok p { s with session := u } ∧
      p.timeline = plugin.settings.timestampTimeline ∧ p.ids = .session ∧ p.Stores [] ∧
      s.session.Noted u := by
  obtain ⟨p, hcreate, htimeline, hids, hp⟩ := Parser.exists_create hn
    plugin.settings.timestampTimeline plugin.settings.logEvery .session
  refine ⟨p, _, ?_, htimeline, hids, hp, Session.noted_note s.session .debug .imagePlugin
    s!"Creating image parser for {channel.topic} (hint: {n} rows)"⟩
  rw [createParser, bind_of_ok (get_eq s), Registry.createParser, hr]
  simp only [Plugin.createParser, hcreate]
  rfl

/-- What a loader does with a parser that was fed. -/
def finish (p : Parser) (c : Context) : Load (List Chunk) := do
  let (chunks, _, _) ← runStep Parser.finalize p c
  let chunks ← ofExcept chunks
  count fun c =>
    { c with
      channelsLoaded := c.channelsLoaded + 1
      chunksEmitted := c.chunksEmitted + chunks.length }
  return chunks

section Finish

variable {c : Context} {s : State} {f : Feed}

theorem finish_of_ok {chunks : List Chunk}
    (h : Parser.finalize ⟨p, c, s.session⟩ = .ok chunks f) :
    finish p c s = .ok chunks ⟨s.metrics.loaded chunks.length, f.session⟩ := by
  rw [finish]
  refine (bind_of_ok (runStep_of_ok h)).trans ?_
  refine (bind_of_ok rfl).trans ?_
  rfl

theorem finish_of_error {e : Failure} (h : Parser.finalize ⟨p, c, s.session⟩ = .error e f) :
    finish p c s = .error e { s with session := f.session } := by
  rw [finish]
  refine (bind_of_ok (runStep_of_error h)).trans ?_
  exact bind_of_error rfl

end Finish

/-- If no message ends the loading, what comes of it is what comes of the rows. -/
theorem load_of_tolerates {plugin : Plugin} {hint : Option Int} {counted : Bool}
    (hr : l.registry.get? channel.schema = some plugin)
    (hn : 0 ≤ l.expectedRows hint messages counted) (h : l.Tolerates messages) (s : State) :
    ∃ q u, l.load channel messages hint counted s =
        finish q (contextOf (entityPath channel.topic) plugin.settings.timestampTimeline
          (takenOf messages)) ⟨s.metrics.fed messages, u⟩ ∧
      q.Stores ((takenOf messages).map Taken.row) ∧ q.ids = .session ∧ s.session.Noted u := by
  obtain ⟨p, u, hcreate, htimeline, hids, hp, hu⟩ := createParser_of_registered hr hn s
  obtain ⟨q, v, hfeed, hq, hids', hv⟩ := feed_of_tolerates channel hp h
    ⟨entityPath channel.topic, .empty⟩ { s with session := u }
  have hcontains : l.registry.contains channel.schema :=
    Keyed.contains_iff_exists.mpr ⟨plugin, hr⟩
  refine ⟨q, v, ?_, hq, hids'.trans hids, hu.trans hv⟩
  rw [load, if_pos hcontains, contextOf, ← htimeline]
  refine (bind_of_ok hcreate).trans ?_
  exact bind_of_ok hfeed

/-! ## The reference result -/

/-- The chunks of rows: both with the next row ids and the next chunk id of the session. -/
def chunksOf (rows : List Row) (c : Context) (s : Session) : List Chunk :=
  let first := s.counter.fresh s.clock
  [⟨first.1, c.entityPath, List.range' s.nextRow rows.length, c.cells, .ofList (imageColumns rows)⟩,
    ⟨(first.2.fresh s.clock).1, c.entityPath, List.range' (s.nextRow + rows.length) rows.length,
      c.cells, .ofList (metadataColumns rows)⟩]

/-- What comes of rows and of times in a session, and the session afterwards: no chunks if a time
does not fit 64 bits or if a timeline is not as long as the rows. -/
def result (rows : List Row) (c : Context) (s : Session) :
    Except Failure (List Chunk) × Session :=
  let first := s.counter.fresh s.clock
  if c.Fits then
    if ∀ e ∈ c.cells.entries, e.2.length = rows.length then
      (.ok (chunksOf rows c s),
        { s with
          nextRow := s.nextRow + rows.length + rows.length
          counter := (first.2.fresh s.clock).2 })
    else
      (.error (.plugin (.batch (.lengthMismatch c.entityPath
        (Chunk.lengths c.cells (.ofList (imageColumns rows))).entries))),
        { s with counter := first.2 })
  else (.error .overflow, s)

/-- What a loader returns, and the session afterwards but for its notes. -/
def outcome {α : Type} : EStateM.Result Failure State α → Except Failure α × Session
  | .ok a s => (.ok a, s.session.silent)
  | .error e s => (.error e, s.session.silent)

theorem outcome_fst_eq_ok_iff {α : Type} {a : α} {x : EStateM.Result Failure State α} :
    (outcome x).1 = .ok a ↔ ∃ s, x = .ok a s := by
  rcases x with ⟨b, s⟩ | ⟨e, s⟩ <;> simp [outcome]

theorem outcome_fst_eq_error_iff {α : Type} {e : Failure} {x : EStateM.Result Failure State α} :
    (outcome x).1 = .error e ↔ ∃ s, x = .error e s := by
  rcases x with ⟨b, s⟩ | ⟨e', s⟩ <;> simp [outcome]

theorem outcome_finish (hp : p.Stores rows) (hids : p.ids = .session) (c : Context) (s : State) :
    outcome (finish p c s) = result rows c s.session.silent := by
  have hdraw (counter : ChunkId.Counter) : p.ids.draw counter s.session.clock =
      ((counter.fresh s.session.clock).1, .session, (counter.fresh s.session.clock).2) := by
    rw [hids]
    rfl
  by_cases hc : c.Fits
  · by_cases hl : ∀ e ∈ c.cells.entries, e.2.length = rows.length
    · obtain ⟨notes, h⟩ := Parser.finalize_of_agree (s := s.session) hp hc hl (hdraw _) rfl
      rw [finish_of_ok h, result, if_pos hc, if_pos hl]
      rfl
    · obtain ⟨notes, h⟩ := Parser.finalize_of_not_agree (s := s.session) hp hc hl (hdraw _)
      rw [finish_of_error h, result, if_pos hc, if_neg hl]
      rfl
  · rw [finish_of_error (Parser.finalize_of_not_fits hp hc s.session), result, if_neg hc]
    rfl

/-- If no message ends the loading, it gives the reference result for the messages that have
rows. -/
theorem outcome_load {plugin : Plugin} {hint : Option Int} {counted : Bool}
    (hr : l.registry.get? channel.schema = some plugin)
    (hn : 0 ≤ l.expectedRows hint messages counted) (h : l.Tolerates messages) (s : State) :
    outcome (l.load channel messages hint counted s) =
      result ((takenOf messages).map Taken.row)
        (contextOf (entityPath channel.topic) plugin.settings.timestampTimeline
          (takenOf messages)) s.session.silent := by
  obtain ⟨q, u, hload, hq, hids, hu⟩ := load_of_tolerates hr hn h s
  rw [hload, outcome_finish hq hids, hu.silent]

end Loader

end FrameChunks
