import FrameChunks.Proofs.Loader.Load

/-!
# How loading comes to an end

A channel whose schema is not known has no chunks, and none has a channel for which no parser can be
made. Otherwise the messages are fed until one ends the loading: one without a payload, or one that
is refused by a loader that gives up at that. The messages behind it are not looked at, and no row
id and no chunk id is gone.

## Main definitions

* `Loader.EndedBy`: a message that ends the loading
* `Message.Fault`: what is wrong with a message that has no row

## Main results

* `Loader.exists_first_of_not_tolerates`: the first message that ends the loading
* `Loader.load_of_unregistered`, `Loader.load_of_negative`: channels without a parser
* `Loader.load_of_endedBy`: channels with a message that ends the loading
-/

namespace FrameChunks

open Image Steps

/-- What is wrong with a message that has no row. -/
inductive Message.Fault (m : Message) : Failure → Prop
  | noPayload (h : m.payload = none) : Fault m .noPayload
  | refusal {payload : Bytes} {error : PluginError} (h : m.payload = some payload)
    (hr : Refusal payload error) : Fault m (.plugin error)

/-- The counts after a channel whose schema is not known. -/
def Metrics.skipped (c : Metrics) : Metrics := { c with channelsSkipped := c.channelsSkipped + 1 }

namespace Loader

variable {l : Loader} {p : Parser} {rows : List Row} {m : Message}
  {before messages : List Message} {channel : Channel} {hint : Option Int} {counted : Bool}

/-! ## The message that ends the loading -/

/-- A message ends the loading if it has no payload, or if it is refused and the loader gives up at
that. -/
def EndedBy (l : Loader) (m : Message) : Prop :=
  m.payload = none ∨ m.row? = none ∧ l.policy = .abort

theorem tolerates_iff : l.Tolerates messages ↔ ∀ m ∈ messages, ¬ l.EndedBy m := by
  have hpolicy : l.policy ≠ .skip ↔ l.policy = .abort := by cases l.policy <;> decide
  simp only [Tolerates, EndedBy, not_or, not_and, ← hpolicy, not_not, ne_eq]

/-- The messages in front of the first one that ends the loading do not end it. -/
theorem exists_first_of_not_tolerates (h : ¬ l.Tolerates messages) :
    ∃ before m after, messages = before ++ m :: after ∧ l.Tolerates before ∧ l.EndedBy m := by
  induction messages with
  | nil => exact absurd (List.forall_mem_nil _) h
  | cons m rest ih =>
    by_cases hm : l.EndedBy m
    · exact ⟨[], m, rest, rfl, List.forall_mem_nil _, hm⟩
    · rw [tolerates_iff, List.forall_mem_cons, ← tolerates_iff] at h
      obtain ⟨before, n, after, rfl, hbefore, hn⟩ := ih fun hrest => h ⟨hm, hrest⟩
      refine ⟨m :: before, n, after, rfl, ?_, hn⟩
      rw [tolerates_iff] at hbefore ⊢
      exact List.forall_mem_cons.mpr ⟨hm, hbefore⟩

/-! ## Feeding -/

/-- What becomes of one message does not depend on those behind it: the loading goes on with them,
or it ends. -/
theorem feed_cons_cases (l : Loader) (channel : Channel) (p : Parser) (c : Context) (m : Message)
    (s : State) :
    (∃ q d t, ∀ rest, l.feed channel p c (m :: rest) s = l.feed channel q d rest t) ∨
      ∃ e t, ∀ rest, l.feed channel p c (m :: rest) s = .error e t := by
  rcases h : Parser.append m ⟨p, c, s.session⟩ with ⟨⟨⟩, f⟩ | ⟨e, f⟩
  · exact .inl ⟨_, _, _, feed_cons_of_ok h channel⟩
  · rcases he : e.plugin? with _ | error
    · exact .inr ⟨_, _, feed_cons_of_fatal h he channel⟩
    · cases hl : l.policy with
      | abort => exact .inr ⟨_, _, feed_cons_of_abort hl h he channel⟩
      | skip => exact .inl ⟨_, _, _, feed_cons_of_skip hl h he channel⟩

/-- Feeding messages and then others is feeding all of them. -/
theorem feed_append (l : Loader) (channel : Channel) (p : Parser) (c : Context)
    (before after : List Message) (s : State) : l.feed channel p c (before ++ after) s =
      (l.feed channel p c before >>= fun r => l.feed channel r.1 r.2 after) s := by
  induction before generalizing p c s with
  | nil => rfl
  | cons m rest ih =>
    rcases l.feed_cons_cases channel p c m s with ⟨q, d, t, h⟩ | ⟨e, t, h⟩
    · rw [List.cons_append, h, ih, bind_congr_left (h rest)]
    · rw [List.cons_append, h, bind_of_error (h rest)]

/-- A message that ends the loading is counted as seen, and nothing else comes of it. The messages
behind it are not looked at. -/
theorem feed_cons_of_endedBy (channel : Channel) (hp : p.Ready) (h : l.EndedBy m) (c : Context)
    (s : State) : ∃ e u, m.Fault e ∧ s.session.Noted u ∧
      ∀ rest, l.feed channel p c (m :: rest) s = .error e ⟨s.metrics.saw, u⟩ := by
  rcases hpay : m.payload with _ | payload
  · have happend := Parser.append_of_no_payload hp hpay c s.session
    exact ⟨_, _, .noPayload hpay, Session.Noted.refl _, feed_cons_of_fatal happend rfl channel⟩
  · obtain ⟨hr, hl⟩ : m.row? = none ∧ l.policy = .abort := by
      rcases h with h | h
      · nomatch hpay.symm.trans h
      · exact h
    obtain ⟨error, t, hrefusal, ht, happend⟩ := Parser.append_of_refusal hp hpay hr c s.session
    exact ⟨_, _, .refusal hpay hrefusal, ht.trans (Session.noted_note ..),
      feed_cons_of_abort hl happend rfl channel⟩

/-- The messages in front of the one that ends the loading are counted as ever. -/
theorem feed_of_endedBy (channel : Channel) (hp : p.Stores rows) (hbefore : l.Tolerates before)
    (hm : l.EndedBy m) (c : Context) (s : State) :
    ∃ e u, m.Fault e ∧ s.session.Noted u ∧ ∀ after, l.feed channel p c (before ++ m :: after) s =
      .error e ⟨(s.metrics.fed before).saw, u⟩ := by
  obtain ⟨q, t, hfeed, hq, -, ht⟩ := feed_of_tolerates channel hp hbefore c s
  obtain ⟨e, u, hfault, hu, hend⟩ := feed_cons_of_endedBy channel hq.ready hm
    (c.addCells (cellsOf p.timeline (takenOf before))) ⟨s.metrics.fed before, t⟩
  refine ⟨e, u, hfault, ht.trans hu, fun after => ?_⟩
  rw [feed_append, bind_of_ok hfeed]
  exact hend after

/-! ## Loading -/

theorem load_of_unregistered (hr : ¬ l.registry.contains channel.schema) (s : State) :
    ∃ u, s.session.Noted u ∧
      l.load channel messages hint counted s = .ok [] ⟨s.metrics.skipped, u⟩ := by
  refine ⟨_, Session.noted_note s.session .info .loader
    s!"No plugin for schema {Text.quoted channel.schema}, skipping channel {channel.topic}", ?_⟩
  rw [load, if_neg hr]
  rfl

/-- No parser is made for a negative number of rows to expect. -/
theorem createParser_of_negative {plugin : Plugin} {n : Int}
    (hr : l.registry.get? channel.schema = some plugin) (hn : n < 0) (s : State) :
    ∃ u, s.session.Noted u ∧ l.createParser channel n s =
      .error (.builder .negativeCapacity) { s with session := u } := by
  have hcreate : Parser.create plugin.settings.timestampTimeline plugin.settings.logEvery n
      .session = .error .negativeCapacity := by
    rw [Parser.create, Metadata.builders_of_negative hn]
    rfl
  rw [createParser, bind_of_ok (get_eq s), Registry.createParser, hr]
  simp only [Plugin.createParser, hcreate]
  exact ⟨_, Session.noted_note .., rfl⟩

theorem load_of_negative {plugin : Plugin} (hr : l.registry.get? channel.schema = some plugin)
    (hn : l.expectedRows hint messages counted < 0) (s : State) :
    ∃ u, s.session.Noted u ∧ l.load channel messages hint counted s =
      .error (.builder .negativeCapacity) ⟨s.metrics, u⟩ := by
  obtain ⟨u, hu, h⟩ := createParser_of_negative hr hn s
  have hcontains : l.registry.contains channel.schema :=
    Keyed.contains_iff_exists.mpr ⟨plugin, hr⟩
  refine ⟨u, hu, ?_⟩
  rw [load, if_pos hcontains]
  exact bind_of_error h

/-- Of a channel with a message that ends the loading nothing comes but the counts of the messages
up to that one. The messages behind it make no difference, but for how many rows are expected. -/
theorem exists_load_of_endedBy {plugin : Plugin} {n : Int}
    (hr : l.registry.get? channel.schema = some plugin) (hn : 0 ≤ n) (hbefore : l.Tolerates before)
    (hm : l.EndedBy m) (s : State) : ∃ e u, m.Fault e ∧ s.session.Noted u ∧
      ∀ after hint counted, l.expectedRows hint (before ++ m :: after) counted = n →
        l.load channel (before ++ m :: after) hint counted s =
          .error e ⟨(s.metrics.fed before).saw, u⟩ := by
  obtain ⟨p, t, hcreate, -, -, hp, ht⟩ := createParser_of_registered hr hn s
  obtain ⟨e, u, hfault, hu, hfeed⟩ := feed_of_endedBy channel hp hbefore hm
    ⟨entityPath channel.topic, .empty⟩ { s with session := t }
  have hcontains : l.registry.contains channel.schema :=
    Keyed.contains_iff_exists.mpr ⟨plugin, hr⟩
  refine ⟨e, u, hfault, ht.trans hu, fun after hint counted hrows => ?_⟩
  rw [load, if_pos hcontains, hrows]
  refine (bind_of_ok hcreate).trans ?_
  exact bind_of_error (hfeed after)

theorem load_of_endedBy {plugin : Plugin} {after : List Message}
    (hr : l.registry.get? channel.schema = some plugin)
    (hn : 0 ≤ l.expectedRows hint (before ++ m :: after) counted) (hbefore : l.Tolerates before)
    (hm : l.EndedBy m) (s : State) : ∃ e u, m.Fault e ∧ s.session.Noted u ∧
      l.load channel (before ++ m :: after) hint counted s =
        .error e ⟨(s.metrics.fed before).saw, u⟩ := by
  obtain ⟨e, u, hfault, hu, hload⟩ := exists_load_of_endedBy hr hn hbefore hm s
  exact ⟨e, u, hfault, hu, hload after hint counted rfl⟩

end Loader

end FrameChunks
