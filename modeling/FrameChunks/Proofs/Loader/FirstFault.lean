import FrameChunks.Proofs.Loader.Balance

/-!
# Giving up at the first message at fault

A loader that gives up at a message that is refused fails with what is wrong with that message. The
messages in front of it were appended, those behind it are not looked at, and no row id and no chunk
id is gone. If nothing is wrong with any message, the policy makes no difference.

## Main definitions

* `Row.ofPayload`: the row of a payload, or why there is none

## Main results

* `Loader.exists_load_of_first`: loading up to the first message at fault
* `Loader.load_eq_of_accepted`: loading does not depend on the policy if no message is at fault
* `Loader.load_abort_exact`: what comes of loading with a loader that gives up
-/

namespace FrameChunks

open Image Steps

/-- The row of a payload, or the error that decoding it or resolving its encoding gives. -/
def Row.ofPayload (payload : Bytes) : Except Failure Row := do
  let frame ← (Frame.decode payload).mapError fun e => .plugin (.decode e)
  let format ← (resolve frame.encoding frame.width frame.height).mapError
    fun e : ResolveError => (e : Failure)
  return ⟨frame, format⟩

/-- What is wrong with a message that has a payload is what its row fails with. -/
theorem Message.Fault.ofPayload_eq {m : Message} {e : Failure} {payload : Bytes} (h : m.Fault e)
    (hp : m.payload = some payload) : Row.ofPayload payload = .error e := by
  rcases h with hno | ⟨hp', hr⟩
  · nomatch hno.symm.trans hp
  obtain rfl := Option.some.inj (hp.symm.trans hp')
  cases hr with
  | decode hd =>
    rw [Row.ofPayload, hd]
    rfl
  | unsupportedFormat hd hl =>
    rw [Row.ofPayload, hd]
    show ((resolve _ _ _).mapError _ >>= _) = _
    rw [resolve_of_unknown hl]
    rfl

theorem Metrics.fed_of_accepted {messages : List Message} (h : ∀ m ∈ messages, m.Accepted)
    (c : Metrics) : c.fed messages =
      { c with
        messagesSeen := c.messagesSeen + messages.length
        messagesAppended := c.messagesAppended + messages.length } := by
  have htaken : (takenOf messages).length = messages.length := by
    rw [length_takenOf, List.countP_eq_length]
    exact fun m hm => decide_eq_true (h m hm)
  have hpassed : (messages.countP fun m => m.row?.isNone) = 0 := by
    have hlength := length_eq_takenOf_add messages
    omega
  rw [fed, htaken, hpassed, Nat.add_zero]

namespace Loader

variable {l : Loader} {p : Parser} {m : Message} {before messages : List Message}
  {channel : Channel} {hint : Option Int} {counted : Bool}

/-! ## The first message at fault -/

theorem endedBy_of_not_accepted (hl : l.policy = .abort) (hm : ¬ m.Accepted) : l.EndedBy m := by
  rw [Message.accepted_iff_isSome, Option.not_isSome_iff_eq_none] at hm
  exact .inr ⟨hm, hl⟩

/-- The messages in front of the first one at fault are appended, and nothing else comes of them. -/
theorem exists_load_of_first {plugin : Plugin} {payload : Bytes} {n : Int} (hl : l.policy = .abort)
    (hr : l.registry.get? channel.schema = some plugin) (hn : 0 ≤ n)
    (hbefore : ∀ m ∈ before, m.Accepted) (hp : m.payload = some payload) (hm : ¬ m.Accepted)
    (s : State) : ∃ e t, Row.ofPayload payload = .error e ∧
      t.metrics = { s.metrics with
        messagesSeen := s.metrics.messagesSeen + (before.length + 1)
        messagesAppended := s.metrics.messagesAppended + before.length } ∧
      t.session.silent = s.session.silent ∧
      ∀ after hint counted, l.expectedRows hint (before ++ m :: after) counted = n →
        l.load channel (before ++ m :: after) hint counted s = .error e t := by
  obtain ⟨e, u, hfault, hu, hload⟩ := exists_load_of_endedBy hr hn (tolerates_of_accepted hbefore)
    (endedBy_of_not_accepted hl hm) s
  refine ⟨e, ⟨(s.metrics.fed before).saw, u⟩, hfault.ofPayload_eq hp, ?_, hu.silent.symm, hload⟩
  rw [Metrics.fed_of_accepted hbefore]
  rfl

/-! ## No message at fault -/

/-- Messages that are all taken are fed alike by any two loaders. -/
theorem feed_eq_of_accepted (l l' : Loader) (channel : Channel) (hp : p.Ready)
    (h : ∀ m ∈ messages, m.Accepted) (c : Context) (s : State) :
    l.feed channel p c messages s = l'.feed channel p c messages s := by
  induction messages generalizing p c s with
  | nil => rfl
  | cons m rest ih =>
    obtain ⟨hm, hrest⟩ := List.forall_mem_cons.mp h
    obtain ⟨r, hr⟩ := Option.isSome_iff_exists.mp (Message.accepted_iff_isSome.mp hm)
    obtain ⟨t, -, happend⟩ := Parser.append_of_row hp hr c s.session
    rw [feed_cons_of_ok happend, feed_cons_of_ok happend]
    exact ih (hp.push r) hrest _ _

theorem ready_of_createParser {n : Int} {s t : State} (h : l.createParser channel n s = .ok p t) :
    p.Ready := by
  rcases hr : l.registry.get? channel.schema with _ | plugin
  · rw [createParser, bind_of_ok (get_eq s), Registry.createParser, hr] at h
    cases h
  rcases Int.lt_or_le n 0 with hn | hn
  · obtain ⟨u, -, he⟩ := createParser_of_negative hr hn s
    cases he.symm.trans h
  · obtain ⟨q, u, hq, -, -, hstores, -⟩ := createParser_of_registered hr hn s
    obtain ⟨rfl, -⟩ := EStateM.Result.ok.inj (hq.symm.trans h)
    exact hstores.ready

/-- Loading messages that are all taken is the same under any two policies: it gives the same
result, with the same counts, ids and notes. -/
theorem load_eq_of_accepted (registry : Registry) (policy policy' : ErrorPolicy) (rows : Int)
    (h : ∀ m ∈ messages, m.Accepted) (s : State) :
    load ⟨registry, policy, rows⟩ channel messages hint counted s =
      load ⟨registry, policy', rows⟩ channel messages hint counted s := by
  by_cases hr : registry.contains channel.schema
  · rw [load, load, if_pos hr, if_pos hr]
    -- The policy has no part in making the parser.
    let n := expectedRows ⟨registry, policy, rows⟩ hint messages counted
    rcases hcreate : createParser ⟨registry, policy, rows⟩ channel n s with ⟨p, t⟩ | ⟨e, t⟩
    · refine (bind_of_ok hcreate).trans (Eq.trans ?_ (bind_of_ok hcreate).symm)
      exact bind_congr_left (feed_eq_of_accepted _ _ channel (ready_of_createParser hcreate) h _ _)
    · exact (bind_of_error hcreate).trans (bind_of_error hcreate).symm
  · rw [load, load, if_neg hr, if_neg hr]

/-- A loader that gives up at a message at fault fails with what is wrong with the first such message,
whatever the messages behind it are. Of the session nothing but notes has changed, and the counts are
those of the messages seen up to that one and of those appended in front of it. If no message is at
fault, all is as if the loader passed over messages. And no message is looked at if a negative number
of rows is expected. -/
theorem load_abort_exact {registry : Registry} {rows : Int} (hr : registry.contains channel.schema)
    (hp : ∀ m ∈ messages, m.payload ≠ none) (s : State) :
    let l : Loader := ⟨registry, .abort, rows⟩
    (0 ≤ l.expectedRows hint messages counted → ∀ i (hi : i < messages.length),
      (∀ m ∈ messages.take i, m.Accepted) → ¬ messages[i].Accepted →
      ∃ payload e t, messages[i].payload = some payload ∧ Row.ofPayload payload = .error e ∧
        l.load channel messages hint counted s = .error e t ∧
        t.metrics = { s.metrics with
          messagesSeen := s.metrics.messagesSeen + (i + 1)
          messagesAppended := s.metrics.messagesAppended + i } ∧
        t.session.silent = s.session.silent ∧
        ∀ others, l.expectedRows hint (messages.take (i + 1) ++ others) counted =
            l.expectedRows hint messages counted →
          l.load channel (messages.take (i + 1) ++ others) hint counted s = .error e t) ∧
    ((∀ m ∈ messages, m.Accepted) → l.load channel messages hint counted s =
      load ⟨registry, .skip, rows⟩ channel messages hint counted s) ∧
    (l.expectedRows hint messages counted < 0 → ∃ t, t.metrics = s.metrics ∧
      t.session.silent = s.session.silent ∧
      l.load channel messages hint counted s = .error (.builder .negativeCapacity) t) := by
  intro l
  obtain ⟨plugin, hplugin⟩ := Keyed.contains_iff_exists.mp hr
  refine ⟨fun hn i hi hbefore hm => ?_, fun h => load_eq_of_accepted registry _ _ rows h s,
    fun hn => ?_⟩
  · obtain ⟨payload, hpayload⟩ := Option.ne_none_iff_exists'.mp (hp _ (List.getElem_mem hi))
    obtain ⟨e, t, hrow, hmetrics, hsession, hload⟩ :=
      exists_load_of_first (l := l) rfl hplugin hn hbefore hpayload hm s
    rw [List.length_take_of_le hi.le] at hmetrics
    refine ⟨payload, e, t, hpayload, hrow, ?_, hmetrics, hsession, fun others hrows => ?_⟩
    · have hsplit : messages.take i ++ messages[i] :: messages.drop (i + 1) = messages := by
        rw [← List.drop_eq_getElem_cons hi, List.take_append_drop]
      have h := hload (messages.drop (i + 1)) hint counted
      rw [hsplit] at h
      exact h rfl
    · rw [List.take_succ_eq_append_getElem hi, List.append_assoc] at hrows ⊢
      exact hload others hint counted hrows
  · obtain ⟨u, hu, h⟩ := load_of_negative (l := l) hplugin hn s
    exact ⟨⟨s.metrics, u⟩, rfl, hu.silent.symm, h⟩

/-- The second of these messages has an empty payload: the loader gives up at it, with one message
appended. -/
theorem load_abort_exact_pixelMessages :
    ∃ e t, Row.ofPayload [] = .error e ∧
      load ⟨.standard {}, .abort, 0⟩ ⟨"cam", schemaName⟩ pixelMessages.reverse none true ⟨{}, {}⟩ =
        .error e t ∧
      t.metrics = { messagesSeen := 2, messagesAppended := 1 } ∧ t.session.nextRow = 0 := by
  have hpayloads : ∀ m ∈ pixelMessages.reverse, m.payload ≠ none := by
    simpa using payload_pixelMessages
  have hfront : ∀ m ∈ pixelMessages.reverse.take 1, m.Accepted := by
    simpa [pixelMessages] using accepted_of_pixelPayload rfl
  have hempty : ¬ pixelMessages.reverse[1].Accepted := not_accepted_of_empty rfl
  have h := @load_abort_exact pixelMessages.reverse ⟨"cam", schemaName⟩ none true (.standard {}) 0
    (by decide) hpayloads ⟨{}, {}⟩
  obtain ⟨payload, e, t, hpayload, hrow, hload, hmetrics, hsession, -⟩ :=
    h.1 (by decide) 1 (by decide) hfront hempty
  obtain rfl := Option.some.inj hpayload
  exact ⟨e, t, hrow, hload, hmetrics, congrArg Session.nextRow hsession⟩

end Loader

end FrameChunks
