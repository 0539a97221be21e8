import FrameChunks.Proofs.Loader.Endings
import FrameChunks.Proofs.Loader.Policies

/-!
# The counts of a loader balance

A loader counts in six places, over all of its channels, and loading a channel may end in four ways.
Whatever channels it is given and however loading them ends, every message that it has seen was
appended, passed over, or the one at which the loader gave up; every channel that is counted as loaded
has two chunks; and the calls that returned are those that loaded a channel or had no plugin for it.

## Main definitions

* `Loader.Job`, `Loader.work`, `Loader.workAll`: a channel for a loader, and what comes of one or more
* `Loader.Done.Rejected`: loading failed with what is wrong with a message
* `Loader.Ends`: the four ways in which loading ends, with the counts
* `Metrics.Balanced`: what is true of the counts after any channels

## Main results

* `Loader.ends_work`: there are no other ways
* `Loader.Ends.balanced`: loading a channel keeps the balance
* `Loader.workAll_balanced`: the counts of a loader
-/

namespace FrameChunks

open Image Steps

/-! ## What is wrong with a message -/

/-- What is wrong with a message, if it has no row. -/
def Message.fault? (m : Message) : Option Failure :=
  match m.payload with
  | none => some .noPayload
  | some payload =>
    match Frame.decode payload with
    | .error e => some (.plugin (.decode e))
    | .ok f =>
      match layoutOf? f.encoding with
      | none => some (.plugin (.unsupportedFormat f.encoding))
      | some _ => none

theorem Message.fault_iff {m : Message} {e : Failure} : m.Fault e ↔ m.fault? = some e := by
  constructor
  · intro h
    cases h with
    | noPayload h => rw [fault?, h]
    | refusal h hr => cases hr <;> simp_all [fault?]
  · intro h
    rcases hpay : m.payload with _ | payload
    · simp only [fault?, hpay, Option.some.injEq] at h
      exact h ▸ .noPayload hpay
    rcases hd : Frame.decode payload with e' | f
    · simp only [fault?, hpay, hd, Option.some.injEq] at h
      exact h ▸ .refusal hpay (.decode hd)
    rcases hl : layoutOf? f.encoding with _ | layout
    · simp only [fault?, hpay, hd, hl, Option.some.injEq] at h
      exact h ▸ .refusal hpay (.unsupportedFormat hd hl)
    · simp [fault?, hpay, hd, hl] at h

instance (m : Message) (e : Failure) : Decidable (m.Fault e) :=
  decidable_of_iff _ Message.fault_iff.symm

/-- What finalizing fails with is wrong with no message. -/
theorem Message.not_fault_of_finalize {m : Message} {p : Parser} {rows : List Row} {c : Context}
    {s : Session} {e : Failure} {t : Feed} (hp : p.Stores rows)
    (h : Parser.finalize ⟨p, c, s⟩ = .error e t) : ¬ m.Fault e := by
  cases hp.finalizes h with
  | mismatch hc hl =>
    rintro (_ | ⟨-, hr⟩)
    nomatch hr
  | overflow hc => exact nofun

namespace Loader

/-! ## Channels, one after the other -/

/-- A channel for a loader, with the session at that moment. -/
structure Job where
  channel : Channel
  messages : List Message
  /-- How many rows the caller expects, if anything. -/
  hint : Option Int
  /-- Whether the number of messages is known beforehand. -/
  counted : Bool
  session : Session

structure Done where
  job : Job
  outcome : Except Failure (List Chunk)

/-- Loading failed with what is wrong with one of the messages. -/
def Done.Rejected : Done → Prop
  | ⟨_, .ok _⟩ => False
  | ⟨j, .error e⟩ => ∃ m ∈ j.messages, m.Fault e

instance : DecidablePred Done.Rejected
  | ⟨_, .ok _⟩ => isFalse id
  | ⟨j, .error e⟩ => inferInstanceAs (Decidable (∃ m ∈ j.messages, m.Fault e))

/-- Loads a channel, and counts on from `c`. -/
def work (l : Loader) (c : Metrics) (j : Job) : Done × Metrics :=
  match l.load j.channel j.messages j.hint j.counted ⟨c, j.session⟩ with
  | .ok chunks t => (⟨j, .ok chunks⟩, t.metrics)
  | .error e t => (⟨j, .error e⟩, t.metrics)

def workAll (l : Loader) (c : Metrics) : List Job → List Done × Metrics
  | [] => ([], c)
  | j :: rest =>
    let (done, c) := l.work c j
    let (others, c) := l.workAll c rest
    (done :: others, c)

/-- All messages have payloads, and it is no negative number of rows that is expected. -/
structure Takes (l : Loader) (j : Job) : Prop where
  payloads : ∀ m ∈ j.messages, m.payload ≠ none
  rows : 0 ≤ l.expectedRows j.hint j.messages j.counted

/-- The ways in which loading a channel ends. -/
inductive Ends (l : Loader) (c : Metrics) (j : Job) : Done × Metrics → Prop
  | skipped (hr : ¬ l.registry.contains j.channel.schema) : Ends l c j (⟨j, .ok []⟩, c.skipped)
  | loaded {chunks : List Chunk} (hr : l.registry.contains j.channel.schema)
    (hchunks : chunks.length = 2) :
    Ends l c j (⟨j, .ok chunks⟩, (c.fed j.messages).loaded chunks.length)
  /-- The messages were taken or passed over, and finalizing failed. -/
  | unfinished {e : Failure} (hr : l.registry.contains j.channel.schema)
    (he : ∀ m : Message, ¬ m.Fault e) : Ends l c j (⟨j, .error e⟩, c.fed j.messages)
  /-- The loader gave up at a message. -/
  | rejected {e : Failure} {before after : List Message} {m : Message}
    (hr : l.registry.contains j.channel.schema) (hl : l.policy = .abort)
    (hj : j.messages = before ++ m :: after) (he : m.Fault e) :
    Ends l c j (⟨j, .error e⟩, (c.fed before).saw)

variable {l : Loader} {c : Metrics} {j : Job}

theorem ends_work_of_tolerates {plugin : Plugin}
    (hr : l.registry.get? j.channel.schema = some plugin) (hj : l.Takes j)
    (ht : l.Tolerates j.messages) (c : Metrics) : Ends l c j (l.work c j) := by
  have hcontains : l.registry.contains j.channel.schema := Keyed.contains_iff_exists.mpr ⟨plugin, hr⟩
  obtain ⟨q, u, hload, hq, -⟩ := load_of_tolerates hr hj.rows ht ⟨c, j.session⟩
  rcases hf : Parser.finalize ⟨q, contextOf (entityPath j.channel.topic)
    plugin.settings.timestampTimeline (takenOf j.messages), u⟩ with ⟨chunks, f⟩ | ⟨e, f⟩
  · rw [work, hload, finish_of_ok hf]
    cases hq.finalizes hf with
    | chunks hc hl => exact .loaded hcontains rfl
  · rw [work, hload, finish_of_error hf]
    exact .unfinished hcontains fun m => Message.not_fault_of_finalize hq hf

theorem ends_work (hj : l.Takes j) (c : Metrics) : Ends l c j (l.work c j) := by
  by_cases hr : l.registry.contains j.channel.schema
  · obtain ⟨plugin, hplugin⟩ := Keyed.contains_iff_exists.mp hr
    by_cases ht : l.Tolerates j.messages
    · exact ends_work_of_tolerates hplugin hj ht c
    · obtain ⟨before, m, after, hsplit, hbefore, hm⟩ := exists_first_of_not_tolerates ht
      have hrows := hj.rows
      rw [hsplit] at hrows
      obtain ⟨e, u, hfault, -, h⟩ := load_of_endedBy hplugin hrows hbefore hm ⟨c, j.session⟩
      -- it has a payload, so only the policy can have ended the loading
      have hpolicy : l.policy = .abort := by
        rcases hm with hpay | ⟨-, hl⟩
        · exact absurd hpay (hj.payloads m (by simp [hsplit]))
        · exact hl
      rw [work, hsplit, h]
      exact .rejected hr hpolicy hsplit hfault
  · obtain ⟨u, -, h⟩ := load_of_unregistered hr ⟨c, j.session⟩
    rw [work, h]
    exact .skipped hr

end Loader

/-! ## Balance -/

theorem length_takenOf (messages : List Message) :
    (takenOf messages).length = messages.countP fun m => m.Accepted := by
  induction messages with
  | nil => rfl
  | cons m rest ih =>
    rcases hm : m.row? with _ | r
    · simp [takenOf_cons_of_no_row hm, Message.accepted_iff_isSome, hm, ih]
    · simp [takenOf_cons_of_row hm, Message.accepted_iff_isSome, hm, ih]

/-- A message has a row or none. -/
theorem length_eq_takenOf_add (messages : List Message) :
    messages.length = (takenOf messages).length + messages.countP fun m => m.row?.isNone := by
  induction messages with
  | nil => rfl
  | cons m rest ih =>
    rw [List.length_cons, ih]
    rcases hm : m.row? with _ | r
    · simp [takenOf_cons_of_no_row hm, hm, Nat.add_assoc]
    · simp [takenOf_cons_of_row hm, hm, Nat.add_right_comm]

/-- The counts after channels of which so many returned, while at so many the loader gave up. -/
structure Metrics.Balanced (c : Metrics) (returned rejected : Nat) : Prop where
  messages : c.messagesSeen = c.messagesAppended + c.messagesSkipped + rejected
  chunks : c.chunksEmitted = 2 * c.channelsLoaded
  calls : returned = c.channelsLoaded + c.channelsSkipped

theorem Metrics.Balanced.fed {c : Metrics} {returned rejected : Nat}
    (h : c.Balanced returned rejected) (messages : List Message) :
    (c.fed messages).Balanced returned rejected := by
  refine ⟨?_, h.chunks, h.calls⟩
  have hseen := h.messages
  have hlength := length_eq_takenOf_add messages
  simp only [Metrics.fed]
  omega

namespace Loader

variable {l : Loader} {c : Metrics} {j : Job} {jobs : List Job} {r : Done × Metrics}
  {returned rejected : Nat}

/-- Loading a channel keeps the balance: it returns, or the loader gives up at a message, or finalizing
fails. -/
theorem Ends.balanced (h : Ends l c j r) (hc : c.Balanced returned rejected) :
    r.2.Balanced (returned + if r.1.outcome.isOk then 1 else 0)
      (rejected + if r.1.Rejected then 1 else 0) := by
  cases h with
  | skipped hr =>
    refine ⟨hc.messages, hc.chunks, ?_⟩
    rw [hc.calls]
    rfl
  | loaded hr hchunks =>
    obtain ⟨hmessages, hemitted, hcalls⟩ := hc.fed j.messages
    refine ⟨hmessages, ?_, ?_⟩
    · rw [Metrics.loaded, hemitted, hchunks]
      rfl
    · rw [hcalls]
      exact Nat.add_right_comm ..
  | unfinished hr he =>
    have hno : ¬ Done.Rejected ⟨j, .error _⟩ := fun ⟨m, _, hm⟩ => he m hm
    rw [if_neg hno]
    exact hc.fed j.messages
  | @rejected e before after m hr hl hj he =>
    have hyes : Done.Rejected ⟨j, .error e⟩ := ⟨m, by simp [hj], he⟩
    rw [if_pos hyes]
    -- the message at the end was seen, and is neither appended nor passed over
    obtain ⟨hmessages, hemitted, hcalls⟩ := hc.fed before
    refine ⟨?_, hemitted, hcalls⟩
    simp only [Metrics.saw]
    omega

/-- A loader that passes over messages gives up at none. -/
theorem Ends.not_rejected (h : Ends l c j r) (hl : l.policy = .skip) : ¬ r.1.Rejected := by
  cases h with
  | skipped hr => exact id
  | loaded hr hchunks => exact id
  | unfinished hr he => exact fun ⟨m, _, hm⟩ => he m hm
  | rejected hr habort hj he => nomatch hl.symm.trans habort

/-- Every message that can be decoded and resolved is appended, whatever comes of the channel. -/
theorem Ends.messagesAppended (h : Ends l c j r) (hl : l.policy = .skip)
    (hr : l.registry.contains j.channel.schema) :
    r.2.messagesAppended = c.messagesAppended + j.messages.countP fun m => m.Accepted := by
  rw [← length_takenOf]
  cases h with
  | skipped hno => exact absurd hr hno
  | loaded _ hchunks => rfl
  | unfinished _ he => rfl
  | rejected _ habort hj he => nomatch hl.symm.trans habort

theorem balanced_workAll (hjobs : ∀ j ∈ jobs, l.Takes j) (hc : c.Balanced returned rejected) :
    (l.workAll c jobs).2.Balanced
      (returned + (l.workAll c jobs).1.countP fun d => d.outcome.isOk)
      (rejected + (l.workAll c jobs).1.countP fun d => d.Rejected) := by
  induction jobs generalizing c returned rejected with
  | nil => exact hc
  | cons j rest ih =>
    obtain ⟨hj, hrest⟩ := List.forall_mem_cons.mp hjobs
    have h := ih hrest ((ends_work hj c).balanced hc)
    simp only [workAll, List.countP_cons, decide_eq_true_eq]
    convert h using 1 <;> omega

theorem not_rejected_of_mem_workAll (hjobs : ∀ j ∈ jobs, l.Takes j) (hl : l.policy = .skip) :
    ∀ d ∈ (l.workAll c jobs).1, ¬ d.Rejected := by
  induction jobs generalizing c with
  | nil => exact List.forall_mem_nil _
  | cons j rest ih =>
    obtain ⟨hj, hrest⟩ := List.forall_mem_cons.mp hjobs
    exact List.forall_mem_cons.mpr ⟨(ends_work hj c).not_rejected hl, ih hrest⟩

/-- The counts of a loader after any channels. Every message seen was appended, passed over, or the one
at which the loader gave up, which it never does if it passes over messages; every channel loaded has
two chunks; and the calls that returned loaded a channel or had no plugin for it. At any time, a loader
that passes over messages appends all messages of a channel that can be decoded and resolved, also if
finalizing fails then, and of a channel without a plugin counts nothing but that. -/
theorem workAll_balanced (hjobs : ∀ j ∈ jobs, l.Takes j) :
    let done := (l.workAll {} jobs).1
    let c := (l.workAll {} jobs).2
    c.messagesSeen = c.messagesAppended + c.messagesSkipped + done.countP (fun d => d.Rejected) ∧
    (l.policy = .skip → done.countP (fun d => d.Rejected) = 0) ∧
    c.chunksEmitted = 2 * c.channelsLoaded ∧
    done.countP (fun d => d.outcome.isOk) = c.channelsLoaded + c.channelsSkipped ∧
    (∀ j c, l.Takes j → l.policy = .skip → l.registry.contains j.channel.schema →
      (l.work c j).2.messagesAppended =
        c.messagesAppended + j.messages.countP fun m => m.Accepted) ∧
    ∀ j c, ¬ l.registry.contains j.channel.schema →
      l.work c j = (⟨j, .ok []⟩, { c with channelsSkipped := c.channelsSkipped + 1 }) := by
  intro done c
  have hstart : Metrics.Balanced {} 0 0 := ⟨rfl, rfl, rfl⟩
  obtain ⟨hmessages, hchunks, hcalls⟩ := balanced_workAll hjobs hstart
  rw [Nat.zero_add] at hmessages hcalls
  refine ⟨hmessages, ?_, hchunks, hcalls, ?_, ?_⟩
  · intro hl
    rw [List.countP_eq_zero]
    intro d hd
    simpa using not_rejected_of_mem_workAll hjobs hl d hd
  · intro j c hj hl hr
    exact (ends_work hj c).messagesAppended hl hr
  · intro j c hr
    obtain ⟨u, -, h⟩ := load_of_unregistered hr ⟨c, j.session⟩
    rw [work, h]
    rfl

def skipping : Loader := ⟨.standard {}, .skip, 0⟩

/-- A channel of which one message is passed over, if there is a plugin for it. -/
def pixelJob (schema : String) : Job := ⟨⟨"cam", schema⟩, pixelMessages, none, true, {}⟩

def pixelJobs : List Job := [pixelJob schemaName, pixelJob "Imu"]

theorem takes_pixelJobs : ∀ j ∈ pixelJobs, skipping.Takes j := by
  have h (schema : String) : skipping.Takes (pixelJob schema) :=
    ⟨payload_pixelMessages, Int.natCast_nonneg _⟩
  simp [pixelJobs, h]

/-- One of the two messages of the first channel is appended, and the loader does not give up at the
other one. -/
theorem workAll_balanced_pixelJobs :
    (skipping.workAll {} pixelJobs).1.countP (fun d => d.Rejected) = 0 ∧
    (skipping.workAll {} pixelJobs).1.countP (fun d => d.outcome.isOk) =
      (skipping.workAll {} pixelJobs).2.channelsLoaded +
        (skipping.workAll {} pixelJobs).2.channelsSkipped ∧
    (skipping.work {} (pixelJob schemaName)).2.messagesAppended = 1 := by
  obtain ⟨-, hskip, -, hcalls, happended, -⟩ := workAll_balanced takes_pixelJobs
  have hone := happended (pixelJob schemaName) {} (takes_pixelJobs _ List.mem_cons_self) rfl (by decide)
  rw [pixelJob, List.countP_eq_length_filter, filter_pixelMessages] at hone
  exact ⟨hskip rfl, hcalls, hone⟩

end Loader

end FrameChunks
