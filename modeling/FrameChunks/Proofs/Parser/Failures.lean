import FrameChunks.Proofs.Parser.Reachable

/-!
# How parsers fail

What is wrong with a message or with the lengths of columns is a plugin error, and so is a call that
comes too late. No column builder refuses a value, and no pixel format is out of shape. One failure
of another kind is left: the times at which messages were recorded and sent are any integers, and a
context in which one of them does not fit 64 bits has no timelines. The stamps of the frames always
fit.

## Main definitions

* `Failure.IsOf`: a plugin error of one of several classes
* `Context.after`: the context of a parser after a message
* `Context.Fed`: the contexts of a channel, with the messages whose times went into them

## Main results

* `Context.Fed.fits_iff`: such a context fits 64 bits exactly if the times of the messages do
* `Parser.failure_exact`: which failures there are
-/

namespace FrameChunks

open Image Column

/-- The failure is a plugin error of one of the classes. -/
def Failure.IsOf (classes : List String) (e : Failure) : Prop :=
  ∃ error, e.plugin? = some error ∧ error.className ∈ classes

/-! ## The contexts of a channel -/

namespace Context

/-- The context after a message went to a parser, whether the message was taken or not. -/
def after (c : Context) (p : Parser) (m : Message) (s : Session) : Context :=
  match Parser.append m ⟨p, c, s⟩ with
  | .ok _ t => t.context
  | .error _ t => t.context

/-- The contexts that come about from stamps of parsers and from times of messages, in any order.
The messages are those whose times were added. -/
inductive Fed : List Message → Context → Prop
  | start (entityPath : String) : Fed [] ⟨entityPath, .empty⟩
  | append {messages : List Message} {c : Context} (h : Fed messages c) {p : Parser}
    (hp : p.Reachable) (m : Message) (s : Session) : Fed messages (c.after p m s)
  | times {messages : List Message} {c : Context} (h : Fed messages c) (m : Message) :
    Fed (messages ++ [m]) (c.addMessageTimes m)

variable {p : Parser} {c : Context}

theorem after_of_finalized (hp : p.lifecycle = .finalized) (m : Message) (s : Session) :
    c.after p m s = c := by
  rw [after, Parser.append_of_finalized hp]

theorem after_of_ready (hp : p.Ready) (m : Message) (s : Session) :
    c.after p m s = match m.row? with
      | some r => c.addCell p.timeline r.frame.timestamp
      | none => c := by
  rcases hm : m.row? with _ | r
  · obtain ⟨e, t, -, h⟩ := Parser.append_of_no_row hp hm c s
    rw [after, h]
  · obtain ⟨t, -, h⟩ := Parser.append_of_row hp hm c s
    rw [after, h]

theorem holds_timestamp_of_row? {m : Message} {r : Row} (h : m.row? = some r) :
    IntegerType.int64.Holds r.frame.timestamp := by
  obtain ⟨payload, -, hd, -⟩ := Message.row?_eq_some_iff.mp h
  exact IntegerType.holds_int64_iff.mpr (Frame.timestamp_bounds_of_decode hd)

/-- A parser never brings in a time that does not fit. -/
theorem fits_after_iff (hp : p.Reachable) (m : Message) (s : Session) :
    (c.after p m s).Fits ↔ c.Fits := by
  rcases hp.stores_or_finalized with ⟨rows, hstores⟩ | hf
  · rw [after_of_ready hstores.ready]
    rcases hm : m.row? with _ | r
    · exact Iff.rfl
    · rw [fits_addCell_iff, and_iff_left (holds_timestamp_of_row? hm)]
  · rw [after_of_finalized hf]

theorem Fed.fits_iff {messages : List Message} (h : Fed messages c) :
    c.Fits ↔ ∀ m ∈ messages, m.Timed := by
  induction h with
  | start entityPath => exact ⟨fun _ => List.forall_mem_nil _, fun _ => List.forall_mem_nil _⟩
  | append h hp m s ih => rw [fits_after_iff hp, ih]
  | times h m ih =>
    rw [fits_addMessageTimes_iff, ih, List.forall_mem_append, List.forall_mem_singleton]

end Context

/-! ## Failures -/

theorem Failure.not_isOf_overflow (classes : List String) : ¬ Failure.overflow.IsOf classes := by
  rintro ⟨error, h, -⟩
  nomatch h

theorem Refusal.isOf {payload : Bytes} {error : PluginError} (h : Refusal payload error) :
    (Failure.plugin error).IsOf ["DecodeError", "UnsupportedFormatError", "ParserStateError"] := by
  cases h with
  | decode h => exact ⟨_, rfl, by simp [PluginError.className]⟩
  | unsupportedFormat h hl => exact ⟨_, rfl, by simp [PluginError.className]⟩

namespace Parser

variable {p : Parser} {c : Context} {m : Message} {s : Session} {e : Failure} {t : Feed}

/-- A message with a payload is refused for its payload, or because it comes too late. -/
theorem isOf_of_append (hp : p.Reachable) (hm : m.payload ≠ none)
    (h : append m ⟨p, c, s⟩ = .error e t) :
    e.IsOf ["DecodeError", "UnsupportedFormatError", "ParserStateError"] := by
  rcases hp.stores_or_finalized with ⟨rows, hstores⟩ | hf
  · rcases hr : m.row? with _ | r
    · obtain ⟨payload, hpayload⟩ := Option.ne_none_iff_exists'.mp hm
      obtain ⟨error, u, hrefusal, -, he⟩ := append_of_refusal hstores.ready hpayload hr c s
      obtain ⟨rfl, -⟩ := EStateM.Result.error.inj (he.symm.trans h)
      exact hrefusal.isOf
    · obtain ⟨u, -, hok⟩ := append_of_row hstores.ready hr c s
      nomatch hok.symm.trans h
  · obtain ⟨rfl, -⟩ := EStateM.Result.error.inj ((append_of_finalized hf m c s).symm.trans h)
    exact ⟨_, rfl, by simp [PluginError.className]⟩

/-- A parser that is finalized refuses the call, and a time that does not fit is the only other
thing that is no plugin error. -/
theorem finalize_error_cases (hp : p.Reachable) (h : finalize ⟨p, c, s⟩ = .error e t) :
    (p.lifecycle = .accumulating ∧ ¬ c.Fits) ∧ e = .overflow ∨
      (p.lifecycle = .finalized ∨ c.Fits) ∧
        e.IsOf ["BatchConstructionError", "ParserStateError"] := by
  rcases hp.stores_or_finalized with ⟨rows, hstores⟩ | hf
  · cases hstores.finalizes h with
    | mismatch hc hl => exact .inr ⟨.inr hc, _, rfl, by simp [PluginError.className]⟩
    | overflow hc => exact .inl ⟨⟨hstores.ready.lifecycle, hc⟩, rfl⟩
  · obtain ⟨rfl, -⟩ := EStateM.Result.error.inj ((finalize_of_finalized hf c s).symm.trans h)
    exact .inr ⟨.inl hf, _, rfl, by simp [PluginError.className]⟩

theorem finalize_overflow_iff (hp : p.Reachable) :
    (∃ t, finalize ⟨p, c, s⟩ = .error .overflow t) ↔ p.lifecycle = .accumulating ∧ ¬ c.Fits := by
  constructor
  · rintro ⟨t, h⟩
    rcases finalize_error_cases hp h with ⟨hcause, -⟩ | ⟨-, hclass⟩
    · exact hcause
    · exact absurd hclass (Failure.not_isOf_overflow _)
  · rintro ⟨ha, hc⟩
    obtain ⟨rows, hstores⟩ := hp.stores ha
    exact ⟨_, finalize_of_not_fits hstores hc s⟩

/-- The failures of a parser with the context of a channel. A message with a payload is refused with
a plugin error. What finalizing fails with is a plugin error or an overflow; and it is an overflow
exactly if the parser was not finalized yet and a message whose times were added was recorded or
sent at a time that does not fit 64 bits. -/
theorem failure_exact {messages : List Message} (hp : p.Reachable) (hc : Context.Fed messages c)
    (m : Message) (hm : m.payload ≠ none) (s : Session) :
    (∀ e t, append m ⟨p, c, s⟩ = .error e t →
      e.IsOf ["DecodeError", "UnsupportedFormatError", "ParserStateError"]) ∧
    (∀ e t, finalize ⟨p, c, s⟩ = .error e t →
      e.IsOf ["BatchConstructionError", "ParserStateError"] ∨ e = .overflow) ∧
    ((∃ t, finalize ⟨p, c, s⟩ = .error .overflow t) ↔
      p.lifecycle = .accumulating ∧ ∃ m ∈ messages, ¬ m.Timed) := by
  refine ⟨fun e t => isOf_of_append hp hm, ?_, ?_⟩
  · intro e t h
    rcases finalize_error_cases hp h with ⟨-, he⟩ | ⟨-, hclass⟩
    · exact .inr he
    · exact .inl hclass
  · rw [finalize_overflow_iff hp, hc.fits_iff]
    simp only [not_forall, exists_prop]

/-- A message with the frame of one pixel, recorded at a time that does not fit 64 bits. -/
def lateMessage : Message := ⟨⟨"cam", schemaName⟩, 0, 2 ^ 63, 0, some pixelPayload⟩

theorem not_timed_lateMessage : ¬ lateMessage.Timed :=
  fun h => absurd (IntegerType.holds_int64_iff.mp h.logTime) (by decide)

/-- A parser that was to be finalized with the time of such a message fails with an overflow, and
then refuses the message with a plugin error. -/
theorem failure_exact_lateMessage : ∃ p c, p.Reachable ∧ Context.Fed [lateMessage] c ∧
    (∃ t, finalize ⟨p, c, {}⟩ = .error .overflow t) ∧
    ∀ e t, append lateMessage ⟨p.finished c {}, c, {}⟩ = .error e t →
      e.IsOf ["DecodeError", "UnsupportedFormatError", "ParserStateError"] := by
  obtain ⟨p, hcreate, -, -, hp⟩ := exists_create (Int.le_refl 0) "timestamp" 0 .session
  have hreachable := Reachable.create hcreate
  have hfed := (Context.Fed.start "/cam").times lateMessage
  have hpay : lateMessage.payload ≠ none := Option.some_ne_none _
  obtain ⟨-, -, hoverflow⟩ := failure_exact hreachable hfed lateMessage hpay {}
  obtain ⟨happend, -, -⟩ :=
    failure_exact (hreachable.finalize _ {}) hfed lateMessage hpay {}
  refine ⟨p, _, hreachable, hfed, hoverflow.mpr ⟨hp.ready.lifecycle, lateMessage, ?_, ?_⟩, happend⟩
  · exact List.mem_singleton_self _
  · exact not_timed_lateMessage

/-- The message is taken, its times are added, and the parser cannot be finalized; the failure is no
plugin error. -/
theorem finalize_lateMessage : ∃ p t, create "timestamp" 0 0 .session = .ok p ∧
    (p.after ⟨⟨"/cam", .empty⟩, {}, lateMessage⟩).rows = 1 ∧
    finalize ⟨p.after ⟨⟨"/cam", .empty⟩, {}, lateMessage⟩,
        (Context.after ⟨"/cam", .empty⟩ p lateMessage {}).addMessageTimes lateMessage, {}⟩ =
      .error .overflow t ∧ Failure.overflow.plugin? = none := by
  obtain ⟨p, hcreate, -, -, hp⟩ := exists_create (Int.le_refl 0) "timestamp" 0 .session
  have hreachable := Reachable.create hcreate
  have hfed := ((Context.Fed.start "/cam").append hreachable lateMessage {}).times lateMessage
  have hstores := hp.after ⟨⟨"/cam", .empty⟩, {}, lateMessage⟩
  have hfits := mt hfed.fits_iff.mp fun h =>
    not_timed_lateMessage (h lateMessage (List.mem_singleton_self _))
  refine ⟨p, _, hcreate, ?_, finalize_of_not_fits hstores hfits {}, rfl⟩
  rw [Parser.rows, hstores.blobs, List.length_map, lateMessage, Message.row?_of_pixelPayload rfl]
  rfl

end Parser

end FrameChunks
