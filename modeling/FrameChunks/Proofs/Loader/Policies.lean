import FrameChunks.Proofs.Loader.Load

/-!
# Passing over messages, and giving up

A loader that passes over the messages that its parser refuses does what a loader that gives up at
such a message does if there are none: the refused messages leave no trace but notes. How many rows
either of them expects makes no difference.

## Main definitions

* `Message.Accepted`: a message that can be decoded and whose encoding is known

## Main results

* `Loader.outcome_skip_eq_abort`: the two policies agree on the messages that are accepted
-/

namespace FrameChunks

open Image

/-- A message that can be decoded and whose encoding is known. -/
def Message.Accepted (m : Message) : Prop :=
  ∃ payload frame format, m.payload = some payload ∧ Frame.decode payload = .ok frame ∧
    resolve frame.encoding frame.width frame.height = .ok format

theorem Message.accepted_iff_isSome {m : Message} : m.Accepted ↔ m.row?.isSome := by
  rw [Option.isSome_iff_exists]
  constructor
  · rintro ⟨payload, frame, format, hp, hd, hr⟩
    exact ⟨⟨frame, format⟩, row?_eq_some_iff.mpr ⟨payload, hp, hd, hr⟩⟩
  · rintro ⟨r, hr⟩
    obtain ⟨payload, hp, hd, hr⟩ := row?_eq_some_iff.mp hr
    exact ⟨payload, r.frame, r.format, hp, hd, hr⟩

instance : DecidablePred Message.Accepted :=
  fun _ => decidable_of_iff _ Message.accepted_iff_isSome.symm

/-- The accepted messages have the rows of all messages. -/
theorem takenOf_filter_accepted (messages : List Message) :
    takenOf (messages.filter fun m => m.Accepted) = takenOf messages := by
  induction messages with
  | nil => rfl
  | cons m rest ih =>
    rcases hm : m.row? with _ | r
    · have hno : ¬ m.Accepted := by simp [Message.accepted_iff_isSome, hm]
      rw [List.filter_cons_of_neg (by simpa using hno), ih, takenOf_cons_of_no_row hm]
    · have hyes : m.Accepted := by simp [Message.accepted_iff_isSome, hm]
      rw [List.filter_cons_of_pos (by simpa using hyes), takenOf_cons_of_row hm, ih,
        takenOf_cons_of_row hm]

namespace Loader

variable {messages : List Message}

theorem tolerates_of_skip {l : Loader} (hl : l.policy = .skip)
    (h : ∀ m ∈ messages, m.payload ≠ none) : l.Tolerates messages :=
  fun m hm => ⟨h m hm, fun _ => hl⟩

theorem tolerates_of_accepted {l : Loader} (h : ∀ m ∈ messages, m.Accepted) :
    l.Tolerates messages := by
  intro m hm
  have haccepted := h m hm
  constructor
  · obtain ⟨payload, -, -, hp, -⟩ := haccepted
    rw [hp]
    exact Option.some_ne_none payload
  · intro hno
    rw [Message.accepted_iff_isSome, hno] at haccepted
    nomatch haccepted

/-- Passing over what is refused has the outcome of giving up at it, on the accepted messages alone:
the same chunks with the same ids, or the same failure, and the same row ids and chunk ids are gone.
The two loaders may expect different numbers of rows. -/
theorem outcome_skip_eq_abort {registry : Registry} {channel : Channel} {rows rows' : Int}
    {hint hint' : Option Int} {counted counted' : Bool} {s t : State}
    (hr : registry.contains channel.schema) (hp : ∀ m ∈ messages, m.payload ≠ none)
    (hn : 0 ≤ expectedRows ⟨registry, .skip, rows⟩ hint messages counted)
    (hn' : 0 ≤ expectedRows ⟨registry, .abort, rows'⟩ hint'
      (messages.filter fun m => m.Accepted) counted')
    (hs : s.session.silent = t.session.silent) :
    outcome (load ⟨registry, .skip, rows⟩ channel messages hint counted s) =
      outcome (load ⟨registry, .abort, rows'⟩ channel (messages.filter fun m => m.Accepted) hint'
        counted' t) := by
  obtain ⟨plugin, hplugin⟩ := Keyed.contains_iff_exists.mp hr
  have hskip := outcome_load (l := ⟨registry, .skip, rows⟩) hplugin hn (tolerates_of_skip rfl hp) s
  have habort := outcome_load (l := ⟨registry, .abort, rows'⟩) hplugin hn'
    (tolerates_of_accepted fun m hm => of_decide_eq_true (List.mem_filter.mp hm).2) t
  -- Both give the reference result for the same rows and the same times.
  rw [hskip, habort, takenOf_filter_accepted, hs]

/-- A message with an empty payload, and one with the frame of one pixel. -/
def pixelMessages : List Message :=
  [⟨⟨"cam", schemaName⟩, 0, 5, 6, some []⟩, ⟨⟨"cam", schemaName⟩, 0, 5, 6, some pixelPayload⟩]

theorem payload_pixelMessages : ∀ m ∈ pixelMessages, m.payload ≠ none := by
  simp [pixelMessages]

theorem not_accepted_of_empty {m : Message} (h : m.payload = some []) : ¬ m.Accepted := by
  have hrow : m.row? = none := by
    rw [Message.row?, h]
    rfl
  simp [Message.accepted_iff_isSome, hrow]

theorem accepted_of_pixelPayload {m : Message} (h : m.payload = some pixelPayload) :
    m.Accepted := by
  rw [Message.accepted_iff_isSome, Message.row?_of_pixelPayload h]
  rfl

theorem filter_pixelMessages :
    pixelMessages.filter (fun m => m.Accepted) = pixelMessages.tail := by
  have hempty : ¬ Message.Accepted ⟨⟨"cam", schemaName⟩, 0, 5, 6, some []⟩ :=
    not_accepted_of_empty rfl
  have hpixel : Message.Accepted ⟨⟨"cam", schemaName⟩, 0, 5, 6, some pixelPayload⟩ :=
    accepted_of_pixelPayload rfl
  rw [pixelMessages, List.filter_cons_of_neg (by simpa using hempty),
    List.filter_cons_of_pos (by simpa using hpixel)]
  rfl

/-- The first message is passed over; the second one is all that a loader that gives up is fed. -/
theorem outcome_skip_eq_abort_pixelMessages :
    outcome (load ⟨.standard {}, .skip, 0⟩ ⟨"cam", schemaName⟩ pixelMessages none true ⟨{}, {}⟩) =
      outcome (load ⟨.standard {}, .abort, 9⟩ ⟨"cam", schemaName⟩ pixelMessages.tail none false
        ⟨{}, {}⟩) := by
  rw [← filter_pixelMessages]
  exact outcome_skip_eq_abort (by decide) payload_pixelMessages (by decide) (by decide) rfl

end Loader

end FrameChunks
