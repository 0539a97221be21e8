import FrameChunks.Parser.Basic
import FrameChunks.Proofs.Column.Builder
import FrameChunks.Proofs.Image.Payload

/-!
# What parsers do with a message

A message that can be decoded and whose encoding is known becomes a row: every collection of the
parser grows by one, and the stamp goes to its timeline. Any other message changes neither the
parser nor the context.

## Main definitions

* `Row`, `Message.row?`: a frame with its format, and the row of a message
* `Refusal`: why a message has no row
* `Metadata.push`, `Parser.push`: the metadata and the parser with one more row
* `Session.Noted`: only notes were added to a session
* `Parser.Ready`: a parser that takes messages

## Main results

* `Parser.append_of_row`: a message with a row is taken
* `Parser.append_of_refusal`, `Parser.append_of_no_row`: other messages are refused
-/

namespace FrameChunks

open Image Steps

/-! ## Rows -/

/-- A frame and its pixel format. -/
structure Row where
  frame : Frame
  format : Format
  deriving DecidableEq

/-- The row of a message that can be decoded and whose encoding is known. -/
def Message.row? (m : Message) : Option Row := do
  let frame ← (Frame.decode (← m.payload)).toOption
  let format ← (resolve frame.encoding frame.width frame.height).toOption
  return ⟨frame, format⟩

theorem toOption_eq_some_iff {ε α : Type} {x : Except ε α} {a : α} :
    x.toOption = some a ↔ x = .ok a := by
  rcases x with e | b
  · exact ⟨nofun, nofun⟩
  · rw [Except.ok.injEq]
    exact Option.some_inj

theorem Message.row?_eq_some_iff {m : Message} {r : Row} : m.row? = some r ↔
    ∃ payload, m.payload = some payload ∧ Frame.decode payload = .ok r.frame ∧
      resolve r.frame.encoding r.frame.width r.frame.height = .ok r.format := by
  simp only [row?, Option.bind_eq_bind, Option.bind_eq_some_iff, toOption_eq_some_iff,
    Option.pure_def, Option.some.injEq]
  constructor
  · rintro ⟨payload, hp, frame, hd, format, hr, rfl⟩
    exact ⟨payload, hp, hd, hr⟩
  · rintro ⟨payload, hp, hd, hr⟩
    exact ⟨payload, hp, r.frame, hd, r.format, hr, rfl⟩

theorem resolve_of_unknown {encoding : String} (h : layoutOf? encoding = none)
    (width height : Int) : resolve encoding width height = .error (.unsupported encoding) := by
  rw [resolve, h]

/-- The size of a decoded frame is that of a format, so only the encoding can be at fault. -/
theorem resolve_of_sized {f : Frame} {layout : Layout} (hf : f.Sized)
    (h : layoutOf? f.encoding = some layout) :
    resolve f.encoding f.width f.height = .ok ⟨f.width.toNat, f.height.toNat, layout⟩ := by
  have hs : ¬ (f.width < 0 ∨ f.height < 0) := by
    have hw : 0 ≤ f.width := hf.width.1
    have hh : 0 ≤ f.height := hf.height.1
    omega
  rw [resolve, h]
  simp only [Format.sized, if_neg hs]
  rfl

/-- Why a message with a payload has no row: the payload is not that of a frame, or the encoding of
the frame is not known. -/
inductive Refusal (payload : Bytes) : PluginError → Prop
  | decode {e : Wire.DecodeError} (h : Frame.decode payload = .error e) :
    Refusal payload (.decode e)
  | unsupportedFormat {f : Frame} (h : Frame.decode payload = .ok f)
    (hl : layoutOf? f.encoding = none) : Refusal payload (.unsupportedFormat f.encoding)

theorem Refusal.unique {payload : Bytes} {e e' : PluginError} (h : Refusal payload e)
    (h' : Refusal payload e') : e = e' := by
  cases h with
  | decode h =>
    cases h' with
    | decode h' => rw [Except.error.inj (h.symm.trans h')]
    | unsupportedFormat h' => nomatch h.symm.trans h'
  | unsupportedFormat h =>
    cases h' with
    | decode h' => nomatch h.symm.trans h'
    | unsupportedFormat h' => rw [Except.ok.inj (h.symm.trans h')]

/-! ## The metadata of a row -/

/-- The type of the elements of the column of an attribute. -/
def Attribute.element : Attribute → Column.ElementType
  | encoding => .text
  | _ => .integer .uint32

namespace Metadata

/-- The builders have the types of their attributes, and one element per row. -/
def Typed (m : Metadata Column.Builder) : Prop :=
  ∀ a : Attribute, (m.get a).element = a.element ∧ (m.get a).listSize = 1

/-- The builders with the attributes of one more frame. -/
def push (m : Metadata Column.Builder) (f : Frame) : Metadata Column.Builder :=
  Attribute.all.foldl (fun m a => m.set a ((m.get a).push (a.value f))) m

@[simp] theorem get_push (m : Metadata Column.Builder) (f : Frame) (a : Attribute) :
    (m.push f).get a = (m.get a).push (a.value f) := by
  cases a <;> rfl

end Metadata

/-- The attributes of a sized frame are values that their columns take. -/
theorem Attribute.check_value {f : Frame} (hf : f.Sized) (a : Attribute) :
    Column.Builder.check a.element (a.value f) = .ok () := by
  have hu {n : Int} (h : Wire.Word.uint32.Holds n) :
      Column.Builder.check (.integer .uint32) (.integer n) = .ok () :=
    if_pos ⟨h.1, Int.le_sub_one_of_lt h.2⟩
  cases a with
  | height => exact hu hf.height
  | width => exact hu hf.width
  | encoding => rfl
  | bigEndian =>
    refine hu ?_
    cases f.bigEndian <;> decide
  | step => exact hu hf.step

namespace Metadata

variable {m : Metadata Column.Builder} {f : Frame}

theorem Typed.set_push (h : m.Typed) (a : Attribute) (v : Column.Value) :
    (m.set a ((m.get a).push v)).Typed := by
  intro b
  rw [get_set]
  split
  · next hb =>
    subst hb
    exact h b
  · exact h b

theorem Typed.push (h : m.Typed) (f : Frame) : (m.push f).Typed := by
  intro a
  rw [get_push, Column.Builder.element_push, Column.Builder.listSize_push]
  exact h a

end Metadata

/-! ## Steps -/

/-- Only notes were added to a session. -/
def Session.Noted (s t : Session) : Prop := ∃ notes, t = { s with notes := s.notes ++ notes }

theorem Session.Noted.refl (s : Session) : s.Noted s := ⟨[], by rw [List.append_nil]⟩

theorem Session.Noted.trans {s t u : Session} (h : s.Noted t) (h' : t.Noted u) : s.Noted u := by
  obtain ⟨notes, rfl⟩ := h
  obtain ⟨notes', rfl⟩ := h'
  exact ⟨notes ++ notes', by rw [List.append_assoc]⟩

theorem Session.Noted.nextRow {s t : Session} (h : s.Noted t) : t.nextRow = s.nextRow := by
  obtain ⟨notes, rfl⟩ := h
  rfl

theorem Session.noted_note (s : Session) (level : Log.Level) (source : Log.Source) (text : String) :
    s.Noted (s.note level source text) := ⟨[⟨level, source, text⟩], rfl⟩

/-- The parser with one more row. -/
def Parser.push (p : Parser) (r : Row) : Parser :=
  { p with
    isDepth := r.format.layout.isDepth
    blobs := p.blobs ++ [r.frame.data]
    formats := p.formats ++ [r.format]
    metadata := p.metadata.push r.frame }

namespace Step

variable {s : Feed} {f : Frame} {r : Row}

theorem get_eq (s : Feed) : (get : Step Feed) s = .ok s s := rfl

theorem requireAccumulating_of_accumulating (call : ParserCall)
    (h : s.parser.lifecycle = .accumulating) : requireAccumulating call s = .ok () s := by
  rw [requireAccumulating, bind_of_ok (get_eq s), if_neg (not_not.mpr h)]
  rfl

theorem requireAccumulating_of_finalized (call : ParserCall) (h : s.parser.lifecycle = .finalized) :
    requireAccumulating call s = .error (.plugin (.parserState (.finalized call))) s := by
  rw [requireAccumulating, bind_of_ok (get_eq s), if_pos (by rw [h]; decide)]
  rfl

/-- Decoding a payload makes a note at most. -/
theorem decode_of_ok {payload : Bytes} (h : Frame.decode payload = .ok f) (s : Feed) :
    ∃ t, s.session.Noted t ∧ decode payload s = .ok f { s with session := t } := by
  obtain ⟨n, hn⟩ := Frame.decode_eq_ok_iff.mp h
  refine ⟨(s.session.decode payload).2, ?_, ?_⟩
  · rw [Session.decode, hn]
    simp only
    split
    · exact Session.noted_note ..
    · exact Session.Noted.refl _
  · rw [decode, bind_of_ok (get_eq s), Session.decode, hn]
    rfl

/-- A payload that cannot be decoded is refused, and nothing is noted. -/
theorem decode_of_error {payload : Bytes} {e : Wire.DecodeError}
    (h : Frame.decode payload = .error e) (s : Feed) :
    decode payload s = .error (.plugin (.decode e)) s := by
  rw [decode, bind_of_ok (get_eq s), Session.decode, Frame.decodeWithRest_eq_error_iff.mpr h]
  rfl

/-- Putting the attributes of a sized frame succeeds and changes the metadata only. -/
theorem putMetadata_eq (hf : f.Sized) (attributes : List Attribute) (h : s.parser.metadata.Typed) :
    putMetadata f attributes s = .ok () { s with
      parser := { s.parser with
        metadata := attributes.foldl (fun m a => m.set a ((m.get a).push (a.value f)))
          s.parser.metadata } } := by
  -- Induction on the attributes: putting one keeps the types of all builders.
  induction attributes generalizing s with
  | nil => rfl
  | cons a rest ih =>
    have ha : (s.parser.metadata.get a).append (a.value f) =
        .ok ((s.parser.metadata.get a).push (a.value f)) := by
      refine Column.Builder.append_of_check (h a).2 ?_
      rw [(h a).1]
      exact a.check_value hf
    rw [putMetadata, bind_of_ok (get_eq s), ha]
    show (modifyParser _ >>= _) s = _
    rw [bind_of_ok (show modifyParser _ s = .ok () _ from rfl), ih (h.set_push a _)]
    rfl

/-- A row goes to the parser, and its stamp to the context. -/
theorem putRow_eq (hf : r.frame.Sized) (h : s.parser.metadata.Typed) :
    putRow r.frame r.format s = .ok () { s with
      parser := s.parser.push r
      context := s.context.addCell s.parser.timeline r.frame.timestamp } :=
  putMetadata_eq (s := { s with
    parser := { s.parser with
      isDepth := r.format.layout.isDepth
      blobs := s.parser.blobs ++ [r.frame.data]
      formats := s.parser.formats ++ [r.format] }
    context := s.context.addCell s.parser.timeline r.frame.timestamp }) hf Attribute.all h

/-- Progress is noted at most. -/
theorem noteProgress_eq (f : Frame) (format : Format) (s : Feed) :
    ∃ t, s.session.Noted t ∧ noteProgress f format s = .ok () { s with session := t } := by
  rw [noteProgress, bind_of_ok (get_eq s)]
  split
  · exact ⟨_, Session.noted_note .., rfl⟩
  · exact ⟨_, Session.Noted.refl _, rfl⟩

end Step

/-! ## Messages -/

namespace Parser

/-- A parser that takes messages. -/
structure Ready (p : Parser) : Prop where
  lifecycle : p.lifecycle = .accumulating
  typed : p.metadata.Typed

theorem Ready.push {p : Parser} (h : p.Ready) (r : Row) : (p.push r).Ready :=
  ⟨h.lifecycle, h.typed.push r.frame⟩

variable {p : Parser} {m : Message} {r : Row}

/-- A message with a row is taken: every collection grows by the row, and the stamp goes to its
timeline. -/
theorem append_of_row (hp : p.Ready) (hm : m.row? = some r) (c : Context) (s : Session) :
    ∃ t, s.Noted t ∧ append m ⟨p, c, s⟩ =
      .ok () ⟨p.push r, c.addCell p.timeline r.frame.timestamp, t⟩ := by
  obtain ⟨payload, hpay, hd, hr⟩ := Message.row?_eq_some_iff.mp hm
  obtain ⟨t, ht, hdecode⟩ := Step.decode_of_ok hd ⟨p, c, s⟩
  obtain ⟨u, hu, hprogress⟩ := Step.noteProgress_eq r.frame r.format
    ⟨p.push r, c.addCell p.timeline r.frame.timestamp, t⟩
  have hput := Step.putRow_eq (r := r) (s := ⟨p, c, t⟩) (Frame.sized_of_decode hd) hp.typed
  refine ⟨u, ht.trans hu, ?_⟩
  -- The steps of taking a message, one after the other.
  rw [append, bind_of_ok (Step.requireAccumulating_of_accumulating _ hp.lifecycle), hpay]
  simp only
  rw [bind_of_ok hdecode, hr]
  simp only
  rw [bind_of_ok hput, hprogress]

/-- A message that cannot be decoded changes nothing. -/
theorem append_of_decode_error {payload : Bytes} {e : Wire.DecodeError} (hp : p.Ready)
    (hm : m.payload = some payload) (hd : Frame.decode payload = .error e) (c : Context)
    (s : Session) : append m ⟨p, c, s⟩ = .error (.plugin (.decode e)) ⟨p, c, s⟩ := by
  rw [append, bind_of_ok (Step.requireAccumulating_of_accumulating _ hp.lifecycle), hm]
  exact bind_of_error (Step.decode_of_error hd _)

/-- A message whose encoding is not known changes neither the parser nor the context. -/
theorem append_of_resolve_error {payload : Bytes} {f : Frame} {e : ResolveError} (hp : p.Ready)
    (hm : m.payload = some payload) (hd : Frame.decode payload = .ok f)
    (hr : resolve f.encoding f.width f.height = .error e) (c : Context) (s : Session) :
    ∃ t, s.Noted t ∧ append m ⟨p, c, s⟩ = .error (e : Failure) ⟨p, c, t⟩ := by
  obtain ⟨t, ht, hdecode⟩ := Step.decode_of_ok hd ⟨p, c, s⟩
  refine ⟨t, ht, ?_⟩
  rw [append, bind_of_ok (Step.requireAccumulating_of_accumulating _ hp.lifecycle), hm]
  simp only
  rw [bind_of_ok hdecode, hr]
  rfl

/-- A message with a payload but without a row is refused for what is wrong with the payload, and
changes neither the parser nor the context. -/
theorem append_of_refusal {payload : Bytes} (hp : p.Ready) (hpay : m.payload = some payload)
    (hm : m.row? = none) (c : Context) (s : Session) :
    ∃ error t, Refusal payload error ∧ s.Noted t ∧
      append m ⟨p, c, s⟩ = .error (.plugin error) ⟨p, c, t⟩ := by
  rcases hd : Frame.decode payload with e | f
  · exact ⟨_, s, .decode hd, Session.Noted.refl s, append_of_decode_error hp hpay hd c s⟩
  rcases hl : layoutOf? f.encoding with _ | layout
  · obtain ⟨t, ht, h⟩ := append_of_resolve_error hp hpay hd (resolve_of_unknown hl _ _) c s
    exact ⟨_, t, .unsupportedFormat hd hl, ht, h⟩
  · -- A message that is decoded and resolved has a row.
    have h : m.row? = some ⟨f, ⟨f.width.toNat, f.height.toNat, layout⟩⟩ :=
      Message.row?_eq_some_iff.mpr
        ⟨payload, hpay, hd, resolve_of_sized (Frame.sized_of_decode hd) hl⟩
    rw [hm] at h
    nomatch h

theorem append_of_finalized (hp : p.lifecycle = .finalized) (m : Message) (c : Context)
    (s : Session) : append m ⟨p, c, s⟩ =
      .error (.plugin (.parserState (.finalized .append))) ⟨p, c, s⟩ :=
  bind_of_error (Step.requireAccumulating_of_finalized .append hp)

theorem append_of_no_payload (hp : p.Ready) (hm : m.payload = none) (c : Context) (s : Session) :
    append m ⟨p, c, s⟩ = .error .noPayload ⟨p, c, s⟩ := by
  rw [append, bind_of_ok (Step.requireAccumulating_of_accumulating _ hp.lifecycle), hm]
  rfl

/-- A message without a row changes neither the parser nor the context. -/
theorem append_of_no_row (hp : p.Ready) (hm : m.row? = none) (c : Context) (s : Session) :
    ∃ e t, s.Noted t ∧ append m ⟨p, c, s⟩ = .error e ⟨p, c, t⟩ := by
  rcases hpay : m.payload with _ | payload
  · exact ⟨_, s, Session.Noted.refl s, append_of_no_payload hp hpay c s⟩
  · obtain ⟨error, t, -, ht, h⟩ := append_of_refusal hp hpay hm c s
    exact ⟨_, t, ht, h⟩

end Parser

end FrameChunks
