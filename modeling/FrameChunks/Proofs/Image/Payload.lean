import FrameChunks.Image.Frame
import FrameChunks.Proofs.Wire.Reading

/-!
# The payloads of image messages

A payload is decoded exactly if it is a header, the fields of a frame, and any bytes behind them.
The second part of this module spells the fields out as one row of bytes.

## Main definitions

* `Frame.form`: the bytes of the fields of a frame
* `Parts`: the parts of a payload, in the order in which they stand
* `Parts.Valid`, `Parts.Means`: the parts of a payload that is decoded, and the frame that they mean

## Main results

* `Frame.decodeWithRest_eq_ok_iff`: the payloads that are decoded, by the form of the fields
* `Frame.decode_exact`: the payloads that are decoded and refused, part by part
-/

namespace FrameChunks.Image

open Wire

/-! ## The fields of a frame -/

namespace Frame

/-- The bytes of the fields of a frame. -/
def form : Form Frame :=
  (Form.word .int32).seq fun seconds => (Form.word .uint32).seq fun nanos =>
  Form.text.seq fun frameId => (Form.word .uint32).seq fun height =>
  (Form.word .uint32).seq fun width => Form.text.seq fun encoding =>
  Form.bool.seq fun bigEndian => (Form.word .uint32).seq fun step => Form.bytes.seq fun data =>
  Form.done ⟨seconds * nanosPerSecond + nanos, frameId, height, width, encoding, bigEndian, step,
    data⟩

theorem read_reads : read.Reads form :=
  Read.int32_reads.bind fun _ => Read.uint32_reads.bind fun _ => Read.text_reads.bind fun _ =>
  Read.uint32_reads.bind fun _ => Read.uint32_reads.bind fun _ => Read.text_reads.bind fun _ =>
  Read.bool_reads.bind fun _ => Read.uint32_reads.bind fun _ => Read.bytes_reads.bind fun _ =>
  Read.Reads.pure _

theorem decodeWithRest_of_start {payload : Bytes} {r : Reader}
    (h : Reader.start payload = .ok r) :
    decodeWithRest payload = match read r with
      | .ok frame r' => .ok (frame, r'.remaining)
      | .error e _ => .error e := by
  rw [decodeWithRest, h]
  show (match read r with | .ok frame r' => _ | .error e _ => _) = _
  cases read r <;> rfl

/-- Behind a header, a payload is decoded if the fields of a frame are read. -/
theorem decodeWithRest_iff_of_start {payload : Bytes} {r : Reader} {f : Frame} {n : Nat}
    (h : Reader.start payload = .ok r) :
    decodeWithRest payload = .ok (f, n) ↔ ∃ r', read r = .ok f r' ∧ r'.remaining = n := by
  rw [decodeWithRest_of_start h]
  cases read r <;> simp

/-- A payload is decoded if the fields of a frame stand behind a header. -/
theorem decodeWithRest_eq_ok_iff {payload : Bytes} {f : Frame} {n : Nat} :
    decodeWithRest payload = .ok (f, n) ↔
      ∃ (identifier : Nat) (o₀ o₁ : UInt8) (order : ByteOrder) (fields tail : Bytes),
        ByteOrder.ofIdentifier? identifier = some order ∧ form order 0 fields f ∧
          payload = ByteOrder.big.bytes 2 identifier ++ [o₀, o₁] ++ (fields ++ tail) ∧
            tail.length = n := by
  constructor
  · intro h
    rcases hr : Reader.start payload with e | r
    · simp only [decodeWithRest, hr] at h
      nomatch h
    · obtain ⟨r', hf, hn⟩ := (decodeWithRest_iff_of_start hr).mp h
      obtain ⟨fields, hform, hrest, -⟩ := (read_reads r f r').mp hf
      obtain ⟨identifier, o₀, o₁, hi, hp, hb⟩ := start_eq_ok_iff.mp hr
      rw [hp] at hform
      rw [hrest] at hb
      exact ⟨identifier, o₀, o₁, r.order, fields, r'.rest, hi, hform, hb, hn⟩
  · rintro ⟨identifier, o₀, o₁, order, fields, tail, hi, hform, hb, hn⟩
    -- Conversely, reading starts right behind the header.
    have hr : Reader.start payload = .ok ⟨order, 0, fields ++ tail⟩ :=
      start_eq_ok_iff.mpr ⟨identifier, o₀, o₁, hi, rfl, hb⟩
    refine (decodeWithRest_iff_of_start hr).mpr ⟨⟨order, 0 + fields.length, tail⟩, ?_, hn⟩
    exact (read_reads _ f _).mpr ⟨fields, hform, rfl, rfl⟩

theorem decode_eq_ok_iff {payload : Bytes} {f : Frame} :
    decode payload = .ok f ↔ ∃ n, decodeWithRest payload = .ok (f, n) := by
  unfold decode
  rcases decodeWithRest payload with e | ⟨f', n⟩ <;> simp [Functor.map, Except.map]

theorem decodeWithRest_eq_error_iff {payload : Bytes} {e : DecodeError} :
    decodeWithRest payload = .error e ↔ decode payload = .error e := by
  unfold decode
  rcases decodeWithRest payload with e | ⟨f, n⟩ <;> simp [Functor.map, Except.map]

end Frame

/-! ## Payloads part by part -/

/-- The parts of a payload, in the order in which they stand. Before the height and before the step
there are bytes that are not looked at. -/
structure Parts where
  /-- What the first two bytes spell, the most significant one first. -/
  identifier : Nat
  option₀ : UInt8
  option₁ : UInt8
  /-- The order of the bytes behind the header. -/
  order : ByteOrder
  seconds : Int
  nanos : Int
  frameId : Bytes
  heightGap : Bytes
  height : Int
  width : Int
  encoding : Bytes
  bigEndian : Bool
  stepGap : Bytes
  step : Int
  data : Bytes
  trailing : Bytes

/-- The bytes of the gap take the bytes before it to the next multiple of four. -/
def Fills (gap front : Bytes) : Prop := gap.length < 4 ∧ (front.length + gap.length) % 4 = 0

namespace Parts

variable (p : Parts)

/-- The first four bytes. -/
def header : Bytes := ByteOrder.big.bytes 2 p.identifier ++ [p.option₀, p.option₁]

/-- The stamp and the name of the coordinate frame, each text behind its length. -/
def front : Bytes :=
  Word.int32.write p.order p.seconds ++ Word.uint32.write p.order p.nanos ++
    Word.uint32.write p.order p.frameId.length ++ p.frameId

/-- The bytes between the header and the second gap. No gap stands before the truth value. -/
def middle : Bytes :=
  p.front ++ p.heightGap ++ Word.uint32.write p.order p.height ++
    Word.uint32.write p.order p.width ++ Word.uint32.write p.order p.encoding.length ++
    p.encoding ++ [if p.bigEndian then 1 else 0]

/-- The bytes from the header to the end of the pixels. -/
def fields : Bytes :=
  p.middle ++ p.stepGap ++ Word.uint32.write p.order p.step ++
    Word.uint32.write p.order p.data.length ++ p.data

/-- The payload. -/
def bytes : Bytes := p.header ++ (p.fields ++ p.trailing)

/-- Parts that a payload can have: the identifier announces the byte order, the integers fit
their words, and the gaps end at multiples of four after the header. -/
structure Valid : Prop where
  announced : (p.identifier = 0x0000 ∨ p.identifier = 0x0006) ∧ p.order = .big ∨
    (p.identifier = 0x0001 ∨ p.identifier = 0x0007) ∧ p.order = .little
  seconds : Word.int32.Holds p.seconds
  nanos : Word.uint32.Holds p.nanos
  frameId : Word.uint32.Holds p.frameId.length
  heightGap : Fills p.heightGap p.front
  height : Word.uint32.Holds p.height
  width : Word.uint32.Holds p.width
  encoding : Word.uint32.Holds p.encoding.length
  stepGap : Fills p.stepGap p.middle
  step : Word.uint32.Holds p.step
  data : Word.uint32.Holds p.data.length

/-- The frame that the parts mean. The nanoseconds may be more than a second. -/
structure Means (f : Frame) : Prop where
  timestamp : f.timestamp = p.seconds * 1000000000 + p.nanos
  frameId : Spells p.frameId f.frameId
  height : f.height = p.height
  width : f.width = p.width
  encoding : Spells p.encoding f.encoding
  bigEndian : f.bigEndian = p.bigEndian
  step : f.step = p.step
  data : f.data = p.data

end Parts

theorem ofIdentifier?_eq_some_iff {identifier : Nat} {order : ByteOrder} :
    ByteOrder.ofIdentifier? identifier = some order ↔
      (identifier = 0x0000 ∨ identifier = 0x0006) ∧ order = .big ∨
        (identifier = 0x0001 ∨ identifier = 0x0007) ∧ order = .little := by
  constructor
  · intro h
    unfold ByteOrder.ofIdentifier? at h
    split at h <;> cases h <;> decide
  · rintro (⟨rfl | rfl, rfl⟩ | ⟨rfl | rfl, rfl⟩) <;> rfl

namespace Parts

variable {p : Parts}

theorem length_front (p : Parts) : p.front.length = 12 + p.frameId.length := by
  simp only [front, List.length_append, Word.length_write, Word.size_int32, Word.size_uint32]

theorem length_middle (p : Parts) :
    p.middle.length = p.front.length + p.heightGap.length + 12 + p.encoding.length + 1 := by
  simp only [middle, List.length_append, Word.length_write, Word.size_uint32, List.length_singleton]

/-- The fields as they are read one after the other. -/
theorem fields_eq (p : Parts) : p.fields =
    Word.int32.write p.order p.seconds ++ (Word.uint32.write p.order p.nanos ++
    ((Word.uint32.write p.order p.frameId.length ++ p.frameId) ++
    ((p.heightGap ++ Word.uint32.write p.order p.height) ++ (Word.uint32.write p.order p.width ++
    ((Word.uint32.write p.order p.encoding.length ++ p.encoding) ++
    ([if p.bigEndian then 1 else 0] ++ ((p.stepGap ++ Word.uint32.write p.order p.step) ++
    ((Word.uint32.write p.order p.data.length ++ p.data) ++ [])))))))) := by
  simp only [fields, middle, front, List.append_assoc, List.append_nil]

end Parts

namespace Frame

variable {f : Frame}

/-- The fields of a frame behind a header have parts. Only the gaps before the height and before the
step can be there: the other words start at multiples of four without one. -/
theorem exists_parts {identifier : Nat} {order : ByteOrder} {fields : Bytes}
    (hi : ByteOrder.ofIdentifier? identifier = some order) (h : form order 0 fields f)
    (o₀ o₁ : UInt8) (trailing : Bytes) :
    ∃ p : Parts, p.Valid ∧ p.Means f ∧ p.fields = fields ∧ p.trailing = trailing ∧
      p.header = ByteOrder.big.bytes 2 identifier ++ [o₀, o₁] := by
  obtain ⟨seconds, _, _, hseconds, h, rfl⟩ := h
  obtain ⟨nanos, _, _, hnanos, h, rfl⟩ := h
  obtain ⟨frameId, _, _, hframeId, h, rfl⟩ := h
  obtain ⟨height, _, _, ⟨g₁, hg₁, hh, rfl⟩, h, rfl⟩ := h
  obtain ⟨width, _, _, hwidth, h, rfl⟩ := h
  obtain ⟨encoding, _, _, hencoding, h, rfl⟩ := h
  obtain ⟨bigEndian, _, _, rfl, h, rfl⟩ := h
  obtain ⟨step, _, _, ⟨g₂, hg₂, hp, rfl⟩, h, rfl⟩ := h
  obtain ⟨data, _, _, hdata, ⟨rfl, rfl⟩, rfl⟩ := h
  -- The stamp and the name of the coordinate frame start at multiples of four.
  obtain ⟨hs, rfl⟩ := (Form.word_iff_of_aligned (by decide) rfl).mp hseconds
  obtain ⟨hn, rfl⟩ := (Form.word_iff_of_aligned (by decide) (by simp)).mp hnanos
  obtain ⟨r₁, hl₁, ht₁, rfl⟩ := (Form.text_iff_of_aligned (by simp)).mp hframeId
  -- The gap before the height aligns the width and the encoding too.
  rw [eq_padding_iff (by decide)] at hg₁ hg₂
  simp only [List.length_append, Word.length_write, Word.size_int32, Word.size_uint32] at hg₁
  obtain ⟨hw, rfl⟩ := (Form.word_iff_of_aligned (by decide) (by simp; omega)).mp hwidth
  obtain ⟨r₂, hl₂, ht₂, rfl⟩ := (Form.text_iff_of_aligned (by simp; omega)).mp hencoding
  -- The gap before the step aligns the pixels.
  simp only [List.length_append, Word.length_write, Word.size_int32, Word.size_uint32,
    List.length_singleton] at hg₂
  obtain ⟨hl₃, rfl⟩ := (Form.bytes_iff_of_aligned (by simp; omega)).mp hdata
  let p : Parts := ⟨identifier, o₀, o₁, order, seconds, nanos, r₁, g₁, height, width, r₂, bigEndian,
    g₂, step, data, trailing⟩
  refine ⟨p, ⟨ofIdentifier?_eq_some_iff.mp hi, hs, hn, hl₁, ?_, hh, hw, hl₂, ?_, hp, hl₃⟩,
    ⟨rfl, ht₁, rfl, rfl, ht₂, rfl, rfl, rfl⟩, p.fields_eq, rfl, rfl⟩
  · refine ⟨hg₁.1, ?_⟩
    rw [p.length_front]
    show (12 + r₁.length + g₁.length) % 4 = 0
    omega
  · refine ⟨hg₂.1, ?_⟩
    rw [p.length_middle, p.length_front]
    show (12 + r₁.length + g₁.length + 12 + r₂.length + 1 + g₂.length) % 4 = 0
    omega

/-- Valid parts are the fields of the frame that they mean. -/
theorem form_of_parts {p : Parts} (hv : p.Valid) (hm : p.Means f) :
    form p.order 0 p.fields f := by
  obtain ⟨hg₁, hheight⟩ := hv.heightGap
  obtain ⟨hg₂, hstep⟩ := hv.stepGap
  rw [Parts.length_front] at hheight
  rw [Parts.length_middle, Parts.length_front] at hstep
  obtain ⟨timestamp, frameId, height, width, encoding, bigEndian, step, data⟩ := f
  obtain ⟨rfl, hfid, rfl, rfl, henc, rfl, rfl, rfl⟩ := hm
  rw [p.fields_eq]
  refine Form.seq_append ((Form.word_iff_of_aligned (by decide) rfl).mpr ⟨hv.seconds, rfl⟩) ?_
  refine Form.seq_append ((Form.word_iff_of_aligned (by decide) (by simp)).mpr ⟨hv.nanos, rfl⟩) ?_
  refine Form.seq_append ((Form.text_iff_of_aligned (by simp)).mpr
    ⟨p.frameId, hv.frameId, hfid, rfl⟩) ?_
  refine Form.seq_append ⟨p.heightGap, (eq_padding_iff (by decide)).mpr ⟨hg₁, by simp; omega⟩,
    hv.height, rfl⟩ ?_
  refine Form.seq_append ((Form.word_iff_of_aligned (by decide) (by simp; omega)).mpr
    ⟨hv.width, rfl⟩) ?_
  refine Form.seq_append ((Form.text_iff_of_aligned (by simp; omega)).mpr
    ⟨p.encoding, hv.encoding, henc, rfl⟩) ?_
  refine Form.seq_append (a := p.bigEndian) rfl ?_
  refine Form.seq_append ⟨p.stepGap, (eq_padding_iff (by decide)).mpr ⟨hg₂, by simp; omega⟩,
    hv.step, rfl⟩ ?_
  refine Form.seq_append ((Form.bytes_iff_of_aligned (by simp; omega)).mpr ⟨hv.data, rfl⟩) ?_
  exact ⟨rfl, rfl⟩

/-- A payload is decoded to a frame if it consists of valid parts that mean the frame. -/
theorem decode_eq_ok_iff_parts {payload : Bytes} :
    decode payload = .ok f ↔ ∃ p : Parts, p.Valid ∧ p.Means f ∧ payload = p.bytes := by
  rw [decode_eq_ok_iff]
  constructor
  · rintro ⟨n, h⟩
    obtain ⟨identifier, o₀, o₁, order, fields, tail, hi, hform, rfl, -⟩ :=
      decodeWithRest_eq_ok_iff.mp h
    obtain ⟨p, hv, hm, hf, ht, hh⟩ := exists_parts hi hform o₀ o₁ tail
    exact ⟨p, hv, hm, by rw [Parts.bytes, hh, hf, ht]⟩
  · rintro ⟨p, hv, hm, rfl⟩
    exact ⟨_, decodeWithRest_eq_ok_iff.mpr ⟨p.identifier, p.option₀, p.option₁, p.order, p.fields,
      p.trailing, ofIdentifier?_eq_some_iff.mpr hv.announced, form_of_parts hv hm, rfl, rfl⟩⟩

/-- The numbers of a frame fit unsigned words of four bytes. -/
structure Sized (f : Frame) : Prop where
  height : Word.uint32.Holds f.height
  width : Word.uint32.Holds f.width
  step : Word.uint32.Holds f.step

theorem sized_of_decode {payload : Bytes} (h : decode payload = .ok f) : f.Sized := by
  obtain ⟨p, hv, hm, -⟩ := decode_eq_ok_iff_parts.mp h
  refine ⟨?_, ?_, ?_⟩
  · rw [hm.height]
    exact hv.height
  · rw [hm.width]
    exact hv.width
  · rw [hm.step]
    exact hv.step

/-- A stamp is made of a word of seconds and a word of nanoseconds, so 64 bits hold it. -/
theorem timestamp_bounds_of_decode {payload : Bytes} (h : decode payload = .ok f) :
    -2 ^ 63 ≤ f.timestamp ∧ f.timestamp < 2 ^ 63 := by
  obtain ⟨p, hv, hm, -⟩ := decode_eq_ok_iff_parts.mp h
  have hseconds : -2 ^ 31 ≤ p.seconds ∧ p.seconds < 2 ^ 31 := hv.seconds
  have hnanos : 0 ≤ p.nanos ∧ p.nanos < 2 ^ 32 := hv.nanos
  rw [hm.timestamp]
  omega

/-- Decoding accepts exactly the payloads that consist of valid parts, gives the frame that the
parts mean, and refuses every other byte string. -/
theorem decode_exact (payload : Bytes) :
    (∀ f : Frame, decode payload = .ok f ↔ ∃ p : Parts, p.Valid ∧ p.Means f ∧ payload = p.bytes) ∧
      ((∃ e, decode payload = .error e) ↔
        ¬ ∃ (p : Parts) (f : Frame), p.Valid ∧ p.Means f ∧ payload = p.bytes) := by
  refine ⟨fun f => decode_eq_ok_iff_parts, ?_⟩
  constructor
  · rintro ⟨e, he⟩ ⟨p, f, h⟩
    rw [decode_eq_ok_iff_parts.mpr ⟨p, h⟩] at he
    nomatch he
  · intro hno
    rcases hd : decode payload with e | f
    · exact ⟨e, rfl⟩
    · obtain ⟨p, h⟩ := decode_eq_ok_iff_parts.mp hd
      exact absurd ⟨p, f, h⟩ hno

end Frame

end FrameChunks.Image
