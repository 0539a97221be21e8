import FrameChunks.Proofs.Image.Payload
import FrameChunks.Proofs.Wire.Writing

/-!
# Encoding frames and decoding them again

A frame is encoded exactly if its fields fit their words, and decoding undoes encoding whatever
stands behind the payload.

## Main definitions

* `Frame.output`: the bytes that are written for a frame
* `Frame.Encodable`: the frames that are encoded

## Main results

* `Frame.encode_of_encodable`, `Frame.encode_of_not_encodable`: what encoding gives
* `Frame.output_form`: what is written is of the form that is read
* `Frame.encode_roundTrip`: the frames that are encoded, and that decoding gives them back
-/

namespace FrameChunks.Image.Frame

open Wire

/-- The bytes that are written for a frame. -/
def output (f : Frame) : Output :=
  (Output.word .int32 (f.timestamp.fdiv nanosPerSecond)).seq <|
  (Output.word .uint32 (f.timestamp.fmod nanosPerSecond)).seq <|
  (Output.text f.frameId).seq <| (Output.word .uint32 f.height).seq <|
  (Output.word .uint32 f.width).seq <| (Output.text f.encoding).seq <|
  (Output.word .uint8 (if f.bigEndian then 1 else 0)).seq <|
  (Output.word .uint32 f.step).seq <| Output.bytes f.data

/-- A frame whose fields fit their words: the seconds a signed word of four bytes, the numbers and
the lengths an unsigned one. A text has a zero byte at its end, which counts. -/
structure Encodable (f : Frame) : Prop where
  seconds : -2 ^ 31 ≤ f.timestamp.fdiv 1000000000 ∧ f.timestamp.fdiv 1000000000 < 2 ^ 31
  frameId : f.frameId.utf8ByteSize ≤ 2 ^ 32 - 2
  height : 0 ≤ f.height ∧ f.height < 2 ^ 32
  width : 0 ≤ f.width ∧ f.width < 2 ^ 32
  encoding : f.encoding.utf8ByteSize ≤ 2 ^ 32 - 2
  step : 0 ≤ f.step ∧ f.step < 2 ^ 32
  data : f.data.length ≤ 2 ^ 32 - 1

/-- The nanoseconds within a second always fit. -/
theorem holds_nanos (f : Frame) : Word.uint32.Holds (f.timestamp.fmod nanosPerSecond) := by
  have hp : (0 : Int) < nanosPerSecond := by decide
  have h₀ := Int.fmod_nonneg_of_pos f.timestamp hp
  have h₁ := Int.fmod_lt_of_pos f.timestamp hp
  rw [holds_uint32_iff]
  exact ⟨h₀, h₁.trans (by decide)⟩

/-- The seconds and the nanoseconds within a second are the stamp. -/
theorem stamp_eq (n : Int) :
    n.fdiv nanosPerSecond * nanosPerSecond + n.fmod nanosPerSecond = n := by
  rw [Int.mul_comm]
  exact Int.mul_fdiv_add_fmod n nanosPerSecond

/-- The conditions of the writing steps, one after the other, are those of an encodable frame. -/
theorem encodable_iff {f : Frame} : f.Encodable ↔
    Word.int32.Holds (f.timestamp.fdiv nanosPerSecond) ∧
      Word.uint32.Holds (f.timestamp.fmod nanosPerSecond) ∧
      Word.uint32.Holds (Output.textBytes f.frameId).length ∧ Word.uint32.Holds f.height ∧
      Word.uint32.Holds f.width ∧ Word.uint32.Holds (Output.textBytes f.encoding).length ∧ True ∧
      Word.uint32.Holds f.step ∧ Word.uint32.Holds f.data.length := by
  rw [holds_textBytes_iff, holds_textBytes_iff, holds_length_iff]
  constructor
  · rintro ⟨hs, hf, hh, hw, he, hp, hd⟩
    exact ⟨hs, f.holds_nanos, hf, hh, hw, he, trivial, hp, hd⟩
  · rintro ⟨hs, -, hf, hh, hw, he, -, hp, hd⟩
    exact ⟨hs, hf, hh, hw, he, hp, hd⟩

/-- Writing appends the output of the frame if the frame is encodable. -/
theorem write_puts (f : Frame) : f.write.Puts f.Encodable f.output := by
  rw [encodable_iff]
  exact (Write.word_puts _ _).bind <| (Write.word_puts _ _).bind <| (Write.text_puts _).bind <|
    (Write.word_puts _ _).bind <| (Write.word_puts _ _).bind <| (Write.text_puts _).bind <|
    (Write.bool_puts _).bind <| (Write.word_puts _ _).bind <| Write.bytes_puts _

/-- The output of an encodable frame is of the form that is read. -/
theorem output_form {f : Frame} (h : f.Encodable) (order : ByteOrder) (position : Nat) :
    form order position (f.output order position) f := by
  obtain ⟨hs, hn, hf, hh, hw, he, -, hp, hd⟩ := encodable_iff.mp h
  refine Output.seq_form (Output.word_form hs) <| Output.seq_form (Output.word_form hn) <|
    Output.seq_form (Output.text_form hf) <| Output.seq_form (Output.word_form hh) <|
    Output.seq_form (Output.word_form hw) <| Output.seq_form (Output.text_form he) <|
    Output.seq_form (Output.bool_form f.bigEndian) <| Output.seq_form (Output.word_form hp) ?_
  refine ⟨f.data, _, [], Output.bytes_form hd, ⟨rfl, ?_⟩, (List.append_nil _).symm⟩
  -- What is read is the frame, as the seconds and the nanoseconds make up the stamp.
  rw [stamp_eq]

theorem output_sameSize (f : Frame) : f.output.SameSize :=
  (Output.sameSize_word _ _).seq <| (Output.sameSize_word _ _).seq <|
  (Output.sameSize_text _).seq <| (Output.sameSize_word _ _).seq <|
  (Output.sameSize_word _ _).seq <| (Output.sameSize_text _).seq <|
  (Output.sameSize_word _ _).seq <| (Output.sameSize_word _ _).seq <| Output.sameSize_bytes _

/-! ## Encoding -/

variable {f : Frame} {order : ByteOrder}

/-- An encodable frame is its output behind a header without options. -/
theorem encode_of_encodable (h : f.Encodable) (order : ByteOrder) :
    encode order f =
      .ok (ByteOrder.big.bytes 2 order.identifier ++ [0, 0] ++ f.output order 0) := by
  rw [encode, (f.write_puts { order }).1 h]
  rfl

theorem encode_of_not_encodable (h : ¬ f.Encodable) (order : ByteOrder) :
    ∃ n, encode order f = .error (.outOfRange n) := by
  obtain ⟨n, w, he⟩ := (f.write_puts { order }).2 h
  exact ⟨n, by rw [encode, he]⟩

/-- The payloads that encoding gives. -/
theorem encode_eq_ok_iff {payload : Bytes} : encode order f = .ok payload ↔
    f.Encodable ∧
      payload = ByteOrder.big.bytes 2 order.identifier ++ [0, 0] ++ f.output order 0 := by
  constructor
  · intro h
    by_cases hf : f.Encodable
    · rw [encode_of_encodable hf order] at h
      exact ⟨hf, (Except.ok.inj h).symm⟩
    · obtain ⟨n, he⟩ := encode_of_not_encodable hf order
      rw [he] at h
      nomatch h
  · rintro ⟨hf, rfl⟩
    exact encode_of_encodable hf order

/-- Decoding undoes encoding, whatever stands behind the payload. -/
theorem decodeWithRest_encode {payload : Bytes} (h : encode order f = .ok payload) (tail : Bytes) :
    decodeWithRest (payload ++ tail) = .ok (f, tail.length) := by
  obtain ⟨hf, rfl⟩ := encode_eq_ok_iff.mp h
  refine decodeWithRest_eq_ok_iff.mpr ⟨order.identifier, 0, 0, order, f.output order 0, tail,
    ByteOrder.ofIdentifier?_identifier order, output_form hf order 0, ?_, rfl⟩
  rw [List.append_assoc]

/-- A frame is encoded exactly if its fields fit their words, and is refused otherwise. Decoding
gives an encoded frame back, whatever stands behind the payload, and the payloads in the two byte
orders are of one size. -/
theorem encode_roundTrip (f : Frame) :
    (∀ order, (∃ payload, encode order f = .ok payload) ↔ f.Encodable) ∧
      (∀ order, (∃ n, encode order f = .error (.outOfRange n)) ↔ ¬ f.Encodable) ∧
      (∀ order payload, encode order f = .ok payload →
        ∀ tail, decode (payload ++ tail) = .ok f) ∧
      ∀ little big, encode .little f = .ok little → encode .big f = .ok big →
        little.length = big.length := by
  refine ⟨?_, ?_, ?_, ?_⟩
  · intro order
    constructor
    · rintro ⟨payload, h⟩
      exact (encode_eq_ok_iff.mp h).1
    · intro hf
      exact ⟨_, encode_of_encodable hf order⟩
  · intro order
    constructor
    · rintro ⟨n, h⟩ hf
      rw [encode_of_encodable hf order] at h
      nomatch h
    · intro hf
      exact encode_of_not_encodable hf order
  · intro order payload h tail
    exact decode_eq_ok_iff.mpr ⟨_, decodeWithRest_encode h tail⟩
  · intro little big hl hb
    obtain ⟨-, rfl⟩ := encode_eq_ok_iff.mp hl
    obtain ⟨-, rfl⟩ := encode_eq_ok_iff.mp hb
    simp only [List.length_append, ByteOrder.length_bytes]
    rw [f.output_sameSize .little .big 0]

end FrameChunks.Image.Frame
