import FrameChunks.Proofs.Image.Canonical

/-!
# Encoding decoded frames again

A payload may have more than a second of nanoseconds, and texts without a zero byte at their ends.
What is written has neither. So the seconds must still fit their word with what is carried over to
them, and the lengths of the texts theirs with the zero bytes. Everything else of a decoded frame
fits as it did before.

## Main definitions

* `Parts.Split`: the parts of a payload, which has no others
* `Parts.Repeatable`: parts whose frame can be encoded again

## Main results

* `Parts.encodable_iff_repeatable`: the decoded frames that can be encoded
* `Frame.encode_decoded_exact`: what comes of encoding a decoded frame
-/

namespace FrameChunks.Image

open Wire

namespace Parts

variable {p : Parts} {f : Frame}

/-- The payload consists of these valid parts, and of no others. -/
structure Split (payload : Bytes) (p : Parts) : Prop where
  valid : p.Valid
  bytes : payload = p.bytes
  unique : ∀ q : Parts, q.Valid → payload = q.bytes → q = p

theorem Valid.split (hp : p.Valid) : Split p.bytes p :=
  ⟨hp, rfl, fun _ hq hb => (bytes_injective hp hq hb).symm⟩

/-- Parts whose frame can be encoded again: the seconds fit a signed word of four bytes with those
that the nanoseconds are worth, and the lengths of the texts an unsigned one with a zero byte
more. -/
structure Repeatable (p : Parts) (f : Frame) : Prop where
  seconds : p.seconds + p.nanos / 1000000000 ≤ 2 ^ 31 - 1
  frameId : f.frameId.utf8ByteSize < 2 ^ 32 - 1
  encoding : f.encoding.utf8ByteSize < 2 ^ 32 - 1

theorem Means.carry (hm : p.Means f) :
    f.timestamp.fdiv nanosPerSecond = p.seconds + p.nanos / 1000000000 ∧
      f.timestamp.fmod nanosPerSecond = p.nanos % 1000000000 := by
  rw [hm.timestamp]
  exact carry_stamp p.seconds p.nanos

/-- Of the fields of a decoded frame only the seconds and the texts can fail to fit. -/
theorem encodable_iff_repeatable (hv : p.Valid) (hm : p.Means f) :
    f.Encodable ↔ p.Repeatable f := by
  have hseconds : f.timestamp.fdiv 1000000000 = p.seconds + p.nanos / 1000000000 := hm.carry.1
  constructor
  · intro hf
    have hs := hf.seconds
    have hid := hf.frameId
    have henc := hf.encoding
    rw [hseconds] at hs
    exact ⟨by omega, by omega, by omega⟩
  · rintro ⟨hs, hid, henc⟩
    -- The carry is not negative, so the seconds do not fall below those that were read.
    have hlow : -2 ^ 31 ≤ p.seconds := hv.seconds.1
    have hcarry : 0 ≤ p.nanos / 1000000000 := Int.ediv_nonneg hv.nanos.1 (by decide)
    refine ⟨?_, by omega, ?_, ?_, by omega, ?_, ?_⟩
    · rw [hseconds]
      omega
    · rw [hm.height]
      exact hv.height
    · rw [hm.width]
      exact hv.width
    · rw [hm.step]
      exact hv.step
    · rw [hm.data]
      exact holds_length_iff.mp hv.data

end Parts

namespace Frame

variable {f : Frame} {order : ByteOrder}

/-- What is written for a frame splits its stamp so that the nanoseconds are below a second. -/
theorem split_of_encode {payload : Bytes} (h : encode order f = .ok payload) :
    Parts.Split payload (.written order f) := by
  obtain ⟨hf, rfl⟩ := encode_eq_ok_iff.mp h
  rw [← Parts.bytes_written hf order]
  exact (Parts.valid_written hf order).split

/-- A payload that is decoded splits into parts in one way only. The frame can be encoded again, in
either byte order, exactly if the parts are repeatable; else it is refused at an integer that does
not fit its word. What is written means the frame, and its seconds are the old ones with those that
the nanoseconds were worth. -/
theorem encode_decoded_exact {payload : Bytes} (hd : decode payload = .ok f) :
    ∃ p : Parts, Parts.Split payload p ∧ p.Means f ∧ ∀ order : ByteOrder,
      ((∃ again, encode order f = .ok again) ↔ p.Repeatable f) ∧
      (¬ p.Repeatable f → ∃ n, encode order f = .error (.outOfRange n)) ∧
      ∀ again, encode order f = .ok again → ∃ q : Parts, Parts.Split again q ∧ q.Means f ∧
        q.order = order ∧ q.seconds = p.seconds + p.nanos / 1000000000 ∧
        q.nanos = p.nanos % 1000000000 := by
  obtain ⟨p, hv, hm, rfl⟩ := decode_eq_ok_iff_parts.mp hd
  have hiff := Parts.encodable_iff_repeatable hv hm
  refine ⟨p, hv.split, hm, fun order => ⟨?_, ?_, ?_⟩⟩
  · constructor
    · rintro ⟨again, h⟩
      exact hiff.mp (encode_eq_ok_iff.mp h).1
    · intro hp
      exact ⟨_, encode_of_encodable (hiff.mpr hp) order⟩
  · intro hp
    exact encode_of_not_encodable (fun hf => hp (hiff.mp hf)) order
  · intro again h
    obtain ⟨hseconds, hnanos⟩ := hm.carry
    exact ⟨.written order f, split_of_encode h, Parts.means_written order f, rfl, hseconds, hnanos⟩

/-- Parts in the last second that fits its word. -/
def lastSecondParts (nanos : Int) : Parts := { looseParts with seconds := 2147483647, nanos }

/-- The frame that these parts mean. -/
def lastSecondFrame (nanos : Int) : Frame :=
  { looseFrame with timestamp := 2147483647000000000 + nanos }

theorem valid_lastSecondParts {nanos : Int} (h : Word.uint32.Holds nanos) :
    (lastSecondParts nanos).Valid := by
  obtain ⟨hannounced, -, -, hframeId, hheightGap, hheight, hwidth, hencoding, hstepGap, hstep,
    hdata⟩ := valid_looseParts
  have hseconds : Word.int32.Holds 2147483647 := by decide
  rw [Fills, Parts.length_front] at hheightGap
  rw [Fills, Parts.length_middle, Parts.length_front] at hstepGap
  -- The gaps depend on the lengths of the parts in front of them only.
  refine ⟨hannounced, hseconds, h, hframeId, ?_, hheight, hwidth, hencoding, ?_, hstep, hdata⟩
  · rw [Fills, Parts.length_front]
    exact hheightGap
  · rw [Fills, Parts.length_middle, Parts.length_front]
    exact hstepGap

theorem means_lastSecondParts (nanos : Int) :
    (lastSecondParts nanos).Means (lastSecondFrame nanos) := by
  obtain ⟨-, hframeId, -, -, hencoding, -, -, -⟩ := means_looseParts
  exact ⟨rfl, hframeId, rfl, rfl, hencoding, rfl, rfl, rfl⟩

theorem decode_lastSecondParts {nanos : Int} (h : Word.uint32.Holds nanos) :
    decode (lastSecondParts nanos).bytes = .ok (lastSecondFrame nanos) :=
  decode_eq_ok_iff_parts.mpr ⟨_, valid_lastSecondParts h, means_lastSecondParts nanos, rfl⟩

/-- In the last second a frame can be encoded again if its nanoseconds do not make up one more. -/
theorem encode_decoded_lastSecondFrame :
    (∃ again, encode .little (lastSecondFrame 999999999) = .ok again) ∧
      ∃ n, encode .little (lastSecondFrame 1000000000) = .error (.outOfRange n) := by
  have hbelow : Word.uint32.Holds 999999999 := by decide
  have habove : Word.uint32.Holds 1000000000 := by decide
  obtain ⟨p, hp, -, h⟩ := encode_decoded_exact (decode_lastSecondParts hbelow)
  obtain rfl := hp.unique _ (valid_lastSecondParts hbelow) rfl
  obtain ⟨q, hq, -, h'⟩ := encode_decoded_exact (decode_lastSecondParts habove)
  obtain rfl := hq.unique _ (valid_lastSecondParts habove) rfl
  refine ⟨(h .little).1.mpr ⟨by decide, by decide, by decide⟩, ?_⟩
  exact (h' .little).2.1 fun hr => absurd hr.seconds (by decide)

end Frame

end FrameChunks.Image
