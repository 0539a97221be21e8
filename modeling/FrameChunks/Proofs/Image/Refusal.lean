import FrameChunks.Proofs.Image.Payload
import FrameChunks.Proofs.Text.Fault
import FrameChunks.Proofs.Wire.Failing

/-!
# Why payloads are refused

The error of a payload that is refused points into the payload, at what is wrong with it. What is
wrong at a place stays wrong with more bytes behind the payload, unless bytes are missing.

## Main definitions

* `Frame.kinds`: the kinds of the fields of a frame, in their order
* `Frame.FieldAt`: a reader at a field, all fields before which were read
* `Explains`: what stands in a payload where an error points

## Main results

* `Frame.read_failsAs`: the fields are read as a program of their kinds
* `Frame.decode_append_of_error`: what is refused for what it holds is refused with more bytes
* `Frame.decode_error_exact`: every error explains itself
-/

namespace FrameChunks.Wire

variable {payload : Bytes} {e : DecodeError}

/-- A header that is not accepted is too short, or it announces no byte order. -/
theorem start_eq_error (h : Reader.start payload = .error e) :
    payload.length < headerSize ∧ e = ⟨.headerTooShort payload.length, some 0⟩ ∨
      ∃ b₀ b₁ o₀ o₁ rest, payload = b₀ :: b₁ :: o₀ :: o₁ :: rest ∧
        ByteOrder.ofIdentifier? (b₀.toNat * 256 + b₁.toNat) = none ∧
        e = ⟨.unknownRepresentation (b₀.toNat * 256 + b₁.toNat), some 0⟩ := by
  unfold Reader.start at h
  split at h
  · next b₀ b₁ o₀ o₁ rest =>
    simp only at h
    split at h
    · nomatch h
    · next hi => exact .inr ⟨b₀, b₁, o₀, o₁, rest, rfl, hi, (Except.error.inj h).symm⟩
  · next hshort =>
    refine .inl ⟨?_, (Except.error.inj h).symm⟩
    -- four bytes are a header, whatever stands behind them
    rcases payload with _ | ⟨b₀, _ | ⟨b₁, _ | ⟨o₀, _ | ⟨o₁, rest⟩⟩⟩⟩
    case cons.cons.cons.cons => exact absurd rfl (hshort b₀ b₁ o₀ o₁ rest)
    all_goals simp [headerSize]

theorem start_append_of_error (h : Reader.start payload = .error e)
    (he : ¬ e.cause.Incomplete) (tail : Bytes) : Reader.start (payload ++ tail) = .error e := by
  rcases start_eq_error h with ⟨-, rfl⟩ | ⟨b₀, b₁, o₀, o₁, rest, rfl, hi, rfl⟩
  · exact absurd trivial he
  · simp only [List.cons_append, Reader.start, hi]

end FrameChunks.Wire

namespace FrameChunks.Image

open Text Wire

namespace Frame

variable {payload : Bytes} {e : DecodeError} {f : Frame} {n : Nat}

/-! ## The fields as a program -/

/-- The kinds of the fields of a frame, in the order in which they are read. -/
def kinds : List Kind :=
  [.int32, .uint32, .text, .uint32, .uint32, .text, .bool, .uint32, .bytes]

theorem read_failsAs : read.FailsAs kinds :=
  .bind .int32 rfl fun _ => .bind .uint32 rfl fun _ => .bind .text rfl fun _ =>
  .bind .uint32 rfl fun _ => .bind .uint32 rfl fun _ => .bind .text rfl fun _ =>
  .bind .bool rfl fun _ => .bind .uint32 rfl fun _ => .bind .bytes rfl fun _ => .pure _

/-- A reader of the payload before a field of the given kind. The fields before it were read. -/
def FieldAt (payload : Bytes) (kind : Kind) (r : Reader) : Prop :=
  ∃ start before after entries, Reader.start payload = .ok start ∧
    kinds = before ++ kind :: after ∧ Read.log before start = .ok entries r

theorem FieldAt.within {kind : Kind} {r : Reader} (h : FieldAt payload kind r) :
    r.Within payload := by
  obtain ⟨start, before, after, entries, hstart, -, hlog⟩ := h
  exact Read.within_of_log (Reader.within_of_start hstart) hlog

/-- A payload is refused for its header, or for the fields behind it. -/
theorem decode_eq_error_iff : decode payload = .error e ↔ Reader.start payload = .error e ∨
    ∃ r r', Reader.start payload = .ok r ∧ Read.log kinds r = .error e r' := by
  rw [← decodeWithRest_eq_error_iff]
  rcases hstart : Reader.start payload with e' | r
  · have hd : decodeWithRest payload = .error e' := by
      rw [decodeWithRest, hstart]
      rfl
    simp [hd]
  · simp only [decodeWithRest_of_start hstart, ← read_failsAs _ _ _]
    rcases hread : read r with ⟨f, s⟩ | ⟨e', s⟩ <;> simp [hread]

/-- The field at which a payload is refused, and how it fails. -/
theorem stops_of_decode (h : decode payload = .error e) : Reader.start payload = .error e ∨
    ∃ kind r r', FieldAt payload kind r ∧ Stops kind r e r' := by
  rcases decode_eq_error_iff.mp h with hstart | ⟨r, r', hstart, hlog⟩
  · exact .inl hstart
  · obtain ⟨before, kind, after, entries, s, hkinds, hbefore, hv⟩ := Read.exists_of_log_error hlog
    exact .inr ⟨kind, s, r', ⟨r, before, after, entries, hstart, hkinds, hbefore⟩,
      Read.stops_of_value hv⟩

/-! ## More bytes behind a payload -/

/-- What is decoded is decoded with more bytes behind it, which are all left over. -/
theorem decodeWithRest_append_of_ok (h : decodeWithRest payload = .ok (f, n)) (tail : Bytes) :
    decodeWithRest (payload ++ tail) = .ok (f, n + tail.length) := by
  obtain ⟨identifier, o₀, o₁, order, fields, rest, hi, hform, rfl, rfl⟩ :=
    decodeWithRest_eq_ok_iff.mp h
  refine decodeWithRest_eq_ok_iff.mpr
    ⟨identifier, o₀, o₁, order, fields, rest ++ tail, hi, hform, ?_, List.length_append⟩
  simp only [List.append_assoc]

/-- What is refused for what it holds is refused in the same way with more bytes behind it. -/
theorem decode_append_of_error (h : decode payload = .error e) (he : ¬ e.cause.Incomplete)
    (tail : Bytes) : decode (payload ++ tail) = .error e := by
  rw [decode_eq_error_iff] at h ⊢
  rcases h with hstart | ⟨r, r', hstart, hlog⟩
  · exact .inl (start_append_of_error hstart he tail)
  · exact .inr ⟨r.extend tail, r'.extend tail, Reader.start_append hstart tail,
      Read.log_extend_of_error hlog he tail⟩

end Frame

/-! ## What stands where an error points -/

/-- What stands at an offset of a payload which is refused for the cause. -/
def Explains (payload : Bytes) (offset : Nat) : DecodeCause → Prop
  | .headerTooShort size => offset = 0 ∧ size = payload.length ∧ size < headerSize
  | .unknownRepresentation identifier => offset = 0 ∧ headerSize ≤ payload.length ∧
    ByteOrder.big.bytes 2 identifier <+: payload ∧ ByteOrder.ofIdentifier? identifier = none
  | .truncated _ need left => left = payload.length - offset ∧ left < need
  | .invalidBoolean value => ∃ r b, Frame.FieldAt payload .bool r ∧ offset = r.offset ∧
    payload[offset]? = some b ∧ value = b.toNat ∧ 2 ≤ value
  | .invalidText _ => ∃ r r' length, Frame.FieldAt payload .text r ∧
    Read.uint32 r = .ok length r' ∧ offset = r'.offset ∧
      offset + length.toNat ≤ payload.length ∧
      ¬ ∃ s : String, Read.dropTerminator ((payload.drop offset).take length.toNat) =
        s.toUTF8.data.toList
  | .described _ => False

namespace Frame

variable {payload : Bytes} {e : DecodeError}

theorem explains_of_start (h : Reader.start payload = .error e) :
    e.offset = some 0 ∧ Explains payload 0 e.cause := by
  rcases start_eq_error h with ⟨hshort, rfl⟩ | ⟨b₀, b₁, o₀, o₁, rest, rfl, hi, rfl⟩
  · exact ⟨rfl, rfl, rfl, hshort⟩
  · refine ⟨rfl, rfl, Nat.le_add_left .., ⟨o₀ :: o₁ :: rest, ?_⟩, hi⟩
    rw [bytes_big_two]
    rfl

/-- A field that fails does so at a place of the payload where the cause stands. -/
theorem explains_of_stops {kind : Kind} {r r' : Reader} (hr : FieldAt payload kind r)
    (h : Stops kind r e r') : ∃ offset : Nat, e.offset = some (offset : Int) ∧
      offset ≤ payload.length ∧ Explains payload offset e.cause := by
  have hwithin := hr.within
  cases h with
  | truncated ht =>
    obtain ⟨item, n, need, hn, hneed⟩ := ht
    have hstop := hwithin.advance hn
    exact ⟨_, rfl, hstop.offset_le, hstop.remaining, hneed⟩
  | @invalidBoolean _ b rest hrest hb =>
    refine ⟨_, rfl, hwithin.offset_le, r, b, hr, rfl, ?_, rfl, hb⟩
    have hdrop := congrArg (·[0]?) (hwithin.rest.symm.trans hrest)
    simpa only [List.getElem?_drop, Nat.add_zero, List.getElem?_cons_zero] using hdrop
  | @invalidText _ s length fault hl hn hf =>
    -- the reader behind the length is in the payload, and so are the bytes that it takes
    obtain ⟨k, hk, rfl⟩ := Read.uint32_reads.advance_le hl
    have hstart := hwithin.advance hk
    have hend := (hstart.advance hn).offset_le
    rw [Reader.offset_advance _ length.toNat] at hend
    refine ⟨_, rfl, hstart.offset_le, r, _, length, hr, hl, rfl, hend, ?_⟩
    rw [← hstart.rest, ← Utf8.exists_encode_iff]
    exact Utf8.decode_eq_error_iff.mp ⟨fault, hf⟩

/-- The error of a payload that is refused has an offset in the payload, and what stands there explains
it. With more bytes behind the payload the error is the same, unless the payload has ended too
early. -/
theorem decode_error_exact (h : decode payload = .error e) :
    (∃ offset : Nat, e.offset = some (offset : Int) ∧ offset ≤ payload.length ∧
      Explains payload offset e.cause) ∧
    (¬ e.cause.Incomplete → ∀ tail, decode (payload ++ tail) = .error e) := by
  refine ⟨?_, fun he tail => decode_append_of_error h he tail⟩
  rcases stops_of_decode h with hstart | ⟨kind, r, r', hr, hstops⟩
  · obtain ⟨hoffset, hexplains⟩ := explains_of_start hstart
    exact ⟨0, hoffset, Nat.zero_le _, hexplains⟩
  · exact explains_of_stops hr hstops

/-- A payload that goes as far as the encoding, which is not UTF-8. -/
def badEncoding : Bytes :=
  [0, 1, 0, 0, 1, 0, 0, 0, 2, 0, 0, 0, 1, 0, 0, 0, 99, 0, 0, 0, 1, 0, 0, 0, 1, 0, 0, 0,
    2, 0, 0, 0, 109, 0xFF]

theorem decode_error_exact_badEncoding :
    decode badEncoding = .error ⟨.invalidText ⟨1, 1, 0xFF, .invalidStart⟩, some 32⟩ ∧
      Explains badEncoding 32 (.invalidText ⟨1, 1, 0xFF, .invalidStart⟩) ∧
      ∀ tail, decode (badEncoding ++ tail) =
        .error ⟨.invalidText ⟨1, 1, 0xFF, .invalidStart⟩, some 32⟩ := by
  have h : decode badEncoding = .error ⟨.invalidText ⟨1, 1, 0xFF, .invalidStart⟩, some 32⟩ := by
    decide +kernel
  obtain ⟨⟨offset, hoffset, -, hexplains⟩, htail⟩ := decode_error_exact h
  obtain rfl : offset = 32 := (Int.ofNat_inj.mp (Option.some.inj hoffset)).symm
  exact ⟨h, hexplains, htail id⟩

end Frame

end FrameChunks.Image
