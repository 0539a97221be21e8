import FrameChunks.Proofs.Wire.Reading

/-!
# Where reading stops

A reading step that fails has run out of bytes, or it has met a truth value or a text that is none.
In each case the error tells where, and the reader stands at a place that follows from the case. With
more bytes behind the payload a success stays as it is, and so does a failure that is not for want of
bytes.

## Main definitions

* `Reader.Within`: a reader in a payload
* `Reader.extend`: a reader of a payload with more bytes behind it
* `DecodeCause.Incomplete`: a payload that ends too early
* `Truncated`, `Stops`: the ways in which a step fails
* `Form.map`, `Form.value`: the bytes of a value of a given kind

## Main results

* `Read.text_eq`: what reading a text gives, once its bytes are there
* `Read.stops_of_value`: a step that fails does so in one of these ways
* `Read.Reads.extend`, `Read.value_extend_of_error`: what more bytes do not change
-/

namespace FrameChunks.Wire

open Text Steps

/-! ## Places in a payload -/

namespace Reader

variable {payload : Bytes} {r : Reader}

@[simp] theorem remaining_advance (r : Reader) (n : Nat) :
    (r.advance n).remaining = r.remaining - n :=
  List.length_drop

theorem offset_le_advance (r : Reader) (n : Nat) : r.offset ≤ (r.advance n).offset := by
  rw [offset_advance]
  exact Nat.le_add_right ..

theorem length_le_remaining {bs rest : Bytes} (h : r.rest = bs ++ rest) :
    bs.length ≤ r.remaining := by
  rw [remaining, h, List.length_append]
  exact Nat.le_add_right ..

theorem advance_add (r : Reader) (m n : Nat) : (r.advance m).advance n = r.advance (m + n) := by
  simp [advance, Nat.add_assoc]

/-- A reader stands in a payload: behind the header, not behind the end, and it has not read what
comes from its offset on. -/
structure Within (payload : Bytes) (r : Reader) : Prop where
  header_le : headerSize ≤ r.offset
  offset_le : r.offset ≤ payload.length
  remaining : r.remaining = payload.length - r.offset
  rest : r.rest = payload.drop r.offset

theorem Within.of_rest (h : r.offset ≤ payload.length) (hr : r.rest = payload.drop r.offset) :
    r.Within payload :=
  ⟨Nat.le_add_right .., h, by rw [Reader.remaining, hr, List.length_drop], hr⟩

theorem within_of_start (h : start payload = .ok r) : r.Within payload := by
  obtain ⟨identifier, o₀, o₁, -, hp, rfl⟩ := start_eq_ok_iff.mp h
  have hoffset : r.offset = 4 := by rw [offset, hp]; rfl
  apply Within.of_rest
  · simp only [hoffset, List.length_append, ByteOrder.length_bytes, List.length_cons]
    omega
  · rw [hoffset]
    exact (List.drop_left' (by simp)).symm

/-- A reader stays in the payload as long as there are bytes to pass over. -/
theorem Within.advance (h : r.Within payload) {n : Nat} (hn : n ≤ r.remaining) :
    (r.advance n).Within payload := by
  have hle := h.offset_le
  have hrem := h.remaining
  apply Within.of_rest
  · rw [offset_advance]
    omega
  · rw [offset_advance, rest_advance, h.rest, List.drop_drop]

/-- The reader of a payload with more bytes behind it. -/
def extend (r : Reader) (tail : Bytes) : Reader := { r with rest := r.rest ++ tail }

@[simp] theorem offset_extend (r : Reader) (tail : Bytes) : (r.extend tail).offset = r.offset := rfl

theorem le_remaining_extend {n : Nat} (hn : n ≤ r.remaining) (tail : Bytes) :
    n ≤ (r.extend tail).remaining := by
  rw [remaining, extend, List.length_append]
  exact Nat.le_add_right_of_le hn

theorem take_rest_extend {n : Nat} (hn : n ≤ r.remaining) (tail : Bytes) :
    (r.extend tail).rest.take n = r.rest.take n :=
  List.take_append_of_le_length hn

theorem advance_extend {n : Nat} (hn : n ≤ r.remaining) (tail : Bytes) :
    (r.extend tail).advance n = (r.advance n).extend tail := by
  simp only [advance, extend, List.drop_append_of_le_length hn]

theorem start_append {payload : Bytes} (h : start payload = .ok r) (tail : Bytes) :
    start (payload ++ tail) = .ok (r.extend tail) := by
  obtain ⟨identifier, o₀, o₁, hi, hp, rfl⟩ := start_eq_ok_iff.mp h
  exact start_eq_ok_iff.mpr ⟨identifier, o₀, o₁, hi, hp, List.append_assoc ..⟩

end Reader

/-- The payload ends before the header or an item does. -/
def DecodeCause.Incomplete : DecodeCause → Prop
  | headerTooShort _ => True
  | truncated .. => True
  | _ => False

/-! ## The bytes of a value -/

namespace Form

variable {α β : Type}

/-- Strings of a form with another meaning. -/
def map (f : α → β) (L : Form α) : Form β := fun order position bs b =>
  ∃ a, L order position bs a ∧ f a = b

/-- The bytes of a value of a given kind. -/
def value : Kind → Form Value
  | .uint8 => (word .uint8).map .uint8
  | .bool => bool.map .bool
  | .int32 => (word .int32).map .int32
  | .uint32 => (word .uint32).map .uint32
  | .text => text.map .text
  | .bytes => bytes.map .bytes

end Form

namespace Read

variable {α β : Type} {m : Read α} {L : Form α} {r r' : Reader} {a : α} {tail : Bytes}

theorem Reads.map (f : α → β) (h : m.Reads L) : (f <$> m).Reads (L.map f) := by
  intro r b r'
  rw [map_eq_ok_iff]
  constructor
  · rintro ⟨a, hm, rfl⟩
    obtain ⟨bs, hL, hr⟩ := (h r a r').mp hm
    exact ⟨bs, ⟨a, hL, rfl⟩, hr⟩
  · rintro ⟨bs, ⟨a, hL, rfl⟩, hr⟩
    exact ⟨a, (h r a r').mpr ⟨bs, hL, hr⟩, rfl⟩

theorem value_reads (kind : Kind) : (value kind).Reads (Form.value kind) := by
  cases kind with
  | uint8 => exact uint8_reads.map _
  | bool => exact bool_reads.map _
  | int32 => exact int32_reads.map _
  | uint32 => exact uint32_reads.map _
  | text => exact text_reads.map _
  | bytes => exact bytes_reads.map _

/-- A step that succeeds passes over a string of its form. -/
theorem Reads.exists_advance (h : m.Reads L) (hm : m r = .ok a r') :
    ∃ bs, L r.order r.position bs a ∧ r.rest = bs ++ r'.rest ∧ r' = r.advance bs.length := by
  obtain ⟨bs, hL, hr, he⟩ := (h r a r').mp hm
  refine ⟨bs, hL, hr, ?_⟩
  rw [he, Reader.advance, hr, List.drop_left]

theorem Reads.advance_le (h : m.Reads L) (hm : m r = .ok a r') :
    ∃ n, n ≤ r.remaining ∧ r' = r.advance n := by
  obtain ⟨bs, -, hr, he⟩ := h.exists_advance hm
  exact ⟨bs.length, Reader.length_le_remaining hr, he⟩

/-- A success stays with more bytes behind the payload. -/
theorem Reads.extend (h : m.Reads L) (hm : m r = .ok a r') (tail : Bytes) :
    m (r.extend tail) = .ok a (r'.extend tail) := by
  obtain ⟨bs, hL, hr, he⟩ := (h r a r').mp hm
  refine (h _ a _).mpr ⟨bs, hL, ?_, ?_⟩
  · rw [Reader.extend, Reader.extend, hr, List.append_assoc]
  · rw [he]
    rfl

/-! ## Truth values and texts whose bytes are there -/

theorem uint8_of_cons {b : UInt8} {rest : Bytes} (hr : r.rest = b :: rest) :
    uint8 r = .ok b.toNat (r.advance 1) := by
  have hb : b.toNat < 256 := b.toNat_lt
  refine (uint8_reads r _ _).mpr ⟨[b], ⟨[], (padding_one _).symm, ⟨?_, ?_⟩, ?_⟩, ?_, rfl⟩
  · exact Int.natCast_nonneg _
  · exact Int.ofNat_lt.mpr hb
  · rw [Word.write_uint8, List.nil_append, Int.emod_eq_of_lt (by omega) (by omega),
      Int.toNat_natCast, UInt8.ofNat_toNat]
  · rw [Reader.rest_advance, hr]
    rfl

/-- A byte above one is no truth value. The error points at it, and the reader stands behind it. -/
theorem bool_of_invalid {b : UInt8} {rest : Bytes} (hr : r.rest = b :: rest) (hb : 2 ≤ b.toNat) :
    bool r = .error ⟨.invalidBoolean b.toNat, some r.offset⟩ (r.advance 1) := by
  have hgt : (b.toNat : Int) > 1 := by omega
  have hoffset : ((r.advance 1).offset : Int) - 1 = r.offset := by
    rw [Reader.offset_advance]
    omega
  rw [bool, bind_of_ok (uint8_of_cons hr), if_pos hgt]
  show EStateM.Result.error _ _ = _
  rw [hoffset]
  rfl

/-- Once the length of a text and its bytes are there, it is decoded, and the reader stands behind
the bytes in any case. -/
theorem text_eq {length : Int} (hl : uint32 r = .ok length r')
    (hn : length.toNat ≤ r'.remaining) :
    text r = match Utf8.decode (dropTerminator (r'.rest.take length.toNat)) with
      | .ok s => .ok (String.ofList s) (r'.advance length.toNat)
      | .error fault => .error ⟨.invalidText fault, some r'.offset⟩ (r'.advance length.toNat) := by
  have htake : take .text length.toNat r' =
      .ok (r'.rest.take length.toNat) (r'.advance length.toNat) := if_pos hn
  rw [text, bind_of_ok hl, bind_of_ok (show (get : Read Reader) r' = .ok r' r' from rfl),
    bind_of_ok htake]
  cases Utf8.decode (dropTerminator (r'.rest.take length.toNat)) <;> rfl

end Read

/-! ## The ways in which a step fails -/

/-- Less than what is needed is left, where the reader comes to stand. -/
inductive Truncated (r : Reader) : DecodeError → Reader → Prop
  | intro (item : Item) (n need : Nat) (hn : n ≤ r.remaining)
      (hneed : (r.advance n).remaining < need) :
    Truncated r ⟨.truncated item need (r.advance n).remaining, some (r.advance n).offset⟩
      (r.advance n)

theorem Truncated.of_advance {r r' : Reader} {e : DecodeError} {n : Nat} (hn : n ≤ r.remaining)
    (h : Truncated (r.advance n) e r') : Truncated r e r' := by
  obtain ⟨item, k, need, hk, hneed⟩ := h
  rw [Reader.remaining_advance] at hk
  rw [Reader.advance_add] at hneed ⊢
  exact ⟨item, n + k, need, by omega, hneed⟩

/-- The error of a step that fails, and where the reader comes to stand. -/
inductive Stops : Kind → Reader → DecodeError → Reader → Prop
  /-- The payload ends too early. -/
  | truncated {kind : Kind} {r r' : Reader} {e : DecodeError} (h : Truncated r e r') :
    Stops kind r e r'
  /-- A truth value is above one. -/
  | invalidBoolean {r : Reader} {b : UInt8} {rest : Bytes} (hr : r.rest = b :: rest)
      (hb : 2 ≤ b.toNat) :
    Stops .bool r ⟨.invalidBoolean b.toNat, some r.offset⟩ (r.advance 1)
  /-- The bytes of a text, which are all there, are not UTF-8. -/
  | invalidText {r r' : Reader} {length : Int} {fault : Utf8.Fault}
      (hl : Read.uint32 r = .ok length r') (hn : length.toNat ≤ r'.remaining)
      (hf : Utf8.decode (Read.dropTerminator (r'.rest.take length.toNat)) = .error fault) :
    Stops .text r ⟨.invalidText fault, some r'.offset⟩ (r'.advance length.toNat)

namespace Read

variable {α β : Type} {m : Read α} {L : Form α} {r r' : Reader} {e : DecodeError} {tail : Bytes}

/-- A step that fails only for want of bytes. -/
def Truncates (m : Read α) : Prop := ∀ r e r', m r = .error e r' → Truncated r e r'

theorem Truncates.bind {k : α → Read β} (h : m.Truncates) (hL : m.Reads L)
    (hk : ∀ a, (k a).Truncates) : (m >>= k).Truncates := by
  intro r e r' he
  rcases bind_eq_error_iff.mp he with hm | ⟨a, s, hm, hs⟩
  · exact h r e r' hm
  · obtain ⟨n, hn, rfl⟩ := hL.advance_le hm
    exact .of_advance hn (hk a _ e r' hs)

theorem Truncates.pure (a : α) : (Pure.pure a : Read α).Truncates := by
  intro r e r' h
  nomatch h

theorem take_truncates (item : Item) (n : Nat) : (take item n).Truncates := by
  intro r e r' h
  rw [take] at h
  split at h
  · cases h
  · next hn =>
    obtain ⟨rfl, rfl⟩ := EStateM.Result.error.inj h
    exact ⟨item, 0, n, Nat.zero_le _, Nat.lt_of_not_le hn⟩

theorem align_truncates (size : Nat) : (align size).Truncates := by
  intro r e r' h
  rw [align, bind_of_ok (show (get : Read Reader) r = .ok r r from rfl)] at h
  exact (take_truncates _ _).bind (take_reads _ _) (fun _ => .pure ()) r e r' h

theorem word_truncates (item : Item) (w : Word) : (word item w).Truncates := by
  refine (align_truncates w.size).bind (align_reads w.size) fun _ =>
    (take_truncates item w.size).bind (take_reads item w.size) fun bs => ?_
  -- the bytes are there, and what they spell is a number in any case
  intro r e r' h
  nomatch h

theorem uint32_truncates : uint32.Truncates := word_truncates .uint32 .uint32

theorem bytes_truncates : bytes.Truncates :=
  uint32_truncates.bind uint32_reads fun _ => take_truncates _ _

theorem stops_of_bool (h : bool r = .error e r') : Stops .bool r e r' := by
  rcases bind_eq_error_iff.mp h with hm | ⟨n, s, hm, hs⟩
  · exact .truncated (word_truncates _ _ r e r' hm)
  · -- The byte is there. It is what the step looks at, so the step fails because of it.
    obtain ⟨bs, ⟨gap, hg, -, hbs⟩, hr, -⟩ := uint8_reads.exists_advance hm
    obtain rfl := List.eq_nil_of_length_eq_zero (hg.trans (padding_one _))
    rw [Word.write_uint8, List.nil_append] at hbs
    rw [hbs, List.singleton_append] at hr
    generalize UInt8.ofNat (n % 256).toNat = b at hr
    rw [uint8_of_cons hr] at hm
    obtain ⟨rfl, rfl⟩ := EStateM.Result.ok.inj hm
    rcases Nat.lt_or_ge b.toNat 2 with hb | hb
    · rw [if_neg (by omega)] at hs
      nomatch hs
    · rw [bool_of_invalid hr hb] at h
      obtain ⟨rfl, rfl⟩ := EStateM.Result.error.inj h
      exact .invalidBoolean hr hb

theorem stops_of_text (h : text r = .error e r') : Stops .text r e r' := by
  rcases bind_eq_error_iff.mp h with hl | ⟨length, s, hl, hs⟩
  · exact .truncated (uint32_truncates r e r' hl)
  rcases Nat.lt_or_ge s.remaining length.toNat with hn | hn
  · -- The bytes are missing, so taking them fails where the length ends.
    have htake : take .text length.toNat s =
        .error ⟨.truncated .text length.toNat s.remaining, some s.offset⟩ s :=
      if_neg (Nat.not_le.mpr hn)
    rw [bind_of_ok (show (get : Read Reader) s = .ok s s from rfl), bind_of_error htake] at hs
    obtain ⟨rfl, rfl⟩ := EStateM.Result.error.inj hs
    obtain ⟨k, hk, rfl⟩ := uint32_reads.advance_le hl
    exact .truncated ⟨.text, k, _, hk, hn⟩
  · rw [text_eq hl hn] at h
    split at h
    · nomatch h
    · next fault hf =>
      obtain ⟨rfl, rfl⟩ := EStateM.Result.error.inj h
      exact .invalidText hl hn hf

/-- A step that fails does so in one of the three ways. -/
theorem stops_of_value {kind : Kind} (h : value kind r = .error e r') : Stops kind r e r' := by
  cases kind with
  | uint8 | int32 | uint32 => exact .truncated (word_truncates _ _ r e r' (map_eq_error_iff.mp h))
  | bool => exact stops_of_bool (map_eq_error_iff.mp h)
  | text => exact stops_of_text (map_eq_error_iff.mp h)
  | bytes => exact .truncated (bytes_truncates r e r' (map_eq_error_iff.mp h))

/-- A failure that is not for want of bytes stays with more bytes behind the payload. -/
theorem value_extend_of_error {kind : Kind} (h : value kind r = .error e r')
    (he : ¬ e.cause.Incomplete) (tail : Bytes) :
    value kind (r.extend tail) = .error e (r'.extend tail) := by
  cases stops_of_value h with
  | truncated ht =>
    obtain ⟨⟩ := ht
    exact absurd trivial he
  | @invalidBoolean _ b rest hr hb =>
    have hr' : (r.extend tail).rest = b :: (rest ++ tail) := by
      rw [Reader.extend, hr, List.cons_append]
    have hone : 1 ≤ r.remaining := Reader.length_le_remaining (show r.rest = [b] ++ rest from hr)
    refine map_of_error ((bool_of_invalid hr' hb).trans ?_)
    rw [Reader.advance_extend hone, Reader.offset_extend]
  | @invalidText _ s length fault hl hn hf =>
    -- the length is the same, and so are the bytes behind it, which were all there
    refine map_of_error ((text_eq (uint32_reads.extend hl tail)
      (Reader.le_remaining_extend hn tail)).trans ?_)
    rw [Reader.take_rest_extend hn, hf, Reader.advance_extend hn, Reader.offset_extend]

end Read

end FrameChunks.Wire
