import Mathlib.Data.List.Chain
import FrameChunks.Proofs.Wire.Stopping

/-!
# Reading on after failures

A program may go on reading after a failure, from wherever the failure has left the reader. The reader
nevertheless stays in the payload and never goes back. What is read lies between the two places of the
reader, and so does the place that an error names.

## Main definitions

* `Read.attempt`, `Read.attempts`: a read, and a program of reads that goes on after failures
* `Value.SpelledBy`: the bytes that a value is read from
* `Attempt.Safe`: what is true of a read in a payload

## Main results

* `Read.attempt_safe`: every read is safe
* `Read.attempts_safe`: so is every read of a program, and the reader never goes back
-/

namespace FrameChunks.Wire

open Text

/-- A read of a program: the reader before it, what came of it, and the reader after it. -/
structure Attempt where
  kind : Kind
  before : Reader
  result : Except DecodeError Value
  after : Reader

namespace Read

/-- Reads a value, and keeps what came of it. -/
def attempt (kind : Kind) (r : Reader) : Attempt :=
  match value kind r with
  | .ok v r' => ⟨kind, r, .ok v, r'⟩
  | .error e r' => ⟨kind, r, .error e, r'⟩

/-- Reads values of the given kinds one after the other. A failure does not end the program: the next
read starts where it has left the reader. -/
def attempts : List Kind → Reader → List Attempt
  | [], _ => []
  | kind :: rest, r => attempt kind r :: attempts rest (attempt kind r).after

end Read

/-- The bytes that a value is read from, without padding and length. -/
def Value.SpelledBy (order : ByteOrder) (raw : Bytes) : Value → Prop
  | uint8 n => Word.uint8.Holds n ∧ raw = Word.uint8.write order n
  | bool b => raw = [if b then 1 else 0]
  | int32 n => Word.int32.Holds n ∧ raw = Word.int32.write order n
  | uint32 n => Word.uint32.Holds n ∧ raw = Word.uint32.write order n
  | text s => Spells raw s
  | bytes bs => raw = bs

/-- A read in a payload keeps the reader in it, and never takes it back. A value comes from bytes of
the payload that end where the reader comes to stand. An error names a place between the two places of
the reader, and the second one if the payload has ended. -/
structure Attempt.Safe (payload : Bytes) (a : Attempt) : Prop where
  before : a.before.Within payload
  after : a.after.Within payload
  forward : a.before.offset ≤ a.after.offset
  value : ∀ v, a.result = .ok v → v.kind = a.kind ∧ ∃ front raw : Bytes,
    payload = front ++ raw ++ a.after.rest ∧ a.before.offset ≤ front.length ∧
      (front ++ raw).length = a.after.offset ∧ v.SpelledBy a.before.order raw
  error : ∀ e, a.result = .error e → ∃ offset : Nat, e.offset = some (offset : Int) ∧
    a.before.offset ≤ offset ∧ offset ≤ a.after.offset ∧
      ∀ item need left, e.cause = .truncated item need left → offset = a.after.offset

/-! ## One read -/

section Read

variable {payload : Bytes} {kind : Kind} {r r' : Reader} {v : Value} {e : DecodeError}

theorem Form.kind_of_value {order : ByteOrder} {position : Nat} {bs : Bytes}
    (h : Form.value kind order position bs v) : v.kind = kind := by
  cases kind <;> obtain ⟨a, -, rfl⟩ := h <;> rfl

/-- Behind padding and length stand the bytes of the value. -/
theorem Form.exists_spelledBy {order : ByteOrder} {position : Nat} {bs : Bytes}
    (h : Form.value kind order position bs v) :
    ∃ front raw, bs = front ++ raw ∧ v.SpelledBy order raw := by
  cases kind with
  | uint8 | int32 | uint32 =>
    obtain ⟨n, ⟨gap, -, hn, rfl⟩, rfl⟩ := h
    exact ⟨gap, _, rfl, hn, rfl⟩
  | bool =>
    obtain ⟨b, rfl, rfl⟩ := h
    exact ⟨[], _, rfl, rfl⟩
  | text =>
    obtain ⟨s, ⟨raw, ⟨front, -, rfl⟩, hs⟩, rfl⟩ := h
    exact ⟨front, raw, rfl, hs⟩
  | bytes =>
    obtain ⟨raw, ⟨front, -, rfl⟩, rfl⟩ := h
    exact ⟨front, raw, rfl, rfl⟩

theorem Reader.Within.take_append (h : r.Within payload) :
    payload.take r.offset ++ r.rest = payload := by
  rw [h.rest, List.take_append_drop]

theorem Read.safe_of_ok (h : r.Within payload) (hv : value kind r = .ok v r') :
    (⟨kind, r, .ok v, r'⟩ : Attempt).Safe payload := by
  obtain ⟨bs, hform, hrest, rfl⟩ := (value_reads kind).exists_advance hv
  refine ⟨h, h.advance (Reader.length_le_remaining hrest), r.offset_le_advance _, ?_, ?_⟩
  · intro v' he
    obtain rfl := Except.ok.inj he
    obtain ⟨front, raw, rfl, hraw⟩ := Form.exists_spelledBy hform
    -- before the value stand what was read earlier, and the padding and length in front of it
    refine ⟨Form.kind_of_value hform, payload.take r.offset ++ front, raw, ?_, ?_, ?_, hraw⟩
    · have hpayload := h.take_append
      rw [hrest] at hpayload
      simpa only [List.append_assoc] using hpayload.symm
    · have hfront : (payload.take r.offset ++ front).length = r.offset + front.length := by
        rw [List.length_append, List.length_take_of_le h.offset_le]
      exact hfront ▸ Nat.le_add_right ..
    · simp only [List.length_append, List.length_take_of_le h.offset_le, Reader.offset_advance,
        Nat.add_assoc]
  · intro e he
    cases he

/-- A step that fails leaves the reader in the payload, not before the place of the error, and at this
place if the payload has ended. -/
theorem Stops.exists_offset (hs : Stops kind r e r') (h : r.Within payload) :
    r'.Within payload ∧ ∃ offset : Nat, e.offset = some (offset : Int) ∧ r.offset ≤ offset ∧
      offset ≤ r'.offset ∧
      ∀ item need left, e.cause = .truncated item need left → offset = r'.offset := by
  cases hs with
  | truncated ht =>
    obtain ⟨item, n, need, hn, -⟩ := ht
    exact ⟨h.advance hn, _, rfl, r.offset_le_advance n, Nat.le_refl _, fun _ _ _ _ => rfl⟩
  | @invalidBoolean _ b rest hr hb =>
    -- the byte itself was read
    have hone : 1 ≤ r.remaining := Reader.length_le_remaining (show r.rest = [b] ++ rest from hr)
    refine ⟨h.advance hone, _, rfl, Nat.le_refl _, r.offset_le_advance 1, ?_⟩
    intro item need left hcause
    cases hcause
  | @invalidText _ s length fault hl hn hf =>
    -- the length was read first, and the bytes behind it are all there
    obtain ⟨k, hk, rfl⟩ := Read.uint32_reads.advance_le hl
    refine ⟨(h.advance hk).advance hn, _, rfl, r.offset_le_advance k,
      (r.advance k).offset_le_advance _, ?_⟩
    intro item need left hcause
    cases hcause

theorem Read.safe_of_error (h : r.Within payload) (he : value kind r = .error e r') :
    (⟨kind, r, .error e, r'⟩ : Attempt).Safe payload := by
  obtain ⟨hafter, offset, hoffset, hbefore, hle, htruncated⟩ :=
    (stops_of_value he).exists_offset h
  refine ⟨h, hafter, Nat.le_trans hbefore hle, ?_, ?_⟩
  · intro v hv
    nomatch hv
  · intro e' he'
    obtain rfl := Except.error.inj he'
    exact ⟨offset, hoffset, hbefore, hle, htruncated⟩

/-- Every read of a reader in a payload is safe. -/
theorem Read.attempt_safe (h : r.Within payload) (kind : Kind) :
    (attempt kind r).Safe payload := by
  unfold attempt
  rcases hv : value kind r with ⟨v, r'⟩ | ⟨e, r'⟩
  · exact safe_of_ok h hv
  · exact safe_of_error h hv

end Read

/-! ## Programs -/

namespace Read

variable {payload : Bytes} {r : Reader}

theorem attempt_kind (kind : Kind) (r : Reader) : (attempt kind r).kind = kind := by
  unfold attempt
  split <;> rfl

theorem attempt_before (kind : Kind) (r : Reader) : (attempt kind r).before = r := by
  unfold attempt
  split <;> rfl

theorem map_kind_attempts (kinds : List Kind) (r : Reader) :
    (attempts kinds r).map Attempt.kind = kinds := by
  induction kinds generalizing r with
  | nil => rfl
  | cons kind rest ih => rw [attempts, List.map_cons, attempt_kind, ih]

theorem safe_of_mem_attempts (h : r.Within payload) (kinds : List Kind) :
    ∀ a ∈ attempts kinds r, a.Safe payload := by
  -- Induction on the program. After a read, failed or not, the reader is still in the payload.
  induction kinds generalizing r with
  | nil =>
    intro a ha
    nomatch ha
  | cons kind rest ih =>
    have hsafe := attempt_safe h kind
    intro a ha
    rcases List.mem_cons.mp ha with rfl | ha
    · exact hsafe
    · exact ih hsafe.after a ha

theorem isChain_attempts (h : r.Within payload) (kinds : List Kind) :
    (r.offset :: (attempts kinds r).map fun a => a.after.offset).IsChain (· ≤ ·) := by
  induction kinds generalizing r with
  | nil => exact .singleton _
  | cons kind rest ih =>
    have hsafe := attempt_safe h kind
    have hforward := hsafe.forward
    rw [attempt_before] at hforward
    exact .cons_cons hforward (ih hsafe.after)

/-- Behind an accepted header every program of reads, going on after failures, keeps the reader in the
payload and never takes it back. Every read of the program is safe. -/
theorem attempts_safe (h : Reader.start payload = .ok r) (kinds : List Kind) :
    r.Within payload ∧ (attempts kinds r).map Attempt.kind = kinds ∧
      (∀ a ∈ attempts kinds r, a.Safe payload) ∧
      (r.offset :: (attempts kinds r).map fun a => a.after.offset).Pairwise (· ≤ ·) := by
  have hr := Reader.within_of_start h
  exact ⟨hr, map_kind_attempts kinds r, safe_of_mem_attempts hr kinds,
    List.isChain_iff_pairwise.mp (isChain_attempts hr kinds)⟩

/-- A truth value of two, a text of one byte that is not UTF-8, and two more bytes. -/
def brokenValues : Reader := ⟨.little, 0, [2, 0, 0, 0, 1, 0, 0, 0, 0xFF, 5, 0]⟩

/-- Three reads fail in three ways, and a fourth one still finds a byte behind them. -/
theorem attempts_safe_brokenValues :
    Reader.start ([0, 1, 0, 0] ++ brokenValues.rest) = .ok brokenValues ∧
      (attempts [.bool, .text, .int32, .uint8] brokenValues).map Attempt.kind =
        [.bool, .text, .int32, .uint8] ∧
      ∀ a ∈ attempts [.bool, .text, .int32, .uint8] brokenValues,
        a.Safe ([0, 1, 0, 0] ++ brokenValues.rest) := by
  have h : Reader.start ([0, 1, 0, 0] ++ brokenValues.rest) = .ok brokenValues := by cbv
  obtain ⟨-, hkinds, hsafe, -⟩ := attempts_safe h [.bool, .text, .int32, .uint8]
  exact ⟨h, hkinds, hsafe⟩

end Read

end FrameChunks.Wire
