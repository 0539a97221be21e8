import Mathlib.Order.Bounds.Defs
import FrameChunks.Proofs.Text.Utf8

/-!
# Where a byte string stops to be a text

A byte string that is no encoding has a first fault. Everything before the fault is the encoding of a
text, and no longer beginning of the byte string is one. The wording of the fault names this place.

## Main definitions

* `Names`: the wordings that name a position

## Main results

* `isGreatest_of_decode`: the fault starts where the longest well-formed beginning ends
* `Fault.names_message`: the wording of a fault names this place
-/

namespace FrameChunks.Text.Utf8

variable {position : Nat} {done : List Char} {bytes : List UInt8} {fault : Fault}

/-! ## The place of the first fault -/

/-- Decoding does not look back. -/
theorem le_start_of_decodeFrom (h : decodeFrom position done bytes = .error fault) :
    position ≤ fault.start := by
  fun_induction decodeFrom position done bytes with
  | case1 => cases h
  | case2 position done b rest c length hs ih => exact Nat.le_trans (Nat.le_add_right ..) (ih h)
  | case3 =>
    obtain rfl := Except.error.inj h
    exact Nat.le_refl _

/-- What was passed over before the fault is the encoding of a text. -/
theorem exists_encode_of_decodeFrom (h : decodeFrom position done bytes = .error fault) :
    ∃ s rest, bytes = encode s ++ rest ∧ fault.start = position + (encode s).length := by
  fun_induction decodeFrom position done bytes with
  | case1 => cases h
  | case2 position done b rest c length hs ih =>
    obtain ⟨hlength, hbytes⟩ := append_of_scan hs
    obtain ⟨s, tail, hrest, hstart⟩ := ih h
    refine ⟨c :: s, tail, ?_, ?_⟩
    · rw [hbytes, hrest, encode_cons, List.append_assoc]
    · rw [hstart, encode_cons, List.length_append, hlength, Nat.add_assoc]
  | case3 =>
    obtain rfl := Except.error.inj h
    exact ⟨[], _, rfl, rfl⟩

/-- No beginning that is longer than what stands before the fault is the encoding of a text. -/
theorem length_encode_le_start {s : List Char} {rest : List UInt8}
    (h : decode (encode s ++ rest) = .error fault) : (encode s).length ≤ fault.start := by
  rw [decode, decodeFrom_encode_append] at h
  exact Nat.le_trans (Nat.le_add_left ..) (le_start_of_decodeFrom h)

/-- The fault starts where the longest well-formed beginning ends. -/
theorem isGreatest_of_decode (h : decode bytes = .error fault) :
    IsGreatest {n | n ≤ bytes.length ∧ ∃ s, bytes.take n = encode s} fault.start := by
  constructor
  · obtain ⟨s, rest, rfl, hstart⟩ := exists_encode_of_decodeFrom h
    rw [Nat.zero_add] at hstart
    refine ⟨?_, s, ?_⟩
    · rw [hstart, List.length_append]
      exact Nat.le_add_right ..
    · rw [hstart, List.take_left]
  · rintro n ⟨hn, s, hs⟩
    -- The longer beginning would be passed over first, so the fault lies behind it.
    have hlength : (encode s).length = n := by rw [← hs, List.length_take_of_le hn]
    rw [← List.take_append_drop n bytes, hs] at h
    exact hlength ▸ length_encode_le_start h

theorem decode_eq_error_iff : (∃ fault, decode bytes = .error fault) ↔ ¬ ∃ s, bytes = encode s := by
  constructor
  · rintro ⟨fault, h⟩ ⟨s, rfl⟩
    rw [decode_encode] at h
    nomatch h
  · intro h
    rcases hd : decode bytes with fault | s
    · exact ⟨fault, rfl⟩
    · exact absurd ⟨s, decode_eq_ok_iff.mp hd⟩ h

theorem exists_encode_iff {bs : List UInt8} :
    (∃ s, bs = encode s) ↔ ∃ s : String, bs = s.toUTF8.data.toList := by
  constructor
  · rintro ⟨s, rfl⟩
    exact ⟨String.ofList s, by rw [← encode_toList, String.toList_ofList]⟩
  · rintro ⟨s, rfl⟩
    exact ⟨s.toList, (encode_toList s).symm⟩

/-! ## The wording of a fault -/

/-- The wordings that name `n` as the position of the first bad byte. -/
inductive Names (n : Nat) : String → Prop
  | byte (b : UInt8) (reason : Reason) :
    Names n ("'utf-8' codec can't decode byte 0x" ++ String.ofList (Hex.ofByte b) ++
      " in position " ++ toString n ++ ": " ++ reason.message)
  | bytes (last : Nat) (reason : Reason) :
    Names n ("'utf-8' codec can't decode bytes in position " ++ toString n ++ "-" ++
      toString last ++ ": " ++ reason.message)

/-- The wording of a fault names the position where it starts. -/
theorem Fault.names_message (f : Fault) : Names f.start f.message := by
  -- One bad byte is named by itself, and several by the first and the last one.
  unfold message
  split
  · have h := Names.byte (n := f.start) f.byte f.reason
    rw [show "'utf-8' codec can't decode byte 0x" = "'utf-8' codec can't decode " ++ "byte 0x"
      from rfl] at h
    simpa only [String.append_assoc, -String.reduceAppend] using h
  · have h := Names.bytes (n := f.start) (f.start + f.length - 1) f.reason
    rw [show "'utf-8' codec can't decode bytes in position " =
      "'utf-8' codec can't decode " ++ "bytes in position " from rfl] at h
    simpa only [String.append_assoc, -String.reduceAppend] using h

end FrameChunks.Text.Utf8
