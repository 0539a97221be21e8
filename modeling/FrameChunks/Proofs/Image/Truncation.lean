import FrameChunks.Proofs.Image.Canonical
import FrameChunks.Proofs.Image.Refusal

/-!
# Payloads that are cut off or continued

The pixels are the last part of a payload that is looked at. Wherever a payload is cut off before their
end, it is refused, because bytes are missing. What stands behind them makes no difference.

## Main definitions

* `Parts.size`: the place behind the pixels

## Main results

* `Frame.decodeWithRest_of_parts`: any bytes may stand behind the pixels
* `Frame.incomplete_of_take`: a payload that is cut off before is refused for want of bytes
* `Frame.decode_cut_exact`: every cut is noticed, and every continuation is passed over
-/

namespace FrameChunks.Image

open Wire

/-- The place in the payload that is just behind the pixels. -/
def Parts.size (p : Parts) : Nat := (p.header ++ p.fields).length

theorem Parts.take_size (p : Parts) : p.bytes.take p.size = p.header ++ p.fields := by
  rw [bytes, ← List.append_assoc]
  exact List.take_left

theorem Parts.length_bytes (p : Parts) : p.bytes.length = p.size + p.trailing.length := by
  rw [bytes, ← List.append_assoc, List.length_append, size]

namespace Frame

variable {payload : Bytes} {f : Frame} {p : Parts}

/-- Any bytes may stand behind the pixels. -/
theorem decodeWithRest_of_parts (hv : p.Valid) (hm : p.Means f) (tail : Bytes) :
    decodeWithRest (p.header ++ (p.fields ++ tail)) = .ok (f, tail.length) :=
  decodeWithRest_eq_ok_iff.mpr ⟨p.identifier, p.option₀, p.option₁, p.order, p.fields, tail,
    ofIdentifier?_eq_some_iff.mpr hv.announced, form_of_parts hv hm, rfl, rfl⟩

/-- A beginning of a payload that is decoded is itself decoded, or it is refused for want of bytes. -/
theorem decode_take_cases (h : decode payload = .ok f) (k : Nat) :
    (∃ f' n, decodeWithRest (payload.take k) = .ok (f', n)) ∨
      ∃ e, decode (payload.take k) = .error e ∧ e.cause.Incomplete := by
  rcases hd : decode (payload.take k) with e | f'
  · refine .inr ⟨e, rfl, ?_⟩
    -- Any other failure would be one of the whole payload.
    by_contra hcomplete
    have herror := decode_append_of_error hd hcomplete (payload.drop k)
    rw [List.take_append_drop, h] at herror
    nomatch herror
  · exact .inl ⟨f', decode_eq_ok_iff.mp hd⟩

/-- A payload that is cut off before the end of the pixels is refused for want of bytes. -/
theorem incomplete_of_take (hv : p.Valid) (hm : p.Means f) {k : Nat} (hk : k < p.size) :
    ∃ e, decode (p.bytes.take k) = .error e ∧ e.cause.Incomplete := by
  have hwhole := decodeWithRest_of_parts hv hm p.trailing
  rcases decode_take_cases (decode_eq_ok_iff.mpr ⟨_, hwhole⟩) k with ⟨f', n, hcut⟩ | herror
  · -- If the cut payload were decoded, then more would be left of the whole than there is.
    have happend := decodeWithRest_append_of_ok hcut (p.bytes.drop k)
    rw [Parts.bytes, List.take_append_drop, hwhole] at happend
    have hleft : p.trailing.length = n + (p.bytes.drop k).length :=
      congrArg Prod.snd (Except.ok.inj happend)
    rw [List.length_drop, Parts.length_bytes] at hleft
    omega
  · exact herror

/-- A payload that is decoded has a place just behind its pixels. Cut off anywhere before this place,
it is refused for want of bytes; cut off there and continued in any way, it is decoded to the same
frame. -/
theorem decode_cut_exact (h : decode payload = .ok f) :
    ∃ p : Parts, p.Valid ∧ p.Means f ∧ payload = p.bytes ∧
      (∀ k < p.size, ∃ e, decode (payload.take k) = .error e ∧ e.cause.Incomplete) ∧
      ∀ tail, decode (payload.take p.size ++ tail) = .ok f := by
  obtain ⟨p, hv, hm, rfl⟩ := decode_eq_ok_iff_parts.mp h
  refine ⟨p, hv, hm, rfl, fun k hk => incomplete_of_take hv hm hk, fun tail => ?_⟩
  rw [p.take_size, List.append_assoc]
  exact decode_eq_ok_iff.mpr ⟨_, decodeWithRest_of_parts hv hm tail⟩

/-- A payload with unterminated texts, a second too many, and five bytes behind the pixels. -/
def continuedPayload : Bytes := looseParts.header ++ (looseParts.fields ++ [1, 2, 3, 4, 5])

theorem decode_cut_exact_continuedPayload : decode continuedPayload = .ok looseFrame ∧
    ∃ p : Parts, p.Valid ∧ p.Means looseFrame ∧ continuedPayload = p.bytes ∧
      (∀ k < p.size, ∃ e, decode (continuedPayload.take k) = .error e ∧ e.cause.Incomplete) ∧
      ∀ tail, decode (continuedPayload.take p.size ++ tail) = .ok looseFrame :=
  have h : decode continuedPayload = .ok looseFrame :=
    decode_eq_ok_iff.mpr ⟨5, decodeWithRest_of_parts valid_looseParts means_looseParts _⟩
  ⟨h, decode_cut_exact h⟩

end Frame

end FrameChunks.Image
