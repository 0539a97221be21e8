import FrameChunks.Proofs.Text.Fault
import FrameChunks.Proofs.Wire.Stopping

/-!
# The texts that are read

Once the length of a text and so many bytes are there, reading the text passes over the bytes in any
case. It succeeds exactly if they are UTF-8, where a zero byte at the end does not count. Otherwise the
error says where the bytes start, and how many of them are well-formed.

## Main results

* `Read.text_exact`: the texts that are read, and the errors of all others
-/

namespace FrameChunks.Wire

open Text

namespace Read

variable {r r' r'' : Reader} {length : Int} {body : Bytes}

theorem decode_eq_ok_iff_toUTF8 {s : String} :
    Utf8.decode body = .ok s.toList ↔ body = s.toUTF8.data.toList := by
  rw [Utf8.decode_eq_ok_iff, Utf8.encode_toList]

/-- Where the bytes of a text are decoded, reading it gives the text. -/
theorem text_eq_ok_iff (hl : uint32 r = .ok length r') (hn : length.toNat ≤ r'.remaining)
    (hbody : body = dropTerminator (r'.rest.take length.toNat)) {s : String} :
    text r = .ok s r'' ↔ body = s.toUTF8.data.toList ∧ r'' = r'.advance length.toNat := by
  rw [text_eq hl hn, ← hbody, ← decode_eq_ok_iff_toUTF8]
  rcases Utf8.decode body with fault | cs
  · constructor
    · intro h
      nomatch h
    · rintro ⟨h, -⟩
      nomatch h
  · simp only [EStateM.Result.ok.injEq, Except.ok.injEq]
    constructor
    · rintro ⟨rfl, rfl⟩
      exact ⟨String.toList_ofList.symm, rfl⟩
    · rintro ⟨rfl, rfl⟩
      exact ⟨String.ofList_toList, rfl⟩

/-- Where they are not, the error points at their start and names the first bad one. -/
theorem text_eq_error_of_decode (hl : uint32 r = .ok length r')
    (hn : length.toNat ≤ r'.remaining)
    (hbody : body = dropTerminator (r'.rest.take length.toNat)) {fault : Utf8.Fault}
    (hf : Utf8.decode body = .error fault) :
    text r = .error ⟨.invalidText fault, some r'.offset⟩ (r'.advance length.toNat) := by
  rw [text_eq hl hn, ← hbody, hf]

/-- Where the length of a text and its bytes are there, the text is read exactly if its bytes without
one zero byte at the end are UTF-8. If they are not, the error gives the offset where they start, and
its wording the length of their longest well-formed beginning. Either way the reader passes over
them. -/
theorem text_exact (hl : uint32 r = .ok length r') (hn : length.toNat ≤ r'.remaining)
    (hbody : body = dropTerminator (r'.rest.take length.toNat)) :
    (∀ s r'', text r = .ok s r'' ↔
      body = s.toUTF8.data.toList ∧ r'' = r'.advance length.toNat) ∧
    (length = 0 → text r = .ok "" r') ∧
    ((¬ ∃ s : String, body = s.toUTF8.data.toList) →
      ∃ e n wording, text r = .error e (r'.advance length.toNat) ∧
        e.offset = some (r'.offset : Int) ∧
        e.message =
          "String is not valid UTF-8: " ++ wording ++ " (at byte " ++ toString r'.offset ++ ")" ∧
        Utf8.Names n wording ∧
        IsGreatest {k | k ≤ body.length ∧ ∃ s : String, body.take k = s.toUTF8.data.toList} n) := by
  refine ⟨fun s r'' => text_eq_ok_iff hl hn hbody, ?_, ?_⟩
  · rintro rfl
    refine (text_eq_ok_iff hl hn hbody).mpr ⟨?_, rfl⟩
    rw [hbody]
    rfl
  · intro hno
    obtain ⟨fault, hf⟩ := Utf8.decode_eq_error_iff.mpr (mt Utf8.exists_encode_iff.mp hno)
    have hgreatest := Utf8.isGreatest_of_decode hf
    simp only [Utf8.exists_encode_iff] at hgreatest
    exact ⟨_, fault.start, fault.message, text_eq_error_of_decode hl hn hbody hf, rfl, rfl,
      fault.names_message, hgreatest⟩

/-- A reader before a text of three bytes. The last one ends the text, and cuts a sequence off. -/
def cutSequence : Reader := ⟨.big, 0, [0, 0, 0, 3, 0x61, 0xC3, 0x00, 0xA9]⟩

theorem text_exact_cutSequence :
    uint32 cutSequence = .ok 3 (cutSequence.advance 4) ∧ 3 ≤ (cutSequence.advance 4).remaining ∧
      ∃ e n wording, text cutSequence = .error e (cutSequence.advance 7) ∧ e.offset = some 8 ∧
        e.message = "String is not valid UTF-8: " ++ wording ++ " (at byte " ++ toString 8 ++ ")" ∧
        Utf8.Names n wording ∧
        IsGreatest {k | k ≤ 2 ∧
          ∃ s : String, ([0x61, 0xC3] : Bytes).take k = s.toUTF8.data.toList} n := by
  have hl : uint32 cutSequence = .ok 3 (cutSequence.advance 4) := by rfl
  have hn : 3 ≤ (cutSequence.advance 4).remaining := by decide
  have hbody : [0x61, 0xC3] = dropTerminator ((cutSequence.advance 4).rest.take 3) := by decide
  have hf : Utf8.decode [0x61, 0xC3] = .error ⟨1, 1, 0xC3, .unexpectedEnd⟩ := by decide +kernel
  have hno := mt Utf8.exists_encode_iff.mpr (Utf8.decode_eq_error_iff.mp ⟨_, hf⟩)
  exact ⟨hl, hn, (text_exact hl hn hbody).2.2 hno⟩

/-- An overlong form, a surrogate and a number above the last code point are no texts. -/
example : Utf8.decode [0xC0, 0x80] = .error ⟨0, 1, 0xC0, .invalidStart⟩ ∧
    Utf8.decode [0xED, 0xA0, 0x80] = .error ⟨0, 1, 0xED, .invalidContinuation⟩ ∧
    Utf8.decode [0xF4, 0x90, 0x80, 0x80] = .error ⟨0, 1, 0xF4, .invalidContinuation⟩ := by
  decide +kernel

end Read

end FrameChunks.Wire
