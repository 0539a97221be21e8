import FrameChunks.Text.Utf8

/-!
# UTF-8 forth and back

Decoding accepts exactly the encodings of texts, and gives the text back. The two directions are one
fact about the front of a byte string: scanning finds a character there exactly when the bytes are
those of the character.

## Main results

* `scan_of_append`, `append_of_scan`: a character is found exactly where its bytes stand
* `decode_eq_ok_iff`: a byte string is decoded to a text exactly if it is the encoding of the text
* `encode_toList`: the bytes of a text are those of the string
-/

namespace FrameChunks.Text.Utf8

/-! ## Code points and bytes as numbers -/

theorem valid_toNat (c : Char) : c.toNat < 0xD800 ∨ 0xDFFF < c.toNat ∧ c.toNat < 0x110000 :=
  c.valid

theorem toNat_ofNat {n : Nat} (h : n < 0xD800 ∨ 0xDFFF < n ∧ n < 0x110000) :
    (Char.ofNat n).toNat = n := by
  have hv : n.isValidChar := h
  rw [Char.ofNat, dif_pos hv]
  rfl

theorem byte_eq_iff {n : Nat} {b : UInt8} (h : n < 256) : UInt8.ofNat n = b ↔ n = b.toNat := by
  rw [← UInt8.toNat_inj, UInt8.toNat_ofNat', Nat.mod_eq_of_lt h]

theorem toNat_byte {n : Nat} (h : n < 256) : (UInt8.ofNat n).toNat = n :=
  ((byte_eq_iff h).mp rfl).symm

theorem within_iff {lo hi : Nat} {b : UInt8} :
    within lo hi b = true ↔ lo ≤ b.toNat ∧ b.toNat ≤ hi := by
  simp [within]

theorem continues_iff {b : UInt8} : continues b = true ↔ 0x80 ≤ b.toNat ∧ b.toNat ≤ 0xBF :=
  within_iff

/-- The second bytes as numbers: a continuation byte, less what four first bytes forbid. -/
theorem secondByte_iff {a b : UInt8} :
    secondByte a b = true ↔ (0x80 ≤ b.toNat ∧ b.toNat ≤ 0xBF) ∧
      (a.toNat = 0xE0 → 0xA0 ≤ b.toNat) ∧ (a.toNat = 0xED → b.toNat ≤ 0x9F) ∧
      (a.toNat = 0xF0 → 0x90 ≤ b.toNat) ∧ (a.toNat = 0xF4 → b.toNat ≤ 0x8F) := by
  have ha : ∀ n < 256, a = UInt8.ofNat n ↔ a.toNat = n := fun n hn => by
    rw [eq_comm, byte_eq_iff hn, eq_comm]
  have hE0 := ha 0xE0 (by omega)
  have hED := ha 0xED (by omega)
  have hF0 := ha 0xF0 (by omega)
  have hF4 := ha 0xF4 (by omega)
  unfold secondByte
  split
  · next h => rw [within_iff]; have := hE0.mp h; omega
  split
  · next h => rw [within_iff]; have := hED.mp h; omega
  split
  · next h => rw [within_iff]; have := hF0.mp h; omega
  split
  · next h => rw [within_iff]; have := hF4.mp h; omega
  · next h₁ h₂ h₃ h₄ =>
    rw [within_iff]
    have := mt hE0.mpr h₁
    have := mt hED.mpr h₂
    have := mt hF0.mpr h₃
    have := mt hF4.mpr h₄
    omega

/-! ## The bytes of a character -/

section Bytes

variable {c : Char}

theorem encodeChar_one (h : c.toNat < 0x80) : encodeChar c = [UInt8.ofNat c.toNat] := by
  simp only [encodeChar, if_pos h]

theorem encodeChar_two (h₁ : 0x80 ≤ c.toNat) (h₂ : c.toNat < 0x800) :
    encodeChar c = [UInt8.ofNat (0xC0 + c.toNat / 0x40), UInt8.ofNat (0x80 + c.toNat % 0x40)] := by
  simp only [encodeChar, if_neg (Nat.not_lt.mpr h₁), if_pos h₂]

theorem encodeChar_three (h₁ : 0x800 ≤ c.toNat) (h₂ : c.toNat < 0x10000) :
    encodeChar c = [UInt8.ofNat (0xE0 + c.toNat / 0x1000),
      UInt8.ofNat (0x80 + c.toNat / 0x40 % 0x40), UInt8.ofNat (0x80 + c.toNat % 0x40)] := by
  rw [encodeChar, if_neg (by omega), if_neg (Nat.not_lt.mpr h₁), if_pos h₂]

theorem encodeChar_four (h : 0x10000 ≤ c.toNat) :
    encodeChar c = [UInt8.ofNat (0xF0 + c.toNat / 0x40000),
      UInt8.ofNat (0x80 + c.toNat / 0x1000 % 0x40), UInt8.ofNat (0x80 + c.toNat / 0x40 % 0x40),
      UInt8.ofNat (0x80 + c.toNat % 0x40)] := by
  rw [encodeChar, if_neg (by omega), if_neg (by omega), if_neg (Nat.not_lt.mpr h)]

/-- The bytes of a character are those that strings are made of. -/
theorem encodeChar_eq (c : Char) : encodeChar c = String.utf8EncodeChar c := by
  have hv := valid_toNat c
  unfold String.utf8EncodeChar
  simp only [Char.toNat_val]
  split
  · exact encodeChar_one (by omega)
  split
  · rw [encodeChar_two (by omega) (by omega), Nat.add_comm 0xC0, Nat.add_comm 0x80,
      show c.toNat / 64 % 32 = c.toNat / 64 by omega]
  split
  · rw [encodeChar_three (by omega) (by omega), Nat.add_comm 0xE0, Nat.add_comm 0x80,
      Nat.add_comm 0x80, show c.toNat / 4096 % 16 = c.toNat / 4096 by omega]
  · rw [encodeChar_four (by omega), Nat.add_comm 0xF0, Nat.add_comm 0x80, Nat.add_comm 0x80,
      Nat.add_comm 0x80, show c.toNat / 262144 % 8 = c.toNat / 262144 by omega]

end Bytes

/-- The bytes of a text are those of the string. -/
theorem encode_toList (s : String) : encode s.toList = s.toUTF8.data.toList := by
  have hs : s.toUTF8 = s.toList.utf8Encode := by simp
  rw [hs, List.utf8Encode, encode, funext encodeChar_eq]
  simp

/-! ## The front of a byte string -/

theorem lt_iff_toNat {b : UInt8} : b < 0x80 ↔ b.toNat < 0x80 := UInt8.lt_iff_toNat_lt

/-- The character is found where its bytes stand. -/
theorem scan_of_append {c : Char} {b : UInt8} {rest tail : List UInt8}
    (h : b :: rest = encodeChar c ++ tail) : scan b rest = .char c (encodeChar c).length := by
  have hv := valid_toNat c
  have hc := Char.ofNat_toNat c
  -- By the number of bytes: the first byte tells it, and the bits that are kept are those of `c`.
  rcases Nat.lt_or_ge c.toNat 0x80 with h₁ | h₁
  · rw [encodeChar_one h₁] at h ⊢
    obtain ⟨rfl, -⟩ := List.cons.inj h
    rw [scan.eq_def, if_pos (by rw [lt_iff_toNat, toNat_byte (by omega)]; exact h₁),
      toNat_byte (by omega), hc]
    rfl
  rcases Nat.lt_or_ge c.toNat 0x800 with h₂ | h₂
  · rw [encodeChar_two h₁ h₂] at h ⊢
    simp only [List.cons_append, List.nil_append, List.cons.injEq] at h
    obtain ⟨rfl, rfl⟩ := h
    have t₀ := toNat_byte (n := 0xC0 + c.toNat / 0x40) (by omega)
    have t₁ := toNat_byte (n := 0x80 + c.toNat % 0x40) (by omega)
    have hbits : (0xC0 + c.toNat / 0x40) % 0x20 * 0x40 + (0x80 + c.toNat % 0x40) % 0x40 =
        c.toNat := by omega
    rw [scan.eq_def, if_neg (by rw [lt_iff_toNat, t₀]; omega),
      if_pos (by rw [within_iff, t₀]; omega)]
    simp only
    rw [if_pos (by rw [continues_iff, t₁]; omega), payload, t₀, t₁, hbits, hc]
    rfl
  rcases Nat.lt_or_ge c.toNat 0x10000 with h₃ | h₃
  · rw [encodeChar_three h₂ h₃] at h ⊢
    simp only [List.cons_append, List.nil_append, List.cons.injEq] at h
    obtain ⟨rfl, rfl⟩ := h
    have t₀ := toNat_byte (n := 0xE0 + c.toNat / 0x1000) (by omega)
    have t₁ := toNat_byte (n := 0x80 + c.toNat / 0x40 % 0x40) (by omega)
    have t₂ := toNat_byte (n := 0x80 + c.toNat % 0x40) (by omega)
    have hbits : ((0xE0 + c.toNat / 0x1000) % 0x10 * 0x40 +
        (0x80 + c.toNat / 0x40 % 0x40) % 0x40) * 0x40 + (0x80 + c.toNat % 0x40) % 0x40 =
        c.toNat := by omega
    rw [scan.eq_def, if_neg (by rw [lt_iff_toNat, t₀]; omega),
      if_neg (by rw [within_iff, t₀]; omega), if_pos (by rw [within_iff, t₀]; omega)]
    simp only
    rw [if_pos (by rw [secondByte_iff, t₀, t₁]; omega), if_pos (by rw [continues_iff, t₂]; omega),
      payload, payload, t₀, t₁, t₂, hbits, hc]
    rfl
  · rw [encodeChar_four h₃] at h ⊢
    simp only [List.cons_append, List.nil_append, List.cons.injEq] at h
    obtain ⟨rfl, rfl⟩ := h
    have t₀ := toNat_byte (n := 0xF0 + c.toNat / 0x40000) (by omega)
    have t₁ := toNat_byte (n := 0x80 + c.toNat / 0x1000 % 0x40) (by omega)
    have t₂ := toNat_byte (n := 0x80 + c.toNat / 0x40 % 0x40) (by omega)
    have t₃ := toNat_byte (n := 0x80 + c.toNat % 0x40) (by omega)
    have hbits : (((0xF0 + c.toNat / 0x40000) % 0x8 * 0x40 +
        (0x80 + c.toNat / 0x1000 % 0x40) % 0x40) * 0x40 + (0x80 + c.toNat / 0x40 % 0x40) % 0x40) *
        0x40 + (0x80 + c.toNat % 0x40) % 0x40 = c.toNat := by omega
    rw [scan.eq_def, if_neg (by rw [lt_iff_toNat, t₀]; omega),
      if_neg (by rw [within_iff, t₀]; omega), if_neg (by rw [within_iff, t₀]; omega),
      if_pos (by rw [within_iff, t₀]; omega)]
    simp only
    rw [if_pos (by rw [secondByte_iff, t₀, t₁]; omega), if_pos (by rw [continues_iff, t₂]; omega),
      if_pos (by rw [continues_iff, t₃]; omega), payload, payload, payload, t₀, t₁, t₂, t₃,
      hbits, hc]
    rfl

/-! The bytes of a character that was put together of the bytes of a sequence. -/

section Sequence

variable {b b₁ b₂ b₃ : UInt8}

theorem encodeChar_ofNat_one (h : b < 0x80) : encodeChar (Char.ofNat b.toNat) = [b] := by
  rw [lt_iff_toNat] at h
  have hv := toNat_ofNat (n := b.toNat) (by omega)
  rw [encodeChar_one (by omega), hv, (byte_eq_iff (by omega)).mpr rfl]

theorem encodeChar_ofNat_two (h : within 0xC2 0xDF b = true) (h₁ : continues b₁ = true) :
    encodeChar (Char.ofNat (b.toNat % 0x20 * 0x40 + payload b₁)) = [b, b₁] := by
  rw [within_iff] at h
  rw [continues_iff] at h₁
  unfold payload
  have hv := toNat_ofNat (n := b.toNat % 0x20 * 0x40 + b₁.toNat % 0x40) (by omega)
  rw [encodeChar_two (by omega) (by omega), hv, (byte_eq_iff (b := b) (by omega)).mpr (by omega),
    (byte_eq_iff (b := b₁) (by omega)).mpr (by omega)]

theorem encodeChar_ofNat_three (h : within 0xE0 0xEF b = true) (h₁ : secondByte b b₁ = true)
    (h₂ : continues b₂ = true) :
    encodeChar (Char.ofNat ((b.toNat % 0x10 * 0x40 + payload b₁) * 0x40 + payload b₂)) =
      [b, b₁, b₂] := by
  rw [within_iff] at h
  rw [secondByte_iff] at h₁
  rw [continues_iff] at h₂
  unfold payload
  have hv := toNat_ofNat
    (n := (b.toNat % 0x10 * 0x40 + b₁.toNat % 0x40) * 0x40 + b₂.toNat % 0x40) (by omega)
  rw [encodeChar_three (by omega) (by omega), hv, (byte_eq_iff (b := b) (by omega)).mpr (by omega),
    (byte_eq_iff (b := b₁) (by omega)).mpr (by omega),
    (byte_eq_iff (b := b₂) (by omega)).mpr (by omega)]

theorem encodeChar_ofNat_four (h : within 0xF0 0xF4 b = true) (h₁ : secondByte b b₁ = true)
    (h₂ : continues b₂ = true) (h₃ : continues b₃ = true) :
    encodeChar (Char.ofNat
      (((b.toNat % 0x8 * 0x40 + payload b₁) * 0x40 + payload b₂) * 0x40 + payload b₃)) =
      [b, b₁, b₂, b₃] := by
  rw [within_iff] at h
  rw [secondByte_iff] at h₁
  rw [continues_iff] at h₂ h₃
  unfold payload
  have hv := toNat_ofNat
    (n := ((b.toNat % 0x8 * 0x40 + b₁.toNat % 0x40) * 0x40 + b₂.toNat % 0x40) * 0x40 +
      b₃.toNat % 0x40) (by omega)
  rw [encodeChar_four (by omega), hv, (byte_eq_iff (b := b) (by omega)).mpr (by omega),
    (byte_eq_iff (b := b₁) (by omega)).mpr (by omega),
    (byte_eq_iff (b := b₂) (by omega)).mpr (by omega),
    (byte_eq_iff (b := b₃) (by omega)).mpr (by omega)]

end Sequence

/-- Where a character is found, its bytes stand. -/
theorem append_of_scan {c : Char} {b : UInt8} {rest : List UInt8} {n : Nat}
    (h : scan b rest = .char c n) :
    n = (encodeChar c).length ∧ b :: rest = encodeChar c ++ rest.drop (n - 1) := by
  revert h
  -- The sequences of one to four bytes are left; every other case is a fault.
  fun_cases scan b rest <;> intro h <;> try contradiction
  case case1 h₀ =>
    obtain ⟨rfl, rfl⟩ := Front.char.inj h
    rw [encodeChar_ofNat_one h₀]
    exact ⟨rfl, rfl⟩
  case case3 h₀ b₁ _ h₁ =>
    obtain ⟨rfl, rfl⟩ := Front.char.inj h
    rw [encodeChar_ofNat_two h₀ h₁]
    exact ⟨rfl, rfl⟩
  case case7 h₀ b₁ h₁ b₂ _ h₂ =>
    obtain ⟨rfl, rfl⟩ := Front.char.inj h
    rw [encodeChar_ofNat_three h₀ h₁ h₂]
    exact ⟨rfl, rfl⟩
  case case13 h₀ b₁ h₁ b₂ h₂ b₃ _ h₃ =>
    obtain ⟨rfl, rfl⟩ := Front.char.inj h
    rw [encodeChar_ofNat_four h₀ h₁ h₂ h₃]
    exact ⟨rfl, rfl⟩

/-! ## Whole texts -/

theorem encodeChar_ne_nil (c : Char) : encodeChar c ≠ [] := by
  rw [encodeChar_eq]
  exact String.utf8EncodeChar_ne_nil

@[simp] theorem encode_nil : encode [] = [] := rfl

@[simp] theorem encode_cons (c : Char) (s : List Char) :
    encode (c :: s) = encodeChar c ++ encode s := rfl

/-- Decoding passes over the bytes of a text. -/
theorem decodeFrom_encode_append (s : List Char) (bytes : List UInt8) (position : Nat)
    (done : List Char) :
    decodeFrom position done (encode s ++ bytes) =
      decodeFrom (position + (encode s).length) (s.reverse ++ done) bytes := by
  -- Induction on the text: scanning finds its first character, whatever stands behind it.
  induction s generalizing position done with
  | nil => rfl
  | cons c s ih =>
    obtain ⟨b, rest, hb⟩ := List.exists_cons_of_ne_nil (encodeChar_ne_nil c)
    have hs : scan b (rest ++ (encode s ++ bytes)) = .char c (encodeChar c).length :=
      scan_of_append (by rw [hb, List.cons_append])
    have hd : (rest ++ (encode s ++ bytes)).drop ((encodeChar c).length - 1) =
        encode s ++ bytes := by
      rw [hb]
      exact List.drop_left
    rw [encode_cons, List.append_assoc, hb, List.cons_append, decodeFrom, hs]
    simp only
    rw [hd, ih, List.reverse_cons, List.append_assoc, List.length_append, ← hb, Nat.add_assoc]
    rfl

/-- What is decoded is a text whose encoding was there. -/
theorem encode_of_decodeFrom {position : Nat} {done : List Char} {bytes : List UInt8}
    {r : List Char} (h : decodeFrom position done bytes = .ok r) :
    ∃ s, r = done.reverse ++ s ∧ bytes = encode s := by
  fun_induction decodeFrom position done bytes with
  | case1 position done =>
    obtain rfl := Except.ok.inj h
    exact ⟨[], by simp⟩
  | case2 position done b rest c length hs ih =>
    obtain ⟨s, rfl, hb⟩ := ih h
    refine ⟨c :: s, by simp, ?_⟩
    rw [encode_cons, ← hb]
    exact (append_of_scan hs).2
  | case3 => cases h

theorem decode_encode (s : List Char) : decode (encode s) = .ok s := by
  have h := decodeFrom_encode_append s [] 0 []
  rw [List.append_nil, List.append_nil] at h
  rw [decode, h, decodeFrom, List.reverse_reverse]

/-- A byte string is decoded to a text exactly if it is the encoding of the text. -/
theorem decode_eq_ok_iff {bytes : List UInt8} {s : List Char} :
    decode bytes = .ok s ↔ bytes = encode s := by
  constructor
  · intro h
    obtain ⟨t, rfl, hb⟩ := encode_of_decodeFrom h
    exact hb
  · rintro rfl
    exact decode_encode s

end FrameChunks.Text.Utf8
