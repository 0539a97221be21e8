import FrameChunks.Proofs.Wire.Program

/-!
# Writes that are refused

The padding before a word is written before the word is checked, and stays when the word does not
fit. So a write that is refused does change the writer, but only by zero bytes up to the place where
the word would have stood. The next value that starts at such a place brings no padding of its own
then, and the payload is the same as without the refused writes.

## Main definitions

* `Writer.padded`: a writer with the padding before a word
* `Kind.alignment`: the multiples at which values of a kind start
* `Write.Refused`: several writes, one after the other, each of which is refused

## Main results

* `Write.value_padded`: padding that is there already makes no difference
* `Write.refused_iff`: which writes are refused, and what they leave
* `Write.refused_invisible`: what comes of the writes after them
-/

namespace FrameChunks.Wire

open Text Steps

/-! ## Padding -/

namespace Writer

variable {w : Writer} {size : Nat}

/-- The writer with the padding before a word of `size` bytes. -/
def padded (w : Writer) (size : Nat) : Writer :=
  { w with body := w.body ++ List.replicate (padding w.body.length size) 0 }

/-- A byte needs no padding. -/
theorem padded_one (w : Writer) : w.padded 1 = w := by
  rw [padded, padding_one]
  simp

/-- No padding is needed behind padding. -/
theorem padded_padded (hs : 0 < size) : (w.padded size).padded size = w.padded size := by
  have hlength : (w.padded size).body.length = w.body.length + padding w.body.length size := by
    simp [padded]
  have hnone : padding (w.padded size).body.length size = 0 := by
    rw [hlength, eq_comm, eq_padding_iff hs]
    exact ⟨hs, add_padding_mod w.body.length hs⟩
  rw [padded, hnone]
  simp

end Writer

/-- The multiples at which values of a kind start, their length if they have one in front. -/
def Kind.alignment : Kind → Nat
  | uint8 | bool => 1
  | int32 | uint32 | text | bytes => 4

namespace Write

variable {w w' : Writer} {v : Value} {values : List Value}

theorem align_padded {size : Nat} (hs : 0 < size) (w : Writer) :
    align size (w.padded size) = align size w := by
  have h (w : Writer) : align size w = .ok () (w.padded size) := align_eq size w
  rw [h, h, Writer.padded_padded hs]

theorem word_padded (kind : Word) (hs : 0 < kind.size) (n : Int) (w : Writer) :
    word kind n (w.padded kind.size) = word kind n w :=
  bind_congr_left (align_padded hs w)

/-- Padding that is there already makes no difference to a value that starts behind it. -/
theorem value_padded (v : Value) (w : Writer) :
    value v (w.padded v.kind.alignment) = value v w := by
  cases v with
  | uint8 n => exact word_padded .uint8 (by decide) n w
  | bool b => exact word_padded .uint8 (by decide) _ w
  | int32 n => exact word_padded .int32 (by decide) n w
  | uint32 n => exact word_padded .uint32 (by decide) n w
  | text s => exact bind_congr_left (word_padded .uint32 (by decide) _ w)
  | bytes bs => exact bind_congr_left (word_padded .uint32 (by decide) _ w)

/-! ## One refused write -/

theorem word_of_not_holds (kind : Word) {n : Int} (h : ¬ kind.Holds n) (w : Writer) :
    word kind n w = .error (.outOfRange n) (w.padded kind.size) := by
  rw [word, bind_of_ok (align_eq kind.size w), if_neg h]
  rfl

theorem bytes_of_not_holds {bs : Bytes} (h : ¬ Word.uint32.Holds bs.length) (w : Writer) :
    bytes bs w = .error (.outOfRange bs.length) (w.padded 4) :=
  bind_of_error (word_of_not_holds .uint32 h w)

/-- A value that does not fit is refused, and leaves the padding. -/
theorem value_of_not_fits (h : ¬ v.Fits) (w : Writer) :
    ∃ n, value v w = .error (.outOfRange n) (w.padded v.kind.alignment) := by
  cases v with
  | uint8 n => exact ⟨n, word_of_not_holds .uint8 h w⟩
  | bool b => exact absurd trivial h
  | int32 n => exact ⟨n, word_of_not_holds .int32 h w⟩
  | uint32 n => exact ⟨n, word_of_not_holds .uint32 h w⟩
  | text s =>
    have hl : ¬ Word.uint32.Holds (Utf8.encode s.toList ++ [0]).length := by
      rw [Utf8.encode_toList]
      exact mt holds_textBytes_iff.mp h
    exact ⟨_, bytes_of_not_holds hl w⟩
  | bytes bs => exact ⟨_, bytes_of_not_holds (mt holds_length_iff.mp h) w⟩

/-- Of the values that do not fit, only a byte brings no padding. A truth value always fits. -/
theorem alignment_of_not_fits (h : ¬ v.Fits) :
    v.kind.alignment = if v.kind = .uint8 then 1 else 4 := by
  cases v with
  | bool b => exact absurd trivial h
  | uint8 | int32 | uint32 | text | bytes => rfl

/-! ## Refused writes in a row -/

/-- The values are written one after the other from `w` on, each of them is refused, and the writer
is `w'` in the end. -/
inductive Refused : List Value → Writer → Writer → Prop
  | nil (w : Writer) : Refused [] w w
  | cons {v : Value} {values : List Value} {w u w' : Writer} {e : WriteError}
    (h : value v w = .error e u) (hrest : Refused values u w') : Refused (v :: values) w w'

theorem refused_nil_iff : Refused [] w w' ↔ w' = w := by
  constructor
  · rintro ⟨⟩
    rfl
  · rintro rfl
    exact .nil w'

theorem refused_cons_iff : Refused (v :: values) w w' ↔
    ¬ v.Fits ∧ Refused values (w.padded v.kind.alignment) w' := by
  constructor
  · intro h
    cases h with
    | cons h hrest =>
      have hv : ¬ v.Fits := fun hv => by nomatch ((value_puts v w).1 hv).symm.trans h
      obtain ⟨n, herror⟩ := value_of_not_fits hv w
      obtain ⟨rfl, rfl⟩ := EStateM.Result.error.inj (herror.symm.trans h)
      exact ⟨hv, hrest⟩
  · rintro ⟨hv, hrest⟩
    obtain ⟨n, herror⟩ := value_of_not_fits hv w
    exact .cons herror hrest

/-- Values are refused exactly if none of them fits. Bytes alone leave the writer as it was, and with
any other value among them they leave it with the padding before a word. -/
theorem refused_iff : Refused values w w' ↔ (∀ v ∈ values, ¬ v.Fits) ∧
    w' = if ∀ v ∈ values, v.kind = .uint8 then w else w.padded 4 := by
  -- Induction on the values: the rest starts from the padding that the first one leaves.
  induction values generalizing w with
  | nil => simp [refused_nil_iff]
  | cons v rest ih =>
    rw [refused_cons_iff, ih, List.forall_mem_cons, and_assoc]
    refine and_congr_right fun hv => and_congr_right fun _ => ?_
    simp only [alignment_of_not_fits hv, List.forall_mem_cons]
    by_cases hk : v.kind = .uint8
    · simp [hk, Writer.padded_one]
    · simp [hk, Writer.padded_padded]

/-- Refused writes leave what was written as it is, and put nothing behind it but zero bytes, at most
as many as there are up to the next multiple of four and none if they all were writes of bytes. Every
value that has a word of four bytes in front then comes to the same end, with the same payload, as
without them. -/
theorem refused_invisible (h : Refused values w w') :
    (∃ k ≤ padding w.body.length 4, w'.order = w.order ∧
      w'.toBytes = w.toBytes ++ List.replicate k 0 ∧ ((∀ v ∈ values, v.kind = .uint8) → k = 0)) ∧
    ∀ v : Value, v.kind ∈ [Kind.int32, .uint32, .text, .bytes] → value v w' = value v w := by
  obtain ⟨-, rfl⟩ := refused_iff.mp h
  by_cases hk : ∀ v ∈ values, v.kind = .uint8
  · rw [if_pos hk]
    exact ⟨⟨0, Nat.zero_le _, rfl, (List.append_nil _).symm, fun _ => rfl⟩, fun _ _ => rfl⟩
  · rw [if_neg hk]
    refine ⟨⟨_, Nat.le_refl _, rfl, (List.append_assoc ..).symm, fun h => absurd h hk⟩, ?_⟩
    intro v hv
    have halignment : v.kind.alignment = 4 := by
      simp only [List.mem_cons, List.not_mem_nil, or_false] at hv
      rcases hv with hv | hv | hv | hv <;> rw [hv] <;> rfl
    rw [← halignment]
    exact value_padded v w

/-- A writer behind one byte. -/
def oddWriter : Writer := { order := .big, body := [7] }

/-- Three values are refused, the second one with padding, and a text is written behind them. -/
theorem refused_invisible_oddWriter :
    Refused [.uint8 256, .int32 (2 ^ 31), .uint32 (-1)] oddWriter (oddWriter.padded 4) ∧
      (∃ k ≤ 3, (oddWriter.padded 4).toBytes = oddWriter.toBytes ++ List.replicate k 0) ∧
      text "é" (oddWriter.padded 4) = text "é" oddWriter := by
  have h : Refused [.uint8 256, .int32 (2 ^ 31), .uint32 (-1)] oddWriter (oddWriter.padded 4) :=
    refused_iff.mpr ⟨by decide, by decide⟩
  obtain ⟨⟨k, hk, -, hbytes, -⟩, hnext⟩ := refused_invisible h
  exact ⟨h, ⟨k, hk, hbytes⟩, hnext (.text "é") (by decide)⟩

end Write

end FrameChunks.Wire
