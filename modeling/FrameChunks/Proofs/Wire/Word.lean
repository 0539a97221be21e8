import Mathlib.Data.Nat.ModEq
import FrameChunks.Wire.ByteOrder

/-!
# Words forth and back

The bytes of a word and the integers that it holds are in bijection, in either byte order.

## Main results

* `Word.read_write`, `Word.write_read`: reading undoes writing, and writing undoes reading
* `Word.holds_read`: every byte string of the right length spells an integer that the word holds
* `Word.write_append_inj`: words in front of bytes are told from the bytes
* `eq_padding_iff`: the padding by what it does
-/

namespace FrameChunks.Wire

/-! ## The numbers that bytes can spell -/

theorem values_pos (size : Nat) : 0 < values size := Nat.pow_pos (by decide)

/-- Half of the values of a signed word are negative. -/
theorem two_mul_half {size : Nat} (h : 0 < size) : 2 * (values size / 2) = values size := by
  obtain ⟨k, rfl⟩ := Nat.exists_eq_succ_of_ne_zero h.ne'
  rw [values_succ]
  omega

namespace Word

variable {w : Word} {order : ByteOrder} {n : Int} {bs : Bytes}

@[simp] theorem size_uint8 : uint8.size = 1 := rfl

@[simp] theorem size_int32 : int32.size = 4 := rfl

@[simp] theorem size_uint32 : uint32.size = 4 := rfl

@[simp] theorem length_write (w : Word) (order : ByteOrder) (n : Int) :
    (w.write order n).length = w.size := by
  simp [write]

/-- A word of one byte is the same in both byte orders. -/
theorem write_uint8 (order : ByteOrder) (n : Int) :
    uint8.write order n = [UInt8.ofNat (n % 256).toNat] := by
  cases order <;> rfl

theorem low_of_not_isSigned (h : ¬ w.isSigned) : w.low = 0 := if_neg h

/-- A signed word holds as many negative integers as others. -/
theorem low_of_isSigned (h : w.isSigned) : w.low = -w.high := by
  rw [low, high, if_pos h, if_pos h]

theorem two_mul_high (hw : 0 < w.size) (h : w.isSigned) : 2 * w.high = values w.size := by
  have hd := two_mul_half hw
  rw [high, if_pos h]
  omega

theorem high_of_not_isSigned (h : ¬ w.isSigned) : w.high = values w.size := if_neg h

theorem cast_values_pos (w : Word) : (0 : Int) < values w.size :=
  Int.natCast_pos.mpr (values_pos w.size)

/-- The bytes of an integer spell it, modulo the number of values. -/
theorem value_write (w : Word) (order : ByteOrder) (n : Int) :
    (order.value (w.write order n) : Int) = n % values w.size := by
  have h₀ := Int.emod_nonneg n w.cast_values_pos.ne'
  have h₁ := Int.emod_lt_of_pos n w.cast_values_pos
  rw [write, ByteOrder.value_bytes, Nat.mod_eq_of_lt, Int.toNat_of_nonneg h₀]
  rw [Int.toNat_lt h₀]
  exact h₁

/-- Reading undoes writing. -/
theorem read_write (hw : 0 < w.size) (hn : w.Holds n) : w.read order (w.write order n) = n := by
  obtain ⟨hl, hh⟩ := hn
  simp only [read, value_write]
  by_cases hs : w.isSigned
  · rw [low_of_isSigned hs] at hl
    have hd := two_mul_high hw hs
    -- A negative integer is written as the one that is higher by the number of values.
    rcases lt_or_ge n 0 with hneg | hpos
    · have hm : n % values w.size = n + values w.size := by
        rw [← Int.add_emod_right]
        exact Int.emod_eq_of_lt (by omega) (by omega)
      rw [hm, if_pos ⟨hs, by omega⟩, Int.add_sub_cancel]
    · rw [Int.emod_eq_of_lt hpos (by omega), if_neg (by omega)]
  · rw [low_of_not_isSigned hs] at hl
    rw [high_of_not_isSigned hs] at hh
    rw [Int.emod_eq_of_lt hl hh, if_neg (fun h => hs h.1)]

theorem value_lt_of_length (h : bs.length = w.size) (order : ByteOrder) :
    (order.value bs : Int) < values w.size := by
  have hv := order.value_lt bs
  rw [h] at hv
  exact Int.ofNat_lt.mpr hv

/-- Every byte string of the right length spells an integer that the word holds. -/
theorem holds_read (hw : 0 < w.size) (h : bs.length = w.size) (order : ByteOrder) :
    w.Holds (w.read order bs) := by
  have hv := value_lt_of_length h order
  simp only [Holds, read]
  by_cases hs : w.isSigned
  · have hd := two_mul_high hw hs
    simp only [low_of_isSigned hs, hs, true_and]
    split <;> omega
  · rw [if_neg (fun h => hs h.1), low_of_not_isSigned hs, high_of_not_isSigned hs]
    exact ⟨by omega, hv⟩

/-- Writing undoes reading. -/
theorem write_read (h : bs.length = w.size) (order : ByteOrder) :
    w.write order (w.read order bs) = bs := by
  have hv := value_lt_of_length h order
  have hm : w.read order bs % values w.size = order.value bs := by
    simp only [read]
    split
    · rw [Int.sub_emod_right]
      exact Int.emod_eq_of_lt (by omega) hv
    · exact Int.emod_eq_of_lt (by omega) hv
  rw [write, hm, Int.toNat_natCast, ← h, ByteOrder.bytes_value]

section Append

variable {n' : Int} {bs' xs ys : Bytes}

theorem write_append_inj (hw : 0 < w.size) (hn : w.Holds n) (hn' : w.Holds n')
    (h : w.write order n ++ xs = w.write order n' ++ ys) : n = n' ∧ xs = ys := by
  obtain ⟨hwrite, hrest⟩ := List.append_inj h (by simp)
  have hread := congrArg (w.read order) hwrite
  rw [read_write hw hn, read_write hw hn'] at hread
  exact ⟨hread, hrest⟩

/-- The length in front of bytes tells where they end. -/
theorem write_length_append_inj (hl : uint32.Holds bs.length) (hl' : uint32.Holds bs'.length)
    (h : uint32.write order bs.length ++ (bs ++ xs) =
      uint32.write order bs'.length ++ (bs' ++ ys)) : bs = bs' ∧ xs = ys := by
  obtain ⟨hlength, hrest⟩ := write_append_inj (by decide) hl hl' h
  exact List.append_inj hrest (Int.ofNat_inj.mp hlength)

end Append

end Word

/-! ## Padding -/

/-- The padding is the one gap below the size that ends at a multiple of the size. -/
theorem eq_padding_iff {k position size : Nat} (h : 0 < size) :
    k = padding position size ↔ k < size ∧ (position + k) % size = 0 := by
  constructor
  · rintro rfl
    exact ⟨padding_lt position h, add_padding_mod position h⟩
  · rintro ⟨hk, hm⟩
    have he : k ≡ padding position size [MOD size] :=
      Nat.ModEq.add_left_cancel' position (hm.trans (add_padding_mod position h).symm)
    exact he.eq_of_lt_of_lt hk (padding_lt position h)

/-- Every position is a multiple of one. -/
theorem padding_one (position : Nat) : padding position 1 = 0 := Nat.mod_one _

end FrameChunks.Wire
