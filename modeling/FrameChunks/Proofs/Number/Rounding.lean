import FrameChunks.Number.Binary
import Mathlib.Algebra.Group.Nat.Defs
import Mathlib.Order.MinMax

/-!
# Integers that a format cannot hold

An integer is rounded to infinity from half a unit in the last place below the first power of two
that is too large: the number in the middle between this and the greatest finite number goes to the
even one of the two, which is the power.

## Main results

* `roundDiv_le`, `le_roundDiv`, `roundDiv_lt_iff`: bounds on a rounded quotient
* `BinaryFormat.nearest_lt_infinity_iff`: the integers that are rounded to a finite number
* `BinaryFormat.double_ofInt?_iff`: the integers that are rounded to a finite double
-/

namespace FrameChunks

section RoundDiv

variable {num den m : Nat}

theorem roundDiv_le (hd : 0 < den) (h : num ≤ m * den) : roundDiv num den ≤ m := by
  have hq : num / den ≤ m := Nat.div_le_of_le_mul (by rwa [Nat.mul_comm])
  have he : num / den * den + num % den = num := Nat.div_add_mod' num den
  -- Only a quotient that is not exact is rounded up.
  have hr : num % den ≠ 0 → num / den < m := by
    intro hne
    refine Nat.lt_of_mul_lt_mul_right (a := den) ?_
    omega
  simp only [roundDiv]
  split
  · exact hq
  · have hlt := hr (by omega)
    split
    · exact hlt
    · split
      · exact hq
      · exact hlt

theorem le_roundDiv (hd : 0 < den) (h : m * den ≤ num) : m ≤ roundDiv num den := by
  have hq : m ≤ num / den := (Nat.le_div_iff_mul_le hd).mpr h
  simp only [roundDiv]
  split
  · exact hq
  · split
    · exact hq.trans (Nat.le_succ _)
    · split
      · exact hq
      · exact hq.trans (Nat.le_succ _)

/-- A quotient is rounded below an even number if it is more than half a unit below it. -/
theorem roundDiv_lt_iff (hd : 0 < den) (hm : m % 2 = 0) :
    roundDiv num den < m ↔ 2 * num + den < 2 * (m * den) := by
  rcases Nat.lt_or_ge num (m * den) with hlt | hge
  · obtain ⟨k, rfl⟩ : ∃ k, m = k + 1 :=
      Nat.exists_eq_succ_of_ne_zero fun h => by simp [h] at hlt
    rw [Nat.succ_mul k den] at hlt ⊢
    rcases Nat.lt_or_ge num (k * den) with hlow | hhigh
    -- more than a unit below
    · have hle : roundDiv num den ≤ k := roundDiv_le hd hlow.le
      omega
    -- at most a unit below: of the two nearest numbers the lower one is odd, so a tie goes up
    · have hq : num / den = k := by
        rw [Nat.div_eq_iff hd]
        omega
      have hr : num % den = num - k * den := by
        rw [← hq]
        exact Nat.mod_eq_sub_div_mul
      simp only [roundDiv, hq, hr]
      split
      · omega
      · split
        · omega
        · split
          · omega
          · omega
  · have hle : m ≤ roundDiv num den := le_roundDiv hd hge
    omega

end RoundDiv

namespace BinaryFormat

variable {f : BinaryFormat} {n : Nat}

/-- The exponent of the first power of two that is too large. -/
def maxExponent (f : BinaryFormat) : Nat := 2 ^ (f.exponentBits - 1)

/-- The number in the middle between the greatest finite number and the first power of two that is
too large. -/
def overflowBound (f : BinaryFormat) : Nat :=
  2 ^ f.maxExponent - 2 ^ (f.maxExponent - 2 - f.fractionBits)

theorem infinity_eq (h : 2 ≤ f.maxExponent) :
    f.infinity = (2 * f.maxExponent - 1) * 2 ^ f.fractionBits := by
  have he : f.exponentBits ≠ 0 := by
    intro he
    rw [maxExponent, he] at h
    exact absurd h (by decide)
  obtain ⟨k, hk⟩ := Nat.exists_eq_succ_of_ne_zero he
  rw [infinity, maxExponent, hk, Nat.succ_sub_one]
  show (2 ^ (k + 1) - 1) * 2 ^ _ = (2 * 2 ^ k - 1) * 2 ^ _
  rw [Nat.pow_succ']

theorem leadingExponent_one (hn : n ≠ 0) : leadingExponent n 1 = n.log2 := by
  have hlog : ¬ n < 2 ^ n.log2 := Nat.not_lt.mpr (Nat.log2_self_le hn)
  have he : ((n.log2 : Int) - (Nat.log2 1 : Int)) = n.log2 := Int.sub_zero _
  simp only [leadingExponent, he]
  rw [if_neg]
  simpa using hlog

/-- The magnitude of an integer has the exponent of the leading digit, and the digits rounded to the
width of the fraction. -/
theorem nearest_one (hn : n ≠ 0) (h : 2 ≤ f.maxExponent) :
    f.nearest n 1 = min ((n.log2 + f.maxExponent - 2) * 2 ^ f.fractionBits +
      roundDiv (n * 2 ^ (f.fractionBits - n.log2)) (2 ^ (n.log2 - f.fractionBits))) f.infinity := by
  have hfinest : f.finest = f.maxExponent - 2 + f.fractionBits := rfl
  rw [nearest, if_neg hn, leadingExponent_one hn]
  have hunit : max ((n.log2 : Int) - f.fractionBits) (-(f.finest : Int)) =
      n.log2 - f.fractionBits := by
    omega
  simp only [hunit]
  have h1 : (-((n.log2 : Int) - f.fractionBits)).toNat = f.fractionBits - n.log2 := by omega
  have h2 : ((n.log2 : Int) - f.fractionBits).toNat = n.log2 - f.fractionBits := by omega
  have h3 : ((n.log2 : Int) - f.fractionBits - -(f.finest : Int)).toNat =
      n.log2 + f.maxExponent - 2 := by omega
  rw [h1, h2, h3, Nat.one_mul]
  rfl

/-- Rounding keeps an integer between the powers of two around it. -/
theorem roundDiv_mem (hn : n ≠ 0) (p : Nat) :
    2 ^ p ≤ roundDiv (n * 2 ^ (p - n.log2)) (2 ^ (n.log2 - p)) ∧
      roundDiv (n * 2 ^ (p - n.log2)) (2 ^ (n.log2 - p)) ≤ 2 * 2 ^ p := by
  have hpow : 2 ^ p * 2 ^ (n.log2 - p) = 2 ^ n.log2 * 2 ^ (p - n.log2) := by
    rw [← Nat.pow_add, ← Nat.pow_add]
    congr 1
    omega
  have hlow : 2 ^ n.log2 ≤ n := Nat.log2_self_le hn
  have hhigh : n ≤ 2 * 2 ^ n.log2 := by
    rw [← Nat.pow_succ']
    exact Nat.lt_log2_self.le
  constructor
  · refine le_roundDiv (Nat.two_pow_pos _) ?_
    rw [hpow]
    exact Nat.mul_le_mul_right _ hlow
  · refine roundDiv_le (Nat.two_pow_pos _) ?_
    rw [Nat.mul_assoc, hpow, ← Nat.mul_assoc]
    exact Nat.mul_le_mul_right _ hhigh

/-- With `p + 1` of `k + 2` digits kept, an integer is rounded below the next power of two if it is
more than half a unit of the last kept place below it. -/
theorem roundDiv_lt_power_iff {k p : Nat} (h : p ≤ k) :
    roundDiv n (2 ^ (k + 1 - p)) < 2 * 2 ^ p ↔ n < 2 ^ (k + 2) - 2 ^ (k - p) := by
  have hhalf : 2 ^ (k + 1 - p) = 2 * 2 ^ (k - p) := by
    rw [← Nat.pow_succ']
    congr 1
    omega
  have hfull : 2 ^ p * 2 ^ (k + 1 - p) = 2 ^ (k + 1) := by
    rw [← Nat.pow_add]
    congr 1
    omega
  have hnext : 2 ^ (k + 2) = 2 * 2 ^ (k + 1) := Nat.pow_succ'
  rw [roundDiv_lt_iff (Nat.two_pow_pos _) (Nat.mul_mod_right 2 _), Nat.mul_assoc, hfull, hhalf]
  omega

/-- The integers that are rounded to a finite number. -/
theorem nearest_lt_infinity_iff (h : f.fractionBits + 2 ≤ f.maxExponent) :
    f.nearest n 1 < f.infinity ↔ n < f.overflowBound := by
  obtain ⟨k, hk⟩ := Nat.exists_eq_add_of_le (show 2 ≤ f.maxExponent by omega)
  have hbound : f.overflowBound = 2 ^ (k + 2) - 2 ^ (k - f.fractionBits) := by
    rw [overflowBound, hk, Nat.add_comm 2 k, Nat.add_sub_cancel]
  have hinf : f.infinity = (2 * k + 3) * 2 ^ f.fractionBits := by
    rw [infinity_eq (by omega), hk]
    congr 1
    omega
  have hpow : 2 ^ (k - f.fractionBits) < 2 ^ (k + 2) := Nat.pow_lt_pow_right (by decide) (by omega)
  rw [hinf, hbound]
  by_cases hn : n = 0
  · rw [nearest, if_pos hn, hn]
    exact ⟨fun _ => Nat.sub_pos_of_lt hpow, fun _ => Nat.mul_pos (by omega) (Nat.two_pow_pos _)⟩
  · rw [nearest_one hn (by omega), hk, hinf, min_lt_iff, or_iff_left (lt_irrefl _)]
    obtain ⟨hlow, hhigh⟩ := roundDiv_mem hn f.fractionBits
    have hunit : 0 < 2 ^ f.fractionBits := Nat.two_pow_pos _
    rcases Nat.lt_trichotomy n.log2 (k + 1) with hlt | heq | hgt
    -- below half the power, so finite
    · have hn' : n < 2 ^ (k + 1) := (Nat.log2_lt hn).mp hlt
      have hle : 2 ^ (k - f.fractionBits) ≤ 2 ^ k := Nat.pow_le_pow_right (by decide) (by omega)
      have hsteps : (n.log2 + (2 + k) - 2) * 2 ^ f.fractionBits ≤ 2 * k * 2 ^ f.fractionBits :=
        Nat.mul_le_mul_right _ (by omega)
      refine iff_of_true ?_ ?_
      · rw [Nat.add_mul]
        omega
      · rw [Nat.pow_succ] at hn' ⊢
        omega
    -- from half the power on, so a matter of the steps
    · have hzero : f.fractionBits - (k + 1) = 0 := by omega
      have hsteps : (2 * k + 3) * 2 ^ f.fractionBits =
          (k + 1 + (2 + k) - 2) * 2 ^ f.fractionBits + 2 * 2 ^ f.fractionBits := by
        rw [← Nat.add_mul]
        congr 1
        omega
      rw [heq, hsteps, Nat.add_lt_add_iff_left, hzero, Nat.pow_zero, Nat.mul_one]
      exact roundDiv_lt_power_iff (by omega)
    -- from the power on, so infinite
    · have hn' : 2 ^ (k + 2) ≤ n := (Nat.le_log2 hn).mp hgt
      have hsteps : (2 * k + 2) * 2 ^ f.fractionBits ≤
          (n.log2 + (2 + k) - 2) * 2 ^ f.fractionBits :=
        Nat.mul_le_mul_right _ (by omega)
      have hnext : (2 * k + 3) * 2 ^ f.fractionBits =
          (2 * k + 2) * 2 ^ f.fractionBits + 2 ^ f.fractionBits :=
        Nat.succ_mul _ _
      exact iff_of_false (by omega) (Nat.not_lt.mpr ((Nat.sub_le _ _).trans hn'))

/-- The integers that have a nearest finite number. -/
theorem ofInt?_isSome_iff (h : f.fractionBits + 2 ≤ f.maxExponent) {m : Int} :
    (f.ofInt? m).isSome ↔ m.natAbs < f.overflowBound := by
  rw [← nearest_lt_infinity_iff h]
  have hfinite : f.isFinite (f.ofRatio (m < 0) m.natAbs 1) ↔ f.nearest m.natAbs 1 < f.infinity :=
    decide_eq_true_iff
  rw [← hfinite]
  simp only [ofInt?]
  split
  next hlt => exact ⟨fun _ => hlt, fun _ => rfl⟩
  next hge => exact ⟨nofun, fun hlt => absurd hlt hge⟩

theorem double_overflowBound : double.overflowBound = 2 ^ 1024 - 2 ^ 970 := by
  have hmax : double.maxExponent = 1024 := rfl
  have hlast : 1024 - 2 - double.fractionBits = 970 := rfl
  rw [overflowBound, hmax, hlast]

end BinaryFormat

end FrameChunks
