import FrameChunks.Text.Hex
import Mathlib.Algebra.Group.Nat.Defs
import Mathlib.Data.List.Induction

/-!
# Numerals of a fixed width

A number that fits the width is written with exactly that many digits, and can be read back. The
order of numerals of one width, character by character, is the order of the numbers.

## Main definitions

* `alphabet`: the sixteen digits

## Main results

* `length_padded`: the width of a numeral
* `value_padded`: the value of a numeral that is filled with zeros
* `mem_alphabet_of_mem_padded`: the characters of a numeral
* `value_append`, `value_lt`: what a digit counts in its place
* `lt_iff_value_lt`: the order of numerals of one width
-/

namespace FrameChunks.Text.Hex

theorem length_digits_le {width n : Nat} (hw : 0 < width) (h : n < 16 ^ width) :
    (digits n).length ≤ width := by
  induction width generalizing n with
  | zero => omega
  | succ width ih =>
    unfold digits
    split
    · exact hw
    · next hn =>
      rcases Nat.eq_zero_or_pos width with rfl | hw'
      · omega
      · have hd : n / 16 < 16 ^ width := by
          rw [Nat.div_lt_iff_lt_mul (by decide), ← Nat.pow_succ]
          exact h
        rw [List.length_append]
        exact Nat.succ_le_succ (ih hw' hd)

/-- A number that fits the width is written with as many digits. -/
theorem length_padded {width n : Nat} (hw : 0 < width) (h : n < 16 ^ width) :
    (padded width n).length = width := by
  show (fill width (digits n)).length = width
  rw [fill, List.length_append, List.length_replicate]
  exact Nat.sub_add_cancel (length_digits_le hw h)

/-- Zeros in front do not count. -/
theorem value_replicate_append (k : Nat) (s : List Char) :
    value (List.replicate k '0' ++ s) = value s := by
  induction k with
  | zero => rfl
  | succ k ih => exact ih

/-- A numeral that is filled with zeros has the value that it was written for. -/
theorem value_padded (width n : Nat) : value (padded width n) = n := by
  show value (fill width (digits n)) = n
  rw [fill, value_replicate_append, value_digits]

/-! ## Order -/

/-- The digits, from the lowest to the highest. -/
def alphabet : List Char :=
  ['0', '1', '2', '3', '4', '5', '6', '7', '8', '9', 'a', 'b', 'c', 'd', 'e', 'f']

theorem digit_mem_alphabet {d : Nat} (h : d < 16) : digit d ∈ alphabet := by
  have : ∀ d < 16, digit d ∈ alphabet := by decide
  exact this d h

theorem exists_digit_eq {c : Char} (h : c ∈ alphabet) : ∃ d < 16, digit d = c := by
  rw [show alphabet = (List.range 16).map digit by decide, List.mem_map] at h
  obtain ⟨d, hd, rfl⟩ := h
  exact ⟨d, List.mem_range.mp hd, rfl⟩

/-- Code points are in the order of digits, also where the letters begin. -/
theorem digit_lt_digit_iff {d e : Nat} (hd : d < 16) (he : e < 16) : digit d < digit e ↔ d < e := by
  have : ∀ d < 16, ∀ e < 16, (digit d < digit e ↔ d < e) := by decide
  exact this d hd e he

theorem digitValue_lt {c : Char} (h : c ∈ alphabet) : digitValue c < 16 := by
  obtain ⟨d, hd, rfl⟩ := exists_digit_eq h
  rwa [digitValue_digit hd]

theorem lt_iff_digitValue_lt {c d : Char} (hc : c ∈ alphabet) (hd : d ∈ alphabet) :
    c < d ↔ digitValue c < digitValue d := by
  obtain ⟨m, hm, rfl⟩ := exists_digit_eq hc
  obtain ⟨n, hn, rfl⟩ := exists_digit_eq hd
  rw [digit_lt_digit_iff hm hn, digitValue_digit hm, digitValue_digit hn]

theorem eq_iff_digitValue_eq {c d : Char} (hc : c ∈ alphabet) (hd : d ∈ alphabet) :
    c = d ↔ digitValue c = digitValue d := by
  obtain ⟨m, hm, rfl⟩ := exists_digit_eq hc
  obtain ⟨n, hn, rfl⟩ := exists_digit_eq hd
  constructor
  · exact congrArg digitValue
  · intro h
    rw [digitValue_digit hm, digitValue_digit hn] at h
    rw [h]

theorem mem_alphabet_of_mem_digits {n : Nat} {c : Char} (h : c ∈ digits n) : c ∈ alphabet := by
  induction n using Nat.strongRecOn with
  | _ n ih =>
    unfold digits at h
    split at h
    · next hn =>
      rw [List.mem_singleton.mp h]
      exact digit_mem_alphabet hn
    · next hn =>
      rcases List.mem_append.mp h with h | h
      · exact ih _ (Nat.div_lt_self (by omega) (by omega)) h
      · rw [List.mem_singleton.mp h]
        exact digit_mem_alphabet (Nat.mod_lt _ (by decide))

theorem mem_alphabet_of_mem_padded {width n : Nat} {c : Char} (h : c ∈ padded width n) :
    c ∈ alphabet := by
  have h : c ∈ List.replicate (width - (digits n).length) '0' ++ digits n := h
  rcases List.mem_append.mp h with h | h
  · rw [List.eq_of_mem_replicate h]
    decide
  · exact mem_alphabet_of_mem_digits h

theorem value_append (s t : List Char) : value (s ++ t) = value s * 16 ^ t.length + value t := by
  induction t using List.reverseRecOn with
  | nil => simp [value]
  | append_singleton t c ih =>
    have hplace : 16 * (value s * 16 ^ t.length) = value s * 16 ^ (t.length + 1) := by
      rw [Nat.mul_left_comm, Nat.pow_succ']
    rw [← List.append_assoc, value_append_singleton, ih, value_append_singleton, List.length_append,
      List.length_singleton, Nat.mul_add, hplace, Nat.add_assoc]

theorem value_cons (c : Char) (s : List Char) :
    value (c :: s) = digitValue c * 16 ^ s.length + value s := by
  have h := value_append [c] s
  rwa [show value [c] = digitValue c by simp [value]] at h

/-- What stands behind a digit counts less than one in the place of the digit. -/
theorem place_lt {a b place v : Nat} (w : Nat) (h : a < b) (hv : v < place) :
    a * place + v < b * place + w := by
  have hm := Nat.mul_le_mul_right place (show a + 1 ≤ b from h)
  rw [Nat.add_mul, Nat.one_mul] at hm
  omega

theorem value_lt {s : List Char} (h : ∀ c ∈ s, c ∈ alphabet) : value s < 16 ^ s.length := by
  induction s with
  | nil => decide
  | cons c s ih =>
    obtain ⟨hc, hs⟩ := List.forall_mem_cons.mp h
    rw [value_cons, List.length_cons, Nat.pow_succ']
    exact place_lt 0 (digitValue_lt hc) (ih hs)

/-- Numerals of one width are in the order of their values. -/
theorem lt_iff_value_lt {s t : List Char} (hs : ∀ c ∈ s, c ∈ alphabet)
    (ht : ∀ c ∈ t, c ∈ alphabet) (hl : s.length = t.length) : s < t ↔ value s < value t := by
  induction s generalizing t with
  | nil =>
    obtain rfl := List.length_eq_zero_iff.mp hl.symm
    simp
  | cons c s ih =>
    obtain ⟨d, t, rfl⟩ := List.exists_cons_of_length_eq_add_one hl.symm
    obtain ⟨hc, hs⟩ := List.forall_mem_cons.mp hs
    obtain ⟨hd, ht⟩ := List.forall_mem_cons.mp ht
    have hl := Nat.succ.inj hl
    have hvs := value_lt hs
    have hvt := value_lt ht
    rw [hl] at hvs
    rw [List.cons_lt_cons_iff, ih hs ht hl, value_cons, value_cons, hl,
      lt_iff_digitValue_lt hc hd, eq_iff_digitValue_eq hc hd]
    -- The first digits decide, and the rest only if they are the same.
    rcases Nat.lt_trichotomy (digitValue c) (digitValue d) with h | h | h
    · have hlt := place_lt (value t) h hvs
      exact ⟨fun _ => hlt, fun _ => .inl h⟩
    · rw [h]
      omega
    · have hlt := place_lt (value s) h hvt
      omega

end FrameChunks.Text.Hex
