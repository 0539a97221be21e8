/-!
# Hexadecimal text

Lower-case hexadecimal numerals, alone or filled with zeros to a width.

## Main definitions

* `Hex.digits`: the numeral of a natural number, without leading zeros
* `Hex.padded`: the numeral of an integer, filled with zeros to a width that counts the sign
* `Hex.ofByte`: the two digits of a byte

## Main results

* `Hex.value_digits`: a numeral has the value that it was written for
-/

namespace FrameChunks.Text.Hex

/-- The hexadecimal digit of a number below sixteen. -/
def digit (d : Nat) : Char := if d < 10 then Char.ofNat (48 + d) else Char.ofNat (87 + d)

/-- The value of a hexadecimal digit in lower case. -/
def digitValue (c : Char) : Nat := if c.toNat < 58 then c.toNat - 48 else c.toNat - 87

/-- The numeral of `n`, without leading zeros. -/
def digits (n : Nat) : List Char :=
  if n < 16 then [digit n]
  else digits (n / 16) ++ [digit (n % 16)]
termination_by n
decreasing_by exact Nat.div_lt_self (by omega) (by omega)

/-- The number that a numeral stands for. -/
def value (s : List Char) : Nat := s.foldl (fun n c => 16 * n + digitValue c) 0

/-- The digits filled with zeros on the left to at least `width` characters. -/
def fill (width : Nat) (s : List Char) : List Char := List.replicate (width - s.length) '0' ++ s

/-- The numeral of an integer, filled with zeros to `width` characters; a minus sign counts. -/
def padded (width : Nat) : Int → List Char
  | .ofNat n => fill width (digits n)
  | .negSucc n => '-' :: fill (width - 1) (digits (n + 1))

/-- The two digits of a byte. -/
def ofByte (b : UInt8) : List Char := [digit (b.toNat / 16), digit (b.toNat % 16)]

theorem digitValue_digit {d : Nat} (h : d < 16) : digitValue (digit d) = d := by
  have : ∀ d < 16, digitValue (digit d) = d := by decide
  exact this d h

theorem value_append_singleton (s : List Char) (c : Char) :
    value (s ++ [c]) = 16 * value s + digitValue c := by
  simp [value]

/-- A numeral has the value that it was written for. -/
theorem value_digits (n : Nat) : value (digits n) = n := by
  induction n using Nat.strongRecOn with
  | _ n ih =>
    unfold digits
    split
    · rename_i h
      simp [value, digitValue_digit h]
    · rw [value_append_singleton, ih _ (Nat.div_lt_self (by omega) (by omega)),
        digitValue_digit (Nat.mod_lt _ (by omega))]
      omega

end FrameChunks.Text.Hex
