import FrameChunks.Number.Binary
import FrameChunks.Text.Blank
import FrameChunks.Text.DecimalDigit

/-!
# Decimal numerals

Digits may be set apart by single underscores. A numeral with a fraction or an exponent is read as
the nearest binary number.

## Main definitions

* `Decimal.digits?`: the digits of a group, without its underscores
* `Decimal.value`: the number that digits spell
* `Decimal.integer?`: an integer with an optional sign
* `Decimal.toBinary`: `d · 10^e` as a binary number
* `Decimal.ofText?`, `Decimal.realOfText?`: an integer and a real number with blanks around them
-/

namespace FrameChunks.Decimal

open Text

/-- Integers are read from texts of at most so many digits. -/
def mostDigits : Nat := 4300

/-- The number that digits spell. -/
def value (digits : List Nat) : Nat := digits.foldl (fun n d => 10 * n + d) 0

/-- Reads the rest of a group of digits after its first digit. -/
def moreDigits? (digit? : Char → Option Nat) : List Char → Option (List Nat)
  | [] => some []
  | '_' :: c :: rest => do
    let d ← digit? c
    let ds ← moreDigits? digit? rest
    return d :: ds
  | c :: rest => do
    let d ← digit? c
    let ds ← moreDigits? digit? rest
    return d :: ds

/-- Reads a group of digits; a single underscore may stand between two of them. -/
def digits? (digit? : Char → Option Nat) : List Char → Option (List Nat)
  | [] => none
  | c :: rest => do
    let d ← digit? c
    let ds ← moreDigits? digit? rest
    return d :: ds

/-- The digits of ASCII. -/
def asciiDigit? (c : Char) : Option Nat :=
  if '0' ≤ c ∧ c ≤ '9' then some (c.toNat - 48) else none

/-- Splits an optional sign off: whether it is a minus, and what follows. -/
def sign : List Char → Bool × List Char
  | '-' :: rest => (true, rest)
  | '+' :: rest => (false, rest)
  | s => (false, s)

/-- Puts a sign on a natural number. -/
def signed (negative : Bool) (n : Nat) : Int := if negative then -n else n

/-- Reads an integer with an optional sign, whose digits `digit?` knows. -/
def integer? (digit? : Char → Option Nat) (s : List Char) : Option Int :=
  (digits? digit? (sign s).2).map fun ds => signed (sign s).1 (value ds)

/-- `d · 10^e` in the format `f`, where `d` has at most `places` digits. Far outside the range of the
double format the answer does not depend on the digits, and no power of ten is computed. -/
def toBinary (f : BinaryFormat) (negative : Bool) (d : Nat) (places : Nat) (e : Int) : Binary :=
  if d = 0 then ⟨negative, 0⟩
  else if 400 < e then ⟨negative, f.infinity⟩
  else if (places : Int) + e < -400 then ⟨negative, 0⟩
  else f.ofRatio negative (d * Nat.pow 10 e.toNat) (Nat.pow 10 (-e).toNat)

/-- Reads an integer in the digits of any script, with blanks around it. -/
def ofText? (s : List Char) : Option Int :=
  let s := trim s
  -- leading zeros count, underscores do not
  if mostDigits < ((sign s).2.filter (· ≠ '_')).length then none else integer? digitValue? s

/-- Reads the digits before or behind a point; there may be none. -/
def part? (s : List Char) : Option (List Nat) := if s.isEmpty then some [] else digits? digitValue? s

/-- Words that mean infinity. -/
def infinities : List String := ["inf", "infinity"]

/-- Reads a real number in the digits of any script, or a word for infinity or for no number, with
blanks around it. -/
def realOfText? (s : List Char) : Option Binary :=
  let (negative, s) := sign (trim s)
  let word := String.ofList (s.map Char.toLower)
  if word = "nan" then some BinaryFormat.double.notANumber
  else if word ∈ infinities then some ⟨negative, BinaryFormat.double.infinity⟩
  else do
    let mantissa := s.takeWhile fun c => c ≠ 'e' && c ≠ 'E'
    let exponent ←
      match s.drop mantissa.length with
      | [] => some 0
      | _ :: digits => integer? digitValue? digits
    let whole ← part? (mantissa.takeWhile (· ≠ '.'))
    let fraction ← part? (mantissa.dropWhile (· ≠ '.')).tail
    let digits := whole ++ fraction
    if digits.isEmpty then none
    else some (toBinary .double negative (value digits) digits.length (exponent - fraction.length))

end FrameChunks.Decimal
