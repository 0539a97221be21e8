/-!
# Binary floating-point numbers

A binary interchange format has a sign bit, an exponent field and a fraction field. The last two are
kept together as one natural number, the *magnitude*: magnitudes are ordered as the numbers that
they stand for, the magnitude of infinity is the least one with a full exponent field, and the
magnitudes above it are not numbers. Rounding is exact: to the nearest number of the format, of two
equally near ones to that with the even magnitude.

## Main definitions

* `BinaryFormat`: the widths of the two fields; `half`, `single`, `double`
* `Binary`: a sign and a magnitude
* `BinaryFormat.ofRatio`: the number nearest to a quotient
* `BinaryFormat.toRatio`: the exact value of a finite number
* `BinaryFormat.convert`: a number of one format in another one
* `BinaryFormat.ofInt?`: the number nearest to an integer, if it is finite
* `BinaryFormat.truncate?`, `BinaryFormat.floor?`: a finite number as an integer
* `BinaryFormat.add`, `BinaryFormat.mul`: the nearest numbers to a sum and a product

## Main results

* `roundDiv_near`: a rounded quotient is within half a unit of the exact one
* `roundDiv_tie_even`: of two equally near integers the even one is taken
-/

namespace FrameChunks

/-- Rounds `num / den` to the nearest integer, a tie to the even one. -/
def roundDiv (num den : Nat) : Nat :=
  let q := num / den
  let r := num % den
  if 2 * r < den then q
  else if den < 2 * r then q + 1
  else if q % 2 = 0 then q
  else q + 1

theorem roundDiv_near (num den : Nat) (h : 0 < den) :
    2 * (roundDiv num den * den) ≤ 2 * num + den ∧ 2 * num ≤ 2 * (roundDiv num den * den) + den := by
  have e : num / den * den + num % den = num := Nat.div_add_mod' num den
  have l : num % den < den := Nat.mod_lt _ h
  simp only [roundDiv]
  split
  -- less than half is dropped
  · omega
  · split
    -- more than half is rounded up
    · rw [Nat.add_mul]; omega
    -- a tie is half a unit away on either side
    · split
      · omega
      · rw [Nat.add_mul]; omega

theorem roundDiv_tie_even (num den : Nat) (h : 2 * (num % den) = den) :
    roundDiv num den % 2 = 0 := by
  simp only [roundDiv]
  split
  · omega
  · split
    · omega
    · split
      · assumption
      · omega

/-- The widths of the exponent field and the fraction field. -/
structure BinaryFormat where
  exponentBits : Nat
  fractionBits : Nat
  deriving DecidableEq, Repr

/-- A sign and a magnitude. Which number that is, a format tells. -/
structure Binary where
  negative : Bool
  magnitude : Nat
  deriving DecidableEq, Repr

namespace BinaryFormat

/-- Numbers of 16 bits. -/
def half : BinaryFormat := ⟨5, 10⟩

/-- Numbers of 32 bits. -/
def single : BinaryFormat := ⟨8, 23⟩

/-- Numbers of 64 bits. -/
def double : BinaryFormat := ⟨11, 52⟩

/-- The number of bits of the whole format. -/
def width (f : BinaryFormat) : Nat := 1 + f.exponentBits + f.fractionBits

/-- The magnitude of infinity. -/
def infinity (f : BinaryFormat) : Nat := (Nat.pow 2 f.exponentBits - 1) * Nat.pow 2 f.fractionBits

/-- Numbers of the format are multiples of two to the power of minus this. -/
def finest (f : BinaryFormat) : Nat := Nat.pow 2 (f.exponentBits - 1) - 2 + f.fractionBits

/-- A magnitude that is not a number. -/
def notANumber (f : BinaryFormat) : Binary :=
  ⟨false, f.infinity + Nat.pow 2 (f.fractionBits - 1)⟩

/-- Whether a magnitude stands for no number. -/
def isNaN (f : BinaryFormat) (x : Binary) : Bool := f.infinity < x.magnitude

/-- Whether a magnitude stands for an infinity. -/
def isInfinite (f : BinaryFormat) (x : Binary) : Bool := x.magnitude = f.infinity

/-- Whether a magnitude stands for a finite number. -/
def isFinite (f : BinaryFormat) (x : Binary) : Bool := x.magnitude < f.infinity

/-- The bits of a number, the sign first. -/
def bits (f : BinaryFormat) (x : Binary) : Nat :=
  (if x.negative then Nat.pow 2 (f.exponentBits + f.fractionBits) else 0) + x.magnitude

/-- The exponent of the leading binary digit of `num / den`. -/
def leadingExponent (num den : Nat) : Int :=
  -- the logarithms fix the exponent up to one
  let e : Int := (num.log2 : Int) - (den.log2 : Int)
  if num * Nat.pow 2 (-e).toNat < den * Nat.pow 2 e.toNat then e - 1 else e

/-- The magnitude nearest to `num / den`; what is too large becomes infinity. A carry out of the
fraction moves on to the next exponent by itself. -/
def nearest (f : BinaryFormat) (num den : Nat) : Nat :=
  if num = 0 then 0
  else
    let fine : Int := -(f.finest : Int)
    -- the exponent of the last place that is kept: subnormal numbers have fewer places
    let unit := max (leadingExponent num den - f.fractionBits) fine
    let steps := roundDiv (num * Nat.pow 2 (-unit).toNat) (den * Nat.pow 2 unit.toNat)
    min ((unit - fine).toNat * Nat.pow 2 f.fractionBits + steps) f.infinity

/-- The number nearest to `num / den`. -/
def ofRatio (f : BinaryFormat) (negative : Bool) (num den : Nat) : Binary :=
  ⟨negative, f.nearest num den⟩

/-- A finite number is `num / den` but for its sign. -/
def toRatio (f : BinaryFormat) (x : Binary) : Nat × Nat :=
  let e := x.magnitude / Nat.pow 2 f.fractionBits
  let r := x.magnitude % Nat.pow 2 f.fractionBits
  -- the leading digit is not stored; with exponent field zero it is zero
  let digits := if e = 0 then r else Nat.pow 2 f.fractionBits + r
  (digits * Nat.pow 2 (e - 1), Nat.pow 2 f.finest)

/-- A number of the format `f` in the format `g`. -/
def convert (f g : BinaryFormat) (x : Binary) : Binary :=
  if f.isNaN x then g.notANumber
  else if f.isInfinite x then ⟨x.negative, g.infinity⟩
  else g.ofRatio x.negative (f.toRatio x).1 (f.toRatio x).2

/-- The number nearest to an integer, unless that is infinite. -/
def ofInt? (f : BinaryFormat) (n : Int) : Option Binary :=
  let x := f.ofRatio (n < 0) n.natAbs 1
  if f.isFinite x then some x else none

/-- The integer part of a finite number. -/
def truncate? (f : BinaryFormat) (x : Binary) : Option Int :=
  if f.isFinite x then
    let n : Int := ((f.toRatio x).1 / (f.toRatio x).2 : Nat)
    some (if x.negative then -n else n)
  else none

/-- The greatest integer that is not above a finite number. -/
def floor? (f : BinaryFormat) (x : Binary) : Option Int :=
  if f.isFinite x then
    let n : Int := (f.toRatio x).1
    some ((if x.negative then -n else n).fdiv (f.toRatio x).2)
  else none

/-- Whether a finite number is an integer. -/
def isIntegral (f : BinaryFormat) (x : Binary) : Bool :=
  f.isFinite x && (f.toRatio x).1 % (f.toRatio x).2 = 0

/-- The number nearest to a product. Zero times infinity is no number. -/
def mul (f : BinaryFormat) (x y : Binary) : Binary :=
  let negative := x.negative != y.negative
  if f.isNaN x || f.isNaN y then f.notANumber
  else if f.isInfinite x || f.isInfinite y then
    if x.magnitude = 0 || y.magnitude = 0 then f.notANumber else ⟨negative, f.infinity⟩
  else f.ofRatio negative ((f.toRatio x).1 * (f.toRatio y).1) ((f.toRatio x).2 * (f.toRatio y).2)

/-- The number nearest to a sum. Infinities of either sign have none, and the sum of two opposite
numbers is the positive zero. -/
def add (f : BinaryFormat) (x y : Binary) : Binary :=
  if f.isNaN x || f.isNaN y then f.notANumber
  else if f.isInfinite x then
    if f.isInfinite y && x.negative != y.negative then f.notANumber else x
  else if f.isInfinite y then y
  else
    let value (z : Binary) : Int := if z.negative then -(f.toRatio z).1 else (f.toRatio z).1
    let sum := value x + value y
    if sum = 0 then ⟨x.negative && y.negative, 0⟩
    -- all finite numbers have the same denominator
    else f.ofRatio (sum < 0) sum.natAbs (f.toRatio x).2

example : double.nearest 1 10 = 0x3FB999999999999A := by decide +kernel

example : double.add (double.ofRatio false 1 10) (double.ofRatio false 2 10) =
    ⟨false, double.nearest 3 10 + 1⟩ := by decide +kernel

example : single.nearest 1 (2 ^ 149) = 1 ∧ single.nearest 1 (2 ^ 150) = 0 := by decide +kernel

end BinaryFormat

end FrameChunks
