import FrameChunks.Number.Binary

/-!
# The shortest decimal of a binary number

A binary number is written with the fewest digits that are read as that number again, and of all
such decimals as the nearest one. If a multiple of a power of ten is read as the number, then one of
the two multiples next to the number is, so that only these are tried.

## Main definitions

* `Multiple`: a multiple of a power of ten
* `BinaryFormat.neighbours`: the multiples next to a quotient
* `BinaryFormat.shortest?`: the shortest decimal of a finite number
* `BinaryFormat.text`: the numeral of a number
-/

namespace FrameChunks

/-- So many times a power of ten. -/
structure Multiple where
  count : Nat
  exponent : Int
  deriving DecidableEq, Repr

namespace BinaryFormat

/-- The number of digits of a natural number. -/
def places (n : Nat) : Nat := (toString n).length

/-- The greatest `e` such that `10^e` is not above `num / den`. -/
def decimalExponent (num den : Nat) : Int :=
  -- the numbers of digits fix the exponent up to one
  let e : Int := (places num : Int) - (places den : Int)
  if num * Nat.pow 10 (-e).toNat < den * Nat.pow 10 e.toNat then e - 1 else e

/-- The multiples of `10^e` below and above `num / den`, the nearer one first. -/
def neighbours (num den : Nat) (e : Int) : List Multiple :=
  let num := num * Nat.pow 10 (-e).toNat
  let den := den * Nat.pow 10 e.toNat
  let below := num / den
  if roundDiv num den = below then [⟨below, e⟩, ⟨below + 1, e⟩] else [⟨below + 1, e⟩, ⟨below, e⟩]

/-- Whether a decimal is read as a number of the given magnitude. -/
def reads (f : BinaryFormat) (magnitude : Nat) (d : Multiple) : Bool :=
  f.nearest (d.count * Nat.pow 10 d.exponent.toNat) (Nat.pow 10 (-d.exponent).toNat) = magnitude

/-- So many digits are enough for every number of the format. The logarithm of two is below the
quotient here. -/
def mostPlaces (f : BinaryFormat) : Nat := (f.fractionBits + 1) * 30103 / 100000 + 2

/-- The shortest decimal of a finite number, the sign apart. -/
def shortest? (f : BinaryFormat) (x : Binary) : Option Multiple :=
  let (num, den) := f.toRatio x
  let e := decimalExponent num den
  (List.range f.mostPlaces).findSome? fun (n : Nat) =>
    (neighbours num den (e - n)).find? (f.reads x.magnitude)

/-- The places of the point, counted from before the first digit, at which numerals do without an
exponent. -/
def Positional (point : Int) : Prop := -4 < point ∧ point ≤ 16

instance (point : Int) : Decidable (Positional point) := inferInstanceAs (Decidable (_ ∧ _))

/-- The digits `s` with the point so many places behind the start. A numeral without an exponent has
a digit on either side of the point. -/
def layOut (s : List Char) (point : Int) : List Char :=
  if Positional point then
    let s := List.replicate (1 - point).toNat '0' ++ s
    let whole := (max point 1).toNat
    let fraction := s.drop whole
    s.take whole ++ List.replicate (whole - s.length) '0' ++ '.' ::
      (if fraction.isEmpty then ['0'] else fraction)
  else
    let exponent := point - 1
    let digits := (toString exponent.natAbs).toList
    let fraction := s.drop 1
    s.take 1 ++ (if fraction.isEmpty then [] else '.' :: fraction) ++ 'e' ::
      (if exponent < 0 then '-' else '+') :: (List.replicate (2 - digits.length) '0' ++ digits)

/-- The numeral of a natural number without the zeros at its end. -/
def significant (n : Nat) : List Char :=
  ((toString n).toList.reverse.dropWhile (· = '0')).reverse

/-- The numeral of a number. -/
def text (f : BinaryFormat) (x : Binary) : String :=
  if f.isNaN x then "nan"
  else
    let sign := if x.negative then "-" else ""
    if f.isInfinite x then sign ++ "inf"
    else if x.magnitude = 0 then sign ++ "0.0"
    else
      match f.shortest? x with
      | some d => sign ++ String.ofList (layOut (significant d.count) (places d.count + d.exponent))
      | none => sign

example : half.text (half.ofRatio false 1 10) = "0.1" := by decide +kernel

example : half.text ⟨true, 1⟩ = "-6e-08" := by decide +kernel

end BinaryFormat

end FrameChunks
