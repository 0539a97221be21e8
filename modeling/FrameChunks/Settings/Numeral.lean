import FrameChunks.Number.Decimal
import FrameChunks.Settings.Issue

/-!
# Integers in texts

A numeral is an optional minus and digits without a leading zero. What is no numeral as it stands may
become one when it is tidied: blanks around it, a plus, zeros at its front, single underscores among
its digits and a fraction of zeros are taken away.

The tidying is lenient in one respect: among zeros at the front, underscores may stand in any number,
and behind them a minus may stand, so that `0__1` and `0-5` are integers too.

## Main definitions

* `Numeral.strict?`: the integer of a numeral
* `Numeral.tidy?`: the tidied text
* `Numeral.read`: the integer that a text spells
-/

namespace FrameChunks.Settings.Numeral

/-- Splits a minus off: whether there is one, and what follows. -/
def minus : List Char → Bool × List Char
  | '-' :: rest => (true, rest)
  | s => (false, s)

/-- The digits of a numeral: zero, or digits without a leading zero. -/
def strictDigits? : List Char → Option (List Nat)
  | ['0'] => some [0]
  | '0' :: _ => none
  | [] => none
  | s => s.mapM Decimal.asciiDigit?

/-- The integer of a numeral; nothing if it has too many digits. -/
def strict? (s : List Char) : Option Int :=
  let (negative, digits) := minus s
  if Decimal.mostDigits < digits.length then none
  else (strictDigits? digits).map fun ds => Decimal.signed negative (Decimal.value ds)

/-- Whether a text begins, behind a minus, with too many digits and no zero at their front. -/
def isTooLong (s : List Char) : Bool :=
  let digits := (minus s).2.takeWhile Char.isDigit
  digits.head? ≠ some '0' && Decimal.mostDigits < digits.length

/-- The text without a fraction. A point needs zeros behind it, and nothing else. -/
def dropFraction? (s : List Char) : Option (List Char) :=
  match s.dropWhile (· ≠ '.') with
  | [] => some s
  | _ :: zeros =>
    if !zeros.isEmpty && zeros.all (· = '0') then some (s.takeWhile (· ≠ '.')) else none

/-- Goes on behind a leading zero: `last` is the last character so far. -/
def dropZerosFrom (last : Char) : List Char → Option (List Char)
  | [] => some [last]
  | c :: rest =>
    if c = '0' || c = '_' then dropZerosFrom c rest
    else if c = '-' || c.isDigit then some (c :: rest)
    else none

/-- The text without zeros at its front. -/
def dropZeros : List Char → Option (List Char)
  | [] => none
  | c :: rest =>
    if c = '0' then dropZerosFrom c rest
    else if c = '-' || c.isDigit then some (c :: rest)
    else none

/-- Whether two underscores stand side by side. -/
def hasDoubled : List Char → Bool
  | '_' :: '_' :: _ => true
  | _ :: rest => hasDoubled rest
  | [] => false

/-- The text without underscores, if they stand alone among other characters; else as it is. -/
def dropUnderscores (s : List Char) : List Char :=
  if s.head? = some '_' || s.getLast? = some '_' || hasDoubled s then s else s.filter (· ≠ '_')

/-- The tidied text. -/
def tidy? (s : List Char) : Option (List Char) := do
  let s := Text.trim s
  let s ←
    match s with
    | '+' :: '-' :: _ => none
    | '+' :: rest => some rest
    | s => some s
  let s ← dropFraction? s
  let (negative, digits) := minus s
  if negative then
    match ← dropZeros digits with
    -- a second minus is one too many
    | '-' :: _ => none
    | digits => return dropUnderscores ('-' :: digits)
  else return dropUnderscores (← dropZeros digits)

/-- The integer that a text spells. -/
def read (s : String) : Except Fault Int :=
  let s := s.toList
  match strict? s with
  | some n => .ok n
  | none =>
    if isTooLong s then .error .tooLarge
    else
      match (tidy? s).bind strict? with
      | some n => .ok n
      | none => .error .notNumeral

end FrameChunks.Settings.Numeral
