import FrameChunks.Text.Hex

/-!
# Texts in JSON

A text between double quotes, written in ASCII alone: all other characters are escaped by their
UTF-16 units.

## Main definitions

* `JsonQuoted.units`: the UTF-16 units of a character
* `JsonQuoted.escape`: what is written for a character
* `jsonQuoted`: the quoted text
* `JsonQuoted.readUnits?`: the units that a quoted text spells
* `JsonQuoted.ofUnits?`: the characters of units
* `readJsonQuoted?`: reads a quoted text
-/

namespace FrameChunks.Text

namespace JsonQuoted

/-- The UTF-16 units of a character: two from the first code point on that has five digits. -/
def units (c : Char) : List Nat :=
  if c.toNat < 0x10000 then [c.toNat]
  else [0xD800 + (c.toNat - 0x10000) / 0x400, 0xDC00 + (c.toNat - 0x10000) % 0x400]

/-- The escape of a UTF-16 unit. -/
def escapeUnit (n : Nat) : List Char := '\\' :: 'u' :: Hex.padded 4 n

/-- The letters of the short escapes. -/
def letter? : Char → Option Char
  | '"' => some '"'
  | '\\' => some '\\'
  | '\n' => some 'n'
  | '\r' => some 'r'
  | '\t' => some 't'
  | '\x08' => some 'b'
  | '\x0c' => some 'f'
  | _ => none

/-- Whether a character is a printable character of ASCII. -/
def isPlain (c : Char) : Bool := ' ' ≤ c && c ≤ '~'

/-- What is written for a character. -/
def escape (c : Char) : List Char :=
  match letter? c with
  | some l => ['\\', l]
  | none => if isPlain c then [c] else (units c).flatMap escapeUnit

/-! ## Reading -/

/-- The unit of the letter of a short escape. -/
def ofLetter? : Char → Option Nat
  | '"' => some 34
  | '\\' => some 92
  | '/' => some 47
  | 'b' => some 8
  | 'f' => some 12
  | 'n' => some 10
  | 'r' => some 13
  | 't' => some 9
  | _ => none

/-- The value of a hexadecimal digit in either case. -/
def hexDigit? (c : Char) : Option Nat :=
  if ('0' ≤ c ∧ c ≤ '9') ∨ ('a' ≤ c ∧ c ≤ 'f') then some (Hex.digitValue c)
  else if 'A' ≤ c ∧ c ≤ 'F' then some (c.toNat - 55)
  else none

/-- The units that are spelled up to the closing quote, and what follows it. Those found before are
in `found`, the last one first. -/
def readUnits? (found : List Nat) : List Char → Option (List Nat × List Char)
  | [] => none
  | '"' :: rest => some (found.reverse, rest)
  | '\\' :: 'u' :: a :: b :: c :: d :: rest =>
    match hexDigit? a, hexDigit? b, hexDigit? c, hexDigit? d with
    | some a, some b, some c, some d =>
      readUnits? ((((a * 16 + b) * 16 + c) * 16 + d) :: found) rest
    | _, _, _, _ => none
  | '\\' :: l :: rest =>
    match ofLetter? l with
    | some u => readUnits? (u :: found) rest
    | none => none
  | c :: rest => if c < ' ' ∨ c = '\\' then none else readUnits? ((units c).reverse ++ found) rest

/-- The characters of units; nothing if there is half a pair. Those found before are in `found`, the
last one first. -/
def ofUnits? (found : List Char) : List Nat → Option (List Char)
  | [] => some found.reverse
  | u :: rest =>
    if u < 0xD800 ∨ 0xE000 ≤ u then ofUnits? (Char.ofNat u :: found) rest
    else
      match rest with
      | v :: rest =>
        if u < 0xDC00 ∧ 0xDC00 ≤ v ∧ v < 0xE000 then
          ofUnits? (Char.ofNat (0x10000 + (u - 0xD800) * 0x400 + (v - 0xDC00)) :: found) rest
        else none
      | [] => none

end JsonQuoted

/-- The text between quotes. -/
def jsonQuoted (s : String) : String :=
  String.ofList ('"' :: (s.toList.flatMap JsonQuoted.escape ++ ['"']))

/-- Reads a quoted text behind its first quote. -/
def readJsonQuoted? (s : List Char) : Option (String × List Char) := do
  let (units, rest) ← JsonQuoted.readUnits? [] s
  let text ← JsonQuoted.ofUnits? [] units
  return (String.ofList text, rest)

end FrameChunks.Text
