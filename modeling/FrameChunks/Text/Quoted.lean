import FrameChunks.Text.Hex
import FrameChunks.Text.Printable

/-!
# Quoted text

A text between quotes, on one line: the quote, the backslash and the three common controls are
escaped by a letter, every other character that is not printable by its code point.

## Main definitions

* `Quoted.mark`: the quote that a text is put between
* `Quoted.escape`: what is written for one character
* `quoted`: the quoted text
* `quotedList`: a list of quoted texts in brackets
-/

namespace FrameChunks.Text

namespace Quoted

/-- Single quotes, unless the text holds single quotes and no double ones. -/
def mark (s : List Char) : Char := if '\'' ∈ s ∧ '"' ∉ s then '"' else '\''

/-- The code point of a character, in two, four or eight digits. -/
def codePoint (c : Char) : List Char :=
  if c.toNat < 0x100 then '\\' :: 'x' :: Hex.padded 2 c.toNat
  else if c.toNat < 0x10000 then '\\' :: 'u' :: Hex.padded 4 c.toNat
  else '\\' :: 'U' :: Hex.padded 8 c.toNat

/-- What is written for a character between the quotes `q`. -/
def escape (q : Char) (c : Char) : List Char :=
  if c = q ∨ c = '\\' then ['\\', c]
  else if c = '\n' then ['\\', 'n']
  else if c = '\r' then ['\\', 'r']
  else if c = '\t' then ['\\', 't']
  else if isPrintable c then [c]
  else codePoint c

/-- The characters between the quotes. -/
def body (q : Char) (s : List Char) : List Char := s.flatMap (escape q)

end Quoted

/-- The text between quotes. -/
def quoted (s : String) : String :=
  let q := Quoted.mark s.toList
  String.ofList (q :: (Quoted.body q s.toList ++ [q]))

/-- The quoted texts in brackets, with commas between them. -/
def quotedList (texts : List String) : String :=
  "[" ++ ", ".intercalate (texts.map quoted) ++ "]"

example : quoted "it's" = "\"it's\"" := by decide +kernel

end FrameChunks.Text
