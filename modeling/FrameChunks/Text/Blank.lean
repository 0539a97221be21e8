import FrameChunks.Text.Ranges

/-!
# White space

The characters with the Unicode property `White_Space`, and trimming.

## Main definitions

* `isBlank`: the property
* `trim`: a text without the blanks at its two ends

## Main results

* `isBlank_of_isWhitespace`: the blanks of ASCII are blanks
-/

namespace FrameChunks.Text

/-- The code points with the property `White_Space`. -/
def blankRanges : Ranges :=
  [(0x09, 0x0D), (0x20, 0x20), (0x85, 0x85), (0xA0, 0xA0), (0x1680, 0x1680), (0x2000, 0x200A),
   (0x2028, 0x2029), (0x202F, 0x202F), (0x205F, 0x205F), (0x3000, 0x3000)]

example : blankRanges.wellFormed = true ∧ blankRanges.count = 25 := by decide

/-- White space. -/
def isBlank (c : Char) : Bool := blankRanges.contains c

theorem isBlank_of_isWhitespace (c : Char) (h : c.isWhitespace = true) : isBlank c = true := by
  simp [Char.isWhitespace] at h
  rcases h with ((h | h) | h) | h <;> subst h <;> decide

/-- The text without the blanks at its two ends. -/
def trim (s : List Char) : List Char :=
  ((s.dropWhile isBlank).reverse.dropWhile isBlank).reverse

end FrameChunks.Text
