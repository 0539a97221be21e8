/-!
# Filling up to a width

A text is written as runs of one character, each with other characters behind it, so that its length
is known before it is written.

## Main definitions

* `Run`: a character, repeated, and a text behind it
* `Run.length`, `Run.text`: of a list of runs
* `Run.left`: a text filled up on its left
-/

namespace FrameChunks.Text

/-- A character, repeated, and a text behind it. -/
structure Run where
  count : Nat := 0
  fill : Char := ' '
  rest : List Char
  deriving DecidableEq, Repr

namespace Run

/-- The number of characters of a list of runs. -/
def length (runs : List Run) : Nat :=
  runs.foldr (fun r n => r.count + r.rest.length + n) 0

/-- The characters of a list of runs. -/
def text (runs : List Run) : List Char :=
  runs.flatMap fun r => List.replicate r.count r.fill ++ r.rest

/-- A text filled up on its left to a width. -/
def left (fill : Char) (width : Nat) (s : List Char) : Run := ⟨width - s.length, fill, s⟩

theorem length_text (runs : List Run) : (text runs).length = length runs := by
  induction runs with
  | nil => rfl
  | cons r rest ih => simp_all [text, length, Nat.add_assoc]

end Run

/-- The decimal numeral of an integer, filled up with zeros to a width that counts the sign. -/
def paddedNumeral (width : Nat) (n : Int) : List Char :=
  let digits := (toString n.natAbs).toList
  if n < 0 then '-' :: (List.replicate (width - 1 - digits.length) '0' ++ digits)
  else List.replicate (width - digits.length) '0' ++ digits

end FrameChunks.Text
