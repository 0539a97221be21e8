import FrameChunks.Document.Cursor

/-!
# Gaps between words

A scalar may go on in further lines. One line break between two words counts as a space; of several
the first one does not count. The two separators of Unicode are never turned into spaces.

## Main definitions

* `Gap`: what has been passed since the last word
* `Gap.text`: what it stands for
-/

namespace FrameChunks.Document

/-- The blanks and line breaks since the last word. -/
inductive Gap
  /-- Blanks within a line, last one first. -/
  | blanks (reversed : List Char)
  /-- A line break and further ones, last one first. -/
  | folded (first : Char) (reversed : List Char)
  /-- An escaped line break and further ones, last one first. -/
  | joined (reversed : List Char)
  deriving DecidableEq, Repr

namespace Gap

/-- There is nothing in between. -/
def none : Gap := blanks []

/-- Whether there is nothing in between. -/
def isNone (gap : Gap) : Bool := gap = none

/-- Whether a line ends in between. -/
def hasBreak : Gap → Bool
  | blanks _ => false
  | _ => true

/-- What a gap stands for, last character first. -/
def text : Gap → List Char
  | blanks reversed => reversed
  | folded '\n' [] => [' ']
  | folded '\n' reversed => reversed
  | folded first reversed => reversed ++ [first]
  | joined reversed => reversed

/-- The gap with a blank at its end. Blanks around line breaks do not count. -/
def addBlank (gap : Gap) (c : Char) : Gap :=
  match gap with
  | blanks reversed => blanks (c :: reversed)
  | gap => gap

/-- The gap with a line break at its end. -/
def addBreak (gap : Gap) (c : Char) : Gap :=
  match gap with
  | blanks _ => folded c []
  | folded first reversed => folded first (c :: reversed)
  | joined reversed => joined (c :: reversed)

end Gap

end FrameChunks.Document
