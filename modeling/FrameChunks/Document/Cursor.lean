/-!
# Positions in a document

A document is read character by character. A position counts the characters and the line breaks
before it; the line break itself is one of three characters, since other ones are written as a line
feed before the reading begins.

## Main definitions

* `Position`, `Cursor`: a place in a text, and the text from there on
* `Cursor.skip`: the next place that is neither blank nor in a comment
* `Cursor.span`: the longest beginning of a kind
* `isMark`: whether a line is a mark between documents
-/

namespace FrameChunks.Document

/-- Whether a character ends a line. -/
def isBreak (c : Char) : Bool := c = '\n' || c = '\u2028' || c = '\u2029'

/-- Whether a character is a space or ends a line. -/
def isSpace (c : Char) : Bool := c = ' ' || isBreak c

/-- Whether a character is a space or a tab, or ends a line. -/
def isGap (c : Char) : Bool := isSpace c || c = '\t'

/-- Whether a text begins with a blank or is empty. -/
def startsGap : List Char → Bool
  | [] => true
  | c :: _ => isGap c

/-- Whether a text begins with a space or a line break, or is empty. -/
def startsSpace : List Char → Bool
  | [] => true
  | c :: _ => isSpace c

/-- Whether a text begins with a line break or is empty. -/
def startsBreak : List Char → Bool
  | [] => true
  | c :: _ => isBreak c

/-- Whether a text begins with the mark before a document. -/
def startsDocument : List Char → Bool
  | '-' :: '-' :: '-' :: rest => startsGap rest
  | _ => false

/-- Whether a text begins with the mark behind a document. -/
def endsDocument : List Char → Bool
  | '.' :: '.' :: '.' :: rest => startsGap rest
  | _ => false

/-- Whether a line that begins with this text is a mark between documents. -/
def isMark (s : List Char) : Bool := startsDocument s || endsDocument s

/-- Whether a character may stand in the name of a directive, of an anchor or of a handle. -/
def isNameChar (c : Char) : Bool := c.isAlphanum || c = '-' || c = '_'

/-- A place in a text. -/
structure Position where
  /-- The number of characters before it. -/
  index : Nat := 0
  /-- The number of line breaks before it. -/
  line : Nat := 0
  /-- The number of characters before it in its line; byte order marks do not count. -/
  column : Nat := 0
  deriving DecidableEq, Repr

/-- The place behind a character. -/
def Position.after (p : Position) (c : Char) : Position :=
  if isBreak c then ⟨p.index + 1, p.line + 1, 0⟩
  else ⟨p.index + 1, p.line, if c = '\ufeff' then p.column else p.column + 1⟩

/-- The text from a place on. -/
structure Cursor where
  position : Position := {}
  rest : List Char
  deriving DecidableEq, Repr

namespace Cursor

/-- The place behind the next `n` characters. -/
def advance (c : Cursor) : Nat → Cursor
  | 0 => c
  | n + 1 =>
    match c.rest with
    | [] => c
    | a :: rest => advance ⟨c.position.after a, rest⟩ n

/-- The longest beginning whose characters are of a kind, and the place behind it. -/
def spanFrom (p : Char → Bool) (position : Position) : List Char → List Char × Cursor
  | [] => ([], ⟨position, []⟩)
  | a :: rest =>
    if p a then
      let (taken, c) := spanFrom p (position.after a) rest
      (a :: taken, c)
    else ([], ⟨position, a :: rest⟩)

/-- The longest beginning whose characters are of a kind, and the place behind it. -/
def span (p : Char → Bool) (c : Cursor) : List Char × Cursor := spanFrom p c.position c.rest

/-- The place behind the characters of a kind. -/
def dropWhile (p : Char → Bool) (c : Cursor) : Cursor := (c.span p).2

/-- Skips spaces, line breaks and comments; `comment` tells whether a comment has begun. -/
def skipFrom (comment : Bool) (position : Position) : List Char → Cursor
  | [] => ⟨position, []⟩
  | a :: rest =>
    if isBreak a then skipFrom false (position.after a) rest
    else if comment || a = ' ' then skipFrom comment (position.after a) rest
    else if a = '#' then skipFrom true (position.after a) rest
    else ⟨position, a :: rest⟩

/-- The next place that is neither blank nor in a comment. -/
def skip (c : Cursor) : Cursor := skipFrom false c.position c.rest

/-- The place in the next line, if nothing but spaces and a comment stands before it. -/
def endLine? (c : Cursor) : Option Cursor :=
  let c := c.dropWhile (· = ' ')
  let c := if c.rest.head? = some '#' then c.dropWhile (!isBreak ·) else c
  if startsBreak c.rest then some (c.advance 1) else none

end Cursor

end FrameChunks.Document
