import FrameChunks.Document.Cursor
import FrameChunks.Document.Error

/-!
# Block scalars

A block scalar is written in lines of its own, with a common indentation. Its header tells whether
line breaks are kept or folded, and what becomes of those at its end.

## Main definitions

* `Literal.Header.read`: the header
* `Literal.scan`: the text of a block scalar, and the place behind it
-/

namespace FrameChunks.Document.Literal

/-- What becomes of the line breaks at the end. -/
inductive Chomping
  /-- One is kept. -/
  | clip
  /-- None is kept. -/
  | strip
  /-- All are kept. -/
  | keep
  deriving DecidableEq, Repr

/-- The header of a block scalar. -/
structure Header where
  chomping : Chomping := .clip
  /-- The indentation beyond that of the surroundings, if it is given. -/
  extra : Option Nat := none
  deriving DecidableEq, Repr

namespace Header

/-- The digit of an indentation. -/
def digit? (c : Char) : Option Nat := if '1' ≤ c ∧ c ≤ '9' then some (c.toNat - 48) else none

/-- The chomping of a sign. -/
def chomping? : Char → Option Chomping
  | '-' => some .strip
  | '+' => some .keep
  | _ => none

/-- Reads the two parts of a header, in either order: the header and the number of its signs. -/
def read : List Char → Header × Nat
  | [] => ({}, 0)
  | a :: rest =>
    match chomping? a, digit? a with
    -- the sign first, then a digit
    | some chomping, _ =>
      match rest.head?.bind digit? with
      | some n => (⟨chomping, some n⟩, 2)
      | none => (⟨chomping, none⟩, 1)
    -- the digit first, then a sign
    | none, some n =>
      match rest.head?.bind chomping? with
      | some chomping => (⟨chomping, some n⟩, 2)
      | none => (⟨.clip, some n⟩, 1)
    | none, none => ({}, 0)

end Header

/-- A line, and the character that ends it; the last line may have none. -/
structure Line where
  text : List Char
  ending : Option Char
  deriving DecidableEq, Repr

/-- The number of characters of a line, with the one that ends it. -/
def Line.size (l : Line) : Nat := l.text.length + l.ending.toList.length

/-- The lines of a text. Behind the last line break there is no line unless a character follows. -/
def lines : List Char → List Line
  | [] => []
  | c :: rest =>
    if isBreak c then ⟨[], some c⟩ :: lines rest
    else
      match lines rest with
      | [] => [⟨[c], none⟩]
      | line :: more => { line with text := c :: line.text } :: more

/-- The number of spaces at the front of a line. -/
def indentation (text : List Char) : Nat := (text.takeWhile (· = ' ')).length

/-- The greatest indentation of the lines up to the first one that is not blank. -/
def leadingIndentation : List Line → Nat
  | [] => 0
  | line :: more =>
    if line.text.all (· = ' ') then max line.text.length (leadingIndentation more)
    else indentation line.text

/-- What has been read of a block scalar. -/
structure Draft where
  text : List Char := []
  /-- The ends of the blank lines since the last line. -/
  breaks : List Char := []
  /-- The last line: whether it begins with a blank, and what ends it. -/
  last : Option (Bool × Option Char) := none

/-- What is put between the last line and the next one. -/
def Draft.gap (d : Draft) (folds indented : Bool) : List Char :=
  match d.last with
  | none => d.breaks
  | some (lastIndented, ending) =>
    -- only a line feed between two lines that begin with words is folded
    if folds && ending = some '\n' && !lastIndented && !indented then
      if d.breaks.isEmpty then [' '] else d.breaks
    else ending.toList ++ d.breaks

/-- What is put behind the last line. -/
def Draft.ending (d : Draft) (chomping : Chomping) : List Char :=
  let one := (d.last.bind Prod.snd).toList
  match chomping with
  | .strip => []
  | .clip => one
  | .keep => one ++ d.breaks

/-- Reads the lines that are indented far enough, and the blank ones between them. The number of
characters before the first line that is left over is added to `size`. -/
def body (folds : Bool) (indent : Nat) (d : Draft) (size : Nat) : List Line → Draft × Nat
  | [] => (d, size)
  | line :: more =>
    let spaces := min indent (indentation line.text)
    let content := line.text.drop spaces
    if content.isEmpty then
      body folds indent { d with breaks := d.breaks ++ line.ending.toList } (size + line.size) more
    -- the first line that is indented less ends the scalar
    else if spaces < indent then (d, size)
    else
      let indented := startsGap content
      body folds indent ⟨d.text ++ d.gap folds indented ++ content, [], some (indented, line.ending)⟩
        (size + line.size) more

/-- The text of a block scalar behind its sign, and the place behind it. The surroundings are
indented by less than `least`. -/
def scan (folds : Bool) (least : Nat) (c : Cursor) : Except DocumentError (String × Cursor) :=
  let (header, signs) := Header.read c.rest
  let c := c.advance signs
  if !startsSpace c.rest then .error .malformed
  else
    match c.endLine? with
    | none => .error .malformed
    | some c =>
      let all := lines c.rest
      let indent :=
        match header.extra with
        | some n => least + n - 1
        | none => max least (leadingIndentation all)
      let (d, size) := body folds indent {} 0 all
      .ok (String.ofList (d.text ++ d.ending header.chomping), c.advance size)

end FrameChunks.Document.Literal
