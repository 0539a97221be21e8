import FrameChunks.Document.Gap

/-!
# Plain scalars

A plain scalar has no quotes. It ends before a colon with a blank behind it, before a comment, and
within brackets before the signs that belong to the brackets. It goes on in the next line if that is
indented far enough.

## Main definitions

* `Plain.starts`: whether a plain scalar can begin here
* `Plain.scan`: reads a plain scalar
-/

namespace FrameChunks.Document.Plain

/-- The signs that begin something else than a plain scalar. -/
def indicators : List Char :=
  ['-', '?', ':', ',', '[', ']', '{', '}', '#', '&', '*', '!', '|', '>', '\'', '"', '%', '@', '\x60']

/-- The signs that end a plain scalar within brackets. -/
def flowSigns : List Char := [',', '?', '[', ']', '{', '}']

/-- Whether a plain scalar can begin here; `flow` tells whether it stands within brackets. -/
def starts (flow : Bool) : List Char → Bool
  | [] => false
  | c :: rest =>
    if isGap c then false
    else if c ∉ indicators then true
    -- a dash, and outside of brackets two other signs, may begin a word
    else !startsGap rest && (c = '-' || !flow && (c = '?' || c = ':'))

/-- Whether a plain scalar ends before this text. -/
def stops (flow : Bool) : List Char → Bool
  | [] => true
  | c :: rest =>
    isGap c || flow && c ∈ flowSigns ||
      c = ':' && (startsGap rest || flow && (rest.head?.any (· ∈ [',', '[', ']', '{', '}'])))

/-- What has been read of a plain scalar. -/
structure Draft where
  /-- The text, last character first. -/
  reversed : List Char := []
  /-- What has been passed since the last word. -/
  gap : Gap := .none
  deriving DecidableEq, Repr

/-- A plain scalar that has been read. -/
structure Scan where
  text : String
  /-- The place behind the scalar and the blanks that follow. -/
  cursor : Cursor
  /-- Whether a line break follows the scalar. -/
  endsLine : Bool
  deriving DecidableEq, Repr

/-- The scalar of a draft, if it ends in front of `cursor`. -/
def Draft.finish (d : Draft) (endsLine : Bool) (cursor : Cursor) : Scan :=
  ⟨String.ofList d.reversed.reverse, cursor, endsLine⟩

/-- Reads on in a plain scalar. -/
def scanFrom (flow : Bool) (least : Nat) (d : Draft) (position : Position) : List Char → Scan
  | [] => d.finish d.gap.hasBreak ⟨position, []⟩
  | c :: rest =>
    let next := position.after c
    if c = ' ' then scanFrom flow least { d with gap := d.gap.addBlank c } next rest
    else if isBreak c then
      -- a mark between documents ends the scalar
      if isMark rest then d.finish true ⟨next, rest⟩
      else scanFrom flow least { d with gap := d.gap.addBreak c } next rest
    -- a word begins only behind enough columns, and not with the sign of a comment
    else if stops flow (c :: rest) ||
        !d.gap.isNone && (c = '#' || !flow && position.column < least) then
      d.finish d.gap.hasBreak ⟨position, c :: rest⟩
    else scanFrom flow least ⟨c :: (d.gap.text ++ d.reversed), .none⟩ next rest

/-- Reads a plain scalar. In a line after the first one its words stand in column `least` or behind
it. -/
def scan (flow : Bool) (least : Nat) (c : Cursor) : Scan := scanFrom flow least {} c.position c.rest

end FrameChunks.Document.Plain
