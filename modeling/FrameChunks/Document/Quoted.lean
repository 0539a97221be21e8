import FrameChunks.Document.Error
import FrameChunks.Document.Gap

/-!
# Quoted scalars

A scalar between single quotes escapes only the quote, by writing it twice. Between double quotes
there are escapes with a backslash. Either may go over several lines.

Escapes may spell halves of surrogate pairs. A scalar that holds one is read, but it is no text.

## Main definitions

* `Quoted.single`, `Quoted.double`: the scalar up to the closing quote, and the place behind it
-/

namespace FrameChunks.Document.Quoted

/-- What has been read of a quoted scalar. -/
structure Draft where
  /-- The text, last character first. -/
  reversed : List Char := []
  /-- What has been passed since the last word. -/
  gap : Gap := .none
  /-- Whether there is no half of a surrogate pair. -/
  wellFormed : Bool := true
  deriving DecidableEq, Repr

namespace Draft

/-- The draft with its gap written out. -/
def close (d : Draft) : Draft := { d with reversed := d.gap.text ++ d.reversed, gap := .none }

/-- The draft with a character at its end. -/
def add (d : Draft) (c : Char) : Draft :=
  let d := d.close
  { d with reversed := c :: d.reversed }

/-- The draft with an escaped character at its end; nothing stands for half of a surrogate pair. -/
def addEscaped (d : Draft) : Option Char → Draft
  | some c => d.add c
  | none => { d.close with wellFormed := false }

/-- The draft with a blank or a line break at its end. -/
def pass (d : Draft) (c : Char) : Draft :=
  { d with gap := if isBreak c then d.gap.addBreak c else d.gap.addBlank c }

/-- The text; nothing if it is no text. -/
def text? (d : Draft) : Option String :=
  let d := d.close
  if d.wellFormed then some (String.ofList d.reversed.reverse) else none

end Draft

/-- A scalar and the place behind it. A scalar with half of a surrogate pair has no text. -/
abbrev Scan := Except DocumentError (Option String × Cursor)

/-- Reads up to a closing single quote. -/
def singleFrom (d : Draft) (position : Position) : List Char → Scan
  | [] => .error .malformed
  | '\'' :: '\'' :: rest => singleFrom (d.add '\'') ((position.after '\'').after '\'') rest
  | '\'' :: rest => .ok (d.text?, ⟨position.after '\'', rest⟩)
  | c :: rest =>
    if isBreak c && isMark rest then .error .malformed
    else singleFrom (if isGap c then d.pass c else d.add c) (position.after c) rest

/-- The scalar up to a closing single quote, and the place behind the quote. -/
def single (c : Cursor) : Scan := singleFrom {} c.position c.rest

/-- The character of an escape of one letter. -/
def letter? : Char → Option Char
  | '0' => some '\x00'
  | 'a' => some '\x07'
  | 'b' => some '\x08'
  | 't' => some '\t'
  | '\t' => some '\t'
  | 'n' => some '\n'
  | 'v' => some '\x0b'
  | 'f' => some '\x0c'
  | 'r' => some '\r'
  | 'e' => some '\x1b'
  | ' ' => some ' '
  | '"' => some '"'
  | '\\' => some '\\'
  | '/' => some '/'
  | 'N' => some '\u0085'
  | '_' => some '\u00a0'
  | 'L' => some '\u2028'
  | 'P' => some '\u2029'
  | _ => none

/-- The value of a hexadecimal digit in either case. -/
def hexDigit? (c : Char) : Option Nat :=
  if '0' ≤ c ∧ c ≤ '9' then some (c.toNat - 48)
  else if 'a' ≤ c ∧ c ≤ 'f' then some (c.toNat - 87)
  else if 'A' ≤ c ∧ c ≤ 'F' then some (c.toNat - 55)
  else none

/-- The number that hexadecimal digits spell. -/
def hexNumber? (digits : List Char) : Option Nat :=
  (digits.mapM hexDigit?).map fun ds => ds.foldl (fun n d => 16 * n + d) 0

/-- The character whose code point the digits spell; nothing for half of a surrogate pair. -/
def codePoint (digits : List Char) : Except DocumentError (Option Char) :=
  match hexNumber? digits with
  | none => .error .malformed
  | some n =>
    if n.isValidChar then .ok (some (Char.ofNat n))
    else if n < 0x110000 then .ok none
    -- code points are numbers of 31 bits, few of which there are
    else if n < 0x80000000 then .error .impossibleValue
    else .error .tooLarge

/-- The place behind `n` characters of one line. -/
def inLine (position : Position) (n : Nat) : Position :=
  ⟨position.index + n, position.line, position.column + n⟩

/-- Reads up to a closing double quote. -/
def doubleFrom (d : Draft) (position : Position) : List Char → Scan
  | [] => .error .malformed
  | '"' :: rest => .ok (d.text?, ⟨position.after '"', rest⟩)
  | '\\' :: 'x' :: a :: b :: rest => do
    doubleFrom (d.addEscaped (← codePoint [a, b])) (inLine position 4) rest
  | '\\' :: 'u' :: a :: b :: c :: e :: rest => do
    doubleFrom (d.addEscaped (← codePoint [a, b, c, e])) (inLine position 6) rest
  | '\\' :: 'U' :: a :: b :: c :: e :: f :: g :: h :: i :: rest => do
    doubleFrom (d.addEscaped (← codePoint [a, b, c, e, f, g, h, i])) (inLine position 10) rest
  | '\\' :: c :: rest =>
    let next := (position.after '\\').after c
    if isBreak c then
      -- an escaped line break joins two lines; the blanks before it stay
      if isMark rest then .error .malformed
      else doubleFrom { d.close with gap := .joined [] } next rest
    else
      match letter? c with
      | some l => doubleFrom (d.add l) next rest
      | none => .error .malformed
  | c :: rest =>
    if isBreak c && isMark rest then .error .malformed
    else doubleFrom (if isGap c then d.pass c else d.add c) (position.after c) rest

/-- The scalar up to a closing double quote, and the place behind the quote. -/
def double (c : Cursor) : Scan := doubleFrom {} c.position c.rest

end FrameChunks.Document.Quoted
