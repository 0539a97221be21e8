import FrameChunks.Text.Padded
import FrameChunks.Text.Quoted

/-!
# Messages with places for arguments

A message is a template in which a percent sign begins a place for an argument. All arguments are
texts. A place may tell a width and a greatest length, and whether the text is put between quotes;
one that is meant for numbers takes no text.

## Main definitions

* `TemplateError`: why a template and its arguments do not fit
* `Template.Place`: a place for an argument
* `Template.fill`: the message
-/

namespace FrameChunks.Log

open Text

/-- Why a template and its arguments do not fit. -/
inductive TemplateError
  /-- There are too few arguments, or too many, or texts where there should be numbers. -/
  | arguments
  /-- A place is not well written. -/
  | place
  /-- A text is to be filled up to more than can be written. -/
  | tooLong
  deriving DecidableEq, Repr

namespace Template

/-- A place for an argument. -/
structure Place where
  /-- Whether blanks are put behind the text. -/
  left : Bool := false
  width : Nat := 0
  /-- The greatest length of the text, if there is one. -/
  length : Option Nat := none
  /-- The letter that tells the kind of argument. -/
  letter : Char
  deriving DecidableEq, Repr

/-- The letters of places for numbers. -/
def numberLetters : List Char := "diuoxXeEfFgG".toList

/-- Widths are below this. -/
def widthBound : Nat := 0x8000000000000000

/-- Lengths are below this. -/
def lengthBound : Nat := 0x80000000

/-- Texts are not filled up to this width. -/
def roomBound : Nat := 0x1000000000

/-- Reads a number below a bound, which may be left out. A star asks for a number as an argument. -/
def readNumber (bound : Nat) (s : List Char) : Except TemplateError (Nat × List Char) :=
  if s.head? = some '*' then .error .arguments
  else
    let digits := s.takeWhile Char.isDigit
    let n := digits.foldl (fun n c => 10 * n + (c.toNat - 48)) 0
    if n < bound then .ok (n, s.drop digits.length) else .error .place

/-- Reads a place behind its percent sign. -/
def Place.read (s : List Char) : Except TemplateError (Place × List Char) := do
  -- names of arguments are for templates whose arguments have names
  if s.head? = some '(' then throw .arguments
  let flags := s.takeWhile (· ∈ ['-', '+', ' ', '#', '0'])
  let (width, s) ← readNumber widthBound (s.drop flags.length)
  let (length, s) ←
    match s with
    | '.' :: rest => do
      let (n, rest) ← readNumber lengthBound rest
      pure (some n, rest)
    | s => pure (none, s)
  let s := if s.head?.any (· ∈ ['h', 'l', 'L']) then s.tail else s
  match s with
  | [] => throw .place
  | letter :: rest => return (⟨'-' ∈ flags, width, length, letter⟩, rest)

/-- The quoted text with every character outside of ASCII escaped. -/
def asciiQuoted (s : String) : List Char :=
  (quoted s).toList.flatMap fun c => if c.toNat < 128 then [c] else Quoted.codePoint c

namespace Place

/-- The text that is put at a place, before it is filled up. -/
def content (p : Place) (argument : String) : Except TemplateError (List Char) :=
  let cut (s : List Char) : List Char := p.length.elim s s.take
  match p.letter with
  | 's' => .ok (cut argument.toList)
  | 'r' => .ok (cut (quoted argument).toList)
  | 'a' => .ok (cut (asciiQuoted argument))
  -- a single character
  | 'c' => if argument.length = 1 then .ok argument.toList else .error .arguments
  | letter => .error (if letter ∈ numberLetters then .arguments else .place)

/-- What is written at a place. -/
def put (p : Place) (argument : String) : Except TemplateError (List Char) := do
  let s ← p.content argument
  if roomBound ≤ p.width then throw .tooLong
  let blanks := List.replicate (p.width - s.length) ' '
  return if p.left then s ++ blanks else blanks ++ s

end Place

/-- Puts arguments into a template; `fuel` bounds the number of its pieces. Behind a percent sign, a
second one stands for the sign itself. -/
def fillFrom (fuel : Nat) (arguments : List String) (s : List Char) :
    Except TemplateError (List Char) :=
  match fuel, s with
  | 0, _ => .error .place
  | _, [] => if arguments.isEmpty then .ok [] else .error .arguments
  | fuel + 1, '%' :: '%' :: rest => do return '%' :: (← fillFrom fuel arguments rest)
  | fuel + 1, '%' :: rest => do
    let (p, rest) ← Place.read rest
    match arguments with
    | [] => throw .arguments
    | a :: more => return (← p.put a) ++ (← fillFrom fuel more rest)
  | fuel + 1, c :: rest => do return c :: (← fillFrom fuel arguments rest)

/-- Puts arguments into a template. All of them must be used. -/
def fill (template : String) (arguments : List String) : Except TemplateError String :=
  let s := template.toList
  (fillFrom (s.length + 1) arguments s).map String.ofList

end Template

end FrameChunks.Log
