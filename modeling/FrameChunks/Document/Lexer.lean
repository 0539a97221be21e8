import FrameChunks.Document.Literal
import FrameChunks.Document.Plain
import FrameChunks.Document.Token

/-!
# From characters to tokens

A colon tells only afterwards that a node before it was a key. So the lexer remembers, for every
level of brackets, where a key may have begun: the tokens that mark a key are put in there when its
colon comes. A key ends in the line that it begins in, and is no longer than a thousand characters
or so.

## Main definitions

* `KeyStart`: where a key may have begun
* `Lexer`: what is known in the middle of a text
* `Lexer.step`: reads on
* `Lexer.ready`: the tokens before which no key can come any more
* `Token.ofText`: the tokens of a text
-/

namespace FrameChunks.Document

/-- A place where a key may have begun. -/
structure KeyStart where
  /-- The number of brackets around it. -/
  depth : Nat
  /-- The number of tokens before it. -/
  tokens : Nat
  /-- Whether nothing but a key can begin here. -/
  required : Bool
  position : Position
  deriving DecidableEq, Repr

/-- Keys are not longer than this. -/
def KeyStart.mostChars : Nat := 1024

/-- Whether a colon at a place may end the key. -/
def KeyStart.reaches (k : KeyStart) (p : Position) : Bool :=
  k.position.line = p.line && p.index - k.position.index ≤ mostChars

/-- What is known in the middle of a text. -/
structure Lexer where
  cursor : Cursor
  /-- The tokens so far, last one first. -/
  reversed : List Token := []
  /-- The number of open brackets. -/
  depth : Nat := 0
  /-- The columns of the open lists and mappings in lines, last one first. -/
  columns : List Nat := []
  /-- Whether a key may begin at the next token. -/
  allowsKey : Bool := true
  /-- Where keys may have begun, at most once for every number of brackets. -/
  starts : List KeyStart := []

namespace Lexer

/-- A step that fails at malformed text. -/
abbrev Step := Except DocumentError Lexer

/-- Whether one is within brackets. -/
def inFlow (l : Lexer) : Bool := 0 < l.depth

/-- The column of the next character. -/
def column (l : Lexer) : Nat := l.cursor.position.column

/-- The least column of what belongs to the innermost open list or mapping in lines. -/
def least (l : Lexer) : Nat :=
  match l.columns with
  | [] => 0
  | column :: _ => column + 1

/-- Adds a token. -/
def push (l : Lexer) (t : Token) : Lexer := { l with reversed := t :: l.reversed }

/-- Puts a token behind the first `n` ones. -/
def insertAt (l : Lexer) (n : Nat) (t : Token) : Lexer :=
  let behind := l.reversed.length - n
  { l with reversed := l.reversed.take behind ++ t :: l.reversed.drop behind }

/-- Moves on to a place. -/
def moveTo (l : Lexer) (c : Cursor) : Lexer := { l with cursor := c }

/-- Says whether a key may begin at the next token. -/
def allowKey (l : Lexer) (b : Bool) : Lexer := { l with allowsKey := b }

/-- Keeps the places for keys that `p` holds of; the others must not be required ones. -/
def keepStarts (l : Lexer) (p : KeyStart → Bool) : Step :=
  if l.starts.all fun k => p k || !k.required then .ok { l with starts := l.starts.filter p }
  else .error .malformed

/-- Gives up the places whose keys would be too long by now. -/
def dropOld (l : Lexer) : Step := l.keepStarts (·.reaches l.cursor.position)

/-- Gives up the place for a key within the innermost brackets. -/
def dropStart (l : Lexer) : Step := l.keepStarts (·.depth ≠ l.depth)

/-- Remembers that a key may begin at the next token. -/
def addStart (l : Lexer) : Step :=
  if l.allowsKey then do
    let required := !l.inFlow && l.columns.head? = some l.column
    let l' ← l.dropStart
    return { l' with starts := ⟨l.depth, l.reversed.length, required, l.cursor.position⟩ :: l'.starts }
  else .ok l

/-- Closes the lists and mappings in lines whose columns lie behind `column`. -/
def closeBehind (l : Lexer) (column : Nat) : Lexer :=
  let closed := l.columns.takeWhile (column < ·)
  { l with
    columns := l.columns.drop closed.length
    reversed := closed.map (fun _ => .blockEnd) ++ l.reversed }

/-- Closes all lists and mappings in lines. Within brackets they stay open. -/
def closeAll (l : Lexer) : Lexer :=
  if l.inFlow then l
  else { l with columns := [], reversed := l.columns.map (fun _ => .blockEnd) ++ l.reversed }

/-- Opens a list or a mapping in lines behind the first `n` tokens, unless one is open in the same
column or behind it. -/
def openAt (l : Lexer) (n column : Nat) (t : Token) : Lexer :=
  if l.inFlow || column < l.least then l
  else { l.insertAt n t with columns := column :: l.columns }

/-- Opens a list or a mapping in lines at the next token. -/
def openHere (l : Lexer) (t : Token) : Lexer := l.openAt l.reversed.length l.column t

/-- Reads a sign of one character. -/
def sign (l : Lexer) (t : Token) : Lexer := (l.push t).moveTo (l.cursor.advance 1)

/-- The end of the text. -/
def finish (l : Lexer) : Step := do
  let l ← l.closeAll.dropStart
  return (l.allowKey false).push .finish

/-- A mark between documents. -/
def mark (l : Lexer) (t : Token) : Step := do
  let l ← l.closeAll.dropStart
  return ((l.allowKey false).push t).moveTo (l.cursor.advance 3)

/-- A directive. -/
def directive (l : Lexer) : Step := do
  let l ← l.closeAll.dropStart
  let (d, c) ← Directive.scan (l.cursor.advance 1)
  return ((l.allowKey false).push (.directive d)).moveTo c

/-- An opening bracket or brace. -/
def openFlow (l : Lexer) (t : Token) : Step := do
  let l ← l.addStart
  return { (l.allowKey true).sign t with depth := l.depth + 1 }

/-- A closing bracket or brace. -/
def closeFlow (l : Lexer) (t : Token) : Step := do
  let l ← l.dropStart
  return { (l.allowKey false).sign t with depth := l.depth - 1 }

/-- A comma between brackets. -/
def comma (l : Lexer) : Step := do
  let l ← l.dropStart
  return (l.allowKey true).sign .comma

/-- A dash before an item. -/
def item (l : Lexer) : Step := do
  if !l.inFlow && !l.allowsKey then throw .malformed
  let l ← ((l.openHere .listStart).allowKey true).dropStart
  return l.sign .item

/-- A question mark before a key. -/
def key (l : Lexer) : Step := do
  if !l.inFlow && !l.allowsKey then throw .malformed
  let l ← ((l.openHere .mappingStart).allowKey !l.inFlow).dropStart
  return l.sign .key

/-- A colon before a value. -/
def value (l : Lexer) : Step := do
  match l.starts.find? fun k => k.depth = l.depth with
  -- what began there was a key
  | some k =>
    let l := { l with starts := l.starts.filter fun k => k.depth ≠ l.depth }
    let l := (l.insertAt k.tokens .key).openAt k.tokens k.position.column .mappingStart
    return (l.allowKey false).sign .value
  -- the key is left out, or was introduced by a question mark
  | none =>
    if !l.inFlow && !l.allowsKey then throw .malformed
    let l ← ((l.openHere .mappingStart).allowKey !l.inFlow).dropStart
    return l.sign .value

/-- The signs that may stand behind a name. -/
def nameEnds : List Char := ['?', ':', ',', ']', '\x7d', '%', '@', '\x60']

/-- A name, behind its sign. -/
def name (l : Lexer) (t : String → Token) : Step := do
  let l ← l.addStart
  let (name, c) := (l.cursor.advance 1).span isNameChar
  if name.isEmpty || !(startsGap c.rest || c.rest.head?.any (· ∈ nameEnds)) then
    throw .malformed
  return ((l.allowKey false).push (t (String.ofList name))).moveTo c

/-- A tag. -/
def tag (l : Lexer) : Step := do
  let l ← l.addStart
  let (t, c) ← Tag.scan l.cursor
  return ((l.allowKey false).push (.tag t)).moveTo c

/-- A scalar in lines of its own, behind its sign. -/
def literal (l : Lexer) (folds : Bool) : Step := do
  let l ← l.dropStart
  let (text, c) ← Literal.scan folds (max 1 l.least) (l.cursor.advance 1)
  return ((l.allowKey true).push (.scalar .quoted text)).moveTo c

/-- A scalar with quotes. -/
def quoted (l : Lexer) (scan : Cursor → Quoted.Scan) : Step := do
  let l ← l.addStart
  let (text?, c) ← scan (l.cursor.advance 1)
  let t :=
    match text? with
    | some text => Token.scalar .quoted text
    | none => .scalar .illFormed ""
  return ((l.allowKey false).push t).moveTo c

/-- A scalar without quotes. Behind a line break at its end a key may begin. -/
def plain (l : Lexer) : Step := do
  let l ← l.addStart
  let s := Plain.scan l.inFlow l.least l.cursor
  return ((l.allowKey s.endsLine).push (.scalar .plain s.text)).moveTo s.cursor

/-- Goes over blanks and comments. Behind a line break a key may begin, outside of brackets. -/
def skip (l : Lexer) : Lexer :=
  let c := l.cursor.skip
  let crossed := l.cursor.position.line < c.position.line
  { l with cursor := c, allowsKey := l.allowsKey || crossed && !l.inFlow }

/-- Reads the next token, and whatever has to stand before it. -/
def step (l : Lexer) : Step := do
  let l ← l.skip.dropOld
  let l := if l.inFlow then l else l.closeBehind l.column
  let s := l.cursor.rest
  let first := l.column = 0
  match s with
  | [] => l.finish
  | c :: rest =>
    if first && c = '%' then l.directive
    else if first && startsDocument s then l.mark .documentStart
    else if first && endsDocument s then l.mark .documentEnd
    else
      match c with
      | '[' => l.openFlow .bracketOpen
      | '{' => l.openFlow .braceOpen
      | ']' => l.closeFlow .bracketClose
      | '}' => l.closeFlow .braceClose
      | ',' => l.comma
      | '*' => l.name .recall
      | '&' => l.name .anchor
      | '!' => l.tag
      | '\'' => l.quoted Quoted.single
      | '"' => l.quoted Quoted.double
      | _ =>
        if c = '-' && startsGap rest then l.item
        else if c = '?' && (l.inFlow || startsGap rest) then l.key
        else if c = ':' && (l.inFlow || startsGap rest) then l.value
        else if c = '|' && !l.inFlow then l.literal false
        else if c = '>' && !l.inFlow then l.literal true
        else if Plain.starts l.inFlow s then l.plain
        else throw .malformed

/-- The tokens before which no key can come any more. -/
def ready (l : Lexer) : List Token :=
  let pending := l.starts.filter (·.reaches l.cursor.position)
  let n := pending.foldl (fun n k => min n k.tokens) l.reversed.length
  l.reversed.reverse.take n

/-- The tokens to the end of the text. -/
def run (fuel : Nat) (l : Lexer) : List Token :=
  match fuel with
  | 0 => [.fault .malformed]
  | fuel + 1 =>
    if l.reversed.head? = some .finish then l.reversed.reverse
    else
      match l.step with
      | .ok l => run fuel l
      | .error e => l.ready ++ [.fault e]

end Lexer

namespace Token

/-- Whether a character may stand in a document. -/
def isAllowed (c : Char) : Bool :=
  let n := c.toNat
  c = '\t' || c = '\n' || c = '\r' || 0x20 ≤ n && n ≤ 0x7E || n = 0x85 ||
    0xA0 ≤ n && n ≤ 0xFFFD || 0x10000 ≤ n

/-- The text with a line feed for every other line break that means the same, and without a byte
order mark at its front. -/
def normalize : List Char → List Char
  | '\ufeff' :: rest => breaks rest
  | s => breaks s
where
  /-- Writes a line feed for other line breaks. -/
  breaks : List Char → List Char
    | [] => []
    | '\r' :: '\n' :: rest => '\n' :: breaks rest
    | c :: rest => (if c = '\r' ∨ c = '\u0085' then '\n' else c) :: breaks rest

/-- The tokens of a text, up to its end or the first fault. -/
def ofText (text : String) : List Token :=
  let s := text.toList
  -- every step but the last one goes over a character
  if s.all isAllowed then Lexer.run (s.length + 2) { cursor := { rest := normalize s } }
  else [.fault .malformed]

end Token

end FrameChunks.Document
