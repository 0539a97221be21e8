import FrameChunks.Document.Quoted
import FrameChunks.Text.Utf8

/-!
# Tags

A tag names the type of a node. It is written as a handle and a suffix; a directive can say what a
handle stands for.

## Main definitions

* `Tag`: a tag as it is written
* `Tag.scan`: reads a tag
* `Tag.resolve?`: the whole name
-/

namespace FrameChunks.Document

/-- A tag as it is written. -/
structure Tag where
  /-- The abbreviation at its front, if there is one. -/
  handle : Option String
  suffix : String
  deriving DecidableEq, Repr

namespace Tag

/-- The names of the usual types begin in this way. -/
def usual : String := "tag:yaml.org,2002:"

/-- What the handles stand for that need no directive. -/
def handles : List (String × String) := [("!", "!"), ("!!", usual)]

/-- The tag that says that a scalar is to be taken as a plain one. -/
def unspecific : String := "!"

/-- Whether a character may stand in a suffix. -/
def isUriChar (c : Char) : Bool := c.isAlphanum || c ∈ "-;/?:@&=+$,_.!~*'()[]%".toList

/-- The characters that bytes stand for. -/
def decode (bytes : List UInt8) : Except DocumentError (List Char) :=
  (Text.Utf8.decode bytes).mapError fun _ => .malformed

/-- The text of a suffix, in which a percent sign and two digits spell a byte. The bytes since the
last other character are `bytes`. -/
def unescape (bytes : List UInt8) : List Char → Except DocumentError (List Char)
  | [] => decode bytes
  | '%' :: a :: b :: rest =>
    match Quoted.hexNumber? [a, b] with
    | some n => unescape (bytes ++ [UInt8.ofNat n]) rest
    | none => .error .malformed
  | c :: rest =>
    if c = '%' then .error .malformed
    else do return (← decode bytes) ++ c :: (← unescape [] rest)

/-- Reads a suffix, which must not be empty. -/
def scanSuffix (c : Cursor) : Except DocumentError (String × Cursor) := do
  let (raw, c) := c.span isUriChar
  if raw.isEmpty then throw .malformed
  return (String.ofList (← unescape [] raw), c)

/-- Reads a handle: an exclamation mark, or a name between two of them. -/
def scanHandle (c : Cursor) : Except DocumentError (String × Cursor) :=
  match c.rest with
  | '!' :: ' ' :: _ => .ok ("!", c.advance 1)
  | '!' :: _ =>
    let (name, c) := (c.advance 1).span isNameChar
    if c.rest.head? = some '!' then .ok (String.ofList ('!' :: (name ++ ['!'])), c.advance 1)
    else .error .malformed
  | _ => .error .malformed

/-- Reads a tag, behind which there must be a blank. -/
def scan (c : Cursor) : Except DocumentError (Tag × Cursor) := do
  let (tag, c) ←
    match c.rest.tail with
    -- a whole name in angle brackets
    | '<' :: _ => do
      let (suffix, c) ← scanSuffix (c.advance 2)
      if c.rest.head? ≠ some '>' then throw .malformed
      pure ((⟨none, suffix⟩ : Tag), c.advance 1)
    | rest =>
      if startsGap rest then pure (⟨none, unspecific⟩, c.advance 1)
      else do
        -- a second exclamation mark ends a handle
        let (handle, c) ←
          if '!' ∈ rest.takeWhile (!isSpace ·) then scanHandle c else pure ("!", c.advance 1)
        let (suffix, c) ← scanSuffix c
        pure (⟨some handle, suffix⟩, c)
  if !startsSpace c.rest then throw .malformed
  return (tag, c)

/-- The whole name of a tag; nothing if its handle is not known. -/
def resolve? (handles : List (String × String)) (tag : Tag) : Option String :=
  match tag.handle with
  | none => some tag.suffix
  | some handle => (handles.find? fun h => h.1 = handle).map fun h => h.2 ++ tag.suffix

end Tag

end FrameChunks.Document
