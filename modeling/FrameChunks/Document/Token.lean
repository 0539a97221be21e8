import FrameChunks.Document.Directive

/-!
# Tokens

A document is read as a list of tokens first. Indentation is gone in them: lists and mappings in
lines have tokens for their beginnings and ends, as those in brackets have. A fault is a token too,
the last one: what stands before it has been understood.

## Main definitions

* `Style`, `Token`
-/

namespace FrameChunks.Document

/-- How a scalar is written. -/
inductive Style
  /-- Without quotes. -/
  | plain
  /-- With quotes, or in lines of its own. -/
  | quoted
  /-- With quotes, but half a surrogate pair is in it, so that it is no text. -/
  | illFormed
  deriving DecidableEq, Repr

/-- The parts that a document consists of. -/
inductive Token
  | directive (directive : Directive)
  /-- The mark before a document. -/
  | documentStart
  /-- The mark behind a document. -/
  | documentEnd
  /-- The beginning of a list in lines. -/
  | listStart
  /-- The beginning of a mapping in lines. -/
  | mappingStart
  /-- The end of a list or a mapping in lines. -/
  | blockEnd
  /-- The dash before an item. -/
  | item
  /-- The beginning of a key. -/
  | key
  /-- The colon before a value. -/
  | value
  | bracketOpen
  | bracketClose
  | braceOpen
  | braceClose
  | comma
  /-- A name for the node that follows. -/
  | anchor (name : String)
  /-- The node of a name. -/
  | recall (name : String)
  | tag (tag : Tag)
  | scalar (style : Style) (text : String)
  /-- The end of the text. -/
  | finish
  | fault (error : DocumentError)
  deriving DecidableEq, Repr

end FrameChunks.Document
