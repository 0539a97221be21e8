import FrameChunks.Document.Tag
import FrameChunks.Number.Decimal

/-!
# Directives

A directive stands in a line before a document. It tells the version that the document is written in,
or what a handle of tags stands for.

## Main definitions

* `Directive`, `Directive.scan`
-/

namespace FrameChunks.Document

/-- A line of instructions before a document. -/
inductive Directive
  /-- The version of the language, by its first number. -/
  | version (major : Nat)
  /-- What a handle stands for. -/
  | handle (handle meaning : String)
  /-- A directive that says nothing here. -/
  | reserved
  deriving DecidableEq, Repr

namespace Directive

/-- Reads a number in decimal digits. -/
def scanNumber (c : Cursor) : Except DocumentError (Nat × Cursor) := do
  let (digits, c) := c.span Char.isDigit
  if digits.isEmpty then throw .malformed
  if Decimal.mostDigits < digits.length then throw .impossibleValue
  return (Decimal.value (digits.filterMap Decimal.asciiDigit?), c)

/-- Reads a directive behind its sign, to the end of its line. -/
def scan (c : Cursor) : Except DocumentError (Directive × Cursor) := do
  let (name, c) := c.span isNameChar
  if name.isEmpty || !startsSpace c.rest then throw .malformed
  let (directive, c) ←
    match String.ofList name with
    | "YAML" => do
      let (major, c) ← scanNumber (c.dropWhile (· = ' '))
      if c.rest.head? ≠ some '.' then throw .malformed
      let (_, c) ← scanNumber (c.advance 1)
      if !startsSpace c.rest then throw .malformed
      pure (version major, c)
    | "TAG" => do
      let (name, c) ← Tag.scanHandle (c.dropWhile (· = ' '))
      if c.rest.head? ≠ some ' ' then throw .malformed
      let (meaning, c) ← Tag.scanSuffix (c.dropWhile (· = ' '))
      if !startsSpace c.rest then throw .malformed
      pure (handle name meaning, c)
    | _ => pure (reserved, c.dropWhile (!isBreak ·))
  match c.endLine? with
  | some c => return (directive, c)
  | none => throw .malformed

end Directive

end FrameChunks.Document
