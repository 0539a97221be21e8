import FrameChunks.Document.Node
import FrameChunks.Settings.Basic
import FrameChunks.Settings.Numeral

/-!
# Settings of a document

A document is checked as a whole: every field is looked at, whatever is wrong with the others. Keys
that are not known are passed over, and fields that are missing keep their usual values.

## Main definitions

* `Check.text`, `Check.count`, `Check.word`: what a field may hold
* `Check.parser`, `Check.loader`, `Check.logging`: the sections
* `ofDocument`: the settings of a document
-/

namespace FrameChunks.Settings

open Document

/-- A result, or all that is wrong. -/
abbrev Checked (α : Type) := Except (List Issue) α

namespace Check

/-- Two results, or what is wrong with either. -/
def both {α β : Type} : Checked α → Checked β → Checked (α × β)
  | .ok a, .ok b => .ok (a, b)
  | .ok _, .error f => .error f
  | .error e, .ok _ => .error e
  | .error e, .error f => .error (e ++ f)

/-- A text. -/
def text : Node → Except Fault String
  | .text s => .ok s
  | .illFormed => .error .notUnicode
  | _ => .error .notText

/-- A text that is not empty. -/
def nonemptyText (n : Node) : Except Fault String := do
  let s ← text n
  if s.isEmpty then throw .emptyText
  return s

/-- One of two words. -/
def word {α : Type} (first second : α) (name : α → String) : Node → Except Fault α
  | .text s =>
    if s = name first then .ok first
    else if s = name second then .ok second
    else .error (.notAmong (name first) (name second))
  | _ => .error (.notAmong (name first) (name second))

/-- The integer that a floating-point number is, if it is one within 64 bits. -/
def integral (x : Binary) : Except Fault Int :=
  match BinaryFormat.double.truncate? x with
  | none => .error .notFinite
  | some n =>
    if !BinaryFormat.double.isIntegral x then .error .hasFraction
    -- both ends are excluded, also the one that would fit
    else if -0x8000000000000000 < n ∧ n < 0x8000000000000000 then .ok n
    else .error .tooLarge

/-- An integer. Truth values count as zero and one. -/
def integer : Node → Except Fault Int
  | .integer n => .ok n
  | .bool b => .ok (if b then 1 else 0)
  | .float x => integral x
  | .text s => Numeral.read s
  | .illFormed => .error .notUnicode
  | _ => .error .notInteger

/-- An integer that is not negative. -/
def count (n : Node) : Except Fault Int := do
  let n ← integer n
  if n < 0 then throw .negative
  return n

/-- A field of a section, with the value it has when it is missing. -/
def field {α : Type} (path : List String) (entries : List (Node × Node)) (key : String) (usual : α)
    (read : Node → Except Fault α) : Checked α :=
  match Node.lookup? entries key with
  | none => .ok usual
  | some n => (read n).mapError fun fault => [⟨path ++ [key], fault⟩]

/-- The entries of a section. -/
def entriesOf (path : List String) (kind : String) : Node → Checked (List (Node × Node))
  | .mapping entries => .ok entries
  | _ => .error [⟨path, .notMapping kind⟩]

/-- What parsers are told. -/
def parser (path : List String) (n : Node) : Checked ParserSettings := do
  let entries ← entriesOf path "ParserConfig" n
  let usual : ParserSettings := {}
  let (timestampTimeline, logEvery) ←
    both (field path entries "timestamp_timeline" usual.timestampTimeline nonemptyText)
      (field path entries "log_every_n_frames" usual.logEvery count)
  return { timestampTimeline, logEvery }

/-- What loaders are told. -/
def loader (path : List String) (n : Node) : Checked LoaderSettings := do
  let entries ← entriesOf path "LoaderConfig" n
  let usual : LoaderSettings := {}
  let (errorPolicy, defaultRows) ←
    both (field path entries "error_policy" usual.errorPolicy (word .abort .skip ErrorPolicy.name))
      (field path entries "default_num_rows" usual.defaultRows count)
  return { errorPolicy, defaultRows }

/-- How log records are written. -/
def logging (path : List String) (n : Node) : Checked LoggingSettings := do
  let entries ← entriesOf path "LoggingConfig" n
  let usual : LoggingSettings := {}
  let (level, layout) ←
    both (field path entries "level" usual.level text)
      (field path entries "format" usual.layout (word .json .text LogLayout.name))
  return { level, layout }

/-- A section of a document, with its usual values if it is missing. -/
def part {α : Type} (entries : List (Node × Node)) (key : String) (usual : α)
    (read : List String → Node → Checked α) : Checked α :=
  match Node.lookup? entries key with
  | none => .ok usual
  | some n => read [key] n

end Check

/-- The settings of a document. -/
def ofDocument (n : Node) : Checked Settings := do
  let entries ← Check.entriesOf [] "Settings" n
  let (parser, loader, logging) ←
    Check.both (Check.part entries "parser" {} Check.parser)
      (Check.both (Check.part entries "loader" {} Check.loader)
        (Check.part entries "logging" {} Check.logging))
  return { parser, loader, logging }

end FrameChunks.Settings
