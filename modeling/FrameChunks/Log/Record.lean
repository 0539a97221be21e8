import FrameChunks.Error
import FrameChunks.Log.Clock
import FrameChunks.Log.Note
import FrameChunks.Log.Severity
import FrameChunks.Log.Template
import FrameChunks.Settings.Basic
import FrameChunks.Text.Json

/-!
# Log records

A record is written on a line of its own: as a JSON object, or as plain text. An error that belongs
to the record follows its message. A record whose time or message has no text is not written.

## Main definitions

* `Record`: what is logged
* `Record.entry`: its texts
* `Entry.json`, `Entry.text`: the two layouts
* `Record.line`: the line of a layout
* `Record.plainLine`: the line without a layout
-/

namespace FrameChunks.Log

open Text

/-- What is logged. -/
structure Record where
  /-- The name of the logger. -/
  name : String
  severity : Severity
  /-- The message, with places for the arguments if there are any. -/
  template : String
  arguments : List String := []
  /-- When it was logged, in seconds since the start of 1970. -/
  created : Int := 0
  /-- Thousandths of a second beyond that. -/
  millis : Int := 0
  error : Option PluginError := none
  deriving DecidableEq, Repr

/-- Why a record has no texts. -/
inductive RecordError
  | clock (error : ClockError)
  | template (error : TemplateError)
  deriving DecidableEq, Repr

/-- The texts of a record. -/
structure Entry where
  time : String
  level : String
  logger : String
  message : String
  error : Option String
  deriving DecidableEq, Repr

/-- A text and an error, which starts a line of its own. -/
def followedBy (s : String) : Option String → String
  | none => s
  | some error => (if s.endsWith "\n" then s else s ++ "\n") ++ error

namespace Entry

/-- The fields of an entry, in their order. -/
def fields (e : Entry) : List (String × String) :=
  [("time", e.time), ("level", e.level), ("logger", e.logger), ("message", e.message)] ++
    (e.error.map fun error => ("exc_info", error)).toList

/-- The entry as a JSON object. -/
def json (e : Entry) : String := (Json.obj (e.fields.map fun f => (f.1, .str f.2))).text

/-- The entry as plain text. -/
def text (e : Entry) : String :=
  followedBy s!"{e.time} - {e.logger} - {e.level} - {e.message}" e.error

end Entry

namespace Record

/-- The message. A template without arguments is taken as it is. -/
def message (r : Record) : Except RecordError String :=
  if r.arguments.isEmpty then .ok r.template
  else (Template.fill r.template r.arguments).mapError .template

/-- The pattern of times for which none is given. -/
def usualPattern : String := "%Y-%m-%d %H:%M:%S"

/-- The time of a record by a pattern. Without one, or with an empty one, the thousandths of the
second stand behind it. -/
def time (r : Record) (pattern : Option String) : Except RecordError String := do
  let m ← (Moment.ofSeconds r.created).mapError .clock
  match pattern.filter (· ≠ "") with
  | some pattern => (m.format pattern).mapError .clock
  | none =>
    let s ← (m.format usualPattern).mapError .clock
    return s ++ "," ++ String.ofList (paddedNumeral 3 r.millis)

/-- The error of a record: the name of its class, and its wording if there is one. -/
def errorText? (r : Record) : Option String :=
  r.error.map fun e =>
    let name := rootName ++ ".errors." ++ e.className
    if e.message.isEmpty then name else name ++ ": " ++ e.message

/-- The texts of a record, with its time by a pattern. -/
def entry (r : Record) (pattern : Option String) : Except RecordError Entry := do
  let time ← r.time pattern
  let message ← r.message
  return ⟨time, r.severity.name, r.name, message, r.errorText?⟩

/-- The record in a layout, with a line break behind it. -/
def line (r : Record) (layout : LogLayout) (pattern : Option String) :
    Except RecordError String := do
  let entry ← r.entry pattern
  return (match layout with
    | .json => entry.json
    | .text => entry.text) ++ "\n"

/-- The message alone and the error, with a line break behind them. -/
def plainLine (r : Record) : Except RecordError String := do
  return followedBy (← r.message) r.errorText? ++ "\n"

end Record

end FrameChunks.Log
