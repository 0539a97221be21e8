import FrameChunks.Log.Record
import FrameChunks.Text.Capital

/-!
# Setting up logging

Logging is set up once; what comes later changes nothing. Before it is set up, warnings and graver
records are written without a layout.

## Main definitions

* `Root`: the least level that is written, and the layout
* `Root.setUp`: sets logging up
* `Root.write`: what is written for a record
-/

namespace FrameChunks.Log

/-- How records are written, if they are. -/
structure Root where
  /-- The least level that is written. -/
  level : Int := 30
  /-- The layout, once logging is set up. -/
  layout : Option LogLayout := none
  deriving DecidableEq, Repr

/-- Why a word gives no level. -/
inductive SetupError
  /-- The word stands for a text, which names no level. -/
  | unknownLevel
  /-- The word stands for something that can be no level. -/
  | notLevel
  deriving DecidableEq, Repr

/-- The words that have a meaning for levels. -/
def levelWords : List (String × Except SetupError Int) :=
  [("CRITICAL", .ok 50), ("FATAL", .ok 50), ("ERROR", .ok 40), ("WARNING", .ok 30),
   ("WARN", .ok 30), ("INFO", .ok 20), ("DEBUG", .ok 10), ("NOTSET", .ok 0),
   ("BASIC_FORMAT", .error .unknownLevel), ("_STYLES", .error .notLevel)]

/-- The capital letters of a letter, as far as the words for levels go: a letter can have several
ones that are in ASCII. -/
def capitals : Char → List Char
  | 'ß' => ['S', 'S']
  | 'ﬀ' => ['F', 'F']
  | 'ﬁ' => ['F', 'I']
  | 'ﬂ' => ['F', 'L']
  | 'ﬃ' => ['F', 'F', 'I']
  | 'ﬄ' => ['F', 'F', 'L']
  | 'ﬅ' => ['S', 'T']
  | 'ﬆ' => ['S', 'T']
  | c => [Text.capital c]

/-- The number of a level name, in capital letters or not; that of `INFO` for other words. -/
def levelOf (name : String) : Except SetupError Int :=
  match levelWords.find? fun e => e.1.toList = name.toList.flatMap capitals with
  | some e => e.2
  | none => .ok 20

/-- The pattern of the times. -/
def timePattern : String := "%Y-%m-%dT%H:%M:%S"

/-- The least level that is written before logging is set up. -/
def plainLevel : Int := 30

namespace Root

/-- Sets logging up, unless it is set up. Without a level the layout is set all the same. -/
def setUp (r : Root) (s : LoggingSettings) : Except SetupError Unit × Root :=
  match r.layout with
  | some _ => (.ok (), r)
  | none =>
    match levelOf s.level with
    | .ok level => (.ok (), ⟨level, some s.layout⟩)
    -- the layout is taken before the level is looked at
    | .error e => (.error e, { r with layout := some s.layout })

/-- Whether records of a severity are written at all. Those up to zero never are. -/
def passes (r : Root) (severity : Severity) : Bool :=
  severity.isPositive && severity.reaches r.level

/-- What is written for a record; nothing if its level is too low or it has no texts. -/
def write (r : Root) (record : Record) : String :=
  if r.passes record.severity then
    match r.layout with
    | some layout => (record.line layout (some timePattern)).toOption.getD ""
    | none =>
      if record.severity.reaches plainLevel then record.plainLine.toOption.getD "" else ""
  else ""

end Root

end FrameChunks.Log
