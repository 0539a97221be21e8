/-!
# Settings

## Main definitions

* `ParserSettings`, `LoaderSettings`, `LoggingSettings`: the three sections
* `Settings`: all of them
-/

namespace FrameChunks

/-- What a loader does with a message that its parser rejects. -/
inductive ErrorPolicy
  /-- Gives the channel up. -/
  | abort
  /-- Goes on with the next message. -/
  | skip
  deriving DecidableEq, Repr

/-- The name of a policy. -/
def ErrorPolicy.name : ErrorPolicy → String
  | abort => "abort"
  | skip => "skip"

/-- The policies. -/
def ErrorPolicy.all : List ErrorPolicy := [abort, skip]

/-- The policy of a name. -/
def ErrorPolicy.ofName? (name : String) : Option ErrorPolicy := all.find? fun p => p.name = name

/-- How log records are written. -/
inductive LogLayout
  /-- As a JSON object per line. -/
  | json
  /-- As plain text. -/
  | text
  deriving DecidableEq, Repr

/-- The name of a layout. -/
def LogLayout.name : LogLayout → String
  | json => "json"
  | text => "text"

/-- The layouts. -/
def LogLayout.all : List LogLayout := [json, text]

/-- The layout of a name. -/
def LogLayout.ofName? (name : String) : Option LogLayout := all.find? fun l => l.name = name

/-- What parsers are told. -/
structure ParserSettings where
  /-- The timeline of the time stamps. -/
  timestampTimeline : String := "timestamp"
  /-- How many rows lie between two notes of progress; there are none if it is zero. -/
  logEvery : Int := 0
  deriving DecidableEq, Repr

/-- What loaders are told. -/
structure LoaderSettings where
  errorPolicy : ErrorPolicy := .abort
  /-- How many rows to expect of a channel whose number of messages is not known. -/
  defaultRows : Int := 0
  deriving DecidableEq, Repr

/-- How log records are written. -/
structure LoggingSettings where
  /-- The name of the least level that is written. -/
  level : String := "INFO"
  layout : LogLayout := .text
  deriving DecidableEq, Repr

/-- All settings. -/
structure Settings where
  parser : ParserSettings := {}
  loader : LoaderSettings := {}
  logging : LoggingSettings := {}
  deriving DecidableEq, Repr

end FrameChunks
