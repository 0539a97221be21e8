import FrameChunks.Column.Type
import FrameChunks.Column.Value
import FrameChunks.Keyed
import FrameChunks.Recording
import FrameChunks.Session

/-!
# Timelines

The rows of a channel are indexed by several timelines at once: the time stamps of the messages and
the times at which they were recorded and sent. A context collects the times while messages come in.

## Main definitions

* `Context`: where the chunks of a channel are filed, and the times collected so far
* `Context.addCell`, `Context.addValue`, `Context.addMessageTimes`: one more time
* `Context.timelines`: the finished timelines, if every time fits 64 bits

## Main results

* `get?_cells_addCell`: a time goes to the end of its own timeline
-/

namespace FrameChunks

/-- The times of the rows under the names of the timelines, oldest timeline first. -/
abbrev Timelines := Keyed String (List Int)

/-- What is collected about the rows of one channel, besides the rows. -/
structure Context where
  /-- Where the chunks of the channel are filed. -/
  entityPath : String
  /-- The times collected so far. -/
  cells : Timelines := .empty

namespace Context

/-- The timeline of the times at which messages were recorded. -/
def logTime : String := "log_time"

/-- The timeline of the times at which messages were sent. -/
def publishTime : String := "publish_time"

/-- Puts a time at the end of a timeline, which begins with it if there was none. -/
def addCell (c : Context) (timeline : String) (time : Int) : Context :=
  { c with cells := c.cells.update timeline [] (· ++ [time]) }

/-- The context in which a timeline is there, without any time if there was none. -/
def openTimeline (c : Context) (timeline : String) : Context :=
  { c with cells := c.cells.update timeline [] id }

/-- Puts a value at the end of a timeline. If the value is no time, the timeline is there all the
same. -/
def addValue (c : Context) (timeline : String) (value : Column.Value) :
    Except Column.TimeError Unit × Context :=
  match value.toTime with
  | .ok time => (.ok (), c.addCell timeline time)
  | .error e => (.error e, c.openTimeline timeline)

/-- Adds the times at which a message was recorded and sent. -/
def addMessageTimes (c : Context) (m : Message) : Context :=
  (c.addCell logTime m.logTime).addCell publishTime m.publishTime

/-- Whether every time fits 64 bits. -/
def Fits (c : Context) : Prop := ∀ times ∈ c.cells.values, ∀ t ∈ times, Column.IntegerType.int64.Holds t

instance (c : Context) : Decidable c.Fits :=
  inferInstanceAs (Decidable (∀ times ∈ c.cells.values, ∀ t ∈ times, Column.IntegerType.int64.Holds t))

/-- The finished timelines. -/
def timelines (c : Context) : Except Failure Timelines :=
  if c.Fits then .ok c.cells else .error .overflow

/-- What is noted when timelines are finished. -/
def summary (c : Context) : String :=
  s!"Built {c.cells.size} timelines for {c.entityPath}: " ++
    ", ".intercalate (c.cells.entries.map fun e => s!"{e.1}={e.2.length}")

/-- The finished timelines, and the session in which that is noted. -/
def buildTimelines (c : Context) (s : Session) : Except Failure (Timelines × Session) := do
  let timelines ← c.timelines
  return (timelines, s.note .debug .timelines c.summary)

/-- A time goes to the end of its own timeline, and no other timeline changes. -/
theorem get?_cells_addCell (c : Context) (timeline other : String) (time : Int) :
    (c.addCell timeline time).cells.get? other =
      if other = timeline then some ((c.cells.get? timeline).getD [] ++ [time])
      else c.cells.get? other := by
  simp only [addCell, Keyed.get?_update]

@[simp] theorem entityPath_addCell (c : Context) (timeline : String) (time : Int) :
    (c.addCell timeline time).entityPath = c.entityPath := rfl

end Context

end FrameChunks
