import FrameChunks.Text.Quoted
import FrameChunks.Text.Split
import FrameChunks.Wire.ByteOrder

/-!
# Recorded channels and messages

## Main definitions

* `Channel`: a stream of messages of one schema
* `Message`: one recorded message
* `entityPath`: where the chunks of a topic are filed
-/

namespace FrameChunks

/-- A stream of messages of one schema. -/
structure Channel where
  topic : String
  /-- The name of the schema of its messages. -/
  schema : String
  deriving DecidableEq, Repr

/-- One recorded message. -/
structure Message where
  channel : Channel
  /-- The number that the publisher gave to it. -/
  sequence : Int
  /-- When it was recorded, in nanoseconds. -/
  logTime : Int
  /-- When it was sent, in nanoseconds. -/
  publishTime : Int
  /-- The payload, unless it is missing. -/
  payload : Option Bytes
  deriving DecidableEq, Repr

/-- The message for a reader of log messages, without its payload; one without payload has none. -/
def Message.describe? (m : Message) : Option String :=
  m.payload.map fun payload =>
    s!"Message(topic={Text.quoted m.channel.topic}, sequence={m.sequence}, " ++
      s!"log_time={m.logTime}, bytes={payload.length})"

namespace Topic

/-- The parts of a topic that are not empty. -/
def segments (topic : List Char) : List (List Char) := (Text.split '/' topic).filter fun part => !part.isEmpty

/-- A slash before each part; a slash alone if there is none. -/
def join : List (List Char) → List Char
  | [] => ['/']
  | parts => parts.flatMap ('/' :: ·)

end Topic

/-- The path under which the chunks of a topic are filed: its parts that are not empty, each after
a slash. -/
def entityPath (topic : String) : String :=
  String.ofList (Topic.join (Topic.segments topic.toList))

end FrameChunks
