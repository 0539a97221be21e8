/-!
# What the library notes

While it works, the library notes what it does. A note has a level, the part of the library that it
comes from and a text.

## Main definitions

* `Level`, `Source`, `Note`
-/

namespace FrameChunks.Log

/-- How much a note matters. -/
inductive Level
  | debug
  | info
  | warning
  | error
  deriving DecidableEq, Repr

/-- The name of a level. -/
def Level.name : Level → String
  | debug => "DEBUG"
  | info => "INFO"
  | warning => "WARNING"
  | error => "ERROR"

/-- The parts of the library that make notes. -/
inductive Source
  | decoder
  | timelines
  | imagePlugin
  | registry
  | loader
  | settings
  deriving DecidableEq, Repr

/-- The name under which the whole library makes notes. -/
def rootName : String := "ros2_image_loader"

/-- The name of a part. -/
def Source.name : Source → String
  | decoder => rootName ++ ".codec.sensor_msgs"
  | timelines => rootName ++ ".chunk.timeline"
  | imagePlugin => rootName ++ ".plugins.image"
  | registry => rootName ++ ".plugins.registry"
  | loader => rootName ++ ".loader"
  | settings => rootName ++ ".config"

/-- One note. -/
structure Note where
  level : Level
  source : Source
  text : String
  deriving DecidableEq, Repr

end FrameChunks.Log
