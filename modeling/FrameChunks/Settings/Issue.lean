/-!
# What is wrong with settings

## Main definitions

* `Fault`: what is wrong with a value
* `Issue`: a fault, and the place where it is
* `Fault.code`, `Fault.message`: how a fault is reported
-/

namespace FrameChunks.Settings

/-- What is wrong with a value. -/
inductive Fault
  | notText
  /-- Half a surrogate pair stands in the text. -/
  | notUnicode
  | emptyText
  /-- The value is none of the words that may stand there. -/
  | notAmong (first second : String)
  | notInteger
  /-- A text does not spell an integer. -/
  | notNumeral
  | hasFraction
  | notFinite
  /-- A number is too large to be taken for an integer. -/
  | tooLarge
  | negative
  /-- The section, of the given kind, is no mapping. -/
  | notMapping (kind : String)
  deriving DecidableEq, Repr

namespace Fault

/-- The short name of a fault. -/
def code : Fault → String
  | notText => "string_type"
  | notUnicode => "string_unicode"
  | emptyText => "string_too_short"
  | notAmong _ _ => "literal_error"
  | notInteger => "int_type"
  | notNumeral => "int_parsing"
  | hasFraction => "int_from_float"
  | notFinite => "finite_number"
  | tooLarge => "int_parsing_size"
  | negative => "greater_than_equal"
  | notMapping _ => "model_type"

/-- The wording of a fault. -/
def message : Fault → String
  | notText => "Input should be a valid string"
  | notUnicode =>
    "Input should be a valid string, unable to parse raw data as a unicode string"
  | emptyText => "String should have at least 1 character"
  | notAmong first second => s!"Input should be '{first}' or '{second}'"
  | notInteger => "Input should be a valid integer"
  | notNumeral => "Input should be a valid integer, unable to parse string as an integer"
  | hasFraction => "Input should be a valid integer, got a number with a fractional part"
  | notFinite => "Input should be a finite number"
  | tooLarge => "Unable to parse input string as an integer, exceeded maximum size"
  | negative => "Input should be greater than or equal to 0"
  | notMapping kind => s!"Input should be a valid dictionary or instance of {kind}"

end Fault

/-- A fault, and the keys that lead to it. -/
structure Issue where
  path : List String
  fault : Fault
  deriving DecidableEq, Repr

end FrameChunks.Settings
