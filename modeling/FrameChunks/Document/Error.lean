/-!
# Why a text is no document

## Main definitions

* `DocumentError`
-/

namespace FrameChunks

/-- Why a text is no document. -/
inductive DocumentError
  /-- The text is malformed. -/
  | malformed
  /-- A value is well written, but there is no such value. -/
  | impossibleValue
  /-- A number does not fit the place that it is needed at. -/
  | tooLarge
  /-- A word is marked as a truth value and is none. -/
  | unknownWord
  /-- A text is marked as a date and is none. -/
  | notDate
  /-- A mapping is marked as a date. -/
  | mappingForDate
  /-- Nothing is left of a text that is marked as a number. -/
  | noDigits
  /-- Lists and mappings stand too deep within each other, or default values go around in a circle. -/
  | tooDeep
  deriving DecidableEq, Repr

end FrameChunks
