import FrameChunks.Number.Shortest

/-!
# Severities

The severity of a record is a number. Levels are integers; records may stand between them.

## Main definitions

* `Severity`: an integer or a number of the double format
* `Severity.name`: the name of the level of a severity
* `Severity.reaches`: whether a severity is not below a level
-/

namespace FrameChunks.Log

/-- How grave a record is. -/
inductive Severity
  | whole (n : Int)
  /-- A number of the double format. -/
  | real (x : Binary)
  deriving DecidableEq, Repr

/-- The names of the levels that have one. -/
def levelNames : List (Int × String) :=
  [(0, "NOTSET"), (10, "DEBUG"), (20, "INFO"), (30, "WARNING"), (40, "ERROR"), (50, "CRITICAL")]

namespace Severity

/-- The level of a severity, if it is an integer. -/
def level? : Severity → Option Int
  | whole n => some n
  | real x => if BinaryFormat.double.isIntegral x then BinaryFormat.double.truncate? x else none

/-- The numeral of a severity. -/
def numeral : Severity → String
  | whole n => toString n
  | real x => BinaryFormat.double.text x

/-- The name of the level of a severity. -/
def name (s : Severity) : String :=
  match s.level?.bind fun n => levelNames.find? fun e => e.1 = n with
  | some e => e.2
  | none => s!"Level {s.numeral}"

/-- Whether a severity is not below a level. -/
def reaches (level : Int) : Severity → Bool
  | whole n => level ≤ n
  | real x =>
    match BinaryFormat.double.floor? x with
    | some n => level ≤ n
    | none => BinaryFormat.double.isInfinite x && !x.negative

/-- Whether a severity is above zero. -/
def isPositive : Severity → Bool
  | whole n => 0 < n
  | real x => !x.negative && x.magnitude ≠ 0 && !BinaryFormat.double.isNaN x

example : (real ⟨false, BinaryFormat.double.nearest 10 1⟩).name = "DEBUG" := by decide +kernel

example : (real ⟨false, BinaryFormat.double.nearest 19 2⟩).reaches 10 = false := by decide +kernel

end Severity

end FrameChunks.Log
