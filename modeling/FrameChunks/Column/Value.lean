import FrameChunks.Number.Decimal
import FrameChunks.Number.Shortest
import FrameChunks.Text.Quoted

/-!
# Values that hosts hand over

Hosts hand values of any kind to column builders and timelines, which take those that they can use.

## Main definitions

* `Value`: a value of any kind
* `Value.kindName`: the name of its kind
* `Value.items?`: the elements of a value that has elements
* `Value.isTrue`: whether a value counts as true
* `Value.toTime`: a value as a time
* `Value.describe`, `Value.display`: the text of a value
-/

namespace FrameChunks.Column

/-- A value of any kind. -/
inductive Value
  | integer (n : Int)
  /-- A number of the double format. -/
  | float (x : Binary)
  | text (s : String)
  | bool (b : Bool)
  | none
  | list (items : List Value)
  | mapping (entries : List (String × Value))

/-- Why a value is no time. -/
inductive TimeError
  /-- The text is no integer, or the number is none. -/
  | notAnInteger
  /-- The number is infinite. -/
  | infinite
  /-- Values of this kind are no times. -/
  | kind
  deriving DecidableEq, Repr

namespace Value

/-- The name of the kind of a value. -/
def kindName : Value → String
  | integer _ => "int"
  | float _ => "float"
  | text _ => "str"
  | bool _ => "bool"
  | none => "NoneType"
  | list _ => "list"
  | mapping _ => "dict"

/-- The elements of a value that has elements: a text has its characters, and a mapping its keys. -/
def items? : Value → Option (List Value)
  | list items => some items
  | mapping entries => some (entries.map fun e => text e.1)
  | text s => some (s.toList.map fun c => text (String.singleton c))
  | _ => Option.none

/-- Whether a value counts as true: numbers other than zero do, and what is not empty. -/
def isTrue : Value → Bool
  | integer n => n ≠ 0
  | float x => x.magnitude ≠ 0
  | text s => !s.isEmpty
  | bool b => b
  | none => false
  | list items => !items.isEmpty
  | mapping entries => !entries.isEmpty

/-- The value as a time: numbers lose their fraction, truth values count as zero and one, and texts
are read as integers with blanks around them. -/
def toTime : Value → Except TimeError Int
  | integer n => .ok n
  | float x =>
    match BinaryFormat.double.truncate? x with
    | some n => .ok n
    | Option.none => .error (if BinaryFormat.double.isNaN x then .notAnInteger else .infinite)
  | bool b => .ok (if b then 1 else 0)
  | text s =>
    match Decimal.ofText? s.toList with
    | some n => .ok n
    | Option.none => .error .notAnInteger
  | none => .error .kind
  | list _ => .error .kind
  | mapping _ => .error .kind

mutual

/-- The text of a value, with quotes around texts. -/
def describe : Value → String
  | integer n => toString n
  | float x => BinaryFormat.double.text x
  | text s => Text.quoted s
  | bool b => if b then "True" else "False"
  | none => "None"
  | list items => "[" ++ ", ".intercalate (describeAll items) ++ "]"
  | mapping entries => "\x7b" ++ ", ".intercalate (describeEntries entries) ++ "\x7d"

/-- The texts of values. -/
def describeAll : List Value → List String
  | [] => []
  | v :: rest => v.describe :: describeAll rest

/-- The texts of the entries of a mapping. -/
def describeEntries : List (String × Value) → List String
  | [] => []
  | (key, v) :: rest => (Text.quoted key ++ ": " ++ v.describe) :: describeEntries rest

end

/-- The text of a value that stands alone, where texts are without quotes. -/
def display : Value → String
  | text s => s
  | v => v.describe

end Value

end FrameChunks.Column
