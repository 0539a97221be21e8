import FrameChunks.Number.Binary

/-!
# Column types

## Main definitions

* `IntegerType`: a width and a sign
* `ElementType`: the types of the elements that a builder takes
* `DataType`: the types of columns, with their names
-/

namespace FrameChunks.Column

/-- A width in bits, and whether there are negative numbers. -/
structure IntegerType where
  isSigned : Bool
  bits : Nat
  deriving DecidableEq, Repr

namespace IntegerType

/-- The least number of the type. -/
def least (t : IntegerType) : Int := if t.isSigned then -(Nat.pow 2 (t.bits - 1)) else 0

/-- The greatest number of the type. -/
def greatest (t : IntegerType) : Int :=
  (if t.isSigned then Nat.pow 2 (t.bits - 1) else Nat.pow 2 t.bits) - 1

/-- Whether the type has the number. -/
def Holds (t : IntegerType) (n : Int) : Prop := t.least ≤ n ∧ n ≤ t.greatest

instance (t : IntegerType) (n : Int) : Decidable (t.Holds n) := inferInstanceAs (Decidable (_ ∧ _))

/-- The name of the type. -/
def name (t : IntegerType) : String := (if t.isSigned then "int" else "uint") ++ toString t.bits

/-- Unsigned numbers of 32 bits. -/
def uint32 : IntegerType := ⟨false, 32⟩

/-- Unsigned numbers of 64 bits. -/
def uint64 : IntegerType := ⟨false, 64⟩

/-- Signed numbers of 64 bits. -/
def int64 : IntegerType := ⟨true, 64⟩

end IntegerType

/-- The widths of floating-point numbers. -/
inductive FloatType
  | half
  | single
  | double
  deriving DecidableEq, Repr

namespace FloatType

/-- The fields of a number. -/
def format : FloatType → BinaryFormat
  | half => .half
  | single => .single
  | double => .double

/-- The name of the type. -/
def name : FloatType → String
  | half => "halffloat"
  | single => "float"
  | double => "double"

end FloatType

/-- The types of the elements that a builder takes. -/
inductive ElementType
  | integer (type : IntegerType)
  | float (type : FloatType)
  | text
  deriving DecidableEq, Repr

/-- The name of an element type. -/
def ElementType.name : ElementType → String
  | integer type => type.name
  | float type => type.name
  | text => "string"

/-- The types of columns. -/
inductive DataType
  | element (type : ElementType)
  /-- Rows of a fixed number of elements. -/
  | list (element : ElementType) (size : Nat)
  /-- A long string of bytes. -/
  | blob
  /-- A pixel format. -/
  | imageFormat
  /-- A time in nanoseconds. -/
  | time
  | boolean
  | binary
  | longText
  | null
  | date
  | decimal (digits places : Nat)
  deriving DecidableEq, Repr

namespace DataType

/-- The name of a type. -/
def name : DataType → String
  | element type => type.name
  | list item size => "fixed_size_list<item: " ++ item.name ++ ">[" ++ toString size ++ "]"
  | blob => "large_binary"
  | imageFormat =>
    "struct<width: uint32 not null, height: uint32 not null, color_model: string, " ++
      "channel_datatype: string, pixel_format: string>"
  | time => "timestamp[ns]"
  | boolean => "bool"
  | binary => "binary"
  | longText => "large_string"
  | null => "null"
  | date => "date32[day]"
  | decimal digits places => "decimal128(" ++ toString digits ++ ", " ++ toString places ++ ")"

/-- Columns of integers. -/
def integer (type : IntegerType) : DataType := element (.integer type)

/-- Columns of texts. -/
def text : DataType := element .text

end DataType

end FrameChunks.Column
