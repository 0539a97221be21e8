import FrameChunks.Column.Basic
import FrameChunks.Column.Value
import FrameChunks.Error

/-!
# Column builders

A builder collects rows of a fixed number of elements and turns them into a column. The elements of
all rows are kept one after the other. A row is looked at as a whole before any of it is kept.
Floating-point elements are converted when the column is built, not before.

## Main definitions

* `Builder.create`: an empty builder
* `Builder.length`: the number of rows
* `Builder.append`: one more row
* `Builder.finish`: the column, and the empty builder
-/

namespace FrameChunks.Column

/-- Rows on their way to a column. -/
structure Builder where
  element : ElementType
  /-- The number of elements of a row. -/
  listSize : Nat
  /-- A row has an element. -/
  listSize_pos : 0 < listSize
  /-- How many rows to expect; it limits nothing. -/
  capacity : Nat
  /-- The elements of all rows. -/
  values : Array Value := #[]

namespace Builder

/-- An empty builder, if the type and the numbers are such as a builder takes. -/
def create (type : DataType) (listSize capacity : Int) : Except BuilderError Builder :=
  if h : listSize < 1 then .error .listSizeTooSmall
  else if capacity < 0 then .error .negativeCapacity
  else
    match type with
    | .element element => .ok ⟨element, listSize.toNat, by omega, capacity.toNat, #[]⟩
    | _ => .error (.unsupportedType type.name)

/-- The number of rows. -/
def length (b : Builder) : Nat := b.values.size / b.listSize

/-- Whether a value can be an element. -/
def check (element : ElementType) (value : Value) : Except BuilderError Unit :=
  match element, value with
  | .text, .text _ => .ok ()
  | .text, _ => .error (.kind "str" value.kindName)
  | .integer type, .integer n => if type.Holds n then .ok () else .error (.outOfRange n type.name)
  | .integer _, _ => .error (.kind "int" value.kindName)
  -- too large an integer is found when the column is built
  | .float _, .integer _ => .ok ()
  | .float _, .float _ => .ok ()
  | .float _, _ => .error (.kind "number" value.kindName)

/-- The elements of a row: a row of one element is the value itself. -/
def rowOf (listSize : Nat) (value : Value) : Except BuilderError (List Value) :=
  if listSize = 1 then .ok [value]
  else
    match value.items? with
    | some items => .ok items
    | none => .error .notASequence

/-- Checks the elements of a row in order. -/
def checkAll (element : ElementType) : List Value → Except BuilderError Unit
  | [] => .ok ()
  | value :: rest => do
    check element value
    checkAll element rest

/-- The builder with one more row. -/
def append (b : Builder) (value : Value) : Except BuilderError Builder := do
  let row ← rowOf b.listSize value
  if row.length ≠ b.listSize then throw (.rowSize b.listSize row.length)
  checkAll b.element row
  return { b with values := b.values ++ row }

/-- The element that is stored for a value. An integer is rounded to a double before it is rounded to
the type of the column, and must not be too large for a double. -/
def convert (element : ElementType) (value : Value) : Except Failure Scalar :=
  match element, value with
  | .float type, .integer n =>
    match BinaryFormat.double.ofInt? n with
    | some x => .ok (.float (BinaryFormat.double.convert type.format x))
    | none => .error .overflow
  | .float type, .float x => .ok (.float (BinaryFormat.double.convert type.format x))
  | _, .integer n => .ok (.integer n)
  | _, .text s => .ok (.text s)
  -- no builder holds a value of another kind
  | _, _ => .error (.builder (.kind element.name value.kindName))

/-- Cuts a list into pieces of `size` elements; only the last one may be shorter. -/
def chunksOf {α : Type} (size : Nat) : List α → List (List α)
  | [] => []
  | x :: rest => (x :: rest.take (size - 1)) :: chunksOf size (rest.drop (size - 1))
termination_by xs => xs.length
decreasing_by simp only [List.length_drop, List.length_cons]; omega

/-- The empty builder of the same type. -/
def clear (b : Builder) : Builder := { b with values := #[] }

/-- The rows of a column have fewer elements than this. -/
def listSizeBound : Nat := 0x80000000

/-- The column of the rows, if every element can be converted and a column can have such rows. -/
def column (b : Builder) : Except Failure Column := do
  let scalars ← b.values.toList.mapM (convert b.element)
  if listSizeBound ≤ b.listSize then throw .overflow
  return ⟨.list b.element b.listSize, (chunksOf b.listSize scalars).map .list, false⟩

/-- The column of the rows, and the builder after it, which is empty even if there is no column. -/
def finish (b : Builder) : Except Failure Column × Builder := (b.column, b.clear)

@[simp] theorem length_clear (b : Builder) : b.clear.length = 0 := by simp [clear, length]

end Builder

end FrameChunks.Column
