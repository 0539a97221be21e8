import FrameChunks.Column.Builder
import Mathlib.Data.List.Basic

/-!
# Builders of one element per row

A builder whose rows have one element is a list of elements.

## Main definitions

* `Builder.push`: the builder with one more element

## Main results

* `Builder.append_of_check`: an element that passes its check is put at the end
* `Builder.column_of_scalars`: the column of elements that can be converted, for rows of any size
* `Builder.column_of_convert`: the column of rows of one element
-/

namespace FrameChunks.Column.Builder

/-- The builder with one more element. -/
def push (b : Builder) (value : Value) : Builder := { b with values := b.values.push value }

@[simp] theorem element_push (b : Builder) (value : Value) :
    (b.push value).element = b.element := rfl

@[simp] theorem listSize_push (b : Builder) (value : Value) :
    (b.push value).listSize = b.listSize := rfl

@[simp] theorem toList_values_push (b : Builder) (value : Value) :
    (b.push value).values.toList = b.values.toList ++ [value] := Array.toList_push

theorem length_push {b : Builder} (h : b.listSize = 1) (value : Value) :
    (b.push value).length = b.length + 1 := by
  simp only [length, listSize_push, h, Nat.div_one]
  exact Array.size_push ..

theorem create_one {capacity : Int} (h : 0 ≤ capacity) (e : ElementType) :
    create (.element e) 1 capacity = .ok ⟨e, 1, Nat.one_pos, capacity.toNat, #[]⟩ := by
  rw [create, dif_neg (by decide), if_neg (Int.not_lt.mpr h)]
  rfl

theorem create_of_negative {capacity : Int} (h : capacity < 0) (type : DataType) :
    create type 1 capacity = .error .negativeCapacity := by
  rw [create, dif_neg (by decide), if_pos h]

variable {b : Builder} {value : Value}

/-- An element that passes its check is put at the end. -/
theorem append_of_check (hl : b.listSize = 1) (hc : check b.element value = .ok ()) :
    b.append value = .ok (b.push value) := by
  have hr : rowOf b.listSize value = .ok [value] := if_pos hl
  have ha : checkAll b.element [value] = .ok () := by
    rw [checkAll, hc]
    rfl
  have hn : ¬ [value].length ≠ b.listSize := by
    rw [hl, not_not]
    rfl
  simp only [append, hr, bind, Except.bind, if_neg hn, ha]
  rfl

theorem chunksOf_one {α : Type} (xs : List α) : chunksOf 1 xs = xs.map fun x => [x] := by
  induction xs with
  | nil => simp [chunksOf]
  | cons x rest ih => simp [chunksOf, ih]

/-- Where all elements can be converted, there is a column unless the rows are too long. -/
theorem column_of_scalars {scalars : List Scalar}
    (hs : b.values.toList.mapM (convert b.element) = .ok scalars) :
    b.column = if listSizeBound ≤ b.listSize then .error .overflow
      else .ok ⟨.list b.element b.listSize, (chunksOf b.listSize scalars).map .list, false⟩ := by
  simp only [column, hs, bind, Except.bind]
  rfl

/-- The column of elements that can be converted. -/
theorem column_of_convert {scalars : List Scalar} (hl : b.listSize = 1)
    (hs : b.values.toList.mapM (convert b.element) = .ok scalars) :
    b.column = .ok ⟨.list b.element 1, scalars.map fun x => .list [x], false⟩ := by
  rw [column_of_scalars hs, hl, if_neg (by decide), chunksOf_one, List.map_map]
  rfl

end FrameChunks.Column.Builder
