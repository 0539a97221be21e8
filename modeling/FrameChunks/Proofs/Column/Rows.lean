import FrameChunks.Proofs.Column.Builder
import FrameChunks.Proofs.Steps
import Mathlib.Data.List.Forall2

/-!
# Builders are lists of rows

A builder keeps the elements of its rows one after the other. It behaves as the list of the rows: a
value is taken exactly if it is a row of as many elements as the rows have, each such as the column
takes, and it is then the last row; finishing hands all rows over. How many rows a builder expects
makes no difference.

## Main definitions

* `ElementType.Takes`: the values that can be elements of a column
* `Value.IsRow`: the elements of a value as a row
* `Builder.Request`, `Builder.perform`, `Builder.after`: what is asked of a builder, and what comes
  of it
* `Builder.pending`: the rows that were taken and not handed over yet
* `Builder.ofRows`: the builder that has given rows
* `Builder.Represents`: a builder behaves as a list of rows

## Main results

* `Builder.after_ofRows`: requests do to a builder what they do to its rows
* `Builder.represents_ofRows`: a builder that has rows behaves as the list of them
* `Builder.column_of_convertible`, `Builder.column_of_not_convertible`: the column of the rows, and
  when there is none
* `Builder.answers_ofRows`: the capacity makes no difference
* `Builder.refines_rows`: builders of integers and texts
-/

namespace FrameChunks.Column

open Steps

/-! ## Values that are taken -/

/-- The values that can be elements of a column: the integers that the type holds, any numbers, or
texts. A truth value is no number. -/
def ElementType.Takes : ElementType → Value → Prop
  | .integer type, .integer n => type.Holds n
  | .float _, .integer _ => True
  | .float _, .float _ => True
  | .text, .text _ => True
  | _, _ => False

/-- A value is the row of its elements or, where rows have one element, of itself. -/
def Value.IsRow (listSize : Nat) (value : Value) (row : List Value) : Prop :=
  if listSize = 1 then row = [value] else value.items? = some row

/-- The value that a scalar is. -/
def Scalar.value : Scalar → Value
  | .integer n => .integer n
  | .float x => .float x
  | .text s => .text s

namespace Builder

section Taking

variable {element : ElementType} {listSize : Nat} {value : Value} {row : List Value}

theorem check_eq_ok_iff : check element value = .ok () ↔ element.Takes value := by
  cases element <;> cases value <;> simp [check, ElementType.Takes]

instance : Decidable (element.Takes value) :=
  decidable_of_iff ((check element value).isOk) <| by
    rw [← check_eq_ok_iff]
    cases check element value <;> simp [Except.isOk, Except.toBool]

theorem checkAll_eq_ok_iff : checkAll element row = .ok () ↔ ∀ x ∈ row, element.Takes x := by
  induction row with
  | nil => exact ⟨fun _ => List.forall_mem_nil _, fun _ => rfl⟩
  | cons x rest ih =>
    rw [List.forall_mem_cons, ← check_eq_ok_iff, ← ih, checkAll, except_bind_eq_ok_iff]
    constructor
    · rintro ⟨_, hx, hrest⟩
      exact ⟨hx, hrest⟩
    · rintro ⟨hx, hrest⟩
      exact ⟨⟨⟩, hx, hrest⟩

theorem rowOf_eq_ok_iff : rowOf listSize value = .ok row ↔ value.IsRow listSize row := by
  unfold rowOf Value.IsRow
  split
  · rw [Except.ok.injEq, eq_comm]
  · rcases value.items? with _ | items
    · exact ⟨nofun, nofun⟩
    · rw [Except.ok.injEq, Option.some.injEq]

/-- A row that a column takes: it has as many elements as the rows of the column, and each of them
is taken. -/
def TakesRow (element : ElementType) (listSize : Nat) (row : List Value) : Prop :=
  row.length = listSize ∧ ∀ x ∈ row, element.Takes x

instance : Decidable (TakesRow element listSize row) :=
  inferInstanceAs (Decidable (_ ∧ _))

/-- The row that a value is, if it is one that is taken. -/
def row? (element : ElementType) (listSize : Nat) (value : Value) : Option (List Value) :=
  (if listSize = 1 then some [value] else value.items?).filter fun row =>
    TakesRow element listSize row

theorem row?_eq_some_iff : row? element listSize value = some row ↔
    value.IsRow listSize row ∧ TakesRow element listSize row := by
  rw [row?, Option.filter_eq_some_iff, decide_eq_true_iff, Value.IsRow]
  split
  · rw [Option.some.injEq, eq_comm]
  · rfl

/-- The row that a value is, or why it is refused. -/
def checkRow (element : ElementType) (listSize : Nat) (value : Value) :
    Except BuilderError (List Value) := do
  let row ← rowOf listSize value
  if row.length ≠ listSize then throw (.rowSize listSize row.length)
  checkAll element row
  return row

theorem checkRow_eq_ok_iff :
    checkRow element listSize value = .ok row ↔ row? element listSize value = some row := by
  rw [row?_eq_some_iff, TakesRow, ← rowOf_eq_ok_iff, ← checkAll_eq_ok_iff, checkRow,
    except_bind_eq_ok_iff]
  constructor
  · rintro ⟨row', hrow, h⟩
    split at h
    · nomatch h
    next hl =>
      obtain ⟨⟨⟩, hc, h⟩ := except_bind_eq_ok_iff.mp h
      obtain rfl := Except.ok.inj h
      exact ⟨hrow, not_not.mp hl, hc⟩
  · rintro ⟨hrow, hl, hc⟩
    refine ⟨row, hrow, ?_⟩
    rw [if_neg (not_not.mpr hl)]
    exact except_bind_eq_ok_iff.mpr ⟨⟨⟩, hc, rfl⟩

end Taking

/-- The builder with the elements of one more row. -/
def put (b : Builder) (row : List Value) : Builder := { b with values := b.values ++ row }

/-- The row is looked at as a whole before any of it is kept. -/
theorem append_eq_map (b : Builder) (value : Value) :
    b.append value = (checkRow b.element b.listSize value).map b.put := by
  simp only [append, checkRow, bind, Except.bind]
  rcases rowOf b.listSize value with e | row
  · rfl
  · by_cases hl : row.length ≠ b.listSize
    · simp only [if_pos hl]
      rfl
    · simp only [if_neg hl]
      rcases checkAll b.element row with e | _
      · rfl
      · rfl

/-! ## Requests -/

/-- What is asked of a builder. -/
inductive Request
  | append (value : Value)
  | finish

/-- What a builder answers. -/
inductive Answer
  | taken
  | refused (error : BuilderError)
  | finished (column : Except Failure Column)

/-- What comes of a request. -/
def perform (b : Builder) : Request → Answer × Builder
  | .append value =>
    match b.append value with
    | .ok b' => (.taken, b')
    | .error e => (.refused e, b)
  | .finish => (.finished b.finish.1, b.finish.2)

/-- The builder after requests. -/
def after (b : Builder) (requests : List Request) : Builder :=
  requests.foldl (fun b r => (b.perform r).2) b

/-- The answers to requests, one after the other. -/
def answers (b : Builder) : List Request → List Answer
  | [] => []
  | r :: rest => (b.perform r).1 :: (b.perform r).2.answers rest

/-- The rows after a request: a row that is taken is the last one, and finishing hands them over. -/
def rowsAfter (element : ElementType) (listSize : Nat) (rows : List (List Value)) :
    Request → List (List Value)
  | .append value => rows ++ (row? element listSize value).toList
  | .finish => []

/-- The rows that were taken and not handed over yet. -/
def pending (element : ElementType) (listSize : Nat) (requests : List Request) :
    List (List Value) :=
  requests.foldl (rowsAfter element listSize) []

/-- A builder behaves as the list of its rows. -/
structure Represents (b : Builder) (element : ElementType) (listSize : Nat)
    (rows : List (List Value)) : Prop where
  /-- The rows of the right size with the right elements are taken, and nothing else. -/
  taken_iff : ∀ value, (b.perform (.append value)).1 = .taken ↔
    ∃ row, value.IsRow listSize row ∧ row.length = listSize ∧ ∀ x ∈ row, element.Takes x
  /-- Refusing a value changes nothing. -/
  refused : ∀ value, (b.perform (.append value)).1 ≠ .taken → (b.perform (.append value)).2 = b
  length_eq : b.length = rows.length

section Requests

variable {element : ElementType} {listSize : Nat} {value : Value} {row : List Value}
  {rows : List (List Value)} {hs : 1 ≤ listSize} {capacity : Nat}

theorem takesRow_rowsAfter (h : ∀ row ∈ rows, TakesRow element listSize row) (r : Request) :
    ∀ row ∈ rowsAfter element listSize rows r, TakesRow element listSize row := by
  cases r with
  | finish => exact List.forall_mem_nil _
  | append value =>
    intro row hrow
    rcases List.mem_append.mp hrow with hrow | hrow
    · exact h row hrow
    · exact (row?_eq_some_iff.mp (Option.mem_toList.mp hrow)).2

theorem takesRow_pending (element : ElementType) (listSize : Nat) (requests : List Request) :
    ∀ row ∈ pending element listSize requests, TakesRow element listSize row := by
  suffices h : ∀ rows, (∀ row ∈ rows, TakesRow element listSize row) →
      ∀ row ∈ requests.foldl (rowsAfter element listSize) rows, TakesRow element listSize row from
    h [] (List.forall_mem_nil _)
  induction requests with
  | nil => exact fun _ h => h
  | cons r rest ih => exact fun rows h => ih _ (takesRow_rowsAfter h r)

/-- The builder that has the given rows. -/
def ofRows (element : ElementType) (hs : 1 ≤ listSize) (capacity : Nat)
    (rows : List (List Value)) : Builder :=
  ⟨element, listSize, hs, capacity, rows.flatten.toArray⟩

theorem create_eq_ofRows (element : ElementType) (hs : 1 ≤ listSize) (capacity : Nat) :
    create (.element element) listSize capacity = .ok (ofRows element hs capacity []) := by
  rw [create, dif_neg (by omega), if_neg (by omega)]
  rfl

theorem put_ofRows : (ofRows element hs capacity rows).put row =
    ofRows element hs capacity (rows ++ [row]) := by
  have hvalues : rows.flatten.toArray ++ row = (rows ++ [row]).flatten.toArray := by
    rw [List.flatten_append, List.flatten_singleton]
    exact Array.ext' Array.toList_appendList
  simp only [put, ofRows, hvalues]

theorem append_ofRows : (ofRows element hs capacity rows).append value =
    (checkRow element listSize value).map fun row =>
      ofRows element hs capacity (rows ++ [row]) := by
  simp only [← put_ofRows]
  exact append_eq_map _ _

/-- A row that is taken is the last one. -/
theorem perform_append_of_row (h : row? element listSize value = some row) :
    (ofRows element hs capacity rows).perform (.append value) =
      (.taken, ofRows element hs capacity (rows ++ [row])) := by
  rw [perform, append_ofRows, checkRow_eq_ok_iff.mpr h]
  rfl

/-- A value that is no row to be taken is refused, and the builder is as it was. -/
theorem perform_append_of_no_row (h : row? element listSize value = none) :
    ∃ e, (ofRows element hs capacity rows).perform (.append value) =
      (.refused e, ofRows element hs capacity rows) := by
  rw [perform, append_ofRows]
  rcases hr : checkRow element listSize value with e | row
  · exact ⟨e, rfl⟩
  · nomatch h.symm.trans (checkRow_eq_ok_iff.mp hr)

/-- A request does to a builder what it does to the rows. -/
theorem perform_ofRows_snd (r : Request) : ((ofRows element hs capacity rows).perform r).2 =
    ofRows element hs capacity (rowsAfter element listSize rows r) := by
  cases r with
  | finish => rfl
  | append value =>
    rcases hr : row? element listSize value with _ | row
    · obtain ⟨e, he⟩ := perform_append_of_no_row hr
      rw [he, rowsAfter, hr, Option.toList_none, List.append_nil]
    · rw [perform_append_of_row hr, rowsAfter, hr, Option.toList_some]

theorem after_ofRows (requests : List Request) : (ofRows element hs capacity rows).after requests =
    ofRows element hs capacity (requests.foldl (rowsAfter element listSize) rows) := by
  induction requests generalizing rows with
  | nil => rfl
  | cons r rest ih =>
    rw [after, List.foldl_cons, perform_ofRows_snd]
    exact ih

theorem length_ofRows (h : ∀ row ∈ rows, TakesRow element listSize row) :
    (ofRows element hs capacity rows).length = rows.length := by
  -- The rows are counted by dividing the number of all elements, of which each row has as many.
  have hlengths : rows.map List.length = List.replicate rows.length listSize :=
    List.map_eq_replicate_iff.mpr fun row hrow => (h row hrow).1
  show rows.flatten.length / listSize = rows.length
  rw [List.length_flatten, hlengths, List.sum_replicate_nat]
  exact Nat.mul_div_cancel _ hs

theorem represents_ofRows (h : ∀ row ∈ rows, TakesRow element listSize row) :
    (ofRows element hs capacity rows).Represents element listSize rows where
  taken_iff value := by
    show _ ↔ ∃ row, value.IsRow listSize row ∧ TakesRow element listSize row
    simp only [← row?_eq_some_iff, ← Option.isSome_iff_exists]
    rcases hr : row? element listSize value with _ | row
    · obtain ⟨e, he⟩ := perform_append_of_no_row hr
      rw [he]
      exact ⟨nofun, nofun⟩
    · rw [perform_append_of_row hr]
      exact ⟨fun _ => rfl, fun _ => rfl⟩
  refused value hv := by
    rcases hr : row? element listSize value with _ | row
    · obtain ⟨e, he⟩ := perform_append_of_no_row hr
      rw [he]
    · rw [perform_append_of_row hr] at hv
      exact absurd rfl hv
  length_eq := length_ofRows h

/-- How many rows are expected makes no difference to any answer. -/
theorem answers_ofRows (capacity capacity' : Nat) (requests : List Request) :
    (ofRows element hs capacity rows).answers requests =
      (ofRows element hs capacity' rows).answers requests := by
  induction requests generalizing rows with
  | nil => rfl
  | cons r rest ih =>
    have hr : ((ofRows element hs capacity rows).perform r).1 =
        ((ofRows element hs capacity' rows).perform r).1 := by
      cases r with
      | finish => rfl
      | append value =>
        rw [perform, perform, append_ofRows, append_ofRows]
        rcases checkRow element listSize value with e | row
        · rfl
        · rfl
    rw [answers, answers, hr, perform_ofRows_snd, perform_ofRows_snd, ih]

end Requests

/-! ## The column of the rows -/

theorem chunksOf_flatten {α : Type} {size : Nat} (hsize : 0 < size) {lists : List (List α)}
    (h : ∀ l ∈ lists, l.length = size) : chunksOf size lists.flatten = lists := by
  induction lists with
  | nil => rw [List.flatten_nil, chunksOf]
  | cons l rest ih =>
    obtain ⟨hl, hrest⟩ := List.forall_mem_cons.mp h
    cases l with
    | nil => exact absurd hl (Nat.ne_of_lt hsize)
    | cons x tail =>
      have htail : tail.length = size - 1 := by
        rw [← hl, List.length_cons, Nat.add_sub_cancel]
      rw [List.flatten_cons, List.cons_append, chunksOf, ← htail, List.take_left, List.drop_left,
        ih hrest]

/-- The scalar that a value is converted to. -/
def ConvertsTo (element : ElementType) (value : Value) (scalar : Scalar) : Prop :=
  convert element value = .ok scalar

section Converting

variable {element : ElementType} {value : Value} {values : List Value} {scalars : List Scalar}

theorem convert_of_takes (h : element.Takes value) :
    (∃ scalar, ConvertsTo element value scalar) ∨ convert element value = .error .overflow := by
  unfold ConvertsTo
  rcases element with type | type | _ <;> rcases value with n | x | s | _ | _ | _ | _ <;>
    first | exact h.elim | skip
  · exact .inl ⟨_, rfl⟩
  -- Only an integer among floating-point numbers can be too large.
  · rw [convert]
    rcases BinaryFormat.double.ofInt? n with _ | x
    · exact .inr rfl
    · exact .inl ⟨_, rfl⟩
  · exact .inl ⟨_, rfl⟩
  · exact .inl ⟨_, rfl⟩

theorem mapM_convert_eq_ok (h : List.Forall₂ (ConvertsTo element) values scalars) :
    values.mapM (convert element) = .ok scalars := by
  induction h with
  | nil => rfl
  | cons hx _ ih =>
    rw [List.mapM_cons, hx, ih]
    rfl

theorem mapM_convert_eq_error (ht : ∀ x ∈ values, element.Takes x)
    (h : ¬ ∀ x ∈ values, ∃ scalar, ConvertsTo element x scalar) :
    values.mapM (convert element) = .error .overflow := by
  induction values with
  | nil => exact absurd (List.forall_mem_nil _) h
  | cons x rest ih =>
    obtain ⟨hx, hrest⟩ := List.forall_mem_cons.mp ht
    rw [List.mapM_cons]
    rcases convert_of_takes hx with ⟨scalar, hs⟩ | he
    · have hr := ih hrest fun hall => h (List.forall_mem_cons.mpr ⟨⟨scalar, hs⟩, hall⟩)
      rw [hs, hr]
      rfl
    · rw [he]
      rfl

theorem exists_forall₂ {α β : Type} {R : α → β → Prop} {xs : List α}
    (h : ∀ x ∈ xs, ∃ y, R x y) : ∃ ys, List.Forall₂ R xs ys := by
  induction xs with
  | nil => exact ⟨[], .nil⟩
  | cons x rest ih =>
    obtain ⟨⟨y, hy⟩, hrest⟩ := List.forall_mem_cons.mp h
    obtain ⟨ys, hys⟩ := ih hrest
    exact ⟨y :: ys, .cons hy hys⟩

end Converting

/-- Whether all elements of rows can be converted. -/
def Convertible (element : ElementType) (rows : List (List Value)) : Prop :=
  ∀ row ∈ rows, ∀ x ∈ row, ∃ scalar, ConvertsTo element x scalar

theorem Convertible.exists_cells {element : ElementType} {rows : List (List Value)}
    (h : Convertible element rows) :
    ∃ cells, List.Forall₂ (List.Forall₂ (ConvertsTo element)) rows cells ∧
      rows.flatten.mapM (convert element) = .ok cells.flatten := by
  obtain ⟨cells, hcells⟩ := exists_forall₂ fun row hrow => exists_forall₂ (h row hrow)
  exact ⟨cells, hcells, mapM_convert_eq_ok (List.rel_flatten hcells)⟩

section Columns

variable {element : ElementType} {listSize : Nat} {rows : List (List Value)} {hs : 1 ≤ listSize}
  {capacity : Nat}

/-- The column has the rows, each element converted. -/
theorem column_of_convertible (ht : ∀ row ∈ rows, TakesRow element listSize row)
    (hsize : listSize < listSizeBound) (hc : Convertible element rows) :
    ∃ cells, List.Forall₂ (List.Forall₂ (ConvertsTo element)) rows cells ∧
      (ofRows element hs capacity rows).column =
        .ok ⟨.list element listSize, cells.map .list, false⟩ := by
  obtain ⟨cells, hcells, hscalars⟩ := hc.exists_cells
  refine ⟨cells, hcells, ?_⟩
  -- Converting a row does not change how many elements it has, so the column is cut where the rows
  -- were joined.
  have hmap : rows.map List.length = cells.map List.length := by
    rw [← List.forall₂_eq_eq_eq, List.forall₂_map_left_iff, List.forall₂_map_right_iff]
    exact hcells.imp fun _ _ hrow => hrow.length_eq
  have hlengths : ∀ cell ∈ cells, cell.length = listSize := by
    intro cell hcell
    have hmem : cell.length ∈ rows.map List.length := hmap ▸ List.mem_map_of_mem hcell
    obtain ⟨row, hrow, hlen⟩ := List.mem_map.mp hmem
    exact hlen.symm.trans (ht row hrow).1
  refine (column_of_scalars hscalars).trans ((if_neg (Nat.not_le.mpr hsize)).trans ?_)
  show (.ok ⟨.list element listSize, (chunksOf listSize cells.flatten).map .list, false⟩ :
    Except Failure Column) = _
  rw [chunksOf_flatten hs hlengths]

/-- There is no column if one of the elements is too large or the rows are too long. -/
theorem column_of_not_convertible (ht : ∀ row ∈ rows, TakesRow element listSize row)
    (hnot : ¬ (listSize < listSizeBound ∧ Convertible element rows)) :
    (ofRows element hs capacity rows).column = .error .overflow := by
  by_cases hc : Convertible element rows
  · have hsize : listSizeBound ≤ listSize := Nat.not_lt.mp fun hlt => hnot ⟨hlt, hc⟩
    obtain ⟨cells, -, hscalars⟩ := hc.exists_cells
    exact (column_of_scalars hscalars).trans (if_pos hsize)
  · have hfails : rows.flatten.mapM (convert element) = .error .overflow := by
      refine mapM_convert_eq_error ?_ fun hall => hc fun row hrow x hx =>
        hall x (List.mem_flatten_of_mem hrow hx)
      intro x hx
      obtain ⟨row, hrow, hxr⟩ := List.mem_flatten.mp hx
      exact (ht row hrow).2 x hxr
    simp only [column, ofRows, hfails, bind, Except.bind]

variable (hf : ∀ type, element ≠ .float type)
include hf

theorem exists_convertsTo {value : Value} (h : element.Takes value) :
    ∃ scalar, ConvertsTo element value scalar := by
  rcases convert_of_takes h with hs | he
  · exact hs
  · rcases element with type | type | _
    · rcases value with n | x | s | _ | _ | _ | _ <;> cases he
    · exact absurd rfl (hf type)
    · rcases value with n | x | s | _ | _ | _ | _ <;> cases he

/-- Where the elements are no floating-point numbers, they are stored unchanged. -/
theorem value_of_convertsTo {value : Value} {scalar : Scalar}
    (h : ConvertsTo element value scalar) : scalar.value = value := by
  rcases element with type | type | _
  · rcases value with n | x | s | _ | _ | _ | _ <;> first | (cases h; rfl) | cases h
  · exact absurd rfl (hf type)
  · rcases value with n | x | s | _ | _ | _ | _ <;> first | (cases h; rfl) | cases h

/-- The column of integers or texts has the rows as they are. -/
theorem column_of_exact (ht : ∀ row ∈ rows, TakesRow element listSize row)
    (hsize : listSize < listSizeBound) :
    ∃ cells : List (List Scalar), cells.map (fun cell => cell.map Scalar.value) = rows ∧
      (ofRows element hs capacity rows).column =
        .ok ⟨.list element listSize, cells.map .list, false⟩ := by
  have hc : Convertible element rows := fun row hrow x hx =>
    exists_convertsTo hf ((ht row hrow).2 x hx)
  obtain ⟨cells, hcells, hcolumn⟩ := column_of_convertible ht hsize hc
  refine ⟨cells, ?_, hcolumn⟩
  -- Pointwise equal lists are equal, for elements and then for rows.
  symm
  rw [← List.forall₂_eq_eq_eq, List.forall₂_map_right_iff]
  refine hcells.imp fun row cell hrow => ?_
  rw [← List.forall₂_eq_eq_eq, List.forall₂_map_right_iff]
  exact hrow.imp fun x scalar hx => (value_of_convertsTo hf hx).symm

end Columns

/-! ## Builders of integers and texts -/

/-- A builder of integers or texts is the list of its rows and hands them over unchanged, unless no
column can have rows of that size; it is then empty. All of this is the same with another capacity. -/
theorem refines_rows {element : ElementType} (hf : ∀ type, element ≠ .float type) {listSize : Nat}
    (hs : 1 ≤ listSize) (capacity : Nat) (requests : List Request) :
    ∃ b₀ b rows, create (.element element) listSize capacity = .ok b₀ ∧ b = b₀.after requests ∧
      rows = pending element listSize requests ∧ b.Represents element listSize rows ∧
      (listSize < listSizeBound → ∃ cells : List (List Scalar),
        cells.map (fun cell => cell.map Scalar.value) = rows ∧
          b.finish.1 = .ok ⟨.list element listSize, cells.map .list, false⟩) ∧
      (listSizeBound ≤ listSize → b.finish.1 = .error .overflow) ∧
      b.finish.2 = b₀ ∧
      ∀ capacity' : Nat, ∃ b₁, create (.element element) listSize capacity' = .ok b₁ ∧
        b₁.answers requests = b₀.answers requests ∧
        b₁.after requests = { b with capacity := capacity' } := by
  have ht := takesRow_pending element listSize requests
  refine ⟨_, _, _, create_eq_ofRows element hs capacity, (after_ofRows requests).symm, rfl,
    represents_ofRows ht, ?_, ?_, rfl, ?_⟩
  · intro hbound
    exact column_of_exact hf ht hbound
  · intro hbound
    exact column_of_not_convertible ht fun h => Nat.not_lt.mpr hbound h.1
  · intro capacity'
    refine ⟨_, create_eq_ofRows element hs capacity', answers_ofRows _ _ requests, ?_⟩
    rw [after_ofRows]
    rfl

/-- Of three values one is a pair of bytes. -/
theorem refines_rows_bytePairs :
    ∃ (b₀ : Builder) (cells : List (List Scalar)),
      create (.element (.integer ⟨false, 8⟩)) 2 0 = .ok b₀ ∧
      cells.map (fun cell => cell.map Scalar.value) = [[.integer 1, .integer 255]] ∧
      (b₀.after [.append (.list [.integer 1, .integer 255]), .append (.text "ab"),
        .append (.list [.integer 2, .integer 256])]).finish.1 =
          .ok ⟨.list (.integer ⟨false, 8⟩) 2, cells.map .list, false⟩ := by
  obtain ⟨b₀, b, rows, hb₀, rfl, rfl, -, hfinish, -⟩ :=
    refines_rows (nofun : ∀ type, ElementType.integer ⟨false, 8⟩ ≠ .float type)
      (by decide : 1 ≤ 2) 0 [.append (.list [.integer 1, .integer 255]), .append (.text "ab"),
        .append (.list [.integer 2, .integer 256])]
  obtain ⟨cells, hcells, hcolumn⟩ := hfinish (by decide)
  exact ⟨b₀, cells, hb₀, hcells, hcolumn⟩

/-- No column has rows of 2^31 bytes, though a builder takes this size. -/
theorem finish_widestRows :
    ∃ b, create (.element (.integer ⟨false, 8⟩)) 0x80000000 0 = .ok b ∧ b.length = 0 ∧
      b.finish.1 = .error .overflow :=
  ⟨_, create_eq_ofRows (.integer ⟨false, 8⟩) (by decide : 1 ≤ 0x80000000) 0, rfl, rfl⟩

end Builder

end FrameChunks.Column
