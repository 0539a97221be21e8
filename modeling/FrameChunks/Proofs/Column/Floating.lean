import FrameChunks.Proofs.Column.Rows
import FrameChunks.Proofs.Number.Rounding
import Mathlib.Algebra.Group.Int.Defs

/-!
# Builders of floating-point numbers

A builder of floating-point numbers takes every integer, and finds out only when the column is built
whether it is too large to be rounded to a double. All rows are lost if one of them has such an
integer.

## Main definitions

* `Builder.Storable`: rows without an integer that is too large

## Main results

* `Builder.convertible_float_iff`: the rows that a column can have
* `Builder.finish_float_exact`: when there is a column, and with how many rows
-/

namespace FrameChunks.Column.Builder

variable {type : FloatType} {rows : List (List Value)}

theorem convert_float_integer (type : FloatType) (m : Int) :
    (∃ scalar, ConvertsTo (.float type) (.integer m) scalar) ↔ m.natAbs < 2 ^ 1024 - 2 ^ 970 := by
  rw [← BinaryFormat.double_overflowBound, ← BinaryFormat.ofInt?_isSome_iff (by decide)]
  unfold ConvertsTo
  rw [convert]
  rcases BinaryFormat.double.ofInt? m with _ | x
  · refine iff_of_false ?_ Bool.false_ne_true
    rintro ⟨_, h⟩
    cases h
  · exact ⟨fun _ => rfl, fun _ => ⟨_, rfl⟩⟩

/-- Rows without an integer that is rounded to an infinite double. -/
def Storable (rows : List (List Value)) : Prop :=
  ∀ row ∈ rows, ∀ m, Value.integer m ∈ row → m.natAbs < 2 ^ 1024 - 2 ^ 970

theorem convertible_float_iff (h : ∀ row ∈ rows, ∀ x ∈ row, (ElementType.float type).Takes x) :
    Convertible (.float type) rows ↔ Storable rows := by
  constructor
  · intro hc row hrow m hm
    exact (convert_float_integer type m).mp (hc row hrow _ hm)
  · intro hs row hrow x hx
    rcases x with m | x | _ | _ | _ | _ | _ <;> try exact (h row hrow _ hx).elim
    · exact (convert_float_integer type m).mpr (hs row hrow m hx)
    · exact ⟨_, rfl⟩

/-- A builder of floating-point numbers is the list of its rows as well. When it is finished there is
a column with a row for each, unless an integer among them is too large or no column can have rows of
that size; it is then empty either way. -/
theorem finish_float_exact (type : FloatType) {listSize : Nat} (hs : 1 ≤ listSize) (capacity : Nat)
    (requests : List Request) :
    ∃ b₀ b rows, create (.element (.float type)) listSize capacity = .ok b₀ ∧
      b = b₀.after requests ∧ rows = pending (.float type) listSize requests ∧
      b.Represents (.float type) listSize rows ∧
      (listSize < listSizeBound ∧ Storable rows →
        ∃ column, b.finish.1 = .ok column ∧ column.length = rows.length) ∧
      (¬ (listSize < listSizeBound ∧ Storable rows) → b.finish.1 = .error .overflow) ∧
      b.finish.2 = b₀ := by
  have ht := takesRow_pending (.float type) listSize requests
  have hstorable := convertible_float_iff fun row hrow => (ht row hrow).2
  refine ⟨_, _, _, create_eq_ofRows (.float type) hs capacity, (after_ofRows requests).symm, rfl,
    represents_ofRows ht, ?_, ?_, rfl⟩
  · rintro ⟨hbound, hrows⟩
    obtain ⟨cells, hcells, hcolumn⟩ := column_of_convertible ht hbound (hstorable.mpr hrows)
    refine ⟨_, hcolumn, ?_⟩
    show (cells.map Cell.list).length = _
    rw [List.length_map]
    exact hcells.length_eq.symm
  · intro hnot
    rw [← hstorable] at hnot
    exact column_of_not_convertible ht hnot

/-- An integer and a floating-point number, and a text between them that is refused. -/
theorem finish_float_exact_mixed :
    ∃ (b₀ : Builder) (column : Column), create (.element (.float .double)) 1 0 = .ok b₀ ∧
      (b₀.after [.append (.integer 3), .append (.text "x"),
        .append (.float ⟨true, 0⟩)]).finish.1 = .ok column ∧ column.length = 2 := by
  obtain ⟨b₀, b, rows, hb₀, rfl, rfl, -, hfinish, -, -⟩ :=
    finish_float_exact .double (by decide : 1 ≤ 1) 0
      [.append (.integer 3), .append (.text "x"), .append (.float ⟨true, 0⟩)]
  have hstorable : Storable [[.integer 3], [.float ⟨true, 0⟩]] := by
    intro row hrow m hm
    simp only [List.mem_cons, List.not_mem_nil, or_false] at hrow
    rcases hrow with rfl | rfl
    · rw [List.mem_singleton, Value.integer.injEq] at hm
      rw [hm]
      decide +kernel
    · nomatch List.mem_singleton.mp hm
  obtain ⟨column, hcolumn, hlength⟩ := hfinish ⟨by decide, hstorable⟩
  exact ⟨b₀, column, hb₀, hcolumn, hlength⟩

/-- An integer of 400 decimal zeros is taken, and is lost when the builder is finished. -/
theorem finish_hugeInteger :
    ∃ b₀ b : Builder, create (.element (.float .double)) 1 0 = .ok b₀ ∧
      b₀.append (.integer (10 ^ 400)) = .ok b ∧ b.length = 1 ∧ b.finish = (.error .overflow, b₀) := by
  have hsize : 1 ≤ 1 := Nat.le_refl 1
  have htakes : ∀ row ∈ [[Value.integer (10 ^ 400)]], TakesRow (.float .double) 1 row := by
    intro row hrow
    rw [List.mem_singleton.mp hrow]
    exact ⟨rfl, fun x hx => List.mem_singleton.mp hx ▸ trivial⟩
  have hhuge : ¬ Storable [[Value.integer (10 ^ 400)]] := fun h =>
    absurd (h _ List.mem_cons_self _ List.mem_cons_self) (by decide +kernel)
  refine ⟨ofRows (.float .double) hsize 0 [], ofRows (.float .double) hsize 0 [[.integer (10 ^ 400)]],
    create_eq_ofRows _ hsize 0, append_ofRows, length_ofRows htakes, ?_⟩
  refine Prod.ext (column_of_not_convertible htakes fun h => hhuge ?_) rfl
  exact (convertible_float_iff fun row hrow => (htakes row hrow).2).mp h.2

end FrameChunks.Column.Builder
