import FrameChunks.Chunk.Basic
import FrameChunks.Proofs.Keyed
import Mathlib.Data.List.Find

/-!
# Looking up columns by name

One search serves the bare names and the qualified ones, so a descriptor may be found under the name
of another. This cannot happen to qualified names as long as no component has a colon in its name:
then the last colon of a qualified name is the one that was written behind the archetype, whatever
colons the archetype itself holds.

## Main definitions

* `Descriptor.Plain`: a descriptor whose component has no colon in its name

## Main results

* `Text.append_separator_inj`: the last separator of a text
* `Descriptor.qualifiedName_inj`: plain descriptors are told apart by their qualified names
* `Chunk.answersTo_qualifiedName_iff`, `Chunk.answersTo_bare_iff`: which descriptors go by a name
* `Chunk.find?_exact`: which column is found, and when there is none
-/

namespace FrameChunks

namespace Text

variable {α : Type} {separator : α} {s s' t t' more : List α}

/-- If a text begins with its last separator, nothing stands in front of that separator. -/
theorem eq_nil_of_separator_append (ht : separator ∉ t)
    (h : separator :: t = more ++ separator :: t') : more = [] := by
  cases more with
  | nil => rfl
  | cons c more =>
    obtain ⟨-, rfl⟩ := List.cons.inj h
    exact absurd (List.mem_append_right more List.mem_cons_self) ht

/-- The last separator of a text determines what stands on both sides of it. -/
theorem append_separator_inj (ht : separator ∉ t) (ht' : separator ∉ t') :
    s ++ separator :: t = s' ++ separator :: t' ↔ s = s' ∧ t = t' := by
  constructor
  · intro h
    -- If one beginning were longer, a second separator would stand behind the one after the shorter.
    rcases List.append_eq_append_iff.mp h with ⟨more, rfl, hrest⟩ | ⟨more, rfl, hrest⟩
    · obtain rfl := eq_nil_of_separator_append ht hrest
      exact ⟨(List.append_nil s).symm, (List.cons.inj hrest).2⟩
    · obtain rfl := eq_nil_of_separator_append ht' hrest
      exact ⟨List.append_nil s', (List.cons.inj hrest).2.symm⟩
  · rintro ⟨rfl, rfl⟩
    rfl

end Text

namespace Descriptor

/-- The component has no colon in its name. -/
def Plain (d : Descriptor) : Prop := ':' ∉ d.component.toList

instance (d : Descriptor) : Decidable d.Plain :=
  inferInstanceAs (Decidable (':' ∉ d.component.toList))

variable {d e : Descriptor}

theorem toList_qualifiedName (component archetype : String) :
    (qualifiedName ⟨component, some archetype⟩).toList =
      archetype.toList ++ ':' :: component.toList := by
  simp [qualifiedName]

theorem qualifiedName_of_none (h : d.archetype = none) : d.qualifiedName = d.component := by
  rw [qualifiedName, h]

/-- A colon stands between the archetype and the component. -/
theorem colon_mem_qualifiedName (h : d.archetype ≠ none) : ':' ∈ d.qualifiedName.toList := by
  obtain ⟨component, _ | archetype⟩ := d
  · exact absurd rfl h
  · rw [toList_qualifiedName]
    exact List.mem_append_right _ List.mem_cons_self

/-- Plain descriptors have different qualified names. -/
theorem qualifiedName_inj (hd : d.Plain) (he : e.Plain) :
    d.qualifiedName = e.qualifiedName ↔ d = e := by
  constructor
  · intro h
    obtain ⟨component, _ | archetype⟩ := d <;> obtain ⟨component', _ | archetype'⟩ := e
    · obtain rfl : component = component' := h
      rfl
    -- A name without a colon is not one with a colon.
    · obtain rfl : component = qualifiedName ⟨component', some archetype'⟩ := h
      exact absurd (colon_mem_qualifiedName (Option.some_ne_none archetype')) hd
    · obtain rfl : qualifiedName ⟨component, some archetype⟩ = component' := h
      exact absurd (colon_mem_qualifiedName (Option.some_ne_none archetype)) he
    · have hl := congrArg String.toList h
      rw [toList_qualifiedName, toList_qualifiedName, Text.append_separator_inj hd he,
        String.toList_inj, String.toList_inj] at hl
      obtain ⟨rfl, rfl⟩ := hl
      rfl
  · rintro rfl
    rfl

end Descriptor

namespace Chunk

open Descriptor

variable {c : Chunk} {d e : Descriptor} {name : String}

theorem answersTo_iff : answersTo d name ↔ name = d.qualifiedName ∨ name = d.component := by
  rw [answersTo, Bool.or_eq_true, decide_eq_true_iff, decide_eq_true_iff]

/-- By the qualified name of a plain descriptor with an archetype no other plain one goes. -/
theorem answersTo_qualifiedName_iff (hd : d.Plain) (he : e.Plain) (ha : d.archetype ≠ none) :
    answersTo e d.qualifiedName ↔ e = d := by
  rw [answersTo_iff, qualifiedName_inj hd he, or_iff_left, eq_comm]
  intro h
  exact he (h ▸ colon_mem_qualifiedName ha)

/-- By a name without a colon go the descriptors of the component of that name. -/
theorem answersTo_bare_iff (hname : ':' ∉ name.toList) : answersTo d name ↔ d.component = name := by
  rw [answersTo_iff]
  constructor
  · rintro (rfl | rfl)
    · by_cases ha : d.archetype = none
      · exact (qualifiedName_of_none ha).symm
      · exact absurd (colon_mem_qualifiedName ha) hname
    · rfl
  · rintro rfl
    exact .inr rfl

/-- Nothing is found under a name by which no descriptor goes. -/
theorem find?_eq_none_iff :
    c.find? name = none ↔ ∀ d ∈ c.components.keys, ¬ answersTo d name := by
  simp only [find?, Option.map_eq_none_iff, List.find?_eq_none, Keyed.keys, List.forall_mem_map]

/-- The column that is found is the first one of those that go by the name. -/
theorem find?_eq_some_iff {column : Column} : c.find? name = some column ↔
    ∃ before d after, c.components.entries = before ++ (d, column) :: after ∧
      answersTo d name ∧ ∀ e ∈ before, ¬ answersTo e.1 name := by
  rw [find?, Option.map_eq_some_iff]
  constructor
  · rintro ⟨⟨d, column⟩, hfind, rfl⟩
    obtain ⟨hd, before, after, hentries, hbefore⟩ := List.find?_eq_some_iff_append.mp hfind
    exact ⟨before, d, after, hentries, hd, by simpa using hbefore⟩
  · rintro ⟨before, d, after, hentries, hd, hbefore⟩
    refine ⟨(d, column), List.find?_eq_some_iff_append.mpr ?_, rfl⟩
    exact ⟨hd, before, after, hentries, by simpa using hbefore⟩

/-- Under a qualified name the column of its descriptor is found. -/
theorem find?_qualifiedName (h : ∀ e ∈ c.components.keys, e.Plain) (hd : d.Plain)
    (ha : d.archetype ≠ none) : c.find? d.qualifiedName = c.get? d := by
  rw [find?, get?, Keyed.get?]
  congr 1
  apply List.find?_congr
  intro e he
  rw [Bool.eq_iff_iff, decide_eq_true_iff]
  exact answersTo_qualifiedName_iff hd (h e.1 (List.mem_map_of_mem he)) ha

/-- In a chunk of plain descriptors, the column of a descriptor with an archetype is found under its
qualified name, wherever it stands. Under a name without a colon the first column of that component
is found. Nothing is found exactly under the names that are neither the qualified nor the bare name
of a descriptor. -/
theorem find?_exact (c : Chunk) (h : ∀ d ∈ c.components.keys, d.Plain) :
    (∀ d ∈ c.components.keys, d.archetype ≠ none →
      ∃ column, c.get? d = some column ∧ c.find? d.qualifiedName = some column) ∧
    (∀ name, ':' ∉ name.toList → ∀ column, c.find? name = some column ↔
      ∃ before d after, c.components.entries = before ++ (d, column) :: after ∧
        d.component = name ∧ ∀ e ∈ before, e.1.component ≠ name) ∧
    ∀ name, c.find? name = none ↔
      ∀ d ∈ c.components.keys, name ≠ d.qualifiedName ∧ name ≠ d.component := by
  refine ⟨?_, ?_, ?_⟩
  · intro d hd ha
    obtain ⟨column, hcolumn⟩ :=
      Option.ne_none_iff_exists'.mp (mt Keyed.get?_eq_none_iff.mp (not_not.mpr hd))
    exact ⟨column, hcolumn, (find?_qualifiedName h (h d hd) ha).trans hcolumn⟩
  · intro name hname column
    simp only [find?_eq_some_iff, answersTo_bare_iff hname, ne_eq]
  · intro name
    simp only [find?_eq_none_iff, answersTo_iff, not_or, ne_eq]

/-- Columns called `a:b:c`, `c`, `b:c` and `:c`. All names but the longest are the ends of others. -/
def nestedChunk : Chunk :=
  ⟨⟨9, 0⟩, "/cam", [0], .empty,
    .ofList [(⟨"c", some "a:b"⟩, .ofIntegers .int64 [1]), (⟨"c", none⟩, .ofIntegers .int64 [2]),
      (⟨"c", some "b"⟩, .ofIntegers .int64 [3]), (⟨"c", some ""⟩, .ofIntegers .int64 [4])]⟩

theorem find?_exact_nestedChunk : (∀ d ∈ nestedChunk.components.keys, d.Plain) ∧
    nestedChunk.find? "b:c" = some (.ofIntegers .int64 [3]) ∧
    nestedChunk.find? ":c" = some (.ofIntegers .int64 [4]) ∧
    nestedChunk.find? "c" = some (.ofIntegers .int64 [1]) ∧
    nestedChunk.find? "a:c" = none := by
  have hplain : ∀ d ∈ nestedChunk.components.keys, d.Plain := by decide
  obtain ⟨hqualified, hbare, hnone⟩ := find?_exact nestedChunk hplain
  obtain ⟨b, hgetb, hfindb⟩ := hqualified ⟨"c", some "b"⟩ (by decide) (by decide)
  obtain ⟨e, hgete, hfinde⟩ := hqualified ⟨"c", some ""⟩ (by decide) (by decide)
  refine ⟨hplain, hfindb.trans (hgetb.symm.trans ?_), hfinde.trans (hgete.symm.trans ?_), ?_, ?_⟩
  · decide
  · decide
  · exact (hbare "c" (by decide) _).mpr ⟨[], ⟨"c", some "a:b"⟩, _, rfl, rfl, nofun⟩
  · exact (hnone "a:c").mpr (by decide)

-- Where a component has a colon in its name, another one may be hidden by it.
example : (⟨⟨9, 0⟩, "/cam", [0], .empty, .ofList [(⟨"a:b", none⟩, .ofIntegers .int64 [1]),
    (⟨"b", some "a"⟩, .ofIntegers .int64 [2])]⟩ : Chunk).find? "a:b" =
      some (.ofIntegers .int64 [1]) := by
  decide

end Chunk

end FrameChunks
